import FirmwareUpdate.Proofs.Bench.Download
import FirmwareUpdate.Proofs.Line.Cycle
import FirmwareUpdate.Proofs.Slot.Content
import FirmwareUpdate.Proofs.Worker.Course
import FirmwareUpdate.Proofs.Worker.Frame

/-!
# What a cycle leaves behind

Whatever a cycle comes to, it closes every connection that it has opened, and it finishes or
discards every slot that it has opened for writing, once, and selects a slot only after it has been
finished well. The record of calls tells both: it is put together from whole dealings with the
server and with the slots. So no cycle ever finds an image that is still open from an earlier one.
-/

namespace FirmwareUpdate

/-! ### Dealings with the server -/

/-- Whether a call uses an open connection. -/
def Call.isExchange : Call → Bool
  | .handshake _ | .verifyChain _ | .peerCertificate _ | .send _ _ | .receive _ _ => true
  | _ => false

/-- Whether a call has nothing to do with connections. -/
def Call.isOffline : Call → Bool
  | .dial _ _ _ | .hangUp => false
  | call => !call.isExchange

theorem Call.slot_of_isExchange {call : Call} (h : call.isExchange = true) :
  call.slot? = none
  := by
  cases call <;> first | rfl | cases h

/-- A call that names a slot has nothing to do with connections. -/
theorem Call.isOffline_of_slot {call : Call} {slot : String} (h : call.slot? = some slot) :
  call.isOffline = true
  := by
  cases call <;> first | rfl | cases h

/-- Whether a connection is open after calls, the latest first, none of which has opened a
connection over another or used one that was not open. -/
inductive Linked : (isOpen : Bool) → List Call → Prop
  | nil : Linked false []
  | dialled {calls : List Call} (host : String) (port : UInt16) :
      Linked false calls →
      Linked true (.dial host port (.ok ()) :: calls)
  | unreachable {calls : List Call} (host : String) (port : UInt16) (fault : Fault) :
      Linked false calls →
      Linked false (.dial host port (.error fault) :: calls)
  | used {calls : List Call} {call : Call} :
      call.isExchange = true →
      Linked true calls →
      Linked true (call :: calls)
  | closed {calls : List Call} {isOpen : Bool} :
      Linked isOpen calls →
      Linked false (.hangUp :: calls)
  | beside {calls : List Call} {isOpen : Bool} {call : Call} :
      call.isOffline = true →
      Linked isOpen calls →
      Linked isOpen (call :: calls)

/-! ### Dealings with the slots -/

/-- What is in custody after calls, the latest first, where every slot that was opened for writing
has been written to only until it was finished or discarded, once, before another one was opened,
and every slot that was selected had just been finished well. -/
inductive Handled : Hold Unit → List Call → Prop
  | nil : Handled .vacant []
  | opened {calls : List Call} (slot : String) :
      Handled .vacant calls →
      Handled (.writing () slot) (.openWriter slot (.ok ()) :: calls)
  | refused {calls : List Call} (slot : String) (fault : Fault) :
      Handled .vacant calls →
      Handled .vacant (.openWriter slot (.error fault) :: calls)
  | written {calls : List Call} {slot : String} (data : Bytes) (outcome : Outcome) :
      Handled (.writing () slot) calls →
      Handled (.writing () slot) (.write slot data outcome :: calls)
  | checked {calls : List Call} {slot : String} :
      Handled (.writing () slot) calls →
      Handled (.checked slot) (.finish slot (.ok ()) :: calls)
  | rejected {calls : List Call} {slot : String} (fault : Fault) :
      Handled (.writing () slot) calls →
      Handled .vacant (.finish slot (.error fault) :: calls)
  | discarded {calls : List Call} {slot : String} :
      Handled (.writing () slot) calls →
      Handled .vacant (.discard slot :: calls)
  | selected {calls : List Call} {slot : String} (outcome : Outcome) :
      Handled (.checked slot) calls →
      Handled .vacant (.select slot outcome :: calls)
  | beside {calls : List Call} {hold : Hold Unit} {call : Call} :
      call.slot? = none →
      Handled hold calls →
      Handled hold (call :: calls)

theorem Linked.beside_slot {isOpen : Bool} {calls : List Call} {call : Call} {slot : String}
    (h : Linked isOpen calls) (hcall : call.slot? = some slot) :
  Linked isOpen (call :: calls)
  := .beside (Call.isOffline_of_slot hcall) h

variable {σ ω : Type} {p : Platform σ ω}

/-- What the record shows of a custody. -/
def Hold.shown : Hold ω → Hold Unit
  | .vacant => .vacant
  | .writing _ slot => .writing () slot
  | .checked slot => .checked slot

/-- The record shows whether a connection is open, and what is in custody. -/
def Shown (isOpen : Bool) (hold : Hold ω) : Assertion σ :=
  fun _ calls => Linked isOpen calls ∧ Handled hold.shown calls

/-- The record shows whether a session is connected, and what is in custody. -/
abbrev Recorded (session : Session) (hold : Hold ω) : Assertion σ :=
  Shown session.isConnected hold

theorem recorded_eq {session : Session} {hold : Hold ω} {isOpen : Bool}
    (h : session.isConnected = isOpen) :
  (Recorded session hold : Assertion σ) = Shown isOpen hold
  := by
  rw [Recorded, h]

/-- A connection is open that is not established. -/
abbrev Dialled (_ : Session) (hold : Hold ω) : Assertion σ :=
  Shown true hold

section

variable {α : Type} {op : Op σ α} {entry : α → Call} {isOpen : Bool} {hold : Hold ω}

/-- A call that uses the open connection and names no slot. -/
theorem linked_used (hentry : ∀ a, (entry a).isExchange = true) :
  (perform op entry).Keeps (Shown true hold)
  := by
  apply Act.Ensures.perform
  rintro site _ ⟨hlinked, hhandled⟩
  exact ⟨.used (hentry _) hlinked, .beside (Call.slot_of_isExchange (hentry _)) hhandled⟩

/-- A call that has nothing to do with connections and names no slot. -/
theorem linked_beside (hentry : ∀ a, (entry a).isOffline = true ∧ (entry a).slot? = none) :
  (perform op entry).Keeps (Shown isOpen hold)
  := by
  apply Act.Ensures.perform
  rintro site _ ⟨hlinked, hhandled⟩
  obtain ⟨hoffline, hslot⟩ := hentry (op site).1
  exact ⟨.beside hoffline hlinked, .beside hslot hhandled⟩

/-- Hanging up closes the connection. -/
theorem linked_closed {op : Op σ Unit} :
  Act.Ensures (Shown isOpen hold) (perform op fun _ => .hangUp) fun _ => Shown false hold
  := Act.Ensures.perform fun _ _ h => ⟨h.1.closed, .beside rfl h.2⟩

end

theorem Transport.course_recorded (t : Transport σ) (hold : Hold ω) :
  t.Course (Recorded · hold) (Dialled · hold)
  := by
  have hidle : ∀ {session : Session} {pin : Pin}, session.stage = .idle pin →
      session.isConnected = false := by
    intro session pin hstage
    rw [Session.isConnected, hstage]
  have hunconfigured : ∀ {session : Session}, session.stage = .unconfigured →
      session.isConnected = false := by
    intro session hstage
    rw [Session.isConnected, hstage]
  constructor
  case configure =>
    intro session pin hstage _
    apply (linked_beside fun _ => ⟨rfl, rfl⟩).imp_right
    rintro (fault | ⟨⟩) _ _ h
    · exact h
    · rw [hunconfigured hstage] at h
      exact h
  case reset =>
    intro session _
    exact linked_beside fun _ => ⟨rfl, rfl⟩
  case dial =>
    intro session pin host port hstage
    apply Act.Ensures.perform
    rintro site _ ⟨hlinked, hhandled⟩
    rw [hidle hstage] at hlinked
    cases (t.dial host port site).1 with
    | ok _ => exact ⟨hlinked.dialled host port, .beside rfl hhandled⟩
    | error fault =>
        dsimp only
        rw [recorded_eq (hidle hstage)]
        exact ⟨hlinked.unreachable host port fault, .beside rfl hhandled⟩
  case handshake => exact fun _ => linked_used fun _ => rfl
  case verifyChain => exact fun _ => linked_used fun _ => rfl
  case peerCertificate => exact fun _ => linked_used fun _ => rfl
  case establish => exact fun _ h => h
  case giveUp =>
    intro session pin hstage
    rw [recorded_eq (hidle hstage)]
    exact linked_closed
  case hangUpIdle =>
    intro session pin hstage
    rw [recorded_eq (hidle hstage)]
    exact linked_closed
  case send =>
    intro session bytes hconnected
    rw [recorded_eq hconnected]
    exact linked_used fun _ => rfl
  case receive =>
    intro session bytes hconnected
    rw [recorded_eq hconnected]
    exact linked_used fun _ => rfl
  case hangUp => exact fun _ => linked_closed

theorem Slots.custody_recorded (s : Slots σ ω) (session : Session) :
  s.Custody (Recorded session)
  where
  bootLabel := linked_beside fun _ => ⟨rfl, rfl⟩
  openWriter slot := by
    apply Act.Ensures.perform
    rintro site _ ⟨hlinked, hhandled⟩
    cases (s.openWriter slot site).1 with
    | ok writer => exact ⟨hlinked.beside_slot rfl, hhandled.opened slot⟩
    | error fault => exact ⟨hlinked.beside_slot rfl, hhandled.refused slot fault⟩
  write writer slot data :=
    Act.Ensures.perform fun _ _ h => ⟨h.1.beside_slot rfl, h.2.written data _⟩
  finish writer slot := by
    apply Act.Ensures.perform
    rintro site _ ⟨hlinked, hhandled⟩
    cases (s.finish writer site).1 with
    | ok _ => exact ⟨hlinked.beside_slot rfl, hhandled.checked⟩
    | error fault => exact ⟨hlinked.beside_slot rfl, hhandled.rejected fault⟩
  discard writer slot :=
    Act.Ensures.perform fun _ _ h => ⟨h.1.beside_slot rfl, h.2.discarded⟩
  select slot :=
    Act.Ensures.perform fun _ _ h => ⟨h.1.beside_slot rfl, h.2.selected _⟩

/-- Every platform keeps the record in order. -/
theorem Platform.course_recorded (p : Platform σ ω) :
  p.Course Recorded Dialled
  where
  transport := p.transport.course_recorded
  slots := p.slots.custody_recorded
  timer _ := by
    rintro α op entry (_ | _)
    · exact linked_beside fun _ => ⟨rfl, rfl⟩
    · exact linked_beside fun _ => ⟨rfl, rfl⟩
  restarts _ := by
    rintro α op entry ⟨_⟩
    exact linked_beside fun _ => ⟨rfl, rfl⟩
  observes _ := by
    rintro α op entry ⟨_, _⟩
    exact linked_beside fun _ => ⟨rfl, rfl⟩

/-- What all operations of a transport keep is kept along the course of every session. -/
theorem Transport.Keeps.course {t : Transport σ} {K : Assertion σ} (h : t.Keeps K) :
  t.Course (fun _ => K) (fun _ => K)
  where
  configure _ _ := (h.configure _).imp_right fun outcome _ _ hK => by cases outcome <;> exact hK
  reset _ := h.reset
  dial host port _ :=
    (h.dial host port).imp_right fun outcome _ _ hK => by cases outcome <;> exact hK
  handshake _ := h.handshake
  verifyChain _ := h.verifyChain
  peerCertificate _ := h.peerCertificate
  establish _ hK := hK
  giveUp _ := h.hangUp
  hangUpIdle _ := h.hangUp
  send bytes _ := h.send bytes
  receive capacity _ := h.receive capacity
  hangUp _ := h.hangUp

/-- What is known of a custody, and left alone by everything that has nothing to do with the slots,
is led on by a whole platform. -/
theorem Slots.Custody.course {K : Hold ω → Assertion σ} (h : p.slots.Custody K)
    (haround : ∀ hold, p.KeepsAround (K hold)) :
  p.Course (fun _ => K) (fun _ => K)
  where
  transport hold := (haround hold).transport.course
  slots _ := h
  timer _ := by
    rintro α op entry (⟨period, pending⟩ | ⟨pending⟩)
    · apply (haround .vacant).arm
    · apply (haround .vacant).disarm
  restarts _ := by
    rintro α op entry ⟨delay⟩
    apply (haround .vacant).restart
  observes _ := by
    rintro α op entry ⟨hobserve, config⟩
    apply (haround .vacant).observe _ hobserve

/-! ### Images that are still open -/

namespace Transfer

variable {stale : Transfer ω → Act σ (Transfer ω × Outcome)}

/-- Whether writing has not been started, and an image is open already. -/
def IsStale (x : Transfer ω) : Prop :=
  x.isStarted = false ∧ x.programmer.isOpen = true

instance (x : Transfer ω) : Decidable x.IsStale :=
  inferInstanceAs (Decidable (_ ∧ _))

/-- Starts to write, where an image that is still open is dealt with by `stale`. -/
def beginWith (p : Platform σ ω) (stale : Transfer ω → Act σ (Transfer ω × Outcome))
    (x : Transfer ω) : Act σ (Transfer ω × Outcome) :=
  if x.IsStale then stale x else x.begin p

/-- Writes bytes of an image, where an image that is still open is dealt with by `stale`. -/
def storeWith (p : Platform σ ω) (stale : Transfer ω → Act σ (Transfer ω × Outcome))
    (x : Transfer ω) (bytes : Bytes) : Act σ (Transfer ω × Outcome) :=
  x.beginWith p stale >>= proceed fun x => x.keep p bytes

/-- Moves an image, where an image that is still open is dealt with by `stale`. -/
def pumpWith (p : Platform σ ω) (stale : Transfer ω → Act σ (Transfer ω × Outcome)) :
    (count : Nat) → Transfer ω → Act σ (Transfer ω × Outcome)
  | 0, x => return (x, .ok ())
  | count + 1, x => x.stream.next p.transport >>= fun
    | (stream, .error fault) => return ({ x with stream }, .error fault)
    | (stream, .ok (some (.data bytes))) =>
      storeWith p stale { x with stream } bytes >>= proceed (pumpWith p stale count)
    | (stream, .ok (some .finished)) | (stream, .ok none) => return ({ x with stream }, .ok ())

theorem beginWith_eq {x : Transfer ω} (hx : x.IsStale → stale x = x.begin p) :
  x.beginWith p stale = x.begin p
  := by
  unfold beginWith
  split
  case isTrue hstale => apply hx hstale
  case isFalse => rfl

/-- An image that is still open can be found by the first fragment of a transfer only. -/
theorem pumpWith_eq (count : Nat) {x : Transfer ω}
    (hx : ∀ stream,
      IsStale { x with stream } → stale { x with stream } = begin p { x with stream }) :
  x.pumpWith p stale count = x.pump p count
  := by
  induction count generalizing x with
  | zero => rfl
  | succ count ih =>
      rw [pump_succ, pumpWith]
      congr 1
      funext r
      obtain ⟨stream, fault | _ | bytes | _⟩ := r
      · rfl
      · rfl
      · change storeWith p stale { x with stream } bytes >>= _
          = store p { x with stream } bytes >>= _
        rw [storeWith, store_eq, beginWith_eq (hx stream), bind_assoc, bind_assoc]
        apply Act.bind_congr_of (begin_started { x with stream })
        rintro ⟨x, fault | ⟨⟩⟩ hstarted
        · rfl
        · -- once writing has been started, the open image is the one that is being written
          apply Act.bind_congr_of (keep_started (hstarted rfl) bytes)
          rintro ⟨x, fault | ⟨⟩⟩ hstarted
          · rfl
          · apply ih
            rintro _ ⟨hnot, -⟩
            apply absurd (hnot.symm.trans hstarted)
            exact Bool.false_ne_true
      · rfl

end Transfer

namespace Worker

/-- Streams the announced image into the slot, where an image that is still open is dealt with by
`stale`. -/
def streamImageWith (p : Platform σ ω) (stale : Transfer ω → Act σ (Transfer ω × Outcome))
    (worker : Worker ω) : Act σ (Worker ω × Except Fault CycleResult) :=
  match Request.get worker.config.serverHost worker.config.firmwarePath with
  | .error fault => return (worker, .error fault)
  | .ok request =>
    worker.client.openStream p.transport request worker.options.firmwareBuffer >>= fun
    | (client, .error fault) => return ({ worker with client }, .error fault)
    | (client, .ok stream) =>
      Transfer.pumpWith p stale UInt64.size
          { stream, programmer := worker.programmer, status := worker.status }
        >>= Transfer.close p >>= worker.landed p client stream

/-- How an image that is still open is dealt with matters only to a worker that is writing. -/
theorem streamImageWith_eq {stale : Transfer ω → Act σ (Transfer ω × Outcome)} {worker : Worker ω}
    (h : worker.programmer.isOpen = true → stale = Transfer.begin p) :
  worker.streamImageWith p stale = worker.streamImage p
  := by
  unfold streamImageWith
  cases hrequest : Request.get worker.config.serverHost worker.config.firmwarePath with
  | error fault => rw [streamImage, hrequest]
  | ok request =>
      rw [streamImage_eq worker hrequest]
      dsimp only
      congr 1
      funext r
      obtain ⟨client, fault | stream⟩ := r
      · rfl
      · dsimp only
        rw [Transfer.pumpWith_eq _, Transfer.run]
        rintro _ ⟨-, hopen⟩
        rw [h hopen]

end Worker

/-! ### Whole cycles -/

namespace Reached

variable {site : Site σ} {worker after : Worker ω} {cycles : List Cycle} {scene last : Scene σ}
  {trigger : Trigger} {result : CycleResult}

/-- However a cycle ends, and whatever the cycles before it have come to:
* nothing is being written, no update is in progress, and nothing is connected;
* the trigger has been cleared and the result recorded;
* every connection that was opened has been closed;
* every slot that was opened for writing has been finished or discarded, once, with nothing written
  to it afterwards, and only slots that were finished well have been selected, which the record
  tells by the slots, and what is known of the custody of a slot tells by the writers;
* it does not matter what a download would do with an image that is still open from an earlier
  one. -/
theorem process_tidies (h : Reached p site worker cycles scene)
    (hprocess : worker.process p trigger scene = ((after, result), last)) :
  (after.programmer.isOpen = false ∧ after.status.inProgress = false
      ∧ after.client.session.isConnected = false)
    ∧ (after.triggers.isPending trigger = false ∧ after.status.last = some result)
    ∧ Linked false last.calls
    ∧ Handled .vacant last.calls
    ∧ (∀ K : Hold ω → Assertion σ, p.slots.Custody K → (∀ hold, p.KeepsAround (K hold)) →
        K .vacant site.state [] → K .vacant last.state last.calls)
    ∧ ∀ stale, worker.streamImageWith p stale = worker.streamImage p
  := by
  have hrests : worker.Rests Recorded scene.state scene.calls :=
    h.rests p.course_recorded fun _ _ => ⟨.nil, .nil⟩
  have hafter := (Worker.process_course p.course_recorded worker trigger).run scene hrests
  rw [hprocess] at hafter
  obtain ⟨hended, ⟨hnone, hclosed, hprogress⟩, hlinked, hhandled⟩ := hafter
  dsimp only at hnone hclosed hprogress hlinked hhandled
  rw [hclosed] at hlinked
  refine ⟨⟨?_, hprogress, hclosed⟩, hended, hlinked, hhandled, ?_, ?_⟩
  · rw [Programmer.isOpen, hnone, Option.isSome_none]
  · intro K hslots haround hsite
    have hcourse := hslots.course haround
    have hK := (Worker.process_course hcourse worker trigger).run scene
      (h.rests hcourse fun _ _ => hsite)
    rw [hprocess] at hK
    exact hK.2.2
  · intro stale
    apply Worker.streamImageWith_eq
    intro hopen
    rw [Programmer.isOpen, hrests.1.session_eq] at hopen
    cases hopen

/-- A cycle of a new worker that installs an image of one byte leaves nothing open. -/
theorem process_tidies_sample :
  ∃ (start : Scene Bench.Rig) (after : Worker String) (last : Scene Bench.Rig),
    Reached Bench.Rig.platform { state := Bench.Rig.sampleRig "factory" [Bench.okResponse [65]] }
        Bench.Rig.sampleWorker [] start
      ∧ Bench.Rig.sampleWorker.process Bench.Rig.platform .download start
        = ((after, .installed ⟨"ota_0", 1, Sha256.hex [65]⟩), last)
      ∧ after.programmer.isOpen = false ∧ after.client.session.isConnected = false
      ∧ after.triggers.isPending .download = false
      ∧ Linked false last.calls ∧ Handled .vacant last.calls
  := by
  obtain ⟨start, hstart, hgoing⟩ := Bench.Rig.sample_reached "factory" [Bench.okResponse [65]]
  have hnext : SlotRing.twoSlots.next "factory" = .ok "ota_0" := rfl
  obtain ⟨⟨hresult, -⟩, -⟩ := (Bench.Rig.downloaded_going Bench.Rig.lasting_noRestart hnext
    (by decide) Bench.Rig.sample_poised Bench.Rig.sample_oneRead).run start hgoing
  have hprocess : Bench.Rig.sampleWorker.process Bench.Rig.platform .download start
      = (((Bench.Rig.sampleWorker.process Bench.Rig.platform .download start).1.1,
        .installed ⟨"ota_0", 1, Sha256.hex [65]⟩), _) := Prod.ext (Prod.ext rfl hresult) rfl
  obtain ⟨⟨hopen, -, hclosed⟩, ⟨hpending, -⟩, hlinked, hhandled, -, -⟩ :=
    process_tidies hstart hprocess
  exact ⟨start, _, _, hstart, hprocess, hopen, hclosed, hpending, hlinked, hhandled⟩

end Reached

end FirmwareUpdate
