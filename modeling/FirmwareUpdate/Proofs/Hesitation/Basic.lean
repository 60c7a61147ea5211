import FirmwareUpdate.Proofs.Line.Session
import FirmwareUpdate.Proofs.Worker.Operations

/-!
# Transports that hesitate

A transport that hesitates is like another one, except that it follows its whims: before it gets on
with a handshake, with sending or with receiving, it may ask any number of times to be tried again,
and of the bytes that are to be sent it may take only some. What it does is done by the other
transport. A prompt one never asks to be tried again and takes all bytes at once.

Two scenes are abreast if the platforms have come to the same state, apart from the moods of their
transports, and the same calls have been made, where the bytes that were sent count one by one and
the advice to try again does not count.
-/

namespace FirmwareUpdate

variable {σ τ ω α β : Type}

/-! ### Whims -/

/-- What a transport may put off. -/
inductive Errand
  | handshake
  | send (bytes : Bytes)
  | receive (capacity : Nat)

/-- What a transport does with an errand: it asks to be tried again, after so much time, or it gets
on with it. Of the bytes that are to be sent it then takes one and so many more. -/
inductive Whim
  | putOff (spent : Duration)
  | getOn (more : Nat)

/-- The whims of a transport, which may depend on all that has happened to the platform, and change
its mood. -/
abbrev Whims (σ τ : Type) := Errand → σ × τ → Whim × τ

/-- The whims of a transport that does everything at once. -/
def Whims.prompt : Whims σ τ
  | .send bytes, (_, mood) => (.getOn bytes.length, mood)
  | _, (_, mood) => (.getOn 0, mood)

/-- A transport with whims gets on before it has made no progress for too long, where so many rounds
have taken so much time. -/
inductive GetsOn (timeout : Duration) (whim : σ × τ → Whim × τ) (state : σ) :
    (rounds elapsed : Nat) → τ → Prop
  | now {rounds elapsed more : Nat} {mood after : τ} :
    whim (state, mood) = (.getOn more, after) → GetsOn timeout whim state rounds elapsed mood
  | later {rounds elapsed : Nat} {spent : Duration} {mood after : τ} :
    whim (state, mood) = (.putOff spent, after) →
    elapsed + spent.nanoseconds < timeout.nanoseconds →
    GetsOn timeout whim state (rounds + 1)
      (elapsed + spent.nanoseconds + pauseAfter (rounds + 1)) after →
    GetsOn timeout whim state rounds elapsed mood

/-- Whatever the mood, each errand is put off a finite number of times, and not for too long. -/
def Whims.Bearable (timeout : Duration) (whims : Whims σ τ) : Prop :=
  ∀ errand state mood, GetsOn timeout (whims errand) state 0 0 mood

theorem Whims.prompt_bearable (timeout : Duration) :
  (Whims.prompt : Whims σ τ).Bearable timeout
  := by
  intro errand state mood
  cases errand with
  | _ => exact .now rfl

/-! ### Hesitation -/

/-- An operation of a platform whose transport has moods. It does not see the mood, and neither does
it see what has been noted before. -/
def Op.beside (op : Op σ α) : Op (σ × τ) α := fun site =>
  let (a, after) := op { state := site.state.1 }
  (a, { state := (after.state, site.state.2), notes := after.notes ++ site.notes })

/-- An operation that follows a whim, which may put it off and otherwise has a say in it. -/
def Op.hesitating (whim : σ × τ → Whim × τ) (op : Nat → Op σ (Progress α)) :
    Op (σ × τ) (Progress α) := fun site =>
  match whim site.state with
  | (.putOff spent, mood) => (.retry spent, { site with state := (site.state.1, mood) })
  | (.getOn more, mood) => (op more).beside { site with state := (site.state.1, mood) }

/-- A transport that hesitates. -/
def Transport.hesitating (t : Transport σ) (whims : Whims σ τ) : Transport (σ × τ) where
  configure identity := (t.configure identity).beside
  dial host port := (t.dial host port).beside
  handshake := Op.hesitating (whims .handshake) fun _ => t.handshake
  verifyChain := t.verifyChain.beside
  peerCertificate := t.peerCertificate.beside
  send bytes := Op.hesitating (whims (.send bytes)) fun more => t.send (bytes.take (more + 1))
  receive capacity := Op.hesitating (whims (.receive capacity)) fun _ => t.receive capacity
  hangUp := t.hangUp.beside
  reset := t.reset.beside

/-- A platform whose transport hesitates. -/
def Platform.hesitating (p : Platform σ ω) (whims : Whims σ τ) : Platform (σ × τ) ω where
  transport := p.transport.hesitating whims
  slots := {
    bootLabel := p.slots.bootLabel.beside
    openWriter slot := (p.slots.openWriter slot).beside
    write writer data := (p.slots.write writer data).beside
    finish writer := (p.slots.finish writer).beside
    discard writer := (p.slots.discard writer).beside
    select slot := (p.slots.select slot).beside }
  timer := {
    arm period := (p.timer.arm period).beside
    disarm := p.timer.disarm.beside }
  restart delay := (p.restart delay).beside
  observer := p.observer.map fun observe config => (observe config).beside

/-- What comes of bytes that are sent in a state: they may not be taken. -/
def Transport.deliver (t : Transport σ) (bytes : Bytes) : ExceptT String (StateM σ) Unit :=
  fun state =>
    match t.send bytes { state } with
    | (.failed message, after) => (.error message, after.state)
    | (_, after) => (.ok (), after.state)

/-- A transport that never asks to be tried again and takes all bytes at once. Bytes are a stream
for it: it makes no difference to send some of them and then the others. -/
structure Transport.Straight (t : Transport σ) : Prop where
  handshake : ∀ state spent, (t.handshake { state }).1 ≠ .retry spent
  send : ∀ {bytes : Bytes}, bytes ≠ [] → ∀ state,
    (t.send bytes { state }).1 = .ready bytes.length
      ∨ ∃ message, (t.send bytes { state }).1 = .failed message
  receive : ∀ capacity state spent, (t.receive capacity { state }).1 ≠ .retry spent
  deliver_append : ∀ {first rest : Bytes}, first ≠ [] → rest ≠ [] →
    t.deliver (first ++ rest) = (do t.deliver first; t.deliver rest)

/-! ### What counts -/

namespace Call

/-- Whether a call got the advice to try again. -/
def isRetry : Call → Bool
  | handshake (.retry _) => true
  | send _ (.retry _) => true
  | receive _ (.retry _) => true
  | _ => false

/-- Whether a call sends bytes. -/
def isSend : Call → Bool
  | send _ _ => true
  | _ => false

/-- The bytes that were taken by a call. -/
def taken : Call → Bytes
  | send offered (.ready count) => offered.take count
  | _ => []

/-- Whether bytes were not taken by a call, and will not be. -/
def isRefused : Call → Bool
  | send _ (.failed _) => true
  | _ => false

/-- A call that sends one byte. -/
def sending (b : UInt8) : Call :=
  send [b] (.ready 1)

/-- What counts of a call, in front of what counts of the calls before: bytes count one by one, and
if some are not taken, those that were sent just before them do not count either. -/
def settle (call : Call) (earlier : List Call) : List Call :=
  if call.isRetry then earlier
  else
    match call with
    | send offered (.ready count) => (offered.take count).reverse.map sending ++ earlier
    | send _ progress => send [] progress :: earlier.dropWhile isSend
    | call => call :: earlier

/-- Nothing is taken or refused with the advice to try again. -/
theorem of_isRetry {call : Call} (h : call.isRetry = true) :
  call.taken = [] ∧ call.isRefused = false
  := by
  unfold isRetry at h
  split at h
  · exact ⟨rfl, rfl⟩
  · exact ⟨rfl, rfl⟩
  · exact ⟨rfl, rfl⟩
  · cases h

/-- A call that does not send bytes counts as it is, if it counts. -/
theorem settle_cases (call : Call) :
  call.isRetry = true
    ∨ (∃ offered count, call = send offered (.ready count))
    ∨ (∃ offered message, call = send offered (.failed message))
    ∨ call.taken = [] ∧ call.isRefused = false ∧ ∀ earlier, call.settle earlier = call :: earlier
  := by
  cases call with
  | send offered progress =>
      cases progress with
      | ready count => exact .inr (.inl ⟨offered, count, rfl⟩)
      | retry spent => exact .inl rfl
      | failed message => exact .inr (.inr (.inl ⟨offered, message, rfl⟩))
  | handshake progress =>
      cases progress with
      | retry spent => exact .inl rfl
      | _ => exact .inr (.inr (.inr ⟨rfl, rfl, fun _ => rfl⟩))
  | receive capacity progress =>
      cases progress with
      | retry spent => exact .inl rfl
      | _ => exact .inr (.inr (.inr ⟨rfl, rfl, fun _ => rfl⟩))
  | _ => exact .inr (.inr (.inr ⟨rfl, rfl, fun _ => rfl⟩))

end Call

/-- What counts of the calls made so far, the latest first. -/
def settled (calls : List Call) : List Call :=
  calls.foldr Call.settle []

/-- The bytes that have been taken, in the order in which they were sent. -/
def handed (calls : List Call) : Bytes :=
  calls.reverse.flatMap Call.taken

/-- Advice to try again does not count. -/
theorem settled_cons_of_isRetry {call : Call} (h : call.isRetry = true) (calls : List Call) :
  settled (call :: calls) = settled calls
  := by
  change call.settle (settled calls) = _
  unfold Call.settle
  rw [if_pos h]

theorem settled_cons_ready (offered : Bytes) (count : Nat) (calls : List Call) :
  settled (.send offered (.ready count) :: calls)
    = (offered.take count).reverse.map Call.sending ++ settled calls
  := rfl

theorem settled_cons_failed (offered : Bytes) (message : String) (calls : List Call) :
  settled (.send offered (.failed message) :: calls)
    = .send [] (.failed message) :: (settled calls).dropWhile Call.isSend
  := rfl

theorem handed_cons (call : Call) (calls : List Call) :
  handed (call :: calls) = handed calls ++ call.taken
  := by
  rw [handed, List.reverse_cons, List.flatMap_append, List.flatMap_singleton, handed]

theorem handed_cons_of_isRetry {call : Call} (h : call.isRetry = true) (calls : List Call) :
  handed (call :: calls) = handed calls
  := by
  rw [handed_cons, (Call.of_isRetry h).1, List.append_nil]

theorem handed_append (calls earlier : List Call) :
  handed (calls ++ earlier) = handed earlier ++ handed calls
  := by
  rw [handed, List.reverse_append, List.flatMap_append, handed, handed]

theorem handed_sending (bytes : Bytes) :
  handed (bytes.reverse.map Call.sending) = bytes
  := by
  rw [handed, List.map_reverse, List.reverse_reverse, List.flatMap_map]
  exact List.flatMap_singleton' bytes

theorem any_isRefused_sending (bytes : Bytes) :
  (bytes.map Call.sending).any Call.isRefused = false
  := by
  rw [List.any_map]
  exact List.any_eq_false.mpr fun _ _ => Bool.false_ne_true

/-- What counts shows whether bytes have not been taken. -/
theorem any_isRefused_settled (calls : List Call) :
  (settled calls).any Call.isRefused = calls.any Call.isRefused
  := by
  induction calls with
  | nil => rfl
  | cons call calls ih =>
      rw [List.any_cons]
      obtain hretry | ⟨offered, count, rfl⟩ | ⟨offered, message, rfl⟩ | ⟨-, -, hsettle⟩ :=
        call.settle_cases
      · rw [settled_cons_of_isRetry hretry, ih, (Call.of_isRetry hretry).2, Bool.false_or]
      · rw [settled_cons_ready, List.any_append, any_isRefused_sending, ih]
        rfl
      · rfl
      · change (call.settle (settled calls)).any _ = _
        rw [hsettle, List.any_cons, ih]

/-- What counts shows what has been handed over, unless bytes have not been taken. -/
theorem handed_settled {calls : List Call} (h : calls.any Call.isRefused = false) :
  handed (settled calls) = handed calls
  := by
  induction calls with
  | nil => rfl
  | cons call calls ih =>
      obtain ⟨hcall, hcalls⟩ := Bool.or_eq_false_iff.mp h
      obtain hretry | ⟨offered, count, rfl⟩ | ⟨offered, message, rfl⟩ | ⟨htaken, -, hsettle⟩ :=
        call.settle_cases
      · rw [settled_cons_of_isRetry hretry, handed_cons_of_isRetry hretry, ih hcalls]
      · rw [settled_cons_ready, handed_append, handed_sending, handed_cons, ih hcalls]
        rfl
      · cases hcall
      · change handed (call.settle (settled calls)) = _
        rw [hsettle, handed_cons, handed_cons, ih hcalls]

/-- Scenes in which the same has happened, apart from the hesitation of the transports. -/
structure Abreast (s s' : Scene (σ × τ)) : Prop where
  state_eq : s.state.1 = s'.state.1
  settled_eq : settled s.calls = settled s'.calls

/-- What two acts come to concurs: the answers are equal, and the scenes are abreast. -/
structure Concur (r r' : α × Scene (σ × τ)) : Prop where
  answer_eq : r.1 = r'.1
  abreast : Abreast r.2 r'.2

namespace Abreast

variable {s s' : Scene (σ × τ)}

theorem refl (s : Scene (σ × τ)) :
  Abreast s s
  := ⟨rfl, rfl⟩

/-- The same bytes have been handed over, unless some have not been taken. -/
theorem handed_eq (h : Abreast s s') (hrefused : s'.calls.any Call.isRefused = false) :
  handed s.calls = handed s'.calls
  := by
  have hrefused' : s.calls.any Call.isRefused = false := by
    rw [← any_isRefused_settled, h.settled_eq, any_isRefused_settled, hrefused]
  rw [← handed_settled hrefused', h.settled_eq, handed_settled hrefused]

end Abreast

/-- Acts that concur in scenes that are abreast. -/
structure Act.Parallel (act act' : Act (σ × τ) α) : Prop where
  concur : ∀ {s s'}, Abreast s s' → Concur (act s) (act' s')

/-- The operations that have nothing to do with the mood. -/
def BesideMood : Basis (σ × τ) :=
  fun _ op _ => ∃ inner : Op σ _, op = inner.beside

namespace Act.Parallel

variable {act act' : Act (σ × τ) α} {next next' : α → Act (σ × τ) β}

theorem pure (a : α) :
  Parallel (Pure.pure a : Act (σ × τ) α) (Pure.pure a)
  := ⟨fun h => ⟨rfl, h⟩⟩

/-- Different notes may be written. -/
theorem reportAll (notes notes' : List Note) :
  Parallel (FirmwareUpdate.reportAll notes : Act (σ × τ) Unit) (FirmwareUpdate.reportAll notes')
  := ⟨fun h => ⟨rfl, h.state_eq, h.settled_eq⟩⟩

/-- What is ensured of an answer may be used in what follows. -/
theorem bind_of {φ : Prop} {Q : α → Assertion (σ × τ)} (h : Parallel act act') (hφ : φ)
    (hact : act.Ensures (fun _ _ => φ) Q)
    (hnext : ∀ a, (∃ state calls, Q a state calls) → Parallel (next a) (next' a)) :
  Parallel (act >>= next) (act' >>= next')
  := by
  constructor
  intro s s' hs
  obtain ⟨hanswer, hafter⟩ := h.concur hs
  change Concur (next (act s).1 (act s).2) (next' (act' s').1 (act' s').2)
  rw [← hanswer]
  exact (hnext _ ⟨_, _, hact.run s hφ⟩).concur hafter

theorem bind (h : Parallel act act') (hnext : ∀ a, Parallel (next a) (next' a)) :
  Parallel (act >>= next) (act' >>= next')
  := h.bind_of trivial .any fun a _ => hnext a

theorem bind_reportAll {notes notes' : List Note} {next next' : Unit → Act (σ × τ) α}
    (h : Parallel (next ()) (next' ())) :
  Parallel (FirmwareUpdate.reportAll notes >>= next) (FirmwareUpdate.reportAll notes' >>= next')
  := (reportAll notes notes').bind fun _ => h

theorem bind_report {origin origin' text text' : String} {severity severity' : Severity}
    {next next' : Unit → Act (σ × τ) α} (h : Parallel (next ()) (next' ())) :
  Parallel (report origin severity text >>= next) (report origin' severity' text' >>= next')
  := bind_reportAll h

/-- An operation that has nothing to do with the mood. -/
theorem perform {op : Op (σ × τ) α} {entry : α → Call} (h : BesideMood α op entry) :
  Parallel (perform op entry) (FirmwareUpdate.perform op entry)
  := by
  obtain ⟨inner, rfl⟩ := h
  constructor
  intro s s' hs
  refine ⟨?_, ?_, ?_⟩
  · change (inner { state := s.state.1 }).1 = (inner { state := s'.state.1 }).1
    rw [hs.state_eq]
  · change (inner { state := s.state.1 }).2.state = (inner { state := s'.state.1 }).2.state
    rw [hs.state_eq]
  · change (entry (inner { state := s.state.1 }).1).settle (settled s.calls)
      = (entry (inner { state := s'.state.1 }).1).settle (settled s'.calls)
    rw [hs.state_eq, hs.settled_eq]

/-- An act whose operations have nothing to do with the mood. -/
theorem of_composed {act : Act (σ × τ) α} (h : act.Composed BesideMood) :
  Parallel act act
  := by
  induction h with
  | pure a => exact pure a
  | reportAll notes => exact reportAll notes notes
  | perform hop => exact perform hop
  | bind _ _ ihact ihnext => exact ihact.bind ihnext

end Act.Parallel

/-! ### What has nothing to do with the mood -/

section

variable {p : Platform σ ω} {whims : Whims σ τ}

theorem Platform.slots_hesitating :
  (p.hesitating whims).slots.Performs ≤ BesideMood
  := by
  rintro α op entry (hop | slot)
  · cases hop with
    | _ => exact ⟨_, rfl⟩
  · exact ⟨_, rfl⟩

theorem Platform.timer_hesitating :
  (p.hesitating whims).timer.Performs ≤ BesideMood
  := by
  intro α op entry hop
  cases hop with
  | _ => exact ⟨_, rfl⟩

theorem Platform.restarts_hesitating :
  (p.hesitating whims).Restarts ≤ BesideMood
  := by
  rintro α op entry ⟨delay⟩
  exact ⟨_, rfl⟩

theorem Platform.observes_hesitating :
  (p.hesitating whims).Observes ≤ BesideMood
  := by
  rintro α op entry ⟨hobserve, config⟩
  obtain ⟨observe, -, rfl⟩ := Option.map_eq_some_iff.mp hobserve
  exact ⟨_, rfl⟩

end

/-! ### Trying again -/

/-- What a transport has answered in the end. -/
def Progress.outcome (what : String) : Progress α → Except Fault α
  | .ready a => .ok a
  | .failed message => .error (.transport s!"{what}: {message}")
  | .retry _ => .error (.transport what)

/-- An operation that is put off is tried again until the transport gets on with it. -/
theorem retryFrom_hesitating {timeout : Duration} (what : String) {whim : σ × τ → Whim × τ}
    {op : Nat → Op σ (Progress α)} {entry : Progress α → Call}
    (hentry : ∀ spent, (entry (.retry spent)).isRetry = true) {s : Scene (σ × τ)}
    (hop : ∀ more spent, (op more { state := s.state.1 }).1 ≠ .retry spent)
    {rounds elapsed : Nat} (h : GetsOn timeout whim s.state.1 rounds elapsed s.state.2) :
  ∃ more after earlier,
    retryFrom timeout what (perform (Op.hesitating whim op) entry) rounds elapsed s
      = ((op more { state := s.state.1 }).1.outcome what, after)
    ∧ after.state.1 = (op more { state := s.state.1 }).2.state
    ∧ after.calls = entry (op more { state := s.state.1 }).1 :: earlier
    ∧ settled earlier = settled s.calls ∧ handed earlier = handed s.calls
  := by
  obtain ⟨⟨⟨state, mood⟩, notes⟩, calls⟩ := s
  dsimp only at h hop ⊢
  induction h generalizing notes calls with
  | @now rounds elapsed more mood after hwhim =>
      let last : Scene (σ × τ) := {
        toSite := ((op more).beside { state := (state, after), notes }).2
        calls := entry (op more { state }).1 :: calls }
      have hperform : perform (Op.hesitating whim op) entry { state := (state, mood), notes, calls }
          = ((op more { state }).1, last) := by
        apply perform_eq
        rw [Op.hesitating, hwhim]
        rfl
      refine ⟨more, last, calls, ?_, rfl, rfl, rfl, rfl⟩
      rw [retryFrom, Act.bind_eq hperform]
      cases hanswer : (op more { state }).1 with
      | ready a => rfl
      | failed message => rfl
      | retry spent => exact absurd hanswer (hop more spent)
  | @later rounds elapsed spent mood after hwhim hsoon hlater ih =>
      have hperform : perform (Op.hesitating whim op) entry { state := (state, mood), notes, calls }
          = (.retry spent,
            { state := (state, after), notes, calls := entry (.retry spent) :: calls }) := by
        apply perform_eq
        rw [Op.hesitating, hwhim]
      obtain ⟨more, last, earlier, hrun, hstate, hcalls, hsettled, hhanded⟩ :=
        ih (entry (.retry spent) :: calls) notes
      refine ⟨more, last, earlier, ?_, hstate, hcalls, ?_, ?_⟩
      · rw [retryFrom, Act.bind_eq hperform]
        dsimp only
        rw [if_neg (Nat.not_le_of_lt hsoon)]
        exact hrun
      · rw [hsettled, settled_cons_of_isRetry (hentry spent)]
      · rw [hhanded, handed_cons_of_isRetry (hentry spent)]

/-- An operation that is not put off by the other transport is answered alike whatever the whims. -/
theorem Act.Parallel.retry {timeout : Duration} {what : String} {whim whim' : σ × τ → Whim × τ}
    {op : Op σ (Progress α)} {entry : Progress α → Call}
    (hentry : ∀ spent, (entry (.retry spent)).isRetry = true)
    (hop : ∀ state spent, (op { state }).1 ≠ .retry spent)
    (h : ∀ state mood, GetsOn timeout whim state 0 0 mood)
    (h' : ∀ state mood, GetsOn timeout whim' state 0 0 mood) :
  Parallel
    (FirmwareUpdate.retry timeout what
      (FirmwareUpdate.perform (Op.hesitating whim fun _ => op) entry))
    (FirmwareUpdate.retry timeout what
      (FirmwareUpdate.perform (Op.hesitating whim' fun _ => op) entry))
  := by
  constructor
  intro s s' hs
  obtain ⟨_, after, earlier, hrun, hstate, hcalls, hsettled, -⟩ :=
    retryFrom_hesitating what hentry (fun _ => hop s.state.1) (h s.state.1 s.state.2)
  obtain ⟨_, after', earlier', hrun', hstate', hcalls', hsettled', -⟩ :=
    retryFrom_hesitating what hentry (fun _ => hop s'.state.1) (h' s'.state.1 s'.state.2)
  rw [← hs.state_eq] at hrun' hstate' hcalls'
  rw [FirmwareUpdate.retry, FirmwareUpdate.retry, hrun, hrun']
  refine ⟨rfl, hstate.trans hstate'.symm, ?_⟩
  rw [hcalls, hcalls']
  change Call.settle _ (settled earlier) = Call.settle _ (settled earlier')
  rw [hsettled, hsettled', hs.settled_eq]

end FirmwareUpdate
