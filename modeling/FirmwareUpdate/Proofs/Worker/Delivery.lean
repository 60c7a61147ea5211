import FirmwareUpdate.Proofs.Line.Cycle
import FirmwareUpdate.Proofs.Slot.Delivery
import FirmwareUpdate.Proofs.Worker.Truncation

/-!
# Images that are delivered

If the slots take the image of a whole response, a download from an accepted peer installs it,
however the response is cut into chunks, as long as they fit into the buffer.
-/

namespace FirmwareUpdate

variable {σ ω : Type} {passage : Passage σ ω} {boot slot : String} {image : Bytes}

/-- A platform whose slots take an image, and whose transport does not disturb that. -/
structure Platform.Take (p : Platform σ ω) (passage : Passage σ ω) (boot slot : String)
    (image : Bytes) : Prop extends p.slots.Take passage boot slot image where
  idle_kept : p.transport.KeepsUnread fun state _ => passage.idle state
  holding_kept : ∀ writer written,
    p.transport.KeepsUnread fun state _ => passage.holding writer written state

/-! ### Transfers of an image that is taken -/

namespace Transfer

variable {p : Platform σ ω} {x : Transfer ω} {data : Bytes}

/-- An image that is still open from before is given up. -/
theorem vacate_idle (hp : p.Take passage boot slot image) (x : Transfer ω) :
  Act.Ensures (fun state _ => passage.idle state) (x.vacate p)
    (fun r state _ => (r.2 = .ok () ∧ r.1.session = none ∧ r.1.ring = x.programmer.ring)
      ∧ passage.idle state)
  := by
  unfold vacate
  cases hsession : x.programmer.session with
  | none =>
      rw [if_neg (by simp [Programmer.isOpen, hsession])]
      exact .pure fun _ _ h => ⟨⟨rfl, hsession, rfl⟩, h⟩
  | some q =>
      rw [if_pos (by simp [Programmer.isOpen, hsession])]
      unfold Programmer.abort
      rw [hsession]
      apply Act.Ensures.bind_report
      apply Act.Ensures.bind_report
      apply Act.Ensures.bind_perform fun _ state _ => passage.idle state
      · exact fun site _ h => hp.discard q.writer site h
      · intro _
        exact .pure fun _ _ h => ⟨⟨rfl, rfl, rfl⟩, h⟩

/-- The slot is opened for the image. -/
theorem begin_conveys (hp : p.Take passage boot slot image)
    (hnext : x.programmer.ring.next boot = .ok slot) (hunstarted : x.isStarted = false) :
  Act.Ensures (fun state _ => passage.idle state) (x.begin p)
    (fun r state calls => (r.2 = .ok () ∧ r.1.size = x.size)
      ∧ r.1.programmer.Conveys passage slot [] state calls)
  := by
  rw [begin_of_not_started (by simp [hunstarted])]
  apply (vacate_idle hp x).bind
  rintro ⟨programmer, outcome⟩
  apply Act.Ensures.of_fact
  rintro ⟨rfl, hclosed, hring⟩
  rw [← hring] at hnext
  apply (Programmer.begin_conveys hp.toTake hclosed hnext).bind
  rintro ⟨programmer, outcome⟩
  apply Act.Ensures.of_fact
  rintro rfl
  exact .pure fun _ _ h => ⟨⟨rfl, rfl⟩, h⟩

/-- All of the image is stored. -/
theorem storeBody_conveys (hp : p.Take passage boot slot image)
    (hnext : x.programmer.ring.next boot = .ok slot) (hunstarted : x.isStarted = false)
    (hsize : x.size = 0) (hne : image ≠ []) :
  Act.Ensures (fun state _ => passage.idle state) (x.storeBody p image)
    (fun r state calls => (r.2 = .ok () ∧ r.1.size = image.length)
      ∧ r.1.programmer.Conveys passage slot image state calls)
  := by
  rw [storeBody_of_ne x hne]
  apply (begin_conveys hp hnext hunstarted).bind
  rintro ⟨x, outcome⟩
  apply Act.Ensures.of_fact
  rintro ⟨rfl, hx⟩
  have hstart : [] ++ image <+: image := List.prefix_refl image
  apply (Programmer.write_conveys hp.toTake x.programmer image hstart).bind
  rintro ⟨programmer, outcome⟩
  apply Act.Ensures.of_fact
  rintro rfl
  apply Act.Ensures.pure
  intro _ _ h
  refine ⟨⟨rfl, ?_⟩, h⟩
  change x.size + image.length = image.length
  rw [hx, hsize, Nat.zero_add]

/-- What a transport does not disturb stays so when a connection is closed. -/
theorem disconnect_conveys (hp : p.Take passage boot slot image) (session : Session)
    (programmer : Programmer ω) :
  (session.disconnect p.transport).Keeps (programmer.Conveys passage slot data)
  := by
  have hkept : p.transport.Unread ≤ Assertion.Keepers (programmer.Conveys passage slot data) := by
    intro α op entry hop
    apply Act.Ensures.perform
    rintro site calls ⟨q, hsession, hslot, written, hcursor, hdigest, hdata, himage, hholding⟩
    have hforeign := Transport.Performs.isForeign (.unread hop) (op site).1
    have hafter := ((hp.holding_kept q.writer written).unread_le _ _ _ hop).run
      { toSite := site, calls } hholding
    refine ⟨q, hsession, hslot, written, hcursor, hdigest, hdata, ?_, hafter⟩
    rw [imageIn_cons_of_isForeign hforeign, himage]
  apply (Session.disconnect_composed (hkept _ _ _ .hangUp) session).keeps le_rfl

/-- The fragments of the image are landed. -/
theorem land_conveys (hp : p.Take passage boot slot image)
    (hnext : x.programmer.ring.next boot = .ok slot) (hunstarted : x.isStarted = false)
    (hsize : x.size = 0) (hne : image ≠ []) (session : Session)
    {unreeled : List Bytes × Outcome} (hfragments : [] ∉ unreeled.1)
    (hflatten : unreeled.1.flatten = image) (houtcome : unreeled.2 = .ok ()) :
  Act.Ensures (fun state _ => passage.idle state) (x.land p session unreeled)
    (fun r state calls => r.2.size = .ok image.length
      ∧ r.2.programmer.Conveys passage slot image state calls)
  := by
  rw [land_eq session x hfragments, hflatten, houtcome, bind_map_left]
  apply (storeBody_conveys hp hnext hunstarted hsize hne).bind
  rintro ⟨x, outcome⟩
  apply Act.Ensures.of_fact
  rintro ⟨rfl, hx⟩
  apply Act.Ensures.map
  apply (disconnect_conveys hp session x.programmer).imp_right
  intro _ _ _ h
  exact ⟨congrArg Except.ok hx, h⟩

/-- The image is installed. -/
theorem complete_conveys (hp : p.Take passage boot slot image) (x : Transfer ω)
    (hsize : x.size ≠ 0) :
  Act.Ensures (x.programmer.Conveys passage slot image) (x.complete p)
    (fun r _ calls => r.2 = .ok (.installed ⟨slot, image.length, Sha256.hex image⟩)
      ∧ imageIn slot calls = some image)
  := by
  unfold complete
  apply Act.Ensures.bind_report
  rw [if_neg hsize]
  apply (Programmer.commit_conveys hp.toTake x.programmer).bind
  rintro ⟨programmer, outcome⟩
  apply Act.Ensures.of_fact
  rintro rfl
  exact .pure fun _ _ h => ⟨rfl, h⟩

end Transfer

/-! ### On a line -/

/-- The passage of an image on a platform with a line. -/
def Passage.onLine (passage : Passage σ ω) : Passage (σ × List Bytes) ω where
  idle state := passage.idle state.1
  holding writer written state := passage.holding writer written state.1
  checked state := passage.checked state.1

theorem Transport.KeepsUnread.onLine {t : Transport σ} {F : σ → Prop}
    (h : t.KeepsUnread fun state _ => F state) :
  t.onLine.KeepsUnread fun state _ => F state.1
  := by
  have hop : ∀ {α : Type} {op : Op σ α} {entry : α → Call},
      (perform op entry).Keeps (fun state _ => F state) →
      (perform op.onLine entry).Keeps fun state _ => F state.1 := by
    intro α op entry hkept
    apply Act.Ensures.perform
    intro site calls hsite
    exact hkept.run { state := site.state.1, calls } hsite
  exact {
    configure identity := hop (h.configure identity)
    dial host port := hop (h.dial host port)
    handshake := hop h.handshake
    verifyChain := hop h.verifyChain
    peerCertificate := hop h.peerCertificate
    send bytes := hop (h.send bytes)
    hangUp := hop h.hangUp
    reset := hop h.reset }

theorem Platform.Take.onLine {p : Platform σ ω} (hp : p.Take passage boot slot image) :
  p.onLine.Take passage.onLine boot slot image
  where
  discard writer site := hp.discard writer { state := site.state.1 }
  bootLabel site := hp.bootLabel { state := site.state.1 }
  openWriter site := hp.openWriter { state := site.state.1 }
  write writer written page site := hp.write writer written page { state := site.state.1 }
  finish writer site := hp.finish writer { state := site.state.1 }
  select site := hp.select { state := site.state.1 }
  idle_kept := hp.idle_kept.onLine
  holding_kept writer written := (hp.holding_kept writer written).onLine

/-- What is in a slot is told by other calls than reads. -/
theorem imageIn_unread (slot : String) (calls : List Call) :
  imageIn slot (unread calls) = imageIn slot calls
  := by
  induction calls with
  | nil => rfl
  | cons call calls ih =>
      unfold unread at ih ⊢
      by_cases hcall : call.read?.isNone = true
      · rw [List.filter_cons, if_pos hcall, imageIn, imageIn, ih]
      · have hforeign : call.isForeign = true := by
          cases call <;> first | rfl | exact absurd rfl hcall
        rw [List.filter_cons, if_neg hcall, imageIn_cons_of_isForeign hforeign, ih]

theorem Programmer.conveys_onLine {programmer : Programmer ω} {state : σ × List Bytes}
    {calls : List Call} :
  programmer.Conveys passage.onLine slot image state calls
    ↔ programmer.Conveys passage slot image state.1 (unread calls)
  := by
  constructor
  · rintro ⟨q, hsession, hslot, written, hcursor, hdigest, hdata, himage, hholding⟩
    refine ⟨q, hsession, hslot, written, hcursor, hdigest, hdata, ?_, hholding⟩
    rw [imageIn_unread, himage]
  · rintro ⟨q, hsession, hslot, written, hcursor, hdigest, hdata, himage, hholding⟩
    refine ⟨q, hsession, hslot, written, hcursor, hdigest, hdata, ?_, hholding⟩
    rw [← imageIn_unread, himage]

/-! ### Whole responses -/

/-- A whole response: the terminator behind the head is the first one, the head is accepted, and
the body is as long as it declares. -/
structure IsResponse (start body : Bytes) (head : Head) : Prop where
  split_eq : Text.splitAtFirst Head.terminator (start ++ Head.terminator) = some (start, [])
  head_eq : Head.ofBytes start = .ok head
  length_eq : body.length = head.contentLength.toNat

theorem IsResponse.response_eq {start body : Bytes} {head : Head} (h : IsResponse start body head) :
  response? (start ++ Head.terminator ++ body) = some (head, body)
  := by
  apply response?_eq_some_iff.mpr
  refine ⟨start, ?_, h.head_eq⟩
  rw [Text.splitAtFirst_append h.split_eq, List.nil_append]

/-- All of the body of a whole response is streamed if its chunks fit. -/
theorem unreel_whole {capacity : Nat} {line : List Bytes} {body : Bytes} {head : Head}
    (hresponse : response? line.flatten = some (head, body))
    (hlength : body.length = head.contentLength.toNat) (hfits : Fits capacity [] line) :
  WithinLength line.flatten
    ∧ [] ∉ (unreel (.start .streamed capacity) 0 line).1
    ∧ (unreel (.start .streamed capacity) 0 line).1.flatten = body
    ∧ (unreel (.start .streamed capacity) 0 line).2 = .ok ()
  := by
  have hparsed := Reception.parsed_start .streamed capacity
  have hwithin : WithinLength line.flatten := by
    intro other more hother
    rw [hresponse] at hother
    obtain ⟨rfl, rfl⟩ := Prod.mk.inj (Option.some.inj hother)
    exact Nat.le_of_eq hlength
  have hrefused : ¬ Refused (unreel (.start .streamed capacity) 0 line).2 :=
    unreel_unrefused rfl hparsed (fun _ => rfl) (.inl rfl) hfits
  have hne : [] ∉ (unreel (.start .streamed capacity) 0 line).1 :=
    (unreel_starts rfl hparsed fun _ => rfl).2
  obtain ⟨hflatten, houtcome⟩ :=
    unreel_eq rfl hparsed (fun _ => rfl) unconcluded_nil hwithin hrefused
  refine ⟨hwithin, hne, ?_, ?_⟩
  · rw [List.nil_append, bodyOf_of_response hresponse] at hflatten
    exact hflatten
  · rw [houtcome, List.nil_append, conclude_of_response hresponse,
      if_pos (Nat.le_of_eq hlength.symm)]
    rfl

/-- All of the body of a whole response is moved from the line into its slot. -/
theorem Transfer.run_conveys {p : Platform σ ω} (hp : p.Take passage boot slot image)
    {x : Transfer ω} (hnext : x.programmer.ring.next boot = .ok slot)
    (hunstarted : x.isStarted = false) (hsize : x.size = 0) (hne : image ≠ [])
    {stream : Client.Stream} {capacity : Nat} (hfresh : stream.Fresh capacity)
    {line : List Bytes} (hreadable : Readable line) (hfits : Fits capacity [] line) {head : Head}
    (hresponse : response? line.flatten = some (head, image))
    (hlength : image.length = head.contentLength.toNat) :
  Act.Ensures (fun state _ => state.2 = line ∧ passage.idle state.1)
    (run p.onLine { x with stream } >>= close p.onLine)
    (fun r state calls => r.2.size = .ok image.length
      ∧ r.2.programmer.Conveys passage.onLine slot image state calls)
  := by
  obtain ⟨hwithin, hfragments, hflatten, houtcome⟩ := unreel_whole hresponse hlength hfits
  have hland := land_conveys hp.onLine hnext hunstarted hsize hne stream.session hfragments hflatten
    houtcome
  simp only [Programmer.conveys_onLine] at hland ⊢
  apply run_lands (Q := fun r state calls => r.2.size = .ok image.length
    ∧ r.2.programmer.Conveys passage slot image state calls) hfresh hreadable hwithin hland

namespace Worker

variable {p : Platform σ ω}

/-- A line with a whole response for a worker that writes its body into the slot after `boot`. -/
structure Awaits (worker : Worker ω) (request : Request) (boot slot : String) (image : Bytes)
    (line : List Bytes) : Prop where
  next_eq : worker.programmer.ring.next boot = .ok slot
  request_eq : Request.get worker.config.serverHost worker.config.firmwarePath = .ok request
  readable : Readable line
  fits : Fits worker.options.firmwareBuffer [] line
  image_ne : image ≠ []
  response : ∃ head, response? line.flatten = some (head, image)
    ∧ image.length = head.contentLength.toNat

/-- The peer accepts the worker, nothing of the response has been read, and the platform proper is
in a state with `F`. -/
def Poised (p : Platform σ ω) (F : σ → Prop) (worker : Worker ω) (request : Request)
    (line : List Bytes) : Assertion (σ × List Bytes) :=
  fun state calls => Client.Accepts p.transport.onLine worker.client.session request state calls
    ∧ state.2 = line ∧ F state.1

variable {worker : Worker ω} {request : Request} {line : List Bytes}

/-- An image is streamed from an accepted peer by moving it from a fresh stream to its end. -/
theorem streamImage_of {F : σ → Prop} (hkept : p.transport.KeepsUnread fun state _ => F state)
    (hrequest : Request.get worker.config.serverHost worker.config.firmwarePath = .ok request)
    {Q : Worker ω × Except Fault CycleResult → Assertion (σ × List Bytes)}
    (hmoved : ∀ (client : Client) (stream : Client.Stream),
      stream.Fresh worker.options.firmwareBuffer →
      Act.Ensures (fun state _ => state.2 = line ∧ F state.1)
        (Transfer.run p.onLine { stream, programmer := worker.programmer, status := worker.status }
          >>= Transfer.close p.onLine >>= worker.landed p.onLine client stream) Q) :
  Act.Ensures (worker.Poised p F request line) (worker.streamImage p.onLine) Q
  := by
  let capacity := worker.options.firmwareBuffer
  have haside := Act.Aside.of_composed (Client.openStream_composed
    (Transport.unread_onLine (t := p.transport)) worker.client request capacity)
  have hopened := ((worker.client.openStream_accepted request capacity).both
    (Client.openStream_fresh worker.client request capacity)).both ((haside.keeps_line line).both
      (Client.openStream_keeps hkept.onLine worker.client request capacity))
  rw [streamImage_eq worker hrequest]
  apply Act.Ensures.bind
  · apply hopened.imp_left
    rintro _ _ ⟨haccepts, hline, hF⟩
    exact ⟨⟨haccepts, trivial⟩, hline, hF⟩
  rintro ⟨client, opened⟩
  apply Act.Ensures.of_fact
  rintro ⟨⟨stream, rfl⟩, hfresh⟩
  apply hmoved client stream (hfresh stream rfl)

/-- The image is streamed into its slot. -/
theorem streamImage_delivers (hp : p.Take passage boot slot image)
    (h : worker.Awaits request boot slot image line) :
  Act.Ensures (worker.Poised p passage.idle request line) (worker.streamImage p.onLine)
    (fun r _ calls => r.2 = .ok (.installed ⟨slot, image.length, Sha256.hex image⟩)
      ∧ imageIn slot calls = some image)
  := by
  obtain ⟨head, hresponse, hlength⟩ := h.response
  apply streamImage_of hp.idle_kept h.request_eq
  intro client stream hfresh
  let x : Transfer ω := { stream, programmer := worker.programmer, status := worker.status }
  apply (Transfer.run_conveys (x := x) hp h.next_eq rfl rfl h.image_ne hfresh h.readable h.fits
    hresponse hlength).bind
  rintro ⟨session, programmer, status, size⟩
  apply Act.Ensures.of_fact
  rintro (rfl : size = .ok image.length)
  have hsize : image.length ≠ 0 := by simpa using h.image_ne
  apply (Transfer.complete_conveys hp.onLine
    { stream, programmer, status, size := image.length } hsize).bind
  rintro ⟨programmer, result⟩
  exact .pure fun _ _ h => h

/-- A download installs the image. -/
theorem download_delivers (hp : p.Take passage boot slot image)
    (h : worker.Awaits request boot slot image line) :
  Act.Ensures (worker.Poised p passage.idle request line) (worker.download p.onLine)
    (fun r _ calls => r.2 = .installed ⟨slot, image.length, Sha256.hex image⟩
      ∧ imageIn slot calls = some image)
  := by
  unfold download
  apply (streamImage_delivers hp h).bind
  rintro ⟨after, result⟩
  apply Act.Ensures.of_fact
  rintro rfl
  apply Act.Ensures.map
  have hrestarts : p.onLine.Restarts ≤ Assertion.Keepers fun _ calls =>
      imageIn slot calls = some image := by
    rintro α op entry ⟨delay⟩
    apply Act.Ensures.perform
    intro _ _ h
    rw [imageIn_cons_of_isForeign rfl, h]
  apply ((applyInstallation_composed hrestarts after.ended _).keeps le_rfl).imp_right
  exact fun _ _ _ h => ⟨rfl, h⟩

/-- A cycle with a download installs the image, selects its slot, and then restarts the device if
the configuration says so. -/
theorem process_delivers (hp : p.Take passage boot slot image)
    (h : worker.Awaits request boot slot image line) (before : List Call) :
  Act.Ensures (fun state calls =>
      worker.Poised p passage.idle request line state calls ∧ decisive calls = before)
    (worker.process p.onLine .download)
    (fun r _ calls => r.2 = .installed ⟨slot, image.length, Sha256.hex image⟩
      ∧ r.1.status.installed = true ∧ imageIn slot calls = some image
      ∧ decisive calls
        = worker.decisions before (.installed ⟨slot, image.length, Sha256.hex image⟩))
  := by
  apply process_download_of (Q := fun result installed _ calls =>
    result = .installed ⟨slot, image.length, Sha256.hex image⟩
      ∧ installed = true ∧ imageIn slot calls = some image
      ∧ decisive calls
        = worker.decisions before (.installed ⟨slot, image.length, Sha256.hex image⟩))
  apply ((download_delivers hp h).both (download_decides worker before)).imp_right
  rintro ⟨after, result⟩ _ calls ⟨⟨rfl, himage⟩, hinstalled, hdecisive⟩
  exact ⟨rfl, hinstalled.trans (Bool.or_true _), himage, hdecisive⟩

/-- A cycle with a download fails with what its stream ends with, if nothing of a body has been
streamed before. -/
theorem process_fails {fault : Fault}
    (hrequest : Request.get worker.config.serverHost worker.config.firmwarePath = .ok request)
    (hreadable : Readable line) (hlength : WithinLength line.flatten)
    (hunreeled : unreel (.start .streamed worker.options.firmwareBuffer) 0 line
      = ([], .error fault)) :
  Act.Ensures (worker.Poised p (fun _ => True) request line) (worker.process p.onLine .download)
    (fun r _ _ => r.2 = .failed fault)
  := by
  apply process_download_of (Q := fun result _ _ _ => result = .failed fault)
  have hstreamed : Act.Ensures (worker.Poised p (fun _ => True) request line)
      (worker.streamImage p.onLine) (fun r _ _ => r.2 = .error fault) := by
    apply streamImage_of (by constructor <;> intros <;> exact .any) hrequest
    intro client stream hfresh
    let x : Transfer ω := { stream, programmer := worker.programmer, status := worker.status }
    have hland : Act.Ensures (fun _ _ => True) (x.land p.onLine stream.session
          (unreel (.start .streamed worker.options.firmwareBuffer) 0 line))
        (fun r _ _ => r.2.size = .error fault) := by
      rw [hunreeled, Transfer.land_nil, Transfer.hangUp]
      exact .map_any fun _ _ _ => rfl
    apply Act.Ensures.bind
    · apply (Transfer.run_lands (x := x) (Q := fun r _ _ => r.2.size = .error fault) hfresh
        hreadable hlength hland).imp_left
      exact fun _ _ h => h
    rintro ⟨session, programmer, status, size⟩
    apply Act.Ensures.of_forall
    rintro _ _ rfl
    exact .pure fun _ _ _ => rfl
  unfold download
  apply hstreamed.bind
  rintro ⟨after, result⟩
  apply Act.Ensures.of_forall
  rintro _ _ rfl
  exact .map_any fun _ _ _ => rfl

end Worker

end FirmwareUpdate
