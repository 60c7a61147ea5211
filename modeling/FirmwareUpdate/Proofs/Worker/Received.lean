import FirmwareUpdate.Proofs.Bench.Download
import FirmwareUpdate.Proofs.Http.Streaming
import FirmwareUpdate.Proofs.Slot.Intake

/-!
# What a download makes of a response

A download stores everything that its stream hands out. So what it comes to can be told from the
bytes that have arrived: bytes beyond the declared length are installed with the image if they
come with the last of it, and an image that is declared to be empty is one only if nothing comes
with its head.
-/

namespace FirmwareUpdate

variable {σ ω : Type} {I : Assertion σ} {p : Platform σ ω}

/-- The operations on slots read nothing of a response. -/
theorem Slots.keeps_reads (s : Slots σ ω) (F : List Bytes → Prop) :
  s.Keeps fun _ calls => F (reads calls)
  := by
  constructor
  all_goals
    intros
    apply Act.Ensures.perform
    intro _ _ h
    apply h

/-! ### Storing what is handed out -/

namespace Transfer

variable {data : Bytes} {capacity : Nat} {answers : List Client.Answer} {chunks : List Bytes}

/-- A transfer has counted and stored `data`. -/
structure Carries (x : Transfer ω) (data : Bytes) : Prop where
  size_eq : x.size = data.length
  holds : x.isStarted = true → x.programmer.Holds data
  data_eq : x.isStarted = false → data = []

/-- Starting to write stores nothing yet. -/
theorem begin_carries (hs : p.slots.Keeps I) (x : Transfer ω) (h : x.Carries data) :
  Act.Ensures I (x.begin p)
    (fun r state calls => (r.1.stream = x.stream
        ∧ (r.2 = .ok () → r.1.Carries data ∧ r.1.isStarted = true))
      ∧ I state calls)
  := by
  unfold begin
  split
  case isTrue hstarted => exact .pure fun _ _ hi => ⟨⟨rfl, fun _ => ⟨h, hstarted⟩⟩, hi⟩
  case isFalse hunstarted =>
  have hdata : data = [] := h.data_eq (by simpa using hunstarted)
  extract_lets _ _ jp
  have hjp : ∀ r, Act.Ensures I (jp r)
      (fun r state calls => (r.1.stream = x.stream
        ∧ (r.2 = .ok () → r.1.Carries data ∧ r.1.isStarted = true))
      ∧ I state calls) := by
    rintro ⟨programmer, fault | _⟩
    · exact .pure fun _ _ hi => ⟨⟨rfl, by rintro ⟨⟩⟩, hi⟩
    · apply (Programmer.begin_holds hs programmer).bind
      rintro ⟨programmer, fault | _⟩
      · exact .pure fun _ _ hi => ⟨⟨rfl, by rintro ⟨⟩⟩, hi.2⟩
      · apply Act.Ensures.pure
        intro _ _ hscene
        obtain ⟨hbegun, hi⟩ := hscene
        refine ⟨⟨rfl, fun _ => ⟨⟨h.size_eq, fun _ => ?_, ?_⟩, rfl⟩⟩, hi⟩
        · rw [hdata]
          apply hbegun rfl
        · rintro ⟨⟩
  clear_value jp
  split
  · apply Act.Ensures.bind_report
    apply (Programmer.abort_keeps hs x.programmer).bind
    intro r
    apply (hjp r).imp_left
    exact fun _ _ h => h.2
  · simp only [pure_bind]
    apply hjp

/-- What is stored is counted. -/
theorem store_carries (hs : p.slots.Keeps I) (x : Transfer ω) (bytes : Bytes)
    (h : x.Carries data) :
  Act.Ensures I (x.store p bytes)
    (fun r state calls => (r.1.stream = x.stream ∧ (r.2 = .ok () → r.1.Carries (data ++ bytes)))
      ∧ I state calls)
  := by
  unfold store
  apply (begin_carries hs x h).bind
  rintro ⟨x, fault | _⟩
  · exact .pure fun _ _ ⟨⟨hstream, _⟩, hi⟩ => ⟨⟨hstream, by rintro ⟨⟩⟩, hi⟩
  apply Act.Ensures.of_fact
  rintro ⟨hstream, hbegun⟩
  obtain ⟨hcarries, hstarted⟩ := hbegun rfl
  apply (Programmer.write_holds hs (hcarries.holds hstarted) bytes).bind
  rintro ⟨programmer, fault | _⟩
  · apply Act.Ensures.of_fact
    intro _
    apply Act.Ensures.bind_report
    apply (Programmer.abort_keeps hs programmer).bind
    rintro ⟨programmer, later | _⟩
    · exact .pure fun _ _ hi => ⟨⟨hstream, by rintro ⟨⟩⟩, hi.2⟩
    · exact .pure fun _ _ hi => ⟨⟨hstream, by rintro ⟨⟩⟩, hi.2⟩
  · apply Act.Ensures.pure
    intro _ _ hscene
    obtain ⟨hwritten, hi⟩ := hscene
    refine ⟨⟨hstream, fun _ => ⟨?_, fun _ => hwritten rfl, ?_⟩⟩, hi⟩
    · have hsize : x.size = data.length := hcarries.size_eq
      rw [List.length_append, ← hsize]
    · intro hunstarted
      rw [show x.isStarted = false from hunstarted] at hstarted
      cases hstarted

/-- What moving fragments has come to: all that was handed out has been stored, or reading has
failed, or it could not be stored although there was something. -/
def Pumped (capacity : Nat) (chunks : List Bytes) (r : Transfer ω × Outcome) : Prop :=
  ∃ answers, r.1.stream.Rests capacity answers chunks ∧
    match r.2 with
    | .ok () => Client.refused answers = false ∧ r.1.Carries (Client.handed answers)
    | .error _ => (∃ fault, .error fault ∈ answers) ∨ Client.handed answers ≠ []

/-- Moving fragments stores what the stream hands out. -/
theorem pump_carries (count : Nat) (x : Transfer ω) (hunrefused : Client.refused answers = false)
    (h : x.Carries (Client.handed answers)) :
  Act.Ensures (fun _ calls => x.stream.Rests capacity answers (reads calls)) (pump p count x)
    (fun r _ calls => Pumped capacity (reads calls) r)
  := by
  induction count generalizing x answers with
  | zero =>
      rw [pump]
      exact .pure fun _ _ hrests => ⟨answers, hrests, hunrefused, h⟩
  | succ count ih =>
      have hended : ∀ {answer : Client.Answer} {stream : Client.Stream} {chunks : List Bytes},
          Client.given answer = [] → Client.isRefusal answer = false →
          stream.Rests capacity (answers ++ [answer]) chunks →
          Pumped capacity chunks ({ x with stream }, .ok ()) := by
        intro answer stream chunks hgiven hrefusal hrests
        refine ⟨_, hrests, ?_, ?_⟩
        · rw [Client.refused_snoc, hunrefused, hrefusal]
          rfl
        · rw [Client.handed_snoc, hgiven, List.append_nil]
          exact ⟨h.size_eq, h.holds, h.data_eq⟩
      rw [pump]
      apply (Client.Stream.next_rests x.stream).bind
      rintro ⟨stream, fault | _ | bytes | _⟩
      · exact .pure fun _ _ hrests => ⟨_, hrests, Or.inl ⟨fault, by simp⟩⟩
      · exact .pure fun _ _ hrests => hended rfl rfl hrests
      · have hhanded : Client.handed (answers ++ [.ok (some (.data bytes))])
            = Client.handed answers ++ bytes := Client.handed_snoc _ _
        have hmore : Client.refused (answers ++ [.ok (some (.data bytes))]) = false := by
          rw [Client.refused_snoc, hunrefused]
          rfl
        apply (store_carries (p.slots.keeps_reads _) { x with stream } bytes
          ⟨h.size_eq, h.holds, h.data_eq⟩).bind
        rintro ⟨after, fault | _⟩
        · apply Act.Ensures.pure
          intro _ calls hscene
          obtain ⟨⟨hstream, -⟩, hrests⟩ := hscene
          refine ⟨answers ++ [.ok (some (.data bytes))], ?_, ?_⟩
          · rw [hstream]
            apply hrests
          · right
            rw [hhanded]
            intro hempty
            apply hrests.data_ne
            rw [(List.append_eq_nil_iff.mp hempty).2]
            simp
        · apply Act.Ensures.of_fact
          rintro ⟨hstream, hstored⟩
          specialize hstored rfl
          rw [← hhanded] at hstored
          apply (ih after hmore hstored).imp_left
          intro _ _ hrests
          rw [hstream]
          apply hrests
      · exact .pure fun _ _ hrests => hended rfl rfl hrests

/-- What completing a transfer comes to: an empty image if nothing has been stored, and
otherwise an installation that tells the size and the digest of all that has, or a failure. -/
def Accounted (data : Bytes) (result : Except Fault CycleResult) : Prop :=
  (data = [] → result = .ok .emptyImage)
    ∧ (data ≠ [] → result ≠ .ok .emptyImage
        ∧ ∀ done, result = .ok (.installed done) →
            done.size = data.length ∧ done.digest = Sha256.hex data)

theorem complete_carries (hs : p.slots.Keeps I) (x : Transfer ω) {data : Bytes}
    (h : x.Carries data) :
  Act.Ensures I (x.complete p) (fun r state calls => Accounted data r.2 ∧ I state calls)
  := by
  unfold complete
  apply Act.Ensures.bind_report
  split
  case isTrue hzero =>
    have hdata : data = [] := by
      rw [h.size_eq] at hzero
      apply List.length_eq_zero_iff.mp hzero
    have hempty : Accounted data (.ok .emptyImage) :=
      ⟨fun _ => rfl, fun hne => absurd hdata hne⟩
    apply Act.Ensures.bind_report
    split
    case isTrue hopen =>
      apply (Programmer.abort_keeps hs x.programmer).bind
      rintro ⟨programmer, fault | _⟩
      · apply Act.Ensures.of_fact
        intro hok
        cases hok hopen
      · exact .pure fun _ _ hi => ⟨hempty, hi.2⟩
    case isFalse => exact .pure fun _ _ hi => ⟨hempty, hi⟩
  case isFalse hne =>
    have hdata : data ≠ [] := by
      rintro rfl
      apply hne h.size_eq
    have hstarted : x.isStarted = true := by
      cases hcase : x.isStarted with
      | false => apply absurd (h.data_eq hcase) hdata
      | true => rfl
    apply (Programmer.commit_holds hs (h.holds hstarted)).bind
    rintro ⟨programmer, fault | done⟩
    · apply Act.Ensures.pure
      intro _ _ hscene
      obtain ⟨-, hi⟩ := hscene
      refine ⟨⟨fun hempty => absurd hempty hdata, fun _ => ⟨?_, ?_⟩⟩, hi⟩
      · rintro ⟨⟩
      · rintro _ ⟨⟩
    · apply Act.Ensures.pure
      intro _ _ hscene
      obtain ⟨hdone, hi⟩ := hscene
      refine ⟨⟨fun hempty => absurd hempty hdata, fun _ => ⟨?_, ?_⟩⟩, hi⟩
      · rintro ⟨⟩
      · rintro _ ⟨rfl⟩
        apply hdone done rfl

end Transfer

/-! ### Results and responses -/

/-- What a result says of the bytes that have arrived, where the buffer has the given capacity.
If a response has arrived that declares no body, the result is an empty image exactly if nothing
follows the head and everything has fitted; and an installation tells the size and the digest of
all that follows the head. -/
def CycleResult.Reflects (result : CycleResult) (capacity : Nat) (bytes : Bytes) : Prop :=
  ∀ head body, response? bytes = some (head, body) →
    (head.contentLength = 0 →
        (result = .emptyImage ↔ body = [] ∧ bytes.length ≤ capacity))
      ∧ ∀ done, result = .installed done →
          done.size = body.length ∧ done.digest = Sha256.hex body

namespace Worker

variable {capacity : Nat} {answers : List Client.Answer} {chunks : List Bytes}
  {stream : Client.Stream}

/-- The result of a download that fails is the fault. -/
def resultOf : Except Fault CycleResult → CycleResult
  | .error fault => .failed fault
  | .ok result => result

/-- Without a response there is nothing to reflect. -/
theorem reflects_of_nothing (result : CycleResult) :
  result.Reflects capacity (arrived [])
  := by
  rintro head body ⟨⟩

/-- What has been handed out of a response is the start of its body. -/
theorem handed_start (h : stream.Tracks capacity answers chunks) {head : Head} {body : Bytes}
    (hresponse : response? (arrived chunks) = some (head, body)) :
  Client.handed answers <+: body
  := by
  cases hhead : stream.reception.head with
  | none =>
      rw [h.follows.body_eq hhead]
      apply List.nil_prefix
  | some other =>
      have htaken := h.follows.response_eq
      rw [hhead, Option.map_some] at htaken
      obtain ⟨more, hmore⟩ := Client.taken_start answers chunks
      have harrived := response?_append htaken more
      rw [hmore, hresponse] at harrived
      obtain ⟨-, rfl⟩ := Prod.mk.inj (Option.some.inj harrived)
      apply List.prefix_append

/-- If nothing has been refused, all of the body has been handed out. -/
theorem handed_eq (h : stream.Tracks capacity answers chunks)
    (hunrefused : Client.refused answers = false) {head : Head} {body : Bytes}
    (hresponse : response? (arrived chunks) = some (head, body)) :
  stream.reception.head = some head ∧ Client.handed answers = body
  := by
  have htaken := h.follows.response_eq
  rw [Client.taken_of_unrefused hunrefused, hresponse] at htaken
  obtain ⟨other, hhead, heq⟩ := Option.map_eq_some_iff.mp htaken.symm
  obtain ⟨rfl, rfl⟩ := Prod.mk.inj heq
  use hhead

/-- A stream that fails after it has handed out nothing has not received a response that declares
no body, or could not take it in. -/
theorem reflects_of_failed (h : stream.Tracks capacity answers chunks) (fault : Fault)
    (hfailed : (∃ fault, .error fault ∈ answers) ∨ Client.handed answers ≠ []) :
  (CycleResult.failed fault).Reflects capacity (arrived chunks)
  := by
  intro head body hresponse
  constructor
  · intro hzero
    constructor
    · rintro ⟨⟩
    · rintro ⟨rfl, hfits⟩
      have hhanded := List.prefix_nil.mp (handed_start h hresponse)
      rcases hfailed with ⟨fault, hfault⟩ | hne
      · cases hrefused : Client.refused answers with
        | true => apply absurd hfits (Nat.not_le_of_lt (h.refused_long hrefused))
        | false =>
            obtain ⟨hhead, -⟩ := handed_eq h hrefused hresponse
            have hincomplete := h.failed_incomplete fault hfault hrefused
            have hcomplete := (Client.Stream.bodyComplete_iff hhead).mpr (by simp [hzero])
            rw [hincomplete] at hcomplete
            cases hcomplete
      · apply absurd hhanded hne
  · rintro _ ⟨⟩

/-- Completing a transfer of all that was handed out reflects the response. -/
theorem reflects_of_accounted (h : stream.Tracks capacity answers chunks)
    (hunrefused : Client.refused answers = false) {result : Except Fault CycleResult}
    (hresult : Transfer.Accounted (Client.handed answers) result) :
  (resultOf result).Reflects capacity (arrived chunks)
  := by
  intro head body hresponse
  obtain ⟨-, rfl⟩ := handed_eq h hunrefused hresponse
  obtain ⟨hempty, hne⟩ := hresult
  by_cases hdata : Client.handed answers = []
  · obtain rfl := hempty hdata
    have hfits := h.follows.fits hdata
    rw [Client.taken_of_unrefused hunrefused, h.capacity_eq] at hfits
    constructor
    · intro _
      constructor
      · intro _
        use hdata
      · intro _
        rfl
    · rintro _ ⟨⟩
  · obtain ⟨hresult, hdone⟩ := hne hdata
    rcases result with fault | result
    · constructor
      · intro _
        constructor
        · rintro ⟨⟩
        · rintro ⟨hdata', -⟩
          apply absurd hdata' hdata
      · rintro _ ⟨⟩
    · constructor
      · intro _
        constructor
        · rintro (rfl : result = .emptyImage)
          apply absurd rfl hresult
        · rintro ⟨hdata', -⟩
          apply absurd hdata' hdata
      · rintro done (rfl : result = .installed done)
        apply hdone done rfl

/-- Streaming an image reflects the response. -/
theorem streamImage_reflects (p : Platform σ ω) (worker : Worker ω) :
  Act.Ensures (fun _ calls => reads calls = []) (worker.streamImage p)
    (fun r _ calls =>
      (resultOf r.2).Reflects worker.options.firmwareBuffer (arrived (reads calls)))
  := by
  unfold streamImage
  split
  · apply Act.Ensures.pure
    intro _ _ hreads
    rw [hreads]
    apply reflects_of_nothing
  apply (Client.openStream_rests worker.client _ worker.options.firmwareBuffer).bind
  rintro ⟨client, fault | stream⟩
  · apply Act.Ensures.pure
    intro _ _ h
    obtain ⟨hreads, -⟩ := h
    rw [hreads]
    apply reflects_of_nothing
  have hcarries : Transfer.Carries
      { stream, programmer := worker.programmer, status := worker.status : Transfer ω }
      (Client.handed []) := by
    refine ⟨rfl, ?_, fun _ => rfl⟩
    rintro ⟨⟩
  apply Act.Ensures.bind
  · apply (Transfer.pump_carries UInt64.size _ rfl hcarries).imp_left
    intro _ _ h
    obtain ⟨-, hrests⟩ := h
    apply hrests stream rfl
  rintro ⟨x, outcome⟩
  apply Act.Ensures.bind (Client.Stream.close_keeps (p.transport.keepsUnread_reads fun chunks =>
    Transfer.Pumped worker.options.firmwareBuffer chunks (x, outcome)) x.stream)
  intro session
  rcases outcome with fault | _
  · apply Act.Ensures.pure
    intro _ _ h
    obtain ⟨answers, hrests, hfailed⟩ := h
    apply reflects_of_failed hrests.toTracks fault hfailed
  · apply Act.Ensures.of_forall
    intro state calls h
    obtain ⟨answers, hrests, hunrefused, hcarries⟩ := h
    apply Act.Ensures.bind
    · apply (Transfer.complete_carries (p.slots.keeps_reads (· = reads calls)) x hcarries).imp_left
      rintro _ _ ⟨-, rfl⟩
      rfl
    rintro ⟨programmer, result⟩
    apply Act.Ensures.pure
    intro _ _ h
    obtain ⟨haccounted, hreads⟩ := h
    rw [hreads]
    apply reflects_of_accounted hrests.toTracks hunrefused haccounted

/-- A download reflects the response. -/
theorem download_reflects (p : Platform σ ω) (worker : Worker ω) :
  Act.Ensures (fun _ calls => reads calls = []) (worker.download p)
    (fun r _ calls => r.2.Reflects worker.options.firmwareBuffer (arrived (reads calls)))
  := by
  unfold download
  apply (streamImage_reflects p worker).bind
  rintro ⟨after, fault | result⟩
  · apply Act.Ensures.map
    unfold giveUp
    split
    · apply Act.Ensures.map
      apply (Programmer.abort_keeps (p.slots.keeps_reads fun chunks =>
        (CycleResult.failed fault).Reflects worker.options.firmwareBuffer (arrived chunks))
        after.ended.programmer).imp_right
      exact fun _ _ _ h => h.2
    · exact .pure fun _ _ h => h
  · cases result with
    | installed done =>
        apply Act.Ensures.map
        unfold applyInstallation
        apply Act.Ensures.bind_report
        dsimp only
        split
        · apply Act.Ensures.bind_report
          apply Act.Ensures.bind_perform fun _ _ calls =>
            (CycleResult.installed done).Reflects worker.options.firmwareBuffer
              (arrived (reads calls))
          · exact fun _ _ h => h
          · intro _
            exact .pure fun _ _ h => h
        · exact .pure fun _ _ h => h
    | _ => exact .pure fun _ _ h => h

/-- A cycle in which an image is downloaded reflects the response. -/
theorem process_download_reflects (p : Platform σ ω) (worker : Worker ω) :
  Act.Ensures (fun _ calls => reads calls = []) (worker.process p .download)
    (fun r _ calls => r.2.Reflects worker.options.firmwareBuffer (arrived (reads calls)))
  := by
  unfold process act
  apply Act.Ensures.bind
  · apply Act.Ensures.bind_report
    apply download_reflects p worker
  rintro ⟨after, result⟩
  unfold rearm
  simp only [pure_bind]
  apply Act.Ensures.bind_reportAll
  exact .pure fun _ _ h => h

end Worker

/-! ### Declared and received lengths -/

/-- For every connection and every number of calls of `next`, and for every download, where the
records are those of the calls made since they began:
* what a stream has handed out is as the head declares exactly if no more than the declared
  number of bytes follows the head in the chunks that it has taken in;
* a download of an image that is declared to be empty comes to an empty image exactly if nothing
  follows the head and everything fits into the buffer;
* an installation tells the size and the digest of everything that follows the head. -/
theorem received_as_declared_iff {t : Transport σ} {site opening : Site σ} {client after : Client}
    {request : Request} {capacity count : Nat} {stream rest : Client.Stream}
    {opened last final : Scene σ} {answers : List Client.Answer} {worker ended : Worker ω}
    {result : CycleResult}
    (hopened : client.openStream t request capacity { toSite := opening }
      = ((after, .ok stream), opened))
    (hnexts : Client.Stream.nexts t count stream opened = ((rest, answers), last))
    (hprocess : worker.process p .download { toSite := site } = ((ended, result), final)) :
  (Client.AsDeclared answers (arrived (reads last.calls))
      ↔ ∀ head body, response? (Client.taken answers (reads last.calls)) = some (head, body) →
          body.length ≤ head.contentLength.toNat)
    ∧ ∀ head body, response? (arrived (reads final.calls)) = some (head, body) →
        (head.contentLength = 0 →
            (result = .emptyImage
              ↔ body = []
                ∧ (arrived (reads final.calls)).length ≤ worker.options.firmwareBuffer))
          ∧ ∀ done, result = .installed done →
              done.size = body.length ∧ done.digest = Sha256.hex body
  := by
  constructor
  · obtain ⟨-, hrests⟩ :=
      (Client.openStream_rests client request capacity).run { toSite := opening } rfl
    rw [hopened] at hrests
    have hlast := (Client.Stream.nexts_rests (t := t) count stream).run opened (hrests stream rfl)
    rw [hnexts] at hlast
    apply hlast.toTracks.asDeclared_iff
  · have hreflects := (Worker.process_download_reflects p worker).run { toSite := site } rfl
    rw [hprocess] at hreflects
    apply hreflects

/-- On a sample rig a stream is opened and asked twice, and an image is downloaded. -/
theorem received_as_declared_iff_sample :
  ∃ (after : Client) (stream rest : Client.Stream) (opened last final : Scene Bench.Rig)
      (answers : List Client.Answer) (ended : Worker String),
    Bench.Rig.sampleWorker.client.openStream Bench.Rig.transport
        ⟨"h", "/f", by decide, by decide⟩ 4096
        { state := Bench.Rig.sampleRig "factory" [Bench.okResponse [65]] }
      = ((after, .ok stream), opened)
    ∧ Client.Stream.nexts Bench.Rig.transport 2 stream opened = ((rest, answers), last)
    ∧ Bench.Rig.sampleWorker.process Bench.Rig.platform .download
        { state := Bench.Rig.sampleRig "factory" [Bench.okResponse [65]] }
      = ((ended, .installed ⟨"ota_0", 1, Sha256.hex [65]⟩), final)
    ∧ (Client.AsDeclared answers (arrived (reads last.calls))
      ↔ ∀ head body, response? (Client.taken answers (reads last.calls)) = some (head, body) →
          body.length ≤ head.contentLength.toNat)
    ∧ ∀ head body, response? (arrived (reads final.calls)) = some (head, body) →
        body.length = 1
  := by
  have hgoing := Bench.Rig.sample_going "factory" [Bench.okResponse [65]]
  have hne := Request.bytes_ne ⟨"h", "/f", by decide, by decide⟩
  obtain ⟨⟨session, -, hstream⟩, -⟩ := (Bench.Rig.opened_going Bench.Rig.lasting_noRestart rfl rfl
    Bench.Rig.sample_poised.ready _ hne 4096).run
      { state := Bench.Rig.sampleRig "factory" [Bench.okResponse [65]] } hgoing
  have hnext : SlotRing.twoSlots.next "factory" = .ok "ota_0" := rfl
  obtain ⟨⟨hresult, -⟩, -⟩ := (Bench.Rig.downloaded_going Bench.Rig.lasting_noRestart hnext
    (by decide) Bench.Rig.sample_poised Bench.Rig.sample_oneRead).run
      { state := Bench.Rig.sampleRig "factory" [Bench.okResponse [65]] } hgoing
  rcases hopened : Bench.Rig.sampleWorker.client.openStream Bench.Rig.transport
      ⟨"h", "/f", by decide, by decide⟩ 4096
      { state := Bench.Rig.sampleRig "factory" [Bench.okResponse [65]] }
    with ⟨⟨after, outcome⟩, opened⟩
  rw [hopened] at hstream
  obtain ⟨stream, rfl⟩ : ∃ stream, outcome = .ok stream := ⟨_, (Prod.mk.inj hstream).2⟩
  rcases hnexts : Client.Stream.nexts Bench.Rig.transport 2 stream opened
    with ⟨⟨rest, answers⟩, last⟩
  rcases hprocess : Bench.Rig.sampleWorker.process Bench.Rig.platform .download
      { state := Bench.Rig.sampleRig "factory" [Bench.okResponse [65]] } with ⟨⟨ended, _⟩, final⟩
  rw [hprocess] at hresult
  obtain rfl := hresult
  obtain ⟨hdeclared, hreceived⟩ :=
    received_as_declared_iff hopened hnexts hprocess
  refine ⟨after, stream, rest, opened, last, final, answers, ended, rfl, hnexts, rfl, hdeclared,
    ?_⟩
  intro head body hresponse
  apply ((hreceived head body hresponse).2 _ rfl).1.symm

/-- A response that declares no body and has one of one byte. -/
def excessResponse : Bytes :=
  utf8 "HTTP/1.1 200 OK\r\nContent-Length: 0\r\n\r\nX"

/-- The byte that follows the head is installed. -/
theorem excess_installed :
  response? excessResponse = some (⟨1, 1, 200, 0⟩, [88])
    ∧ (Bench.Rig.sampleWorker.process Bench.Rig.platform .download
        { state := Bench.Rig.sampleRig "factory" [excessResponse] }).1.2
      = .installed ⟨"ota_0", 1, Sha256.hex [88]⟩
  := by
  have hresponse : response? excessResponse = some (⟨1, 1, 200, 0⟩, [88]) := by
    decide +kernel
  have honeRead : Bench.Rig.OneRead 4096 excessResponse [88] := by
    apply Bench.Rig.OneRead.of_response _ _ hresponse
    all_goals decide +kernel
  have hnext : SlotRing.twoSlots.next "factory" = .ok "ota_0" := rfl
  obtain ⟨⟨hresult, -⟩, -⟩ := (Bench.Rig.downloaded_going Bench.Rig.lasting_noRestart hnext
    (by decide) Bench.Rig.sample_poised honeRead).run
      { state := Bench.Rig.sampleRig "factory" [excessResponse] }
      (Bench.Rig.sample_going "factory" [excessResponse])
  use hresponse, hresult

end FirmwareUpdate
