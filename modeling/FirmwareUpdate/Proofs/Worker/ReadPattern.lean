import FirmwareUpdate.Proofs.Bench.Obliging

/-!
# Reads do not show

Two lines with the same bytes, cut differently: whatever a worker makes of a cycle on one of them,
it makes of it on the other, as long as no chunk is refused for its length. The state of the
platform and the calls made of it, apart from the reads, are the same as well.
-/

namespace FirmwareUpdate

variable {σ ω α β : Type}

/-- Alike scenes with the same bytes on their lines, each in chunks of its own. -/
structure Recut (s s' : Scene (σ × List Bytes)) : Prop where
  alike : Alike s s'
  readable : Readable s.state.2
  readable' : Readable s'.state.2
  flatten_eq : s.state.2.flatten = s'.state.2.flatten

/-- The act does the same however the bytes on the line are cut, if they are as `P` says and
neither answer is as `refused` says. -/
structure Act.ReadsAlike (P : Bytes → Prop) (refused : α → Prop) (act : Act (σ × List Bytes) α) :
    Prop where
  run : ∀ {s s' : Scene (σ × List Bytes)}, Recut s s' → P s.state.2.flatten →
    ¬ refused (act s).1 → ¬ refused (act s').1 → Coincide (act s) (act s')

/-- What is aside from the lines leaves them as they are. -/
theorem Act.Aside.recut {act : Act (σ × List Bytes) α} (h : act.Aside)
    {s s' : Scene (σ × List Bytes)} (hrecut : Recut s s') :
  Recut (act s).2 (act s').2
  := by
  refine ⟨(h.coincide hrecut.alike).alike, ?_, ?_, ?_⟩
  · rw [h.line_eq]
    apply hrecut.readable
  · rw [h.line_eq]
    apply hrecut.readable'
  · rw [h.line_eq, h.line_eq]
    apply hrecut.flatten_eq

namespace Act.ReadsAlike

variable {P : Bytes → Prop} {refused : α → Prop}

theorem of_aside {act : Act (σ × List Bytes) α} (h : act.Aside) :
  act.ReadsAlike P refused
  := ⟨fun hrecut _ _ _ => h.coincide hrecut.alike⟩

/-- What comes before the reads may be used. -/
theorem bind_left {act : Act (σ × List Bytes) β} {next : β → Act (σ × List Bytes) α}
    {Q : β → Prop} (hact : act.Aside)
    (hQ : act.Ensures (fun _ _ => True) fun b _ _ => Q b)
    (hnext : ∀ b, Q b → (next b).ReadsAlike P refused) :
  (act >>= next).ReadsAlike P refused
  := by
  constructor
  intro s s' hrecut hP hrefused hrefused'
  have hanswer := (hact.coincide hrecut.alike).answer_eq
  change ¬ refused (next (act s').1 (act s').2).1 at hrefused'
  change Coincide (next (act s).1 (act s).2) (next (act s').1 (act s').2)
  rw [← hanswer] at hrefused' ⊢
  apply (hnext _ (hQ.run s trivial)).run (hact.recut hrecut) _ hrefused hrefused'
  rw [hact.line_eq]
  apply hP

/-- What comes after the reads depends on their answer alone. -/
theorem bind_right {act : Act (σ × List Bytes) β} {next : β → Act (σ × List Bytes) α}
    {refused' : β → Prop} (hact : act.ReadsAlike P refused') (hnext : ∀ b, (next b).Aside)
    (hrefused : ∀ b s, refused' b → refused (next b s).1) :
  (act >>= next).ReadsAlike P refused
  := by
  constructor
  intro s s' hrecut hP hleft hright
  refine (hact.run hrecut hP ?_ ?_).bind hnext
  · intro h
    apply hleft (hrefused _ _ h)
  · intro h
    apply hright (hrefused _ _ h)

/-- Less may be known of the bytes. -/
theorem imp {P' : Bytes → Prop} {act : Act (σ × List Bytes) α} (h : act.ReadsAlike P refused)
    (hP : ∀ bytes, P' bytes → P bytes) :
  act.ReadsAlike P' refused
  := ⟨fun hrecut hbytes => h.run hrecut (hP _ hbytes)⟩

theorem bind_report {origin text : String} {severity : Severity}
    {next : Unit → Act (σ × List Bytes) α} (h : (next ()).ReadsAlike P refused) :
  (report origin severity text >>= next).ReadsAlike P refused
  := bind_left (Q := fun _ => True) (.of_composed (.reportAll _)) .any fun _ _ => h

end Act.ReadsAlike

/-! ### Checks -/

namespace Client

variable {t : Transport σ} {P : Bytes → Prop}

/-- What is collected does not depend on the reads. -/
theorem collect_readsAlike {session : Session} (hconnected : session.isConnected = true)
    (capacity : Nat) :
  (collect t.onLine session (.start .whole capacity) 0).ReadsAlike P fun r => Refused r.2
  := by
  constructor
  rintro s s' ⟨halike, hreadable, hreadable', hbytes⟩ _ hrefused hrefused'
  obtain ⟨pin, hstage⟩ := Session.isConnected_iff.mp hconnected
  have hcollected := collect_onLine (t := t) hstage (.start .whole capacity) 0 rfl hreadable halike
  have hcollected' :=
    collect_onLine (t := t) hstage (.start .whole capacity) 0 rfl hreadable' (.refl s')
  rw [hcollected.answer_eq] at hrefused
  rw [hcollected'.answer_eq] at hrefused'
  have hstart := Reception.parsed_start .whole capacity
  rw [gather_eq rfl hstart (fun _ => rfl) unconcluded_nil hrefused, hbytes] at hcollected
  rw [gather_eq rfl hstart (fun _ => rfl) unconcluded_nil hrefused'] at hcollected'
  apply hcollected.trans hcollected'.symm

theorem fetch_readsAlike (client : Client) (request : Request) (capacity : Nat) :
  (client.fetch t.onLine request capacity).ReadsAlike P fun r => Refused r.2
  := by
  unfold fetch
  apply Act.ReadsAlike.bind_report
  apply Act.ReadsAlike.bind_left (.of_composed (begin_composed Transport.unread_onLine _ request))
    (begin_connected _ request)
  intro begun hconnected
  extract_lets jp
  have haside : ∀ r, (jp r).Aside := by
    rintro ⟨session, body | fault⟩
    · apply Act.Aside.of_composed
      apply Act.Composed.bind_reportAll
      apply Act.Composed.pure
    · apply Act.Aside.of_composed
      apply Act.Composed.bind_report
      apply Act.Composed.pure
  have hjp : ∀ r s, (jp r s).1.2 = r.2 := by
    rintro ⟨session, body | fault⟩ s
    · rfl
    · rfl
  clear_value jp
  split
  · simp only [pure_bind]
    apply Act.ReadsAlike.of_aside (haside _)
  case h_2 session =>
    apply (collect_readsAlike (hconnected.1 rfl) capacity).bind_right haside
    intro r s hrefused
    rw [hjp]
    apply hrefused

end Client

/-- Whether a cycle has failed because a chunk was refused for its length. -/
def CycleResult.IsRefused : CycleResult → Prop
  | .failed fault => fault.IsRefusal
  | _ => False

namespace Worker

variable {p : Platform σ ω} {P : Bytes → Prop}

/-- What a check comes to does not depend on the reads. -/
theorem check_readsAlike (worker : Worker ω) :
  (worker.check p.onLine).ReadsAlike P fun r => r.2.IsRefused
  := by
  unfold check
  split
  · apply Act.ReadsAlike.of_aside (.of_composed (.pure _))
  · apply (Client.fetch_readsAlike worker.client _ _).bind_right
    · rintro ⟨client, fault | body⟩
      · apply Act.Aside.of_composed (.pure _)
      · apply Act.Aside.of_composed (readMetadata_composed Platform.observes_onLine _ body)
    · rintro ⟨client, fault | body⟩ s hrefused
      · exact hrefused
      · exact hrefused.elim

end Worker

/-! ### Downloads -/

namespace Transfer

variable {p : Platform σ ω} {x : Transfer ω}

/-- If less of an image is stored from one stream than from another, and neither ends with a
refusal, then either what follows could not be stored, or nothing follows. -/
theorem land_of_starts (session : Session) (x : Transfer ω) {all : Bytes} {outcome : Outcome}
    {unreeled unreeled' : List Bytes × Outcome} (hne : [] ∉ unreeled.1) (hne' : [] ∉ unreeled'.1)
    (hall : ¬ Refused unreeled.2 → unreeled.1.flatten = all ∧ unreeled.2 = outcome)
    (hall' : ¬ Refused unreeled'.2 → unreeled'.1.flatten = all ∧ unreeled'.2 = outcome)
    (hless : unreeled.1.flatten <+: unreeled'.1.flatten) (hstarts : unreeled'.1.flatten <+: all)
    {s : Scene σ} (hrefused : ¬ Refused (x.land p session unreeled s).1.2.size)
    (hrefused' : ¬ Refused (x.land p session unreeled' s).1.2.size) :
  x.land p session unreeled s = x.land p session unreeled' s
  := by
  rw [land_eq session x hne] at hrefused ⊢
  rw [land_eq session x hne'] at hrefused' ⊢
  cases hstored : x.storeBody p unreeled.1.flatten s with
  | mk r after =>
  obtain ⟨x', stored⟩ := r
  have hlanding : (landing <$> x.storeBody p unreeled.1.flatten) s
      = (landing (x', stored), after) := Act.map_eq hstored
  rw [Act.bind_eq hlanding] at hrefused ⊢
  cases stored with
  | error fault =>
      obtain ⟨more, hmore⟩ := hless
      have hlanding' : (landing <$> x.storeBody p unreeled'.1.flatten) s
          = (landing (x', .error fault), after) := by
        rw [← hmore, storeBody_append, map_bind, Act.bind_eq hstored]
        rfl
      rw [Act.bind_eq hlanding']
      rfl
  | ok _ =>
      have hunrefused : ∀ {o : Outcome}, ¬ Refused (o.map fun _ => x'.size) → ¬ Refused o := by
        rintro (fault | _) h
        · exact h
        · exact h
      obtain ⟨hflatten, houtcome⟩ := hall (hunrefused hrefused)
      have hsame : unreeled'.1.flatten = unreeled.1.flatten := by
        apply hless.eq_of_length_le _ |>.symm
        rw [hflatten]
        apply hstarts.length_le
      rw [hsame, Act.bind_eq hlanding] at hrefused' ⊢
      obtain ⟨-, houtcome'⟩ := hall' (hunrefused hrefused')
      rw [houtcome, houtcome']

/-- What is landed does not depend on the reads. -/
theorem land_reads (session : Session) (x : Transfer ω) {r : Reception}
    (hstreamed : r.delivery = .streamed) (hparsed : r.Parsed []) {line line' : List Bytes}
    (hbytes : line.flatten = line'.flatten) (hlength : WithinLength line.flatten) {s : Scene σ}
    (hrefused : ¬ Refused (x.land p session (unreel r 0 line) s).1.2.size)
    (hrefused' : ¬ Refused (x.land p session (unreel r 0 line') s).1.2.size) :
  x.land p session (unreel r 0 line) s = x.land p session (unreel r 0 line') s
  := by
  have hparts : ∀ line, (unreel r 0 line).1.flatten <+: bodyOf line.flatten
      ∧ [] ∉ (unreel r 0 line).1 :=
    fun line => unreel_starts hstreamed hparsed fun _ => rfl
  have hwhole : ∀ line, WithinLength line.flatten → ¬ Refused (unreel r 0 line).2 →
      (unreel r 0 line).1.flatten = bodyOf line.flatten
        ∧ (unreel r 0 line).2 = (conclude line.flatten).map fun _ => () :=
    fun line => unreel_eq hstreamed hparsed (fun _ => rfl) unconcluded_nil
  obtain ⟨hstarts, hne⟩ := hparts line
  obtain ⟨hstarts', hne'⟩ := hparts line'
  have hall := hwhole line hlength
  have hall' := hwhole line' (hbytes ▸ hlength)
  rw [← hbytes] at hstarts' hall'
  rcases List.prefix_or_prefix_of_prefix hstarts hstarts' with hless | hless
  · exact land_of_starts session x hne hne' hall hall' hless hstarts' hrefused hrefused'
  · exact (land_of_starts session x hne' hne hall' hall hless hstarts hrefused' hrefused).symm

/-- What a transfer comes to does not depend on the reads. -/
theorem run_readsAlike {stream : Client.Stream} {capacity : Nat} (hfresh : stream.Fresh capacity)
    (x : Transfer ω) :
  (run p.onLine { x with stream } >>= close p.onLine).ReadsAlike WithinLength
    fun r => Refused r.2.size
  := by
  constructor
  rintro s s' ⟨halike, hreadable, hreadable', hbytes⟩ hlength hrefused hrefused'
  have hleft := run_onLine (p := p) hfresh x halike hreadable hlength
  have hright := run_onLine (p := p) hfresh x (.refl s') hreadable' (hbytes ▸ hlength)
  rw [hleft.answer_eq] at hrefused
  rw [hright.answer_eq] at hrefused'
  rw [land_reads stream.session x rfl (Reception.parsed_start .streamed capacity) hbytes hlength
    hrefused hrefused'] at hleft
  apply hleft.trans hright.symm

end Transfer

namespace Worker

variable {p : Platform σ ω}

/-- What comes of a streamed image does not depend on the reads. -/
theorem streamImage_readsAlike (worker : Worker ω) :
  (worker.streamImage p.onLine).ReadsAlike WithinLength fun r => Refused r.2
  := by
  cases hrequest : Request.get worker.config.serverHost worker.config.firmwarePath with
  | error fault =>
      rw [streamImage, hrequest]
      apply Act.ReadsAlike.of_aside (.of_composed (.pure _))
  | ok request =>
      rw [streamImage_eq worker hrequest]
      apply Act.ReadsAlike.bind_left
        (.of_composed (Client.openStream_composed Transport.unread_onLine worker.client request _))
        (Client.openStream_fresh worker.client request _)
      rintro ⟨client, fault | stream⟩ hfresh
      · apply Act.ReadsAlike.of_aside (.of_composed (.pure _))
      let x : Transfer ω := { stream, programmer := worker.programmer, status := worker.status }
      apply (x.run_readsAlike (hfresh stream rfl)).bind_right (landed_aside worker client stream)
      rintro ⟨session, programmer, status, fault | size⟩ s hrefused
      · exact hrefused
      · exact hrefused.elim

/-- What a download comes to does not depend on the reads. -/
theorem download_readsAlike (worker : Worker ω) :
  (worker.download p.onLine).ReadsAlike WithinLength fun r => r.2.IsRefused
  := by
  unfold download
  apply (streamImage_readsAlike worker).bind_right
  · rintro ⟨worker, fault | result⟩
    · apply Act.Aside.of_composed
      apply (giveUp_composed (Slots.prepares_le Platform.slots_onLine) worker.ended).map
    · apply Act.Aside.of_composed
      cases result with
      | installed done =>
          apply (applyInstallation_composed Platform.restarts_onLine worker.ended done).map
      | _ => apply Act.Composed.pure
  · rintro ⟨worker, fault | result⟩ s hrefused
    · exact hrefused
    · exact hrefused.elim

/-- What a cycle comes to does not depend on the reads. -/
theorem process_readsAlike (worker : Worker ω) (trigger : Trigger) :
  (worker.process p.onLine trigger).ReadsAlike
    (fun bytes => trigger = .download → WithinLength bytes) fun r => r.2.IsRefused
  := by
  have hact : (worker.act p.onLine trigger).ReadsAlike
      (fun bytes => trigger = .download → WithinLength bytes) fun r => r.2.IsRefused := by
    unfold act
    apply Act.ReadsAlike.bind_report
    cases trigger with
    | check => apply check_readsAlike
    | download => exact (download_readsAlike worker).imp fun _ h => h rfl
  unfold process
  apply hact.bind_right
  · rintro ⟨after, result⟩
    apply Act.Aside.of_composed
    apply (rearm_composed Platform.timer_onLine after trigger).bind
    intro _
    apply Act.Composed.bind_reportAll
    apply Act.Composed.pure
  · rintro ⟨after, result⟩ s hrefused
    exact hrefused

/-- For every platform, worker and trigger, and for every two lines with the same bytes, each cut
into chunks of its own that are read at once, where a response to a download has no more body than
its head declares: unless one of the two cycles fails because a chunk was refused for its length,
both come to the same result and leave the same worker, with its configuration and its triggers,
and the same state of the platform, and apart from reads the same calls have been made of it. -/
theorem process_reads (p : Platform σ ω) (worker : Worker ω) (trigger : Trigger) (state : σ)
    (notes : List Note) (calls : List Call) {line line' : List Bytes} (hreadable : Readable line)
    (hreadable' : Readable line') (hbytes : line.flatten = line'.flatten)
    (hlength : trigger = .download → WithinLength line.flatten)
    {r r' : Worker ω × CycleResult} {last last' : Scene (σ × List Bytes)}
    (hprocess : worker.process p.onLine trigger ⟨⟨(state, line), notes⟩, calls⟩ = (r, last))
    (hprocess' : worker.process p.onLine trigger ⟨⟨(state, line'), notes⟩, calls⟩ = (r', last'))
    (hrefused : ¬ r.2.IsRefused) (hrefused' : ¬ r'.2.IsRefused) :
  r = r' ∧ last.state.1 = last'.state.1 ∧ unread last.calls = unread last'.calls
  := by
  have hrecut : Recut (σ := σ) ⟨⟨(state, line), notes⟩, calls⟩ ⟨⟨(state, line'), notes⟩, calls⟩ :=
    ⟨⟨rfl, rfl⟩, hreadable, hreadable', hbytes⟩
  have hcoincide := (process_readsAlike (p := p) worker trigger).run hrecut hlength
  rw [hprocess, hprocess'] at hcoincide
  obtain ⟨hanswer, hstate, hunread⟩ := hcoincide hrefused hrefused'
  exact ⟨hanswer, hstate, hunread⟩

/-- The sample worker installs the body of the sample response from every line that brings it in
chunks that fit. -/
theorem pair_installed {line : List Bytes} (hreadable : Readable line)
    (hfits : Fits 4096 [] line) (hline : line.flatten = Bench.pairLine.flatten) :
  ∃ ended last, Bench.Rig.sampleWorker.process Bench.obliging.onLine .download
      { state := (⟨"factory", []⟩, line) }
    = ((ended, .installed ⟨"ota_0", 2, Sha256.hex [65, 66]⟩), last)
  := by
  have hawaits : Bench.Rig.sampleWorker.Awaits Bench.imageRequest "factory" "ota_0" [65, 66]
      line :=
    ⟨rfl, rfl, hreadable, hfits, by decide, _, by rw [hline, Bench.pair_response], rfl⟩
  have haccepted := Bench.obliging_accepted line Bench.imageRequest (.inl rfl)
  have hdelivers := (Bench.Rig.sampleWorker.process_delivers
    (Bench.obliging_take "factory" "ota_0" [65, 66]) hawaits []).run
    { state := (⟨"factory", []⟩, line) } ⟨⟨Client.accepts_of haccepted, rfl, rfl⟩, rfl⟩
  rcases hprocess : Bench.Rig.sampleWorker.process Bench.obliging.onLine .download
      { state := (⟨"factory", []⟩, line) } with ⟨⟨ended, result⟩, last⟩
  rw [hprocess] at hdelivers
  obtain ⟨rfl, -⟩ := hdelivers
  exact ⟨ended, last, rfl⟩

/-- A response that is cut in three comes to the same as in one piece. -/
theorem process_reads_pair :
  ∃ ended last last', Bench.Rig.sampleWorker.process Bench.obliging.onLine .download
        { state := (⟨"factory", []⟩, Bench.pairLine) }
      = ((ended, .installed ⟨"ota_0", 2, Sha256.hex [65, 66]⟩), last)
    ∧ Bench.Rig.sampleWorker.process Bench.obliging.onLine .download
        { state := (⟨"factory", []⟩, [Bench.pairLine.flatten]) }
      = ((ended, .installed ⟨"ota_0", 2, Sha256.hex [65, 66]⟩), last')
    ∧ last.state.1 = last'.state.1
  := by
  have hlength : WithinLength Bench.pairLine.flatten := by
    intro head body hsome
    rw [Bench.pair_response] at hsome
    obtain ⟨rfl, rfl⟩ := Prod.mk.inj (Option.some.inj hsome)
    decide
  have hreadable : Readable Bench.pairLine := by decide +kernel
  have hreadable' : Readable [Bench.pairLine.flatten] := by decide +kernel
  have hbytes : [Bench.pairLine.flatten].flatten = Bench.pairLine.flatten := List.flatten_singleton
  -- Each line is delivered by itself, so that neither cycle is refused a chunk.
  obtain ⟨ended, last, hprocess⟩ := pair_installed hreadable (by decide +kernel) rfl
  obtain ⟨ended', last', hprocess'⟩ := pair_installed hreadable' (by decide +kernel) hbytes
  obtain ⟨heq, hstate, -⟩ := process_reads Bench.obliging Bench.Rig.sampleWorker .download
    ⟨"factory", []⟩ [] [] hreadable hreadable' hbytes.symm (fun _ => hlength) hprocess hprocess'
    id id
  obtain rfl : ended = ended' := congrArg Prod.fst heq
  exact ⟨ended, last, last', hprocess, hprocess', hstate⟩

/-- The head of a response with a body that fits into the metadata buffer only by itself. -/
def longHead : Bytes :=
  utf8 "HTTP/1.1 200 OK\r\nContent-Length: 500\r\n\r\n"

/-- Its body. -/
def longBody : Bytes :=
  List.replicate 500 65

-- The responses are longer than the recursion depth that is allowed by default.
set_option maxRecDepth 4000 in
/-- With the options that are given by default, a check of a response comes to something else if its
head and its body arrive in two chunks than if they arrive in one. -/
theorem process_reads_buffer :
  Bench.Rig.sampleWorker.options = {} ∧ Readable [longHead ++ longBody]
    ∧ Readable [longHead, longBody]
    ∧ [longHead ++ longBody].flatten = [longHead, longBody].flatten
    ∧ (Bench.Rig.sampleWorker.process Bench.obliging.onLine .check
        { state := (⟨"factory", []⟩, [longHead ++ longBody]) }).1.2
      = .failed (.protocol (.bufferTooSmall 512 540))
    ∧ (Bench.Rig.sampleWorker.process Bench.obliging.onLine .check
        { state := (⟨"factory", []⟩, [longHead, longBody]) }).1.2 = .metadataIncomplete
  := by
  have hreadable : Readable [longHead ++ longBody] := by decide +kernel
  have hreadable' : Readable [longHead, longBody] := by decide +kernel
  have hassessed : ∀ line : List Bytes, Readable line →
      (Bench.Rig.sampleWorker.process Bench.obliging.onLine .check
          { state := (⟨"factory", []⟩, line) }).1.2
        = assessed 1 (gather (.start .whole 512) 0 line) := by
    intro line hreadable
    have haccepted := Bench.obliging_accepted line Bench.metadataRequest (.inr rfl)
    have hresult := (Bench.Rig.sampleWorker.process_check_assessed (p := Bench.obliging)
      Bench.metadataRequest_eq hreadable).run { state := (⟨"factory", []⟩, line) }
        ⟨Client.accepts_of haccepted, rfl⟩
    exact hresult
  have hone : gather (.start .whole 512) 0 [longHead ++ longBody]
      = .error (.protocol (.bufferTooSmall 512 540)) := by
    decide +kernel
  have htwo : gather (.start .whole 512) 0 [longHead, longBody] = .ok longBody := by
    decide +kernel
  have hverdict : (Metadata.parse longBody).verdict 1 = .metadataIncomplete := by
    decide +kernel
  refine ⟨rfl, hreadable, hreadable', by decide +kernel, ?_, ?_⟩
  · rw [hassessed _ hreadable, hone]
    rfl
  · rw [hassessed _ hreadable', htwo]
    exact hverdict

end Worker

end FirmwareUpdate
