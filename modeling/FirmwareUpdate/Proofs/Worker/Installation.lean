import FirmwareUpdate.Proofs.Bench.Obliging

/-!
# Whole responses are installed, broken ones are not

What a download makes of a response is decided by whether all of it arrives. However it is cut, a
whole response is installed, if its chunks fit into the buffer and the slots take its body; and a
response that breaks off is not, on whatever platform that happens.
-/

namespace FirmwareUpdate

variable {σ ω : Type}

/-- For every platform and every worker:
* On a line with a whole response whose body is not empty, a cycle with a download from a peer that
  accepts the worker installs the body, if it is cut into chunks that are read at once and fit into
  the buffer and the slots take it. The result tells the slot after the selected one, and the size
  and the digest of the body; the slot holds exactly the body and is the selected one, selecting it
  was the only thing to be decided, and the device restarts afterwards, after the delay of the
  options, exactly if the configuration says so.
* If what has arrived in a cycle with a download is not a whole response, whatever has ended the
  connection, the cycle fails, the same slot is selected as before, the device does not restart,
  and the status does not tell an installation that it has not told before. -/
theorem Worker.process_installs_whole (p : Platform σ ω) (worker : Worker ω) :
  (∀ {passage : Passage σ ω} {boot slot : String} {start body : Bytes} {head : Head}
      {request : Request} {line : List Bytes} {state : σ} {notes : List Note} {calls : List Call},
    IsResponse start body head → body ≠ [] →
    line.flatten = start ++ Head.terminator ++ body → Readable line →
    Fits worker.options.firmwareBuffer [] line →
    Request.get worker.config.serverHost worker.config.firmwarePath = .ok request →
    (Client.begin p.onLine.transport worker.client.session request
      ⟨⟨(state, line), notes⟩, calls⟩).1.2 = .ok () →
    worker.programmer.ring.next boot = .ok slot → p.Take passage boot slot body →
    passage.idle state →
    ∃ ended last, worker.process p.onLine .download ⟨⟨(state, line), notes⟩, calls⟩
        = ((ended, .installed ⟨slot, body.length, Sha256.hex body⟩), last)
      ∧ ended.status.installed = true
      ∧ imageIn slot last.calls = some body ∧ selected boot last.calls = slot
      ∧ decisive last.calls
        = (if worker.config.autoReboot then [.restart worker.options.rebootDelay] else [])
          ++ .select slot (.ok ()) :: decisive calls)
  ∧ ∀ {site : Site σ} {ended : Worker ω} {result : CycleResult} {last : Scene σ},
    worker.process p .download { toSite := site } = ((ended, result), last) →
    Unconcluded (arrived (reads last.calls)) →
    (∃ fault, result = .failed fault) ∧ ended.status.installed = worker.status.installed
      ∧ (∀ boot, selected boot last.calls = boot) ∧ ∀ delay, .restart delay ∉ last.calls
  := by
  constructor
  · intro passage boot slot start body head request line state notes calls hresponse hne hline
      hreadable hfits hrequest haccepted hnext htake hidle
    have hawaits : worker.Awaits request boot slot body line := by
      refine ⟨hnext, hrequest, hreadable, hfits, hne, head, ?_, hresponse.length_eq⟩
      rw [hline, hresponse.response_eq]
    have hdelivers := (worker.process_delivers htake hawaits (decisive calls)).run
      ⟨⟨(state, line), notes⟩, calls⟩ ⟨⟨Client.accepts_of haccepted, rfl, hidle⟩, rfl⟩
    rcases hprocess : worker.process p.onLine .download ⟨⟨(state, line), notes⟩, calls⟩
      with ⟨⟨ended, result⟩, last⟩
    rw [hprocess] at hdelivers
    obtain ⟨rfl, hinstalled, himage, hdecisive⟩ := hdelivers
    refine ⟨ended, last, rfl, hinstalled, himage, ?_, hdecisive⟩
    rw [← selected_decisive, hdecisive, decisions]
    split
    · rfl
    · rfl
  · intro site ended result last hprocess hopen
    have hbroken := (worker.process_breaks_off (p := p) []).run { toSite := site } ⟨rfl, rfl⟩
    rw [hprocess] at hbroken
    obtain ⟨hfailed, hinstalled, hdecisive⟩ := hbroken hopen
    refine ⟨hfailed, hinstalled, ?_, ?_⟩
    · intro boot
      rw [← selected_decisive, hdecisive, selected]
    · intro delay hmem
      have hrestart : Call.restart delay ∈ decisive last.calls := List.mem_filter.mpr ⟨hmem, rfl⟩
      rw [hdecisive] at hrestart
      cases hrestart

/-- The response is installed; without its last chunk it is not. -/
theorem Worker.process_installs_whole_pair :
  (∃ ended last, Bench.Rig.sampleWorker.process Bench.obliging.onLine .download
        { state := (⟨"factory", []⟩, Bench.pairLine) }
      = ((ended, .installed ⟨"ota_0", 2, Sha256.hex [65, 66]⟩), last)
    ∧ imageIn "ota_0" last.calls = some [65, 66] ∧ selected "factory" last.calls = "ota_0")
  ∧ (∃ fault, (Bench.Rig.sampleWorker.process Bench.obliging.onLine .download
        { state := (⟨"factory", []⟩, Bench.pairLine.dropLast) }).1.2 = .failed fault)
  := by
  constructor
  · obtain ⟨ended, last, hprocess, -, himage, hselected, -⟩ :=
      (process_installs_whole Bench.obliging Bench.Rig.sampleWorker).1 Bench.pair_isResponse
        (by decide) (by decide +kernel) (by decide +kernel) (by decide +kernel)
        Bench.imageRequest_eq
        (Bench.obliging_accepted Bench.pairLine Bench.imageRequest (.inl rfl)) rfl
        (Bench.obliging_take "factory" "ota_0" [65, 66]) rfl
    exact ⟨ended, last, hprocess, himage, hselected⟩
  · rcases hprocess : Bench.Rig.sampleWorker.process Bench.obliging.onLine .download
        { state := (⟨"factory", []⟩, Bench.pairLine.dropLast) } with ⟨⟨ended, result⟩, last⟩
    have hdrawn := (Bench.Rig.sampleWorker.process_drawn (p := Bench.obliging) .download
      Bench.pairLine.dropLast.flatten).run
        { state := (⟨"factory", []⟩, Bench.pairLine.dropLast) } rfl
    rw [hprocess] at hdrawn
    have hsplit : Text.splitAtFirst Head.terminator Bench.pairLine.dropLast.flatten
        = some (Bench.pairStart, [65]) := by
      decide +kernel
    have hopen : Unconcluded Bench.pairLine.dropLast.flatten :=
      .inr ⟨_, _, response?_eq_some_iff.mpr ⟨_, hsplit, Bench.pair_isResponse.head_eq⟩, by decide⟩
    apply ((process_installs_whole Bench.obliging.onLine Bench.Rig.sampleWorker).2 hprocess
      (hopen.of_start ⟨_, hdrawn⟩)).1

/-- A head that is accepted although it has a terminator of its own in it. -/
def earlyStart : Bytes :=
  utf8 "HTTP/1.1 200 OK\r\n\r\nContent-Length: 1"

/-- The response with such a head, and a body of one byte, in one chunk. -/
def earlyLine : List Bytes :=
  [earlyStart ++ Head.terminator ++ [65]]

/-- A response is not installed whose head has a terminator in it: the head ends there, before its
length has been declared. -/
theorem Worker.process_early_terminator :
  Head.ofBytes earlyStart = .ok ⟨1, 1, 200, 1⟩ ∧ Readable earlyLine
    ∧ Fits Bench.Rig.sampleWorker.options.firmwareBuffer [] earlyLine
    ∧ Request.get Bench.Rig.sampleWorker.config.serverHost
        Bench.Rig.sampleWorker.config.firmwarePath = .ok Bench.imageRequest
    ∧ (Client.begin Bench.obliging.onLine.transport Bench.Rig.sampleWorker.client.session
        Bench.imageRequest { state := (⟨"factory", []⟩, earlyLine) }).1.2 = .ok ()
    ∧ Bench.Rig.sampleWorker.programmer.ring.next "factory" = .ok "ota_0"
    ∧ Bench.obliging.Take (Bench.obligingPassage "factory") "factory" "ota_0" [65]
    ∧ (Bench.Rig.sampleWorker.process Bench.obliging.onLine .download
        { state := (⟨"factory", []⟩, earlyLine) }).1.2 = .failed (.protocol .missingContentLength)
  := by
  have haccepted := Bench.obliging_accepted earlyLine Bench.imageRequest (.inl rfl)
  have hhead : Head.ofBytes earlyStart = .ok ⟨1, 1, 200, 1⟩ := by
    decide +kernel
  have hnone : response? earlyLine.flatten = none := by
    decide +kernel
  have hunreeled : unreel (.start .streamed Bench.Rig.sampleWorker.options.firmwareBuffer) 0
      earlyLine = ([], .error (.protocol .missingContentLength)) := by
    decide +kernel
  have hlength : WithinLength earlyLine.flatten := by
    rintro _ _ hsome
    rw [hnone] at hsome
    cases hsome
  have hreadable : Readable earlyLine := by decide +kernel
  have hfails := (process_fails (p := Bench.obliging) Bench.imageRequest_eq hreadable hlength
    hunreeled).run { state := (⟨"factory", []⟩, earlyLine) }
      ⟨Client.accepts_of haccepted, rfl, trivial⟩
  exact ⟨hhead, hreadable, by decide +kernel, rfl, haccepted, rfl,
    Bench.obliging_take "factory" "ota_0" [65], hfails⟩

end FirmwareUpdate
