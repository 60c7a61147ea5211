import FirmwareUpdate.Proofs.Slot.Content
import FirmwareUpdate.Proofs.Worker.Agreement
import FirmwareUpdate.Proofs.Worker.Schedule

/-!
# What a check comes to

A check asks the server for the metadata and does nothing else with it. What it comes to, what it
changes of the worker and how it sets the timer are told by the answer alone, be it a fault or any
bytes, and by what the worker was before.

The main statement is `process_check_decides`.
-/

namespace FirmwareUpdate

variable {σ ω : Type} {p : Platform σ ω}

/-! ### Entries of one kind -/

/-- The operations whose entries have a property. -/
def Leaving (φ : Call → Prop) : Basis σ :=
  fun _ _ entry => ∀ a, φ (entry a)

/-- What an act adds to the record has the property that all entries of its operations have. -/
theorem Act.Composed.leaves {α : Type} {act : Act σ α} {φ : Call → Prop}
    (h : act.Composed (Leaving φ)) (before : List Call) :
  act.Keeps (Since before fun made => ∀ call ∈ made, φ call)
  := by
  apply h.keeps
  intro α op entry hop
  apply Act.Ensures.perform
  rintro site _ ⟨made, rfl, hmade⟩
  exact ⟨entry (op site).1 :: made, rfl, List.forall_mem_cons.mpr ⟨hop _, hmade⟩⟩

/-- The configuration that a call shows to the observer. -/
def Call.observed? : Call → Option Config
  | .observe config => some config
  | _ => none

/-- The configurations that calls have shown to the observer, the latest first. -/
def observations (calls : List Call) : List Config :=
  calls.filterMap Call.observed?

/-- A call that is not made of the slots and shows nothing to the observer. -/
structure Call.IsAside (call : Call) : Prop where
  isForeign_eq : call.isForeign = true
  observed_eq : call.observed? = none

theorem observations_append {made : List Call} (h : ∀ call ∈ made, call.observed? = none)
    (before : List Call) :
  observations (made ++ before) = observations before
  := by
  unfold observations
  rw [List.filterMap_append, List.filterMap_eq_nil_iff.mpr h, List.nil_append]

theorem Transport.performs_aside (t : Transport σ) :
  t.Performs ≤ Leaving Call.IsAside
  := by
  rintro α op entry (hop | capacity)
  · cases hop with
    | _ => exact fun _ => ⟨rfl, rfl⟩
  · exact fun _ => ⟨rfl, rfl⟩

namespace Worker

/-! ### A check in two parts -/

/-- Asks for the metadata. -/
def inquire (p : Platform σ ω) (worker : Worker ω) : Act σ (Client × Except Fault Bytes) :=
  match Request.get worker.config.serverHost worker.config.metadataPath with
  | .error fault => return (worker.client, .error fault)
  | .ok request => worker.client.fetch p.transport request worker.options.metadataBuffer

/-- Acts on the answer. -/
def judge (p : Platform σ ω) (worker : Worker ω) :
    Except Fault Bytes → Act σ (Worker ω × CycleResult)
  | .error fault => return (worker, .failed fault)
  | .ok body => worker.readMetadata p body

/-- Acts on the answer, and ends the cycle. -/
def settle (p : Platform σ ω) (worker : Worker ω) (answer : Except Fault Bytes) :
    Act σ (Worker ω × CycleResult) := do
  let (after, result) ← worker.judge p answer
  after.rearm p .check
  reportAll (resultNotes result)
  return ((after.complete .check).record result, result)

/-- Asks for the metadata at the start of a cycle. -/
def ask (p : Platform σ ω) (worker : Worker ω) : Act σ (Client × Except Fault Bytes) := do
  report origin .info (startText .check)
  worker.inquire p

theorem check_eq (worker : Worker ω) :
  worker.check p = (do
    let (client, answer) ← worker.inquire p
    { worker with client }.judge p answer)
  := by
  unfold check inquire
  cases Request.get worker.config.serverHost worker.config.metadataPath with
  | error fault => rfl
  | ok request =>
      dsimp only
      congr 1

/-- A cycle for a check asks for the metadata and goes on with the answer. -/
theorem process_check_eq (worker : Worker ω) (scene : Scene σ) :
  worker.process p .check scene
    = settle p { worker with client := (worker.ask p scene).1.1 } (worker.ask p scene).1.2
      (worker.ask p scene).2
  := by
  unfold process act
  dsimp only
  rw [check_eq]
  rfl

end Worker

/-! ### The timer -/

/-- A timer has the period that it was armed with last, and none after it was disarmed. -/
structure CheckTimer.Shows (timer : CheckTimer σ) (armed : σ → Option Duration) : Prop where
  arm : ∀ period site, (timer.arm period site).1 = .ok () →
    armed (timer.arm period site).2.state = some period
  disarm : ∀ site, armed (timer.disarm site).2.state = none

/-- The last call has set the timer as the configuration says, so that it is armed with the interval
unless arming has failed, or disarmed if there is none. -/
def Platform.IsTimed (p : Platform σ ω) (config : Config) : Assertion σ :=
  fun state calls => Worker.SetsTimer config calls
    ∧ ∀ armed, p.timer.Shows armed → (∀ call ∈ calls.head?, call.isFailedArm = false) →
      armed state = config.period

namespace Worker

theorem armTimer_shows (worker : Worker ω) :
  Act.Ensures (fun _ _ => True) (worker.armTimer p) fun _ state calls =>
    ∀ armed, p.timer.Shows armed → (∀ call ∈ calls.head?, call.isFailedArm = false) →
      armed state = worker.config.period
  := by
  unfold armTimer
  split
  case h_1 period hperiod =>
    rw [hperiod]
    apply Act.Ensures.bind_perform fun outcome state calls =>
      (∃ earlier, calls = .arm period worker.triggers outcome :: earlier)
        ∧ (outcome = .ok () → ∀ armed, p.timer.Shows armed → armed state = some period)
    · exact fun site calls _ => ⟨⟨calls, rfl⟩, fun hok _ h => h.arm period site hok⟩
    rintro (fault | ⟨⟩)
    · apply Act.Ensures.reportAll
      rintro _ _ ⟨⟨earlier, rfl⟩, -⟩ _ - harms
      cases harms _ rfl
    · exact .pure fun _ _ hshows armed h _ => hshows.2 rfl armed h
  case h_2 hperiod =>
    rw [hperiod]
    apply Act.Ensures.bind_report
    exact .perform fun site _ _ _ h _ => h.disarm site

/-- Setting the timer is one call. -/
theorem armTimer_once (worker : Worker ω) (before : List Call) :
  Act.Ensures (fun _ calls => calls = before) (worker.armTimer p) fun _ _ calls =>
    ∃ call, call.IsAside ∧ calls = call :: before
  := by
  unfold armTimer
  split
  case h_1 period _ =>
    apply Act.Ensures.bind_perform fun outcome _ calls =>
      calls = .arm period worker.triggers outcome :: before
    · rintro _ _ rfl
      rfl
    rintro (fault | ⟨⟩)
    · apply Act.Ensures.reportAll
      exact fun _ _ h => ⟨_, ⟨rfl, rfl⟩, h⟩
    · exact .pure fun _ _ h => ⟨_, ⟨rfl, rfl⟩, h⟩
  case h_2 =>
    apply Act.Ensures.bind_report
    apply Act.Ensures.perform
    rintro _ _ rfl
    exact ⟨_, ⟨rfl, rfl⟩, rfl⟩

theorem armTimer_timed (worker : Worker ω) (before : List Call) :
  Act.Ensures (fun _ calls => calls = before) (worker.armTimer p) fun _ state calls =>
    p.IsTimed worker.config state calls ∧ ∃ call, call.IsAside ∧ calls = call :: before
  := by
  apply (((armTimer_sets worker).both (armTimer_shows worker)).both
    (armTimer_once worker before)).imp_left
  exact fun _ _ h => ⟨⟨trivial, trivial⟩, h⟩

/-! ### What the answer leads to -/

/-- The worker after it has got an answer, and what that comes to. -/
def judged (worker : Worker ω) : Except Fault Bytes → Worker ω × CycleResult
  | .error fault => (worker, .failed fault)
  | .ok body => worker.assess (Metadata.parse body)

/-- What the observer, if there is one, is told of a configuration: a change. -/
def told (p : Platform σ ω) (before after : Config) : List Call :=
  if after ≠ before ∧ p.observer.isSome = true then [.observe after] else []

theorem told_self (config : Config) :
  told p config config = []
  := if_neg fun h => h.1 rfl

theorem judge_ensures (worker : Worker ω) (answer : Except Fault Bytes) (before : List Call) :
  Act.Ensures (fun _ calls => calls = before) (worker.judge p answer) fun r _ calls =>
    r = worker.judged answer ∧ calls = told p worker.config r.1.config ++ before
  := by
  cases answer with
  | error fault =>
      apply Act.Ensures.pure
      rintro _ _ rfl
      exact ⟨rfl, by rw [told_self, List.nil_append]⟩
  | ok body =>
      dsimp only [judge]
      rw [readMetadata_eq]
      apply Act.Ensures.bind_reportAll
      apply Act.Ensures.bind_reportAll
      apply Act.Ensures.bind_reportAll
      dsimp only
      split
      case isTrue hchanged =>
        split
        case h_1 observe hobserve =>
          apply Act.Ensures.bind_perform fun _ _ calls =>
            calls = .observe (worker.assess (Metadata.parse body)).1.config :: before
          · rintro _ _ rfl
            rfl
          intro _
          apply Act.Ensures.pure
          rintro _ _ rfl
          refine ⟨rfl, ?_⟩
          rw [told, if_pos ⟨of_decide_eq_true hchanged, by rw [hobserve]; rfl⟩]
          rfl
        case h_2 hnone =>
          apply Act.Ensures.pure
          rintro _ _ rfl
          refine ⟨rfl, ?_⟩
          rw [told, if_neg, List.nil_append]
          rintro ⟨-, hsome⟩
          obtain ⟨observe, hobserve⟩ := Option.isSome_iff_exists.mp hsome
          exact hnone observe hobserve
      case isFalse hsame =>
        apply Act.Ensures.pure
        rintro _ _ rfl
        refine ⟨rfl, ?_⟩
        rw [told, if_neg fun h => hsame (decide_eq_true h.1), List.nil_append]

/-- The answer decides what a cycle comes to, what the observer is told, and how the timer is
set. -/
theorem settle_ensures (worker : Worker ω) (answer : Except Fault Bytes) (before : List Call) :
  Act.Ensures (fun _ calls => calls = before) (worker.settle p answer) fun r state calls =>
    r.1 = ((worker.judged answer).1.complete .check).record r.2 ∧ r.2 = (worker.judged answer).2
      ∧ p.IsTimed r.1.config state calls
      ∧ ∃ call, call.IsAside ∧ calls = call :: told p worker.config r.1.config ++ before
  := by
  unfold settle
  apply (judge_ensures worker answer before).bind
  rintro ⟨after, result⟩
  apply Act.Ensures.of_forall
  rintro _ calls ⟨heq, rfl⟩
  obtain ⟨rfl, rfl⟩ := Prod.mk.inj heq
  apply Act.Ensures.bind ((armTimer_timed _ _).imp_left fun _ _ h => h.2)
  intro _
  apply Act.Ensures.bind_reportAll
  apply Act.Ensures.pure
  rintro _ _ ⟨htimed, call, haside, rfl⟩
  exact ⟨rfl, rfl, htimed, call, haside, rfl⟩

theorem ask_composed {B : Basis σ} (hB : p.transport.Performs ≤ B) (worker : Worker ω) :
  (worker.ask p).Composed B
  := by
  unfold ask inquire
  apply Act.Composed.bind_report
  split
  · apply Act.Composed.pure
  · apply Client.fetch_composed hB

/-- What a cycle for a check makes of the worker and comes to. -/
theorem process_check_judged (worker : Worker ω) (scene : Scene σ) :
  (worker.process p .check scene).1.1
      = ((judged { worker with client := (worker.ask p scene).1.1 }
          (worker.ask p scene).1.2).1.complete .check).record (worker.process p .check scene).1.2
    ∧ (worker.process p .check scene).1.2
      = (judged { worker with client := (worker.ask p scene).1.1 } (worker.ask p scene).1.2).2
    ∧ p.IsTimed (worker.process p .check scene).1.1.config
      (worker.process p .check scene).2.state (worker.process p .check scene).2.calls
  := by
  have hsettled := settle_ensures (p := p) { worker with client := (worker.ask p scene).1.1 }
    (worker.ask p scene).1.2 (worker.ask p scene).2.calls
  obtain ⟨hafter, hresult, htimed, -⟩ := hsettled.run (worker.ask p scene).2 rfl
  rw [process_check_eq]
  exact ⟨hafter, hresult, htimed⟩

/-- A cycle for a check makes calls that are not of the slots, and tells the observer what it has
to be told. -/
theorem process_check_calls (worker : Worker ω) (scene : Scene σ) :
  ∃ call exchange, call.IsAside ∧ (∀ other ∈ exchange, Call.IsAside other)
    ∧ (worker.process p .check scene).2.calls
      = call :: told p worker.config (worker.process p .check scene).1.1.config
        ++ (exchange ++ scene.calls)
  := by
  have hasked := (ask_composed p.transport.performs_aside worker).leaves scene.calls
  obtain ⟨exchange, hcalls, hexchange⟩ := hasked.run scene ⟨[], rfl, List.forall_mem_nil _⟩
  have hsettled := settle_ensures (p := p) { worker with client := (worker.ask p scene).1.1 }
    (worker.ask p scene).1.2 (worker.ask p scene).2.calls
  obtain ⟨-, -, -, call, hcall, hmade⟩ := hsettled.run (worker.ask p scene).2 rfl
  refine ⟨call, exchange, hcall, hexchange, ?_⟩
  rw [process_check_eq, hmade, hcalls]

/-- A cycle for a check shows the observer a configuration only if it has changed. -/
theorem process_check_observations (worker : Worker ω) (scene : Scene σ) :
  observations (worker.process p .check scene).2.calls
    = observations (told p worker.config (worker.process p .check scene).1.1.config)
      ++ observations scene.calls
  := by
  obtain ⟨call, exchange, hcall, hexchange, hcalls⟩ := process_check_calls (p := p) worker scene
  rw [hcalls, List.cons_append, ← List.singleton_append,
    observations_append (List.forall_mem_singleton.mpr hcall.2)]
  unfold observations
  rw [List.filterMap_append]
  exact congrArg _ (observations_append (fun other hother => (hexchange other hother).2) _)

/-- A cycle for a check makes no calls of the slots. -/
theorem process_check_foreign (worker : Worker ω) (scene : Scene σ) :
  ∃ made, (worker.process p .check scene).2.calls = made ++ scene.calls
    ∧ ∀ call ∈ made, call.isForeign = true
  := by
  obtain ⟨call, exchange, hcall, hexchange, hcalls⟩ := process_check_calls (p := p) worker scene
  refine ⟨_, hcalls.trans (List.append_assoc _ _ _).symm, ?_⟩
  rw [List.forall_mem_append, List.forall_mem_cons]
  refine ⟨⟨hcall.1, ?_⟩, fun other hother => (hexchange other hother).1⟩
  unfold told
  split
  · exact List.forall_mem_singleton.mpr rfl
  · exact List.forall_mem_nil _

/-- What metadata change of a worker, and what a check comes to with them. A change of the interval
is heeded also if nothing else is announced. -/
def Heeds (worker : Worker ω) (m : Metadata) (after : Worker ω) (result : CycleResult) : Prop :=
  after.config.pollingInterval = m.interval.getD worker.config.pollingInterval
    ∧ match m.version, m.file with
      | some version, some file => after.config.firmwarePath = file.text
        ∧ if version = worker.runningVersion then
          result = .upToDate version ∧ after.triggers.download = worker.triggers.download
        else result = .updateAvailable version file.text ∧ after.triggers.download = true
      | _, _ => result = .metadataIncomplete
        ∧ after.config.firmwarePath = worker.config.firmwarePath
        ∧ after.triggers.download = worker.triggers.download

theorem assess_heeds (worker : Worker ω) (m : Metadata) :
  worker.Heeds m (((worker.assess m).1.complete .check).record (worker.assess m).2)
    (worker.assess m).2
  := by
  refine ⟨rfl, ?_⟩
  obtain ⟨_ | version, _ | file, interval⟩ := m
  · exact ⟨rfl, rfl, rfl⟩
  · exact ⟨rfl, rfl, rfl⟩
  · exact ⟨rfl, rfl, rfl⟩
  · refine ⟨rfl, ?_⟩
    unfold assess Metadata.verdict
    dsimp only
    by_cases hversion : version = worker.runningVersion
    · rw [if_pos hversion, if_pos hversion]
      exact ⟨rfl, rfl⟩
    · rw [if_neg hversion, if_neg hversion]
      exact ⟨rfl, rfl⟩

/-- A check is decided by the answer to its question for the metadata. After a fault it has failed
with it, and neither the configuration nor a pending download has changed, and the observer is told
nothing. Metadata are heeded as far as they go. In any case the check is no longer pending, the
slots are left alone, and the timer is set for the interval there is then. -/
theorem process_check_decides {worker after : Worker ω} {result : CycleResult}
    {scene last : Scene σ} (h : worker.process p .check scene = ((after, result), last)) :
  (match (worker.ask p scene).1.2 with
    | .error fault => result = .failed fault ∧ after.config = worker.config
      ∧ after.triggers.download = worker.triggers.download
      ∧ observations last.calls = observations scene.calls
    | .ok body => worker.Heeds (Metadata.parse body) after result)
    ∧ after.triggers.check = false
    ∧ after.programmer = worker.programmer
    ∧ (∃ made, last.calls = made ++ scene.calls ∧ ∀ call ∈ made, call.isForeign = true)
    ∧ p.IsTimed after.config last.state last.calls
  := by
  have hobserved := process_check_observations (p := p) worker scene
  have hforeign := process_check_foreign (p := p) worker scene
  obtain ⟨hafter, hresult, htimed⟩ := process_check_judged (p := p) worker scene
  rw [h] at hobserved hforeign hafter hresult htimed
  generalize worker.ask p scene = asked at hafter hresult ⊢
  obtain ⟨⟨client, answer⟩, asked⟩ := asked
  dsimp only at hafter hresult hobserved
  refine ⟨?_, ?_, ?_, hforeign, htimed⟩
  · cases answer with
    | error fault =>
        have hconfig : after.config = worker.config := by
          rw [hafter]
          rfl
        rw [hconfig, told_self] at hobserved
        refine ⟨hresult, hconfig, ?_, hobserved⟩
        rw [hafter]
        rfl
    | ok body =>
        rw [hafter, hresult]
        exact assess_heeds { worker with client } (Metadata.parse body)
  · rw [hafter]
    rfl
  · rw [hafter]
    cases answer with
    | error _ => rfl
    | ok _ => rfl

end Worker

/-- The sample worker is told what has been announced. -/
theorem Bench.waiting_told {scene : Scene (List Arrival)} (h : scene.state = sampleArrivals) :
  (Rig.sampleWorker.ask waiting scene).1.2 = .ok (utf8 sampleAnnouncement.render)
  := by
  have hfetch : Act.Ensures _ (Client.fetch waiting.transport Rig.sampleWorker.client
      metadataRequest Rig.sampleWorker.options.metadataBuffer) _ :=
    Worker.fetch_announced waiting_delivers (by decide) sampleAnnouncement_eq sampleArrivals_ne
      sampleArrivals_eq (by decide +kernel)
  have hask : Act.Ensures (fun state _ => sampleArrivals = state) (Rig.sampleWorker.ask waiting)
      fun r _ _ => r.2 = .ok (utf8 sampleAnnouncement.render) := by
    apply Act.Ensures.bind_report
    apply hfetch.imp_left
    rintro _ calls rfl
    exact ⟨waiting_accepts calls, rfl⟩
  exact hask.run scene h.symm

open Bench in
/-- A device that runs version 1 finds version 2, and is going to download it. -/
theorem Worker.process_check_decides_waiting :
  ∃ after result last,
    Rig.sampleWorker.process waiting .check { state := sampleArrivals } = ((after, result), last)
      ∧ result = .updateAvailable 2 samplePath ∧ after.triggers.download = true
      ∧ after.config.pollingInterval = 60 ∧ after.config.firmwarePath = samplePath
      ∧ after.triggers.check = false ∧ SetsTimer after.config last.calls
  := by
  rcases hprocess : Rig.sampleWorker.process waiting .check { state := sampleArrivals }
    with ⟨⟨after, result⟩, last⟩
  obtain ⟨hheeds, hcheck, -, -, htimed, -⟩ := Worker.process_check_decides hprocess
  rw [waiting_told rfl] at hheeds
  dsimp only at hheeds
  rw [Metadata.parse_render sampleAnnouncement_eq] at hheeds
  obtain ⟨hinterval, hpath, hresult, hdownload⟩ := hheeds
  exact ⟨after, result, last, rfl, hresult, hdownload, hinterval, hpath, hcheck, htimed⟩

end FirmwareUpdate
