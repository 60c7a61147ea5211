import FirmwareUpdate.Proofs.Http.Asking
import FirmwareUpdate.Proofs.Worker.Agreement
import FirmwareUpdate.Proofs.Worker.Schedule
import FirmwareUpdate.Proofs.Worker.Service

/-!
# The order of the cycles

Whatever the timer, the application and the network do, and whenever they do it, the cycles of a
worker come in an order. An update that a check has found is downloaded next, and nothing else is
ever downloaded; and there is a check only if one has been requested since the last one.

The flags are shared, but only the worker requests downloads and clears flags. So the flag for a
download says what the last cycle has found, and the flag for a check says whether there has been a
request since the last check was completed.
-/

namespace FirmwareUpdate

variable {σ ω : Type}

/-- Whether a check is requested by what happens. -/
def Event.asks : Event → Bool
  | .expiry | .checkNow => true
  | _ => false

/-- Whether a check is completed by what happens. -/
def Event.completes (phase : Phase) (event : Event) : Bool :=
  match phase, event with
  | .completing .check _, .step => true
  | _, _ => false

/-- Whether a check has been requested since the last one was completed. -/
def Trace.isAsked : Trace → Bool
  | [] => false
  | (phase, event) :: earlier =>
    !event.completes phase && (event.asks || isAsked earlier)

/-- A cycle of an updater: what its trigger was, and what had happened before. -/
structure Turn extends Cycle where
  trigger : Trigger
  trace : Trace

/-- The file that the last of the cycles, the latest first, has announced. -/
def Turn.due? (turns : List Turn) : Option String :=
  turns.head?.bind (·.result.file?)

/-- How a cycle follows the earlier ones, the latest first, at a worker that asks `server`. It is a
download exactly if the cycle before has announced a file, which only a check does. Then what it
sends is the request for this file, which it sends once it has made sure of the peer. A check has
been requested since the last one was completed. -/
structure Turn.Follows (server : Identity) (turn : Turn) (earlier : List Turn) : Prop where
  download_iff : turn.trigger = .download ↔ (due? earlier).isSome = true
  announces : turn.result.file?.isSome = true → turn.trigger = .check
  asksFor : ∀ file ∈ due? earlier, ∃ request made, Request.get server.host file = .ok request
    ∧ turn.after = made ++ turn.before ∧ AsksFor server request.bytes made
  isAsked : turn.trigger = .check → turn.trace.isAsked = true

namespace Updater

/-- The updater after something has happened that its worker has not done. -/
def meet (u : Updater ω) : Event → Option (Updater ω)
  | .step => none
  | .expiry => some (u.request .check)
  | .checkNow => u.checkNow.toOption
  | .network isConnected => some (u.setConnected isConnected)
  | .shutDown => some u.shutDown

/-- The cycle that a step has made, if it has made one. -/
def turn? (trace : Trace) (u next : Updater ω) (before after : List Call) : Option Turn :=
  match u.phase, next.phase with
  | .acting trigger, .rearming _ result => some { result, before, after, trigger, trace }
  | _, _ => none

/-- The updaters and the scenes that can be come to from a worker that was only just started and for
which nothing is pending, with what has happened and with the cycles, the latest first. Whatever is
not done by the worker can happen at any time, and the platform may have changed then. -/
inductive Running (p : Platform σ ω) : Trace → List Turn → Updater ω → Scene σ → Prop
  | spawn {config : Config} {options : Options} {version : UInt32} {triggers : Triggers}
      {worker : Worker ω} {first : Scene σ} (connectivity : Connectivity) (scene : Scene σ) :
      (∀ trigger, triggers.isPending trigger = false) →
      (Worker.start p config options version triggers first).1 = .ok worker →
      Running p [] [] (spawn p worker connectivity scene).1 (spawn p worker connectivity scene).2
  | step {trace : Trace} {turns : List Turn} {u next : Updater ω} {scene : Scene σ} :
      Running p trace turns u scene → (u.step p scene).1 = some next →
      Running p ((u.phase, .step) :: trace)
        ((turn? trace u next scene.calls (u.step p scene).2.calls).toList ++ turns) next
        (u.step p scene).2
  | meet {trace : Trace} {turns : List Turn} {u next : Updater ω} {scene : Scene σ} {event : Event}
      (site : Site σ) :
      Running p trace turns u scene → u.meet event = some next →
      Running p ((u.phase, event) :: trace) turns next { scene with toSite := site }

end Updater

/-! ### Triggers -/

namespace Triggers

variable {triggers : Triggers} {trigger : Trigger}

theorem first?_of_next (h : triggers.next = .taken trigger) :
  triggers.first? = some trigger
  := by
  unfold next at h
  split at h
  · cases h
  split at h
  · obtain rfl := Wakeup.taken.inj h
    assumption
  · cases h

theorem first?_eq_check_iff :
  triggers.first? = some .check ↔ triggers.download = false ∧ triggers.check = true
  := by
  obtain ⟨check, download, -⟩ := triggers
  cases check <;> cases download <;> simp [first?]

theorem first?_eq_download_iff :
  triggers.first? = some .download ↔ triggers.download = true
  := by
  obtain ⟨check, download, -⟩ := triggers
  cases check <;> cases download <;> simp [first?]

/-- A trigger that goes first still does so when a check is requested. -/
theorem first?_request_check (h : triggers.first? = some trigger) :
  (triggers.request .check).first? = some trigger
  := by
  cases trigger with
  | check => exact first?_eq_check_iff.mpr ⟨(first?_eq_check_iff.mp h).1, rfl⟩
  | download =>
      have hdownload := first?_eq_download_iff.mp h
      exact first?_eq_download_iff.mpr hdownload

end Triggers

/-! ### What a cycle finds and asks for -/

namespace Metadata

theorem text_ne_of_readEntry {line : List Char} {path : ImagePath}
    (h : readEntry line = .file path) :
  path.text ≠ ""
  := by
  unfold readEntry at h
  split at h
  · cases h
  case h_2 key value _ =>
    split at h
    · cases h
    · cases h
    · dsimp only at h
      split at h
      · cases h
      case isFalse hne =>
        split at h
        case h_1 found hfound =>
          obtain rfl := Entry.file.inj h
          unfold ImagePath.ofString? at hfound
          split at hfound
          · obtain rfl := Option.some.inj hfound
            intro hempty
            apply hne
            rw [List.isEmpty_iff]
            simpa using congrArg String.toList hempty
          · cases hfound
        · cases h
    · cases h

/-- A path that is read from a file is not empty. -/
theorem text_ne_of_parse {body : Bytes} {path : ImagePath} (h : (parse body).file = some path) :
  path.text ≠ ""
  := by
  suffices h : ∀ path, (parse body).file = some path → path.text ≠ "" from h path ‹_›
  unfold parse
  apply List.foldlRecOn (motive := fun m : Metadata => ∀ path, m.file = some path → path.text ≠ "")
  · rintro _ ⟨⟩
  · intro m hm entry hentry path hpath
    obtain ⟨line, -, hline⟩ := List.mem_map.mp hentry
    cases entry with
    | file found =>
        obtain rfl := Option.some.inj hpath
        apply text_ne_of_readEntry hline
    | version _ => apply hm path hpath
    | interval _ => apply hm path hpath
    | overlongFile => apply hm path hpath
    | nothing => apply hm path hpath

/-- The file that metadata announce is the one that the configuration then names. -/
theorem firmwarePath_of_verdict {body : Bytes} {running : UInt32} {file : String}
    (h : ((parse body).verdict running).file? = some file) (config : Config) :
  (config.announced (parse body)).firmwarePath = file ∧ file ≠ ""
  := by
  unfold verdict at h
  split at h
  case h_1 version path hversion hfile =>
    split at h
    · cases h
    · obtain rfl := Option.some.inj h
      refine ⟨?_, text_ne_of_parse hfile⟩
      unfold Config.announced
      dsimp only
      rw [hversion, hfile]
  · cases h

end Metadata

/-- A download is requested exactly for what is announced. -/
theorem CycleResult.download_request (result : CycleResult) {triggers : Triggers}
    (h : triggers.download = false) :
  (result.request triggers).download = result.file?.isSome
  := by
  cases result with
  | updateAvailable _ _ => rfl
  | _ => exact h

theorem CycleResult.check_request (result : CycleResult) (triggers : Triggers) :
  (result.request triggers).check = triggers.check
  := by
  cases result <;> rfl

section

variable {p : Platform σ ω} {identity : Identity}

theorem Slots.performs_tacits {s : Slots σ ω} :
  s.Performs ≤ Tacits identity
  := by
  rintro α op entry (hop | slot)
  · cases hop with
    | _ => exact fun _ => trivial
  · exact fun _ => trivial

theorem Slots.prepares_tacits {s : Slots σ ω} :
  s.Prepares ≤ Tacits identity
  := prepares_le performs_tacits

theorem Platform.restarts_tacits :
  p.Restarts ≤ Tacits identity
  := by
  rintro _ _ _ ⟨delay⟩
  exact fun _ => trivial

end

namespace Worker

variable {p : Platform σ ω} {worker : Worker ω} {base : List Call}

/-- A worker that was started names a server. -/
theorem Startable.host_ne {config : Config} {options : Options} (h : Startable config options) :
  config.identity.host ≠ ""
  := by
  intro hhost
  have hsession := h.session_eq
  unfold Session.start at hsession
  rw [if_pos hhost] at hsession
  cases hsession

theorem streamImage_asks (h : worker.Renewable) {request : Request}
    (hrequest : Request.get worker.config.serverHost worker.config.firmwarePath = .ok request) :
  Act.Ensures (fun _ calls => calls = base) (worker.streamImage p)
    fun _ => Since base (AsksFor worker.config.identity request.bytes)
  := by
  unfold streamImage
  rw [hrequest]
  apply (Client.openStream_asks h.serves request _).bind
  rintro ⟨client, fault | stream⟩
  · exact .pure fun _ _ h => h
  -- nothing is sent after the stream has been opened
  apply Act.Ensures.bind
    ((Transfer.pump_composed Transport.hears_tacits Slots.prepares_tacits _ _).keeps asksFor_tacits)
  rintro ⟨x, outcome⟩
  apply Act.Ensures.bind
    ((Client.Stream.close_composed (fun _ => trivial) x.stream).keeps asksFor_tacits)
  intro session
  obtain fault | ⟨⟩ := outcome
  · exact .pure fun _ _ h => h
  · apply Act.Ensures.map
    apply (Transfer.complete_composed Slots.performs_tacits x).keeps asksFor_tacits

theorem download_asks (h : worker.Renewable) {request : Request}
    (hrequest : Request.get worker.config.serverHost worker.config.firmwarePath = .ok request) :
  Act.Ensures (fun _ calls => calls = base) (worker.download p)
    fun _ => Since base (AsksFor worker.config.identity request.bytes)
  := by
  unfold download
  apply (streamImage_asks h hrequest).bind
  rintro ⟨after, fault | result⟩
  · apply Act.Ensures.map
    apply (giveUp_composed Slots.prepares_tacits after.ended).keeps asksFor_tacits
  · cases result with
    | installed done =>
        apply Act.Ensures.map
        apply (applyInstallation_composed Platform.restarts_tacits after.ended done).keeps
          asksFor_tacits
    | _ => exact .pure fun _ _ h => h

/-- A download asks for the file that the configuration names. -/
theorem act_download_asks (h : worker.Renewable) {file : String}
    (hpath : worker.config.firmwarePath = file) (hne : file ≠ "") :
  Act.Ensures (fun _ calls => calls = base) (worker.act p .download) fun _ state calls =>
    ∃ request, Request.get worker.config.identity.host file = .ok request
      ∧ Since base (AsksFor worker.config.identity request.bytes) state calls
  := by
  obtain ⟨request, hrequest⟩ : ∃ request,
      Request.get worker.config.identity.host file = .ok request := by
    unfold Request.get
    rw [dif_neg h.startable.host_ne, dif_neg hne]
    exact ⟨_, rfl⟩
  unfold act
  apply Act.Ensures.bind_report
  rw [← hpath] at hrequest ⊢
  apply (download_asks h hrequest).imp_right
  exact fun _ _ _ hsince => ⟨request, hrequest, hsince⟩

/-- What a trigger asks for leaves the flag for a check alone. After a check the flag for a download
says whether a file has been announced, and the configuration names this file. A download announces
nothing. -/
theorem act_flags (worker : Worker ω) (trigger : Trigger) {P : Assertion σ} :
  Act.Ensures P (worker.act p trigger) fun r _ _ =>
    r.1.triggers.check = worker.triggers.check
      ∧ (trigger = .check → worker.triggers.download = false →
        r.1.triggers.download = r.2.file?.isSome)
      ∧ (∀ file ∈ r.2.file?, r.1.config.firmwarePath = file ∧ file ≠ "")
      ∧ (trigger = .download → r.2.file? = none)
  := by
  unfold act
  apply Act.Ensures.bind_report
  cases trigger with
  | check =>
      apply (check_assess worker).imp_right
      rintro _ _ _ ⟨client, ⟨fault, rfl⟩ | ⟨body, rfl⟩⟩
      · exact ⟨rfl, fun _ hdownload => hdownload, by rintro _ ⟨⟩, by rintro ⟨⟩⟩
      · refine ⟨?_, fun _ hdownload => ?_, ?_, by rintro ⟨⟩⟩
        · apply CycleResult.check_request
        · apply CycleResult.download_request _ hdownload
        · intro file hfile
          apply Metadata.firmwarePath_of_verdict hfile
  | download =>
      apply (download_orders worker).imp_right
      rintro ⟨_, result⟩ _ _ ⟨⟨client, programmer, status, h⟩, hnone⟩
      obtain rfl := h
      refine ⟨rfl, by rintro ⟨⟩, ?_, fun _ => hnone⟩
      intro file hfile
      rw [hnone] at hfile
      cases hfile

end Worker

/-! ### What is known at any time -/

/-- The trigger for which the worker is going to act. -/
def Phase.taken? : Phase → Option Trigger
  | .waiting (.cycle trigger) | .admitted (.cycle trigger) | .acting trigger => some trigger
  | _ => none

/-- Whether the worker has downloaded and has not cleared the flag yet. -/
def Phase.isDownloaded : Phase → Bool
  | .rearming .download _ | .completing .download _ => true
  | _ => false

namespace Updater

/-- What is known of an updater at any time. The flag for a check says whether there has been a
request, and the flag for a download says whether a file is due; then the configuration names this
file. Only while a download is being completed its flag is still set. The trigger that the worker
has taken still goes first. -/
structure Ordered (trace : Trace) (turns : List Turn) (u : Updater ω) : Prop where
  renewable : u.worker.Renewable
  check_eq : u.worker.triggers.check = trace.isAsked
  download_eq : u.phase.isDownloaded = false →
    u.worker.triggers.download = (Turn.due? turns).isSome
  due_eq : u.phase.isDownloaded = true → Turn.due? turns = none
  taken : ∀ trigger, u.phase.taken? = some trigger → u.worker.triggers.first? = some trigger
  named : ∀ file ∈ Turn.due? turns, u.worker.config.firmwarePath = file ∧ file ≠ ""
  follows : ∀ turn earlier, turn :: earlier <:+ turns →
    turn.Follows u.worker.config.identity earlier

variable {p : Platform σ ω} {trace later : Trace} {turns : List Turn} {u next : Updater ω}
  {scene : Scene σ}

/-- What is known does not hang on the last result and the network, and on the flags and the phase
only in four points. -/
theorem Ordered.update (h : Ordered trace turns u) {triggers : Triggers}
    {last : Option CycleResult} {connectivity : Connectivity} {phase : Phase}
    (hcheck : triggers.check = later.isAsked)
    (hdownload : phase.isDownloaded = false → triggers.download = (Turn.due? turns).isSome)
    (hdue : phase.isDownloaded = true → Turn.due? turns = none)
    (htaken : ∀ trigger, phase.taken? = some trigger → triggers.first? = some trigger) :
  Ordered later turns
    ⟨{ u.worker with triggers, status := { u.worker.status with last } }, connectivity, phase⟩
  := ⟨h.renewable.update triggers last, hcheck, hdownload, hdue, htaken, h.named, h.follows⟩

theorem isAsked_meet {event : Event} (h : event ≠ .step) (phase : Phase) :
  Trace.isAsked ((phase, event) :: trace) = (event.asks || trace.isAsked)
  := by
  have hcompletes : event.completes phase = false := by
    unfold Event.completes
    split
    · apply absurd rfl h
    · rfl
  rw [Trace.isAsked, hcompletes]
  rfl

/-- The worker goes on to another phase with a step that does not complete a check. -/
theorem Ordered.proceed (h : Ordered trace turns u) {phase : Phase}
    (hcompletes : Event.step.completes u.phase = false)
    (hphase : phase.isDownloaded = u.phase.isDownloaded)
    (htaken : ∀ trigger, phase.taken? = some trigger →
      u.worker.triggers.first? = some trigger) :
  Ordered ((u.phase, .step) :: trace) turns { u with phase }
  := by
  have hcheck : u.worker.triggers.check = Trace.isAsked ((u.phase, .step) :: trace) := by
    rw [Trace.isAsked, hcompletes, h.check_eq]
    rfl
  exact h.update hcheck (hphase ▸ h.download_eq) (hphase ▸ h.due_eq) htaken

/-- A step that only looks at the flags takes the trigger that goes first, or none. -/
theorem look_taken {phase : Phase} (hlook : u.look = some phase) :
  (Event.step.completes u.phase = false ∧ phase.isDownloaded = u.phase.isDownloaded)
    ∧ ∀ trigger, phase.taken? = some trigger →
      u.phase.taken? = some trigger ∨ u.worker.triggers.next = .taken trigger
  := by
  obtain ⟨worker, connectivity, current⟩ := u
  cases current with
  | waiting purpose =>
      simp only [look] at hlook
      split at hlook
      · obtain rfl := Option.some.inj hlook
        refine ⟨⟨rfl, rfl⟩, ?_⟩
        cases purpose with
        | startup => rintro _ ⟨⟩
        | cycle trigger => exact fun _ => .inl
      split at hlook
      · obtain rfl := Option.some.inj hlook
        cases purpose <;> exact ⟨⟨rfl, rfl⟩, by rintro _ ⟨⟩⟩
      · cases hlook
  | admitted purpose =>
      simp only [look] at hlook
      obtain rfl := Option.some.inj hlook
      split
      · cases purpose <;> exact ⟨⟨rfl, rfl⟩, by rintro _ ⟨⟩⟩
      · cases purpose with
        | startup => exact ⟨⟨rfl, rfl⟩, by rintro _ ⟨⟩⟩
        | cycle trigger => exact ⟨⟨rfl, rfl⟩, fun _ => .inl⟩
  | settling =>
      obtain rfl := Option.some.inj hlook
      exact ⟨⟨rfl, rfl⟩, by rintro _ ⟨⟩⟩
  | idle =>
      simp only [look] at hlook
      split at hlook
      · obtain rfl := Option.some.inj hlook
        exact ⟨⟨rfl, rfl⟩, by rintro _ ⟨⟩⟩
      case h_2 trigger hnext =>
        obtain rfl := Option.some.inj hlook
        refine ⟨⟨rfl, rfl⟩, ?_⟩
        rintro _ ⟨rfl⟩
        exact .inr hnext
      · cases hlook
  | _ => cases hlook

theorem Ordered.look (h : Ordered trace turns u)
    (hlook : (u.look.map fun phase => { u with phase }) = some next) :
  Ordered ((u.phase, .step) :: trace) turns next
  := by
  obtain ⟨phase, hphase, rfl⟩ := Option.map_eq_some_iff.mp hlook
  obtain ⟨⟨hcompletes, hdownloaded⟩, htaken⟩ := look_taken hphase
  apply h.proceed hcompletes hdownloaded
  intro trigger htrigger
  rcases htaken trigger htrigger with hbefore | hnext
  · apply h.taken trigger hbefore
  · apply Triggers.first?_of_next hnext

/-! ### What the worker does for a trigger -/

/-- A cycle follows the earlier ones as it should. -/
theorem Ordered.turn_follows (h : Ordered trace turns u) {trigger : Trigger}
    (hphase : u.phase = .acting trigger) (scene : Scene σ) :
  Turn.Follows u.worker.config.identity
    { result := (u.worker.act p trigger scene).1.2, before := scene.calls,
      after := (u.worker.act p trigger scene).2.calls, trigger, trace } turns
  := by
  have hfirst := h.taken trigger (by rw [hphase]; rfl)
  have hdue := h.download_eq (by rw [hphase]; rfl)
  obtain ⟨-, -, -, hnone⟩ :=
    (Worker.act_flags (p := p) (P := fun _ _ => True) u.worker trigger).run scene trivial
  cases trigger with
  | check =>
      obtain ⟨hdownload, hcheck⟩ := Triggers.first?_eq_check_iff.mp hfirst
      rw [hdownload] at hdue
      constructor
      · rw [← hdue]
        constructor
        · rintro ⟨⟩
        · rintro ⟨⟩
      · exact fun _ => rfl
      · intro file hfile
        rw [Option.mem_def.mp hfile] at hdue
        cases hdue
      · intro _
        rw [← h.check_eq]
        exact hcheck
  | download =>
      have hdownload := Triggers.first?_eq_download_iff.mp hfirst
      rw [hdownload] at hdue
      constructor
      · rw [← hdue]
        constructor <;> exact fun _ => rfl
      · rw [hnone rfl]
        rintro ⟨⟩
      · intro file hfile
        obtain ⟨hnamed, hne⟩ := h.named file hfile
        obtain ⟨request, hrequest, made, hmade, hasks⟩ :=
          (Worker.act_download_asks (p := p) h.renewable hnamed hne).run scene rfl
        exact ⟨request, made, hrequest, hmade, hasks⟩
      · rintro ⟨⟩

theorem Ordered.act (h : Ordered trace turns u) {trigger : Trigger}
    (hphase : u.phase = .acting trigger) (scene : Scene σ) :
  Ordered ((u.phase, .step) :: trace)
    ({ result := (u.worker.act p trigger scene).1.2, before := scene.calls,
       after := (u.worker.act p trigger scene).2.calls, trigger, trace } :: turns)
    { u with
      worker := (u.worker.act p trigger scene).1.1
      phase := .rearming trigger (u.worker.act p trigger scene).1.2 }
  := by
  have hfirst := h.taken trigger (by rw [hphase]; rfl)
  have hfollows := h.turn_follows (p := p) hphase scene
  have hrenewable := (Worker.act_renewable (p := p) h.renewable trigger).run scene trivial
  obtain ⟨-, -, path, interval, hconfig⟩ :=
    (Worker.act_settings (p := p) (P := fun _ _ => True) u.worker trigger).run scene trivial
  obtain ⟨hcheck, hdownload, hnamed, hnone⟩ :=
    (Worker.act_flags (p := p) (P := fun _ _ => True) u.worker trigger).run scene trivial
  have hasked : Trace.isAsked ((u.phase, .step) :: trace) = trace.isAsked := by
    rw [hphase]
    rfl
  constructor
  · exact hrenewable
  · rw [hasked, ← h.check_eq]
    exact hcheck
  · cases trigger with
    | check => exact fun _ => hdownload rfl (Triggers.first?_eq_check_iff.mp hfirst).1
    | download => rintro ⟨⟩
  · cases trigger with
    | check => rintro ⟨⟩
    | download => exact fun _ => hnone rfl
  · rintro _ ⟨⟩
  · exact hnamed
  · dsimp only
    rw [hconfig]
    exact Throughout.cons h.follows hfollows

/-- A step of the worker keeps what is known. -/
theorem Ordered.step (h : Ordered trace turns u) (hstep : (u.step p scene).1 = some next) :
  Ordered ((u.phase, .step) :: trace)
    ((turn? trace u next scene.calls (u.step p scene).2.calls).toList ++ turns) next
  := by
  obtain ⟨worker, connectivity, phase⟩ := u
  cases phase with
  | starting =>
      obtain rfl := Option.some.inj hstep
      exact h.proceed rfl rfl (by rintro _ ⟨⟩)
  | waiting purpose => exact h.look hstep
  | admitted purpose => exact h.look hstep
  | settling => exact h.look hstep
  | idle => exact h.look hstep
  | acting trigger =>
      obtain rfl := Option.some.inj hstep
      exact h.act rfl scene
  | rearming trigger result =>
      obtain rfl := Option.some.inj hstep
      exact h.proceed rfl (by cases trigger <;> rfl) (by rintro _ ⟨⟩)
  | completing trigger result =>
      obtain rfl := Option.some.inj hstep
      cases trigger with
      | check => exact h.update rfl (fun _ => h.download_eq rfl) (by rintro ⟨⟩) (by rintro _ ⟨⟩)
      | download =>
          refine h.update h.check_eq (fun _ => ?_) (by rintro ⟨⟩) (by rintro _ ⟨⟩)
          rw [h.due_eq rfl]
          rfl
  | recording trigger result =>
      obtain rfl := Option.some.inj hstep
      exact h.update h.check_eq (fun _ => h.download_eq rfl) (by rintro ⟨⟩) (by rintro _ ⟨⟩)
  | disarming =>
      obtain rfl := Option.some.inj hstep
      exact h.proceed rfl rfl (by rintro _ ⟨⟩)
  | leaving =>
      obtain rfl := Option.some.inj hstep
      exact h.proceed rfl rfl (by rintro _ ⟨⟩)
  | gone => cases hstep

/-- Whatever else happens keeps what is known. -/
theorem Ordered.meet {event : Event} (h : Ordered trace turns u)
    (hmeet : u.meet event = some next) :
  Ordered ((u.phase, event) :: trace) turns next
  := by
  have hrequest : ∀ event : Event, event ≠ .step → event.asks = true →
      Ordered ((u.phase, event) :: trace) turns (u.request .check) := by
    intro event hstep hasks
    have hcheck : (u.worker.triggers.request .check).check
        = Trace.isAsked ((u.phase, event) :: trace) := by
      rw [isAsked_meet hstep, hasks]
      rfl
    exact h.update hcheck h.download_eq h.due_eq
      fun trigger htaken => Triggers.first?_request_check (h.taken trigger htaken)
  have hother : ∀ event : Event, event ≠ .step → event.asks = false →
      u.worker.triggers.check = Trace.isAsked ((u.phase, event) :: trace) := by
    intro event hstep hasks
    rw [isAsked_meet hstep, hasks, h.check_eq]
    rfl
  cases event with
  | step => cases hmeet
  | expiry =>
      obtain rfl := Option.some.inj hmeet
      exact hrequest .expiry nofun rfl
  | checkNow =>
      change u.checkNow.toOption = some next at hmeet
      unfold Updater.checkNow at hmeet
      split at hmeet
      · cases hmeet
      · obtain rfl := Option.some.inj hmeet
        exact hrequest .checkNow nofun rfl
  | network isConnected =>
      obtain rfl := Option.some.inj hmeet
      exact h.update (hother _ nofun rfl) h.download_eq h.due_eq h.taken
  | shutDown =>
      obtain rfl := Option.some.inj hmeet
      exact h.update (hother _ nofun rfl) h.download_eq h.due_eq h.taken

/-- Whatever has happened, and in which order, is in keeping with what is known. -/
theorem Running.ordered (h : Running p trace turns u scene) :
  Ordered trace turns u
  := by
  induction h with
  | @spawn config options version triggers worker first connectivity scene hidle hstart =>
      have htriggers : worker.triggers = triggers := by
        rw [(Worker.startable_of_start hstart).start_eq] at hstart
        obtain rfl := Except.ok.inj hstart
        rfl
      rw [← htriggers] at hidle
      exact ⟨Worker.renewable_of_start hstart, hidle .check, fun _ => hidle .download,
        fun _ => rfl, nofun, nofun, Throughout.nil⟩
  | step _ hstep ih => exact ih.step hstep
  | meet site _ hmeet ih => exact ih.meet hmeet

end Updater

namespace Bench

open Updater

/-- The sample worker when it has been asked for a check. -/
def askedWorker : Worker String :=
  { Rig.sampleWorker with triggers := { check := true } }

/-- The sample worker when the check has found the announcement. -/
def foundWorker (client : Client) : Worker String :=
  { Rig.sampleWorker with
    config := { Rig.sampleConfig with firmwarePath := samplePath, pollingInterval := 60 }
    client
    triggers := { check := true, download := true } }

theorem sample_asked :
  ∃ trace calls, Running waiting trace [] ⟨askedWorker, ⟨true⟩, .acting .check⟩
    ⟨⟨sampleArrivals, []⟩, calls⟩
  := by
  have hstart : (Worker.start waiting Rig.sampleConfig {} 1 {} { state := sampleArrivals }).1
      = .ok Rig.sampleWorker := rfl
  have hspawned := Running.spawn ⟨true⟩ { state := sampleArrivals }
    (by rintro (_ | _) <;> rfl) hstart
  have hidle := (((hspawned.step rfl).step rfl).step rfl).step rfl
  have hasked := hidle.meet ⟨sampleArrivals, []⟩
    (rfl : Updater.meet { worker := Rig.sampleWorker, connectivity := ⟨true⟩, phase := .idle }
      .checkNow = _)
  exact ⟨_, _, ((hasked.step rfl).step rfl).step rfl⟩

theorem sample_found :
  ∃ trace check client scene, Running waiting trace [check]
      ⟨foundWorker client, ⟨true⟩, .rearming .check (.updateAvailable 2 samplePath)⟩ scene
    ∧ check.trigger = .check ∧ check.result = .updateAvailable 2 samplePath
  := by
  obtain ⟨trace, calls, hasked⟩ := sample_asked
  have hcheck : Act.Ensures _ (askedWorker.act waiting .check) _ :=
    .bind_report (Worker.check_announced waiting_delivers (by decide) sampleAnnouncement_eq
      metadataRequest_eq sampleArrivals_ne sampleArrivals_eq (by decide +kernel))
  obtain ⟨client, hfound⟩ := hcheck.run ⟨⟨sampleArrivals, []⟩, calls⟩ ⟨waiting_accepts calls, rfl⟩
  have hfound : (askedWorker.act waiting .check ⟨⟨sampleArrivals, []⟩, calls⟩).1
      = (foundWorker client, .updateAvailable 2 samplePath) := hfound
  have hstep := congrArg
    (fun r => some (Updater.mk r.1 ⟨true⟩ (.rearming .check r.2))) hfound
  exact ⟨_, _, client, _, hasked.step hstep, rfl, rfl⟩

/-- The worker then tries to download the image. -/
theorem sample_downloaded :
  ∃ trace check download u scene, Running waiting trace [download, check] u scene
    ∧ check.trigger = .check ∧ check.result = .updateAvailable 2 samplePath
    ∧ download.trigger = .download ∧ trace.isAsked = false
  := by
  obtain ⟨trace, check, client, scene, hfound, hcheck, hresult⟩ := sample_found
  have hidle := ((hfound.step rfl).step rfl).step rfl
  have hacting := ((hidle.step rfl).step rfl).step rfl
  exact ⟨_, check, _, _, _, hacting.step rfl, hcheck, hresult, rfl, rfl⟩

end Bench

namespace Updater

variable {p : Platform σ ω} {trace : Trace} {turns : List Turn} {u : Updater ω} {scene : Scene σ}

/-- The cycles of a worker come in order, whatever else happens and whenever it does. A cycle is a
download exactly if the cycle before was a check that has found an update, and then it asks for the
file that was found; before a check there has been a request since the last check was completed. A
check is pending exactly if there has been a request since then: no request is lost before a check
is completed. -/
theorem Running.turns_follow (h : Running p trace turns u scene) :
  (∀ turn earlier, turn :: earlier <:+ turns → turn.Follows u.worker.config.identity earlier)
    ∧ u.worker.triggers.isPending .check = trace.isAsked
  := ⟨h.ordered.follows, h.ordered.check_eq⟩

/-- The announcement of version 2 is downloaded after a check that the application has asked for. -/
theorem Running.turns_follow_sample :
  ∃ (trace : Trace) (check download : Turn) (u : Updater String) (scene : Scene (List Arrival))
      (request : Request) (made : List Call),
    Running Bench.waiting trace [download, check] u scene
      ∧ check.trigger = .check ∧ check.result = .updateAvailable 2 Bench.samplePath
      ∧ download.trigger = .download
      ∧ Request.get u.worker.config.identity.host Bench.samplePath = .ok request
      ∧ download.after = made ++ download.before
      ∧ AsksFor u.worker.config.identity request.bytes made
      ∧ u.worker.triggers.isPending .check = false
  := by
  obtain ⟨trace, check, download, u, scene, hrunning, hcheck, hresult, hdownload, hasked⟩ :=
    Bench.sample_downloaded
  obtain ⟨hfollows, hpending⟩ := Running.turns_follow hrunning
  have hdue : Turn.due? [check] = some Bench.samplePath := by
    rw [Turn.due?, List.head?_cons, Option.bind_some, hresult]
    rfl
  obtain ⟨request, made, hrequest, hmade, hasks⟩ :=
    (hfollows download [check] List.suffix_rfl).asksFor Bench.samplePath hdue
  exact ⟨trace, check, download, u, scene, request, made, hrunning, hcheck, hresult, hdownload,
    hrequest, hmade, hasks, hpending.trans hasked⟩

end Updater

end FirmwareUpdate
