import FirmwareUpdate.Proofs.Worker.Operations

/-!
# Scenes that resemble each other

Two runs are followed side by side. Their platforms are in states that no operation can tell apart,
and they have made the same calls since they began, apart from configuring the transport. There is
one rule for each way in which acts are put together; acts that are put together from operations
alike give the same answers.
-/

namespace FirmwareUpdate

variable {σ ω α α' β β' : Type} {E : σ → σ → Prop}

/-- Whether a call configures the transport. -/
def Call.isConfigure : Call → Bool
  | .configure _ => true
  | _ => false

/-- The calls that do more than configure the transport. -/
def effective (calls : List Call) : List Call :=
  calls.filter (!·.isConfigure)

/-- The states of two scenes are related, and the same calls have been made since the records were
`base` and `base'`, apart from configuring the transport. -/
structure Resembles (E : σ → σ → Prop) (base base' : List Call) (s s' : Scene σ) : Prop where
  state : E s.state s'.state
  calls : ∃ made, effective s.calls = made ++ effective base
    ∧ effective s'.calls = made ++ effective base'

/-- An operation gives the same answer in related states, and leads to related states. -/
def Op.Respects (E : σ → σ → Prop) (op : Op σ α) : Prop :=
  ∀ site site', E site.state site'.state →
    (op site).1 = (op site').1 ∧ E (op site).2.state (op site').2.state

/-- The operations that respect a relation. -/
def Respecting (E : σ → σ → Prop) : Basis σ :=
  fun _ op _ => op.Respects E

/-- From scenes that resemble each other, two acts lead to scenes that do, with answers in `R`. -/
structure Act.Agree (E : σ → σ → Prop) (base base' : List Call) (act : Act σ α) (act' : Act σ α')
    (R : α → α' → Prop) : Prop where
  run : ∀ s s', Resembles E base base' s s' →
    R (act s).1 (act' s').1 ∧ Resembles E base base' (act s).2 (act' s').2

namespace Resembles

variable {base base' : List Call} {s s' : Scene σ}

theorem refl (h : E s.state s'.state) :
  Resembles E s.calls s'.calls s s'
  := ⟨h, [], rfl, rfl⟩

/-- Notes are not looked at. -/
theorem withNotes (h : Resembles E base base' s s') (notes notes' : List Note) :
  Resembles E base base' { s with notes } { s' with notes := notes' }
  := ⟨h.state, h.calls⟩

/-- A call in both scenes. -/
theorem call (h : Resembles E base base' s s') {t t' : Site σ} (hstate : E t.state t'.state)
    (call : Call) :
  Resembles E base base' { toSite := t, calls := call :: s.calls }
    { toSite := t', calls := call :: s'.calls }
  := by
  obtain ⟨-, made, hcalls, hcalls'⟩ := h
  use hstate
  cases hconfigure : call.isConfigure with
  | true =>
      use made
      simp only [effective, List.filter_cons, hconfigure] at hcalls hcalls' ⊢
      exact ⟨hcalls, hcalls'⟩
  | false =>
      use call :: made
      simp only [effective, List.filter_cons, hconfigure, List.cons_append] at hcalls hcalls' ⊢
      exact ⟨congrArg (call :: ·) hcalls, congrArg (call :: ·) hcalls'⟩

/-- Configuring the transport in the second scene only. -/
theorem configured (h : Resembles E base base' s s') {t' : Site σ} (hstate : E s.state t'.state)
    (outcome : Outcome) :
  Resembles E base base' s { toSite := t', calls := .configure outcome :: s'.calls }
  := ⟨hstate, h.calls⟩

end Resembles

namespace Act.Agree

variable {base base' : List Call} {act : Act σ α} {act' : Act σ α'} {R : α → α' → Prop}

theorem imp {R' : α → α' → Prop} (h : Agree E base base' act act' R)
    (hR : ∀ a a', R a a' → R' a a') :
  Agree E base base' act act' R'
  := ⟨fun s s' hs => ⟨hR _ _ (h.run s s' hs).1, (h.run s s' hs).2⟩⟩

theorem pure {a : α} {a' : α'} (h : R a a') :
  Agree E base base' (Pure.pure a : Act σ α) (Pure.pure a' : Act σ α') R
  := ⟨fun _ _ hs => ⟨h, hs⟩⟩

theorem bind {next : α → Act σ β} {next' : α' → Act σ β'} {S : β → β' → Prop}
    (h : Agree E base base' act act' R)
    (hnext : ∀ a a', R a a' → Agree E base base' (next a) (next' a') S) :
  Agree E base base' (act >>= next) (act' >>= next') S
  := by
  constructor
  intro s s' hs
  obtain ⟨hR, hafter⟩ := h.run s s' hs
  apply (hnext _ _ hR).run _ _ hafter

/-- An act whose answer is only looked at in another way. -/
theorem map {f : α → β} {f' : α' → β'} {S : β → β' → Prop} (h : Agree E base base' act act' R)
    (hf : ∀ a a', R a a' → S (f a) (f' a')) :
  Agree E base base' (act >>= fun a => Pure.pure (f a)) (act' >>= fun a => Pure.pure (f' a)) S
  := h.bind fun a a' hR => pure (hf a a' hR)

/-- Different notes may be written. -/
theorem bind_reportAll {notes notes' : List Note} {next : Unit → Act σ α}
    {next' : Unit → Act σ α'} (h : Agree E base base' (next ()) (next' ()) R) :
  Agree E base base' (FirmwareUpdate.reportAll notes >>= next)
    (FirmwareUpdate.reportAll notes' >>= next') R
  := by
  constructor
  intro s s' hs
  apply h.run _ _ (hs.withNotes _ _)

theorem bind_report {origin origin' text text' : String} {severity severity' : Severity}
    {next : Unit → Act σ α} {next' : Unit → Act σ α'}
    (h : Agree E base base' (next ()) (next' ()) R) :
  Agree E base base' (report origin severity text >>= next)
    (report origin' severity' text' >>= next') R
  := bind_reportAll h

theorem perform {op : Op σ α} (hop : op.Respects E) (entry : α → Call) :
  Agree E base base' (FirmwareUpdate.perform op entry) (FirmwareUpdate.perform op entry) Eq
  := by
  constructor
  intro s s' hs
  obtain ⟨hanswer, hstate⟩ := hop s.toSite s'.toSite hs.state
  use hanswer
  have hafter := hs.call hstate (entry (op s.toSite).1)
  change Resembles E base base' _ { toSite := _, calls := entry (op s'.toSite).1 :: s'.calls }
  rwa [← hanswer]

/-- An act agrees with itself if the operations that it is put together from respect the
relation. -/
theorem of_composed {act : Act σ α} (h : act.Composed (Respecting E)) :
  Agree E base base' act act Eq
  := by
  induction h with
  | pure a => apply pure rfl
  | reportAll notes => exact ⟨fun s s' hs => ⟨rfl, hs.withNotes _ _⟩⟩
  | perform hop => apply perform hop
  | bind _ _ ihact ihnext =>
      apply ihact.bind
      rintro a _ rfl
      apply ihnext

/-- Acts that begin alike. -/
theorem bind_composed {act : Act σ α} {next : α → Act σ β} {next' : α → Act σ β'}
    {S : β → β' → Prop} (h : act.Composed (Respecting E))
    (hnext : ∀ a, Agree E base base' (next a) (next' a) S) :
  Agree E base base' (act >>= next) (act >>= next') S
  := by
  apply (of_composed h).bind
  rintro a _ rfl
  apply hnext

end Act.Agree

/-- The states that `E` relates cannot be told apart by a platform: every operation gives the same
answer in related states and leads to related ones. From a state that `E` speaks of, configuring the
transport succeeds and leads to a state that cannot be told from the one before. -/
structure Platform.Respects (p : Platform σ ω) (E : σ → σ → Prop) : Prop where
  symm : ∀ {state state' : σ}, E state state' → E state' state
  trans : ∀ {state state' state'' : σ}, E state state' → E state' state'' → E state state''
  configure : ∀ identity site, E site.state site.state →
    (p.transport.configure identity site).1 = .ok ()
      ∧ E site.state (p.transport.configure identity site).2.state
  dial : ∀ host port, (p.transport.dial host port).Respects E
  handshake : p.transport.handshake.Respects E
  verifyChain : p.transport.verifyChain.Respects E
  peerCertificate : p.transport.peerCertificate.Respects E
  send : ∀ bytes, (p.transport.send bytes).Respects E
  receive : ∀ capacity, (p.transport.receive capacity).Respects E
  hangUp : p.transport.hangUp.Respects E
  reset : p.transport.reset.Respects E
  bootLabel : p.slots.bootLabel.Respects E
  openWriter : ∀ slot, (p.slots.openWriter slot).Respects E
  write : ∀ writer data, (p.slots.write writer data).Respects E
  finish : ∀ writer, (p.slots.finish writer).Respects E
  discard : ∀ writer, (p.slots.discard writer).Respects E
  select : ∀ slot, (p.slots.select slot).Respects E
  arm : ∀ period, (p.timer.arm period).Respects E
  disarm : p.timer.disarm.Respects E
  restart : ∀ delay, (p.restart delay).Respects E
  observe : ∀ observe, p.observer = some observe → ∀ config, (observe config).Respects E

namespace Platform.Respects

variable {p : Platform σ ω}

/-- What is related to anything is related to itself. -/
theorem left (h : p.Respects E) {state state' : σ} (hE : E state state') :
  E state state
  := h.trans hE (h.symm hE)

theorem transport_le (h : p.Respects E) :
  p.transport.Performs ≤ Respecting E
  := by
  rintro α op entry (hop | capacity)
  · cases hop with
    | configure identity =>
        intro site site' hE
        obtain ⟨hok, hstate⟩ := h.configure identity site (h.left hE)
        obtain ⟨hok', hstate'⟩ := h.configure identity site' (h.left (h.symm hE))
        use hok.trans hok'.symm
        apply h.trans (h.symm hstate) (h.trans hE hstate')
    | dial host port => apply h.dial
    | handshake => apply h.handshake
    | verifyChain => apply h.verifyChain
    | peerCertificate => apply h.peerCertificate
    | send bytes => apply h.send
    | hangUp => apply h.hangUp
    | reset => apply h.reset
  · apply h.receive

theorem slots_le (h : p.Respects E) :
  p.slots.Performs ≤ Respecting E
  := by
  rintro α op entry (hop | slot)
  · cases hop with
    | bootLabel => apply h.bootLabel
    | openWriter slot => apply h.openWriter
    | write writer slot data => apply h.write
    | finish writer slot => apply h.finish
    | discard writer slot => apply h.discard
  · apply h.select

theorem timer_le (h : p.Respects E) :
  p.timer.Performs ≤ Respecting E
  := by
  rintro α op entry (⟨period, pending⟩ | ⟨pending⟩)
  · apply h.arm
  · apply h.disarm

theorem restarts_le (h : p.Respects E) :
  p.Restarts ≤ Respecting E
  := by
  rintro α op entry ⟨delay⟩
  apply h.restart

theorem observes_le (h : p.Respects E) :
  p.Observes ≤ Respecting E
  := by
  rintro α op entry ⟨hobserve, config⟩
  apply h.observe _ hobserve

end Platform.Respects

end FirmwareUpdate
