import FirmwareUpdate.Proofs.Http.Reads
import FirmwareUpdate.Proofs.Worker.Operations

/-!
# Platforms on a line

A line is a response that is under way to a platform, cut into the reads in which it will arrive;
behind the last of them the peer closes the connection. A platform on a line is like the platform
itself, except that whatever is read is read from the line. Nothing but reading looks at the line
or moves it.

Two scenes on lines are alike if the platform proper has come to the same state in both, and the
same calls other than reads have been made of it. An act that reads nothing does the same in
alike scenes.
-/

namespace FirmwareUpdate

variable {σ ω α β : Type}

/-- An operation on a platform as one on the platform with a line. It does not see what has been
noted before. -/
def Op.onLine (op : Op σ α) : Op (σ × List Bytes) α := fun site =>
  let (a, after) := op { state := site.state.1 }
  (a, { state := (after.state, site.state.2), notes := after.notes ++ site.notes })

/-- The next read from a line. What exceeds the capacity stays on the line. -/
def readLine (capacity : Nat) : Op (σ × List Bytes) (Progress Bytes) := fun site =>
  match site.state.2 with
  | [] => (.ready [], site)
  | chunk :: rest =>
    let line := if chunk.length ≤ capacity then rest else chunk.drop capacity :: rest
    (.ready (chunk.take capacity), { site with state := (site.state.1, line) })

/-- A transport that reads from a line. -/
def Transport.onLine (t : Transport σ) : Transport (σ × List Bytes) where
  configure identity := (t.configure identity).onLine
  dial host port := (t.dial host port).onLine
  handshake := t.handshake.onLine
  verifyChain := t.verifyChain.onLine
  peerCertificate := t.peerCertificate.onLine
  send bytes := (t.send bytes).onLine
  receive := readLine
  hangUp := t.hangUp.onLine
  reset := t.reset.onLine

/-- A platform that reads from a line. -/
def Platform.onLine (p : Platform σ ω) : Platform (σ × List Bytes) ω where
  transport := p.transport.onLine
  slots := {
    bootLabel := p.slots.bootLabel.onLine
    openWriter slot := (p.slots.openWriter slot).onLine
    write writer data := (p.slots.write writer data).onLine
    finish writer := (p.slots.finish writer).onLine
    discard writer := (p.slots.discard writer).onLine
    select slot := (p.slots.select slot).onLine }
  timer := {
    arm period := (p.timer.arm period).onLine
    disarm := p.timer.disarm.onLine }
  restart delay := (p.restart delay).onLine
  observer := p.observer.map fun observe config => (observe config).onLine

theorem Platform.transport_onLine (p : Platform σ ω) :
  p.onLine.transport = p.transport.onLine
  := rfl

/-- The calls that have read nothing. -/
def unread (calls : List Call) : List Call :=
  calls.filter (·.read?.isNone)

/-- Scenes on lines that differ in what is on the lines, what has been read and what has been noted
only. -/
structure Alike (s t : Scene (σ × List Bytes)) : Prop where
  state_eq : s.state.1 = t.state.1
  unread_eq : unread s.calls = unread t.calls

namespace Alike

variable {s t u : Scene (σ × List Bytes)}

theorem refl (s : Scene (σ × List Bytes)) :
  Alike s s
  := ⟨rfl, rfl⟩

theorem symm (h : Alike s t) :
  Alike t s
  := ⟨h.state_eq.symm, h.unread_eq.symm⟩

theorem trans (hs : Alike s t) (ht : Alike t u) :
  Alike s u
  := ⟨hs.state_eq.trans ht.state_eq, hs.unread_eq.trans ht.unread_eq⟩

/-- What is noted does not matter. -/
theorem withNotes (h : Alike s t) (notes : List Note) :
  Alike { s with notes } t
  := ⟨h.state_eq, h.unread_eq⟩

end Alike

/-- What two acts come to coincides: the answers are equal, and the scenes are alike. -/
structure Coincide (r r' : α × Scene (σ × List Bytes)) : Prop where
  answer_eq : r.1 = r'.1
  alike : Alike r.2 r'.2

/-- An act that does the same in alike scenes, and leaves the line alone. -/
structure Act.Aside (act : Act (σ × List Bytes) α) : Prop where
  coincide : ∀ {s t}, Alike s t → Coincide (act s) (act t)
  line_eq : ∀ s, (act s).2.state.2 = s.state.2

namespace Coincide

variable {r r' r'' : α × Scene (σ × List Bytes)}

theorem symm (h : Coincide r r') :
  Coincide r' r
  := ⟨h.answer_eq.symm, h.alike.symm⟩

theorem trans (h : Coincide r r') (h' : Coincide r' r'') :
  Coincide r r''
  := ⟨h.answer_eq.trans h'.answer_eq, h.alike.trans h'.alike⟩

/-- Acts that coincide may be followed by the same. -/
theorem bind {act act' : Act (σ × List Bytes) β} {next : β → Act (σ × List Bytes) α}
    {s s' : Scene (σ × List Bytes)} (h : Coincide (act s) (act' s')) (hnext : ∀ b, (next b).Aside) :
  Coincide ((act >>= next) s) ((act' >>= next) s')
  := by
  change Coincide (next (act s).1 (act s).2) (next (act' s').1 (act' s').2)
  rw [h.answer_eq]
  apply (hnext _).coincide h.alike

end Coincide

/-- The operations that have nothing to do with the line. -/
def BesideLine : Basis (σ × List Bytes) :=
  fun _ op entry => (∃ inner : Op σ _, op = inner.onLine) ∧ ∀ a, (entry a).read? = none

namespace Act.Aside

/-- An operation that has nothing to do with the line. -/
theorem perform {op : Op (σ × List Bytes) α} {entry : α → Call} (h : BesideLine α op entry) :
  (perform op entry).Aside
  := by
  obtain ⟨⟨inner, rfl⟩, hentry⟩ := h
  constructor
  · intro s t halike
    obtain ⟨hstate, hunread⟩ := halike
    refine ⟨?_, ⟨?_, ?_⟩⟩
    · change (inner { state := s.state.1 }).1 = (inner { state := t.state.1 }).1
      rw [hstate]
    · change (inner { state := s.state.1 }).2.state = (inner { state := t.state.1 }).2.state
      rw [hstate]
    · change unread (entry (inner { state := s.state.1 }).1 :: s.calls)
        = unread (entry (inner { state := t.state.1 }).1 :: t.calls)
      rw [hstate]
      unfold unread at hunread ⊢
      simp only [List.filter_cons, hentry, hunread]
  · intro s
    rfl

/-- An act is aside from the line if the operations are that it is put together from. -/
theorem of_composed {act : Act (σ × List Bytes) α} (h : act.Composed BesideLine) :
  act.Aside
  := by
  induction h with
  | pure a => exact ⟨fun halike => ⟨rfl, halike⟩, fun _ => rfl⟩
  | reportAll notes => exact ⟨fun halike => ⟨rfl, halike.state_eq, halike.unread_eq⟩, fun _ => rfl⟩
  | perform hop => apply perform hop
  | @bind _ _ act next _ _ ihact ihnext =>
      constructor
      · intro s t halike
        apply (ihact.coincide halike).bind ihnext
      · intro s
        apply ((ihnext _).line_eq _).trans (ihact.line_eq s)

end Act.Aside

/-! ### What has nothing to do with the line -/

variable {p : Platform σ ω} {t : Transport σ}

theorem Transport.unread_onLine :
  t.onLine.Unread ≤ BesideLine
  := by
  intro α op entry hop
  cases hop with
  | _ => exact ⟨⟨_, rfl⟩, fun _ => rfl⟩

theorem Platform.slots_onLine :
  p.onLine.slots.Performs ≤ BesideLine
  := by
  rintro α op entry (hop | slot)
  · cases hop with
    | _ => exact ⟨⟨_, rfl⟩, fun _ => rfl⟩
  · exact ⟨⟨_, rfl⟩, fun _ => rfl⟩

theorem Platform.timer_onLine :
  p.onLine.timer.Performs ≤ BesideLine
  := by
  intro α op entry hop
  cases hop with
  | _ => exact ⟨⟨_, rfl⟩, fun _ => rfl⟩

theorem Platform.restarts_onLine :
  p.onLine.Restarts ≤ BesideLine
  := by
  rintro α op entry ⟨delay⟩
  exact ⟨⟨_, rfl⟩, fun _ => rfl⟩

theorem Platform.observes_onLine :
  p.onLine.Observes ≤ BesideLine
  := by
  rintro α op entry ⟨hobserve, config⟩
  obtain ⟨observe, -, rfl⟩ := Option.map_eq_some_iff.mp hobserve
  exact ⟨⟨_, rfl⟩, fun _ => rfl⟩

end FirmwareUpdate
