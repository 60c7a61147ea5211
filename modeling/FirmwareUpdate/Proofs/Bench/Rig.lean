import FirmwareUpdate.Bench.Rig
import FirmwareUpdate.Proofs.Worker.Frame

/-!
# The rig tells its selected slot

Whatever disturbs the calls of a rig, the slot that the rig has selected for boot is the one
that the record of calls tells, and whoever asks for it is told the truth.
-/

namespace FirmwareUpdate.Bench.Rig

variable {α : Type} {boot : String}

/-- The selected slot of the rig is the one that the record tells, which is truthful. -/
def Told (boot : String) : Assertion Rig :=
  fun rig calls => rig.slots.boot = selected boot calls ∧ Truthful boot calls

/-- A part of a rig that neither its peer nor its disturbances have to do with. -/
structure Apart {β : Type} (part : Rig → β) : Prop where
  disturbances : ∀ rig disturbances, part { rig with disturbances } = part rig
  peer : ∀ rig peer, part { rig with peer } = part rig

/-- The operation leaves a part of the rig as it is. -/
def Leaves {β : Type} (part : Rig → β) (op : Op Rig α) : Prop :=
  ∀ site, part (op site).2.state = part site.state

namespace Leaves

variable {β : Type} {part : Rig → β}

theorem pure (a : α) :
  Leaves part (Pure.pure a : Op Rig α)
  := fun _ => rfl

theorem bind {γ : Type} {op : Op Rig γ} {next : γ → Op Rig α} (hop : Leaves part op)
    (hnext : ∀ c, Leaves part (next c)) :
  Leaves part (op >>= next)
  := fun site => (hnext _ _).trans (hop site)

theorem disturbance (hpart : Apart part) (name : String) :
  Leaves part (disturbance name)
  := fun _ => hpart.disturbances _ _

theorem onPeer (hpart : Apart part) (f : Peer → α × Peer) :
  Leaves part (onPeer f)
  := fun _ => hpart.peer _ _

theorem onSlots {f : MemorySlots → α × MemorySlots}
    (hf : ∀ rig, part { rig with slots := (f rig.slots).2 } = part rig) :
  Leaves part (onSlots f)
  := fun site => hf site.state

theorem failing (hpart : Apart part) {op : Op Rig (Except Fault α)} (name : String)
    (kind : String → Fault) (hop : Leaves part op) :
  Leaves part (failing name kind op)
  := by
  apply (disturbance hpart name).bind
  intro entry
  split
  · apply pure
  · apply hop

theorem progressing (hpart : Apart part) {op : Option Disturbance → Op Rig (Progress α)}
    (name : String) (hop : ∀ other, Leaves part (op other)) :
  Leaves part (progressing name op)
  := by
  apply (disturbance hpart name).bind
  intro entry
  split
  · apply pure
  · apply pure
  · exact fun _ => rfl
  · apply hop

/-- The transport of a rig has to do with its peer and its disturbances only. -/
theorem transport (hpart : Apart part) {op : Op Rig α} {entry : α → Call}
    (hop : transport.Performs α op entry) :
  Leaves part op
  := by
  rcases hop with hop | capacity
  · cases hop with
    | configure identity => exact .failing hpart _ _ (.onPeer hpart _)
    | dial host port => exact .failing hpart _ _ (.onPeer hpart _)
    | handshake => exact .progressing hpart _ fun _ => .onPeer hpart _
    | verifyChain => exact .failing hpart _ _ (.onPeer hpart _)
    | peerCertificate =>
        apply (disturbance hpart _).bind
        intro entry
        split
        · apply pure
        · apply pure
        · exact fun _ => rfl
    | send bytes =>
        apply progressing hpart
        intro other
        split
        · apply pure
        · apply onPeer hpart
        · apply onPeer hpart
    | hangUp => exact .onPeer hpart _
    | reset => exact .pure _
  · exact .progressing hpart _ fun _ => .onPeer hpart _

end Leaves

/-- The selected slot is apart from the peer. -/
theorem apart_boot :
  Apart fun rig => rig.slots.boot
  := ⟨fun _ _ => rfl, fun _ _ => rfl⟩

/-- The operation leaves the selected slot as it is. -/
abbrev LeavesBoot (op : Op Rig α) : Prop :=
  Leaves (fun rig => rig.slots.boot) op

/-- A call that neither asks for the selected slot nor selects one. -/
theorem told_of_leavesBoot {op : Op Rig α} {entry : α → Call} (hop : LeavesBoot op)
    (hselection : ∀ a, (entry a).selection? = none)
    (hlabel : ∀ a label, entry a ≠ .bootLabel (.ok label)) :
  (perform op entry).Keeps (Told boot)
  := by
  apply Act.Ensures.perform
  intro site calls hscene
  obtain ⟨hboot, htruthful⟩ := hscene
  constructor
  · rw [selected_cons (hselection _), ← hboot]
    apply hop
  · apply htruthful.cons
    intro label heq
    apply absurd heq (hlabel _ label)

/-- A call that has nothing to do with the slots. -/
theorem told_of_foreign {op : Op Rig α} {entry : α → Call} (hop : LeavesBoot op)
    (hforeign : ∀ a, (entry a).isForeign = true) :
  (perform op entry).Keeps (Told boot)
  := by
  apply told_of_leavesBoot hop
  · intro a
    apply Call.selection_of_isForeign (hforeign a)
  · intro a label heq
    have := hforeign a
    rw [heq] at this
    cases this

theorem transport_told :
  transport.Keeps (Told boot)
  := by
  apply Transport.Keeps.of_le
  intro α op entry hop
  apply told_of_foreign (.transport apart_boot hop) hop.isForeign

/-- A call that may fail does so without any effect on the slots, or goes on as if it had not
been disturbed. -/
theorem failing_cases (name : String) (kind : String → Fault) (op : Op Rig (Except Fault α))
    (site : Site Rig) :
  ∃ after : Site Rig, after.state.slots = site.state.slots
    ∧ (failing name kind op site = op after
      ∨ ∃ message, failing name kind op site = (.error (kind message), after))
  := by
  use (disturbance name site).2, rfl
  rw [failing, Op.bind_eq]
  generalize (disturbance name site).1 = entry
  rcases entry with _ | entry
  · left
    rfl
  cases entry with
  | fail message =>
      right
      use message
      rfl
  | _ =>
      left
      rfl

/-- An answer to the question for the selected slot is the selected slot. -/
theorem bootLabel_told :
  (perform slotTable.bootLabel .bootLabel).Keeps (Told boot)
  := by
  apply Act.Ensures.perform
  intro site calls hscene
  obtain ⟨hboot, htruthful⟩ := hscene
  have hleaves : LeavesBoot slotTable.bootLabel :=
    .failing apart_boot _ _ (.onSlots fun _ => rfl)
  constructor
  · exact (hleaves site).trans hboot
  · apply htruthful.cons
    intro label heq
    obtain ⟨after, hafter, hop | ⟨message, hfail⟩⟩ := failing_cases "boot_partition"
      .storageWrite (onSlots fun table => (.ok table.boot, table)) site
    · rw [show slotTable.bootLabel site = _ from hop] at heq
      obtain ⟨rfl⟩ := heq
      rw [← hboot, ← hafter]
    · rw [show slotTable.bootLabel site = _ from hfail] at heq
      cases heq

/-- A selection selects the slot, or fails and leaves the selected one. -/
theorem select_told (slot : String) :
  (perform (slotTable.select slot) (.select slot)).Keeps (Told boot)
  := by
  apply Act.Ensures.perform
  intro site calls h
  obtain ⟨hboot, htruthful⟩ := h
  obtain ⟨after, hafter, hop | ⟨message, hfail⟩⟩ := failing_cases "set_boot_partition"
    .storageWrite (onSlots fun table => (.ok (), table.select slot)) site
  · rw [show slotTable.select slot site = _ from hop]
    use rfl
    apply htruthful.cons
    rintro _ ⟨⟩
  · rw [show slotTable.select slot site = _ from hfail]
    constructor
    · rw [selected_cons rfl, ← hboot, hafter]
    · apply htruthful.cons
      rintro _ ⟨⟩

theorem slotTable_told :
  slotTable.Keeps (Told boot)
  where
  bootLabel := bootLabel_told
  openWriter slot := by
    apply told_of_leavesBoot _ (fun _ => rfl) (fun _ _ => by simp)
    apply Leaves.failing apart_boot
    apply Leaves.onSlots
    intro rig
    unfold MemorySlots.openWriter
    split
    · rfl
    · rfl
  write writer slot data := by
    apply told_of_leavesBoot _ (fun _ => rfl) (fun _ _ => by simp)
    apply Leaves.failing apart_boot
    apply Leaves.onSlots
    intro rig
    unfold MemorySlots.write
    split
    · rfl
    · rfl
    · rfl
  finish _ _ := by
    apply told_of_leavesBoot _ (fun _ => rfl) (fun _ _ => by simp)
    apply Leaves.failing apart_boot
    apply Leaves.onSlots
    intro _
    rfl
  discard _ _ := told_of_leavesBoot (fun _ => rfl) (fun _ => rfl) (fun _ _ => by simp)
  select := select_told

/-- The record of a rig is truthful, if it is up to date once. -/
theorem platform_told :
  platform.Keeps (Told boot)
  where
  transport := transport_told
  arm period pending := told_of_foreign (.failing apart_boot _ _ fun _ => rfl) fun _ => rfl
  disarm pending := told_of_foreign (fun _ => rfl) fun _ => rfl
  restart delay := told_of_foreign (fun _ => rfl) fun _ => rfl
  observe observe hobserve config := by
    obtain ⟨rfl⟩ := hobserve
    apply told_of_foreign (.pure _) fun _ => rfl
  slots := slotTable_told

end FirmwareUpdate.Bench.Rig
