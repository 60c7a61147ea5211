import FirmwareUpdate.Slot.Programmer

/-!
# Data in pages

Data that a programming takes in wait in its page as long as they do not fill it. When they do, the
page is written, and the rest of them is taken in after it. Everything that is said of taking in
data is proved along these two cases, the second of which leads back to the rest.
-/

namespace FirmwareUpdate

namespace Programming

variable {σ ω : Type} {s : Slots σ ω} {p : Programming ω} {data : Bytes}

/-- Data that do not fill the page wait in it. No data fill no page, also if it is full. -/
theorem stage_wait (h : data = [] ∨ data.length < pageSize - p.page.length) :
  p.stage s data = pure ({ p with page := p.page ++ data }, .ok ())
  := by
  rw [stage]
  dsimp only
  split
  case isTrue hempty => rw [List.isEmpty_iff.mp hempty, List.append_nil]
  case isFalse hne =>
    have hshort := h.resolve_left (mt List.isEmpty_iff.mpr hne)
    rw [List.take_of_length_le (Nat.le_of_lt hshort), if_pos]
    rw [List.length_append]
    omega

/-- Data that fill the page have it written. -/
theorem stage_full (hne : data ≠ []) (hfull : pageSize - p.page.length ≤ data.length) :
  p.stage s data = (do
    let page := p.page ++ data.take (pageSize - p.page.length)
    match ← p.writePage s page with
    | .error fault => return ({ p with page }, .error fault)
    | .ok () => (p.flushed page).stage s (data.drop (pageSize - p.page.length)))
  := by
  have hpage : ¬ (p.page ++ data.take (pageSize - p.page.length)).length < pageSize := by
    rw [List.length_append, List.length_take]
    omega
  rw [stage]
  dsimp only
  rw [if_neg (by simpa using hne)]
  exact if_neg hpage

/-- What holds of data that wait, and of data that fill the page if it holds of the rest, holds of
all data that can be taken in. -/
@[elab_as_elim]
theorem stage_induction {motive : Programming ω → Bytes → Prop}
    (wait : ∀ p data, data = [] ∨ data.length < pageSize - p.page.length → motive p data)
    (fill : ∀ p data, data ≠ [] → pageSize - p.page.length ≤ data.length →
      motive (p.flushed (p.page ++ data.take (pageSize - p.page.length)))
        (data.drop (pageSize - p.page.length)) → motive p data)
    (p : Programming ω) (data : Bytes) :
  motive p data
  := by
  induction p, data using stage.induct with
  | case1 p data hempty => exact wait p data (.inl (List.isEmpty_iff.mp hempty))
  | case2 p data hne room page hroom =>
      apply wait p data
      simp only [page, room, List.length_append, List.length_take] at hroom
      omega
  | case3 p data hne room page hfull ih =>
      apply fill p data (mt List.isEmpty_iff.mpr hne) _ ih
      simp only [page, room, List.length_append, List.length_take] at hfull
      omega

end Programming

end FirmwareUpdate
