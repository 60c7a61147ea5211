import FirmwareUpdate.Sha256
import Mathlib.Tactic.Common

/-!
# Digests of pieces

A digest does not depend on the pieces in which the bytes arrive.
-/

namespace FirmwareUpdate.Sha256

/-- Absorbing bytes in two pieces is absorbing both at once. -/
theorem absorb_append (s : Words) (bytes more : Bytes) :
  absorb s (bytes ++ more) = absorb (absorb s bytes).1 ((absorb s bytes).2 ++ more)
  := by
  induction s, bytes using absorb.induct with
  | case1 s bytes hshort =>
      have habsorb : absorb s bytes = (s, bytes) := by
        rw [absorb]
        split
        case h_1 => rfl
        case h_2 heq =>
          rw [hshort] at heq
          cases heq
      rw [habsorb]
  | case2 s bytes b rest hlong hlt ih =>
      have hlength : 64 ≤ bytes.length := by
        have := congrArg List.length hlong
        simp only [List.length_drop, List.length_cons] at this
        omega
      have hstep : absorb s bytes = absorb (compress s (bytes.take 64)) rest := by
        rw [absorb]
        split
        case h_1 heq =>
          rw [hlong] at heq
          cases heq
        case h_2 heq =>
          rw [hlong] at heq
          obtain ⟨rfl, rfl⟩ := List.cons.inj heq
          rfl
      have hdrop : (bytes ++ more).drop 63 = b :: (rest ++ more) := by
        rw [List.drop_append_of_le_length (by omega), hlong, List.cons_append]
      have htake : (bytes ++ more).take 64 = bytes.take 64 :=
        List.take_append_of_le_length hlength
      rw [hstep, ← ih, absorb]
      split
      case h_1 heq =>
        rw [hdrop] at heq
        cases heq
      case h_2 heq =>
        rw [hdrop] at heq
        obtain ⟨rfl, rfl⟩ := List.cons.inj heq
        rw [htake]

namespace Stream

/-- A stream does not show in which pieces its bytes came. -/
theorem update_update (s : Stream) (bytes more : Bytes) :
  (s.update bytes).update more = s.update (bytes ++ more)
  := by
  simp only [update, ← List.append_assoc, absorb_append s.words, List.length_append,
    Nat.add_assoc]

theorem empty_update_nil :
  empty.update [] = empty
  := by
  have habsorb : absorb initial [] = (initial, []) := by
    rw [absorb]
    rfl
  simp only [update, empty, List.append_nil, habsorb, List.length_nil]

end Stream

end FirmwareUpdate.Sha256
