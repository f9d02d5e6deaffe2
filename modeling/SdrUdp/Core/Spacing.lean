import Mathlib.Data.List.Pairwise
import Mathlib.Order.Nat

/-!
# Times that keep a distance

Times each of which comes at least `gap` after all before it. There are few of them in an interval.
-/

namespace SdrUdp.Core

/-- Every time comes at least `gap` after all before it. -/
def Spaced (gap : ℕ) (times : List ℕ) : Prop := times.Pairwise fun earlier later =>
  earlier + gap ≤ later

namespace Spaced

variable {gap start width : ℕ} {times : List ℕ}

/-- The times of an interval, with `gap` for each, take no more room than the interval and one
`gap`. -/
lemma length_mul_lt (h : Spaced gap times) (hgap : 0 < gap)
    (hmem : ∀ t ∈ times, start ≤ t ∧ t < start + width) :
    times.length * gap < width + gap := by
  induction times generalizing start width with
  | nil =>
    rw [List.length_nil, Nat.zero_mul]
    exact Nat.add_pos_right width hgap
  | cons t times ih =>
    obtain ⟨hlater, hrest⟩ := List.pairwise_cons.mp h
    obtain ⟨hstart, hstop⟩ := hmem t List.mem_cons_self
    cases times with
    | nil =>
      rw [List.length_singleton, Nat.one_mul]
      omega
    | cons next times =>
      have hnext := hlater next List.mem_cons_self
      have hend := hmem next (List.mem_cons_of_mem t List.mem_cons_self)
      -- the others lie in what remains of the interval after `t + gap`
      have hih : (next :: times).length * gap < start + width - (t + gap) + gap := by
        have hwithin : ∀ u ∈ next :: times,
            t + gap ≤ u ∧ u < t + gap + (start + width - (t + gap)) := by
          intro u hu
          have := (hmem u (List.mem_cons_of_mem t hu)).2
          exact ⟨hlater u hu, by omega⟩
        exact ih hrest hwithin
      rw [List.length_cons, Nat.succ_mul]
      omega

/-- The number of times in an interval. -/
theorem length_le (h : Spaced gap times) (hgap : 0 < gap)
    (hmem : ∀ t ∈ times, start ≤ t ∧ t < start + width) :
    times.length ≤ (width + gap - 1) / gap := by
  rw [Nat.le_div_iff_mul_le hgap]
  have := h.length_mul_lt hgap hmem
  omega

end Spaced

end SdrUdp.Core
