import Mathlib.Data.Nat.Init
import Mathlib.Order.Nat

/-!
# Maximal runs

The maximal runs of consecutive numbers with a property, in increasing order. A run is given by its
first number and its length.
-/

namespace SdrUdp.Core

/-- All numbers of the run have the property and the run cannot be extended within `[lo, hi)`. -/
structure IsMaximalRun (P : ℕ → Bool) (lo hi : ℕ) (run : ℕ × ℕ) : Prop where
  pos : 0 < run.2
  lo_le : lo ≤ run.1
  le_hi : run.1 + run.2 ≤ hi
  holds : ∀ c, run.1 ≤ c → c < run.1 + run.2 → P c = true
  left : run.1 = lo ∨ P (run.1 - 1) = false
  right : run.1 + run.2 = hi ∨ P (run.1 + run.2) = false

/-- How many numbers from `c` on have the property, at most `limit`. -/
def runLength (P : ℕ → Bool) : ℕ → ℕ → ℕ
  | 0, _ => 0
  | limit + 1, c => if P c then runLength P limit (c + 1) + 1 else 0

/-- One more number in front of a list of runs. -/
def extendRuns (c : ℕ) : List (ℕ × ℕ) → List (ℕ × ℕ)
  | [] => [(c, 1)]
  | (start, len) :: runs =>
    if start = c + 1 then (c, len + 1) :: runs else (c, 1) :: (start, len) :: runs

/-- The runs among `n` numbers from `lo` on. -/
def runsFrom (P : ℕ → Bool) : ℕ → ℕ → List (ℕ × ℕ)
  | 0, _ => []
  | n + 1, lo =>
    if P lo then extendRuns lo (runsFrom P n (lo + 1)) else runsFrom P n (lo + 1)

/-- The maximal runs below `total`. -/
def maximalRuns (P : ℕ → Bool) (total : ℕ) : List (ℕ × ℕ) := runsFrom P total 0

section Runs

variable {P : ℕ → Bool}

lemma runLength_of_false {c : ℕ} (hc : P c = false) (limit : ℕ) : runLength P limit c = 0 := by
  cases limit with
  | zero => rfl
  | succ limit => simp [runLength, hc]

lemma runLength_of_true {c : ℕ} (hc : P c = true) (limit : ℕ) :
    runLength P (limit + 1) c = runLength P limit (c + 1) + 1 := by simp [runLength, hc]

lemma runLength_pos {c : ℕ} (hc : P c = true) (limit : ℕ) : 0 < runLength P (limit + 1) c := by
  rw [runLength_of_true hc]
  exact Nat.succ_pos _

lemma runLength_le (limit c : ℕ) : runLength P limit c ≤ limit := by
  induction limit generalizing c with
  | zero => exact Nat.le_refl 0
  | succ limit ih =>
    cases hc : P c with
    | false =>
      rw [runLength_of_false hc]
      exact Nat.zero_le _
    | true =>
      rw [runLength_of_true hc]
      exact Nat.succ_le_succ (ih (c + 1))

/-- The numbers that are counted have the property. -/
lemma runLength_holds {limit c d : ℕ} (hle : c ≤ d) (hlt : d < c + runLength P limit c) :
    P d = true := by
  induction limit generalizing c with
  | zero => exact absurd hlt hle.not_gt
  | succ limit ih =>
    cases hc : P c with
    | false =>
      rw [runLength_of_false hc] at hlt
      exact absurd hlt hle.not_gt
    | true =>
      rw [runLength_of_true hc] at hlt
      rcases hle.eq_or_lt with rfl | h
      · exact hc
      · exact ih (Nat.succ_le_of_lt h) (by rw [Nat.succ_eq_add_one]; omega)

/-- The count ends at the limit or at a number without the property. -/
lemma runLength_ends (limit c : ℕ) :
    runLength P limit c = limit ∨ P (c + runLength P limit c) = false := by
  induction limit generalizing c with
  | zero => exact Or.inl rfl
  | succ limit ih =>
    cases hc : P c with
    | false =>
      rw [runLength_of_false hc]
      exact Or.inr hc
    | true =>
      rw [runLength_of_true hc, ← Nat.add_assoc, Nat.add_right_comm]
      exact (ih (c + 1)).imp (congrArg (· + 1)) id

/-- A limit that the run does not reach does not matter. -/
lemma runLength_min {limit cap c : ℕ} (h : runLength P limit c ≤ cap) :
    runLength P (min limit cap) c = runLength P limit c := by
  induction limit generalizing cap c with
  | zero => rw [Nat.zero_min]
  | succ limit ih =>
    cases hc : P c with
    | false => rw [runLength_of_false hc, runLength_of_false hc]
    | true =>
      rw [runLength_of_true hc] at h ⊢
      obtain ⟨cap, rfl⟩ : ∃ k, cap = k + 1 := ⟨cap - 1, by omega⟩
      rw [Nat.succ_min_succ, runLength_of_true hc, ih (Nat.le_of_succ_le_succ h)]

lemma runsFrom_of_false {lo : ℕ} (hlo : P lo = false) (n : ℕ) :
    runsFrom P (n + 1) lo = runsFrom P n (lo + 1) := by simp [runsFrom, hlo]

lemma lo_le_of_mem_extendRuns {c : ℕ} {runs : List (ℕ × ℕ)} (hruns : ∀ run ∈ runs, c ≤ run.1) :
    ∀ run ∈ extendRuns c runs, c ≤ run.1 := by
  intro run hrun
  cases runs with
  | nil =>
    obtain rfl := List.mem_singleton.mp hrun
    exact le_rfl
  | cons first runs =>
    simp only [extendRuns] at hrun
    split_ifs at hrun
    · rcases List.mem_cons.mp hrun with rfl | hrun
      · exact le_rfl
      · exact hruns run (List.mem_cons_of_mem first hrun)
    · rcases List.mem_cons.mp hrun with rfl | hrun
      · exact le_rfl
      · exact hruns run hrun

lemma lo_le_of_mem_runsFrom {n lo : ℕ} : ∀ run ∈ runsFrom P n lo, lo ≤ run.1 := by
  induction n generalizing lo with
  | zero => exact fun run hrun => absurd hrun List.not_mem_nil
  | succ n ih =>
    have hnext : ∀ run ∈ runsFrom P n (lo + 1), lo ≤ run.1 := fun run hrun =>
      Nat.le_of_succ_le (ih run hrun)
    unfold runsFrom
    split_ifs
    · exact lo_le_of_mem_extendRuns hnext
    · exact hnext

/-- A run comes first, and the others come after its end. -/
lemma runsFrom_of_true {lo : ℕ} (hlo : P lo = true) (n : ℕ) : runsFrom P (n + 1) lo
    = (lo, runLength P (n + 1) lo) ::
      runsFrom P (n + 1 - runLength P (n + 1) lo) (lo + runLength P (n + 1) lo) := by
  induction n generalizing lo with
  | zero => simp [runsFrom, extendRuns, runLength, hlo]
  | succ n ih =>
    rw [runsFrom, if_pos hlo, runLength_of_true hlo]
    cases hnext : P (lo + 1) with
    | false =>
      rw [runLength_of_false hnext]
      have hstart : ∀ run ∈ runsFrom P (n + 1) (lo + 1), run.1 ≠ lo + 1 := by
        intro run hrun
        rw [runsFrom_of_false hnext] at hrun
        have := lo_le_of_mem_runsFrom run hrun
        omega
      cases hruns : runsFrom P (n + 1) (lo + 1) with
      | nil => simp [extendRuns, hruns]
      | cons first runs =>
        rw [hruns] at hstart
        rw [extendRuns, if_neg (hstart first List.mem_cons_self), Nat.zero_add, ← hruns]
        rfl
    | true =>
      rw [ih hnext, extendRuns, if_pos rfl, Nat.add_right_comm lo 1, Nat.add_assoc lo,
        Nat.add_sub_add_right]

/-- No run starts right at the end of another. -/
lemma runsFrom_end (n lo : ℕ) :
    runsFrom P (n + 1 - runLength P (n + 1) lo) (lo + runLength P (n + 1) lo)
      = runsFrom P (n - runLength P (n + 1) lo) (lo + runLength P (n + 1) lo + 1) := by
  rcases (runLength_le (P := P) (n + 1) lo).lt_or_eq with hlt | hall
  · have hend := (runLength_ends (P := P) (n + 1) lo).resolve_left hlt.ne
    rw [Nat.succ_sub (Nat.le_of_lt_succ hlt), runsFrom_of_false hend]
  · rw [hall, Nat.sub_self, Nat.sub_eq_zero_of_le (Nat.le_succ n)]
    rfl

lemma IsMaximalRun.first {lo hi : ℕ} {run : ℕ × ℕ} (h : IsMaximalRun P lo hi run) :
    P run.1 = true :=
  h.holds run.1 le_rfl (Nat.lt_add_of_pos_right h.pos)

/-- Another run starts behind the number that ends the first one. -/
lemma IsMaximalRun.end_lt {lo n : ℕ} {run : ℕ × ℕ}
    (h : IsMaximalRun P (lo + runLength P (n + 1) lo) (lo + (n + 1)) run) :
    lo + runLength P (n + 1) lo < run.1 := by
  refine h.lo_le.lt_of_ne fun hstart => ?_
  rcases runLength_ends (P := P) (n + 1) lo with hend | hend
  · have := h.pos
    have := h.le_hi
    omega
  · rw [hstart, h.first] at hend
    exact Bool.noConfusion hend

/-- The runs before the end of one and those after it. -/
lemma isMaximalRun_iff_of_true {lo : ℕ} (hlo : P lo = true) (n : ℕ) (run : ℕ × ℕ) :
    IsMaximalRun P lo (lo + (n + 1)) run ↔ run = (lo, runLength P (n + 1) lo) ∨
      IsMaximalRun P (lo + runLength P (n + 1) lo) (lo + (n + 1)) run := by
  have hpos := runLength_pos hlo n
  have hle := runLength_le (P := P) (n + 1) lo
  have hends := runLength_ends (P := P) (n + 1) lo
  have hholds : ∀ c, lo ≤ c → c < lo + runLength P (n + 1) lo → P c = true :=
    fun c => runLength_holds
  constructor
  · intro h
    rcases h.lo_le.eq_or_lt with heq | hlt
    · -- neither run ends inside the other
      refine Or.inl (Prod.ext heq.symm ?_)
      rcases Nat.lt_trichotomy run.2 (runLength P (n + 1) lo) with hlen | hlen | hlen
      · rcases h.right with hend | hend
        · have := h.le_hi
          omega
        · exact absurd (hholds (run.1 + run.2) (by omega) (by omega)) (by rw [hend]; decide)
      · exact hlen
      · rcases hends with hend | hend
        · have := h.le_hi
          omega
        · exact absurd (h.holds (lo + runLength P (n + 1) lo) (by omega) (by omega))
            (by rw [hend]; decide)
    · have hleft := h.left.resolve_left hlt.ne'
      refine Or.inr ⟨h.pos, ?_, h.le_hi, h.holds, Or.inr hleft, h.right⟩
      by_contra hin
      exact absurd (hholds (run.1 - 1) (by omega) (by omega)) (by rw [hleft]; decide)
  · rintro (rfl | h)
    · exact ⟨hpos, le_rfl, by omega, hholds, Or.inl rfl, hends.imp (congrArg (lo + ·)) id⟩
    · have hlt := h.end_lt
      exact ⟨h.pos, by omega, h.le_hi, h.holds, Or.inr (h.left.resolve_left hlt.ne'), h.right⟩

lemma isMaximalRun_iff_of_false {lo : ℕ} (hlo : P lo = false) (hi : ℕ) (run : ℕ × ℕ) :
    IsMaximalRun P lo hi run ↔ IsMaximalRun P (lo + 1) hi run := by
  constructor
  · intro h
    have hne : run.1 ≠ lo := fun heq => by
      have hfirst := h.first
      rw [heq, hlo] at hfirst
      exact Bool.noConfusion hfirst
    refine ⟨h.pos, ?_, h.le_hi, h.holds, Or.inr (h.left.resolve_left hne), h.right⟩
    have := h.lo_le
    omega
  · intro h
    refine ⟨h.pos, Nat.le_of_succ_le h.lo_le, h.le_hi, h.holds, Or.inr ?_, h.right⟩
    rcases h.left with heq | hleft
    · rw [heq, Nat.add_sub_cancel]
      exact hlo
    · exact hleft

/-- The list holds the maximal runs. -/
theorem mem_runsFrom_iff {n lo : ℕ} {run : ℕ × ℕ} :
    run ∈ runsFrom P n lo ↔ IsMaximalRun P lo (lo + n) run := by
  induction n using Nat.strong_induction_on generalizing lo with
  | h n ih =>
    cases n with
    | zero =>
      refine iff_of_false List.not_mem_nil fun h => ?_
      have := h.pos
      have := h.lo_le
      have := h.le_hi
      omega
    | succ n =>
      cases hlo : P lo with
      | false =>
        rw [runsFrom_of_false hlo, ih n (Nat.lt_succ_self n), isMaximalRun_iff_of_false hlo,
          Nat.add_right_comm, Nat.add_assoc]
      | true =>
        have hle := runLength_le (P := P) (n + 1) lo
        have hpos := runLength_pos hlo n
        rw [runsFrom_of_true hlo, List.mem_cons, isMaximalRun_iff_of_true hlo, ih _ (by omega),
          Nat.add_assoc, Nat.add_sub_cancel' hle]

/-- The runs come in increasing order, with a gap between them. -/
theorem runsFrom_pairwise (n lo : ℕ) :
    (runsFrom P n lo).Pairwise fun run run' => run.1 + run.2 < run'.1 := by
  induction n using Nat.strong_induction_on generalizing lo with
  | h n ih =>
    cases n with
    | zero => exact List.Pairwise.nil
    | succ n =>
      cases hlo : P lo with
      | false =>
        rw [runsFrom_of_false hlo]
        exact ih n (Nat.lt_succ_self n) (lo + 1)
      | true =>
        have hpos := runLength_pos hlo n
        have hle := runLength_le (P := P) (n + 1) lo
        rw [runsFrom_of_true hlo]
        refine List.Pairwise.cons (fun run hrun => ?_) (ih _ (by omega) _)
        have hmax := mem_runsFrom_iff.mp hrun
        rw [Nat.add_assoc, Nat.add_sub_cancel' hle] at hmax
        exact hmax.end_lt

/-- Numbers without the property do not matter in front. -/
lemma runsFrom_skip {n lo k : ℕ} (h : ∀ c, lo ≤ c → c < lo + k → P c = false) :
    runsFrom P (k + n) lo = runsFrom P n (lo + k) := by
  induction k generalizing lo with
  | zero => rw [Nat.zero_add, Nat.add_zero]
  | succ k ih =>
    rw [Nat.add_right_comm, runsFrom_of_false (h lo le_rfl (by omega)),
      ih fun c hle hlt => h c (by omega) (by omega), Nat.add_assoc lo, Nat.add_comm 1 k]

end Runs

end SdrUdp.Core
