import Mathlib.Algebra.BigOperators.Group.Finset.Piecewise
import Mathlib.Algebra.Order.Group.Multiset
import Mathlib.Data.Fintype.Basic
import SdrUdp.Core.SharedCell

/-!
# Descriptors

The descriptors that a process has open. The system hands out the lowest one that is free, so a
descriptor that is closed twice may meanwhile be somebody else's.

`Holds` says to whom all open descriptors belong. Every rule about it has a frame: what belongs to
the others stays theirs.
-/

namespace SdrUdp.Core

/-- The open descriptors; `stray` counts the calls of `close` that name another one. -/
structure DescriptorTable where
  opened : Finset ℕ
  stray : ℕ
  deriving DecidableEq

/-- What the owner of `fd` holds; a negative number stands for none. -/
def descriptor (fd : ℤ) : Multiset ℕ := if 0 ≤ fd then {fd.toNat} else 0

namespace DescriptorTable

/-- The lowest free descriptor; there is one among as many as are open and one more. -/
def lowest (t : DescriptorTable) : ℕ :=
  ((List.range (t.opened.card + 1)).find? fun fd => fd ∉ t.opened).getD 0

lemma lowest_notMem (t : DescriptorTable) : t.lowest ∉ t.opened := by
  unfold lowest
  cases hfind : (List.range (t.opened.card + 1)).find? fun fd => fd ∉ t.opened with
  | some fd =>
    have hfree := List.find?_some hfind
    exact of_decide_eq_true hfree
  | none =>
    have hall : Finset.range (t.opened.card + 1) ⊆ t.opened := by
      intro fd hfd
      have := List.find?_eq_none.mp hfind fd (List.mem_range.mpr (Finset.mem_range.mp hfd))
      simpa using this
    have := Finset.card_le_card hall
    rw [Finset.card_range] at this
    omega

/-- A call that opens a descriptor; -1 when it fails. -/
def create (t : DescriptorTable) (ok : Bool) : ℤ × DescriptorTable :=
  if ok then (t.lowest, { t with opened := insert t.lowest t.opened }) else (-1, t)

def close (t : DescriptorTable) (fd : ℤ) : DescriptorTable :=
  if 0 ≤ fd ∧ fd.toNat ∈ t.opened then { t with opened := t.opened.erase fd.toNat }
  else { t with stray := t.stray + 1 }

/-- The open descriptors are those of `held`, each once, and no other was ever closed. -/
def Holds (t : DescriptorTable) (held : Multiset ℕ) : Prop := t.opened.val = held ∧ t.stray = 0

end DescriptorTable

@[simp] lemma descriptor_neg_one : descriptor (-1) = 0 := rfl

lemma descriptor_of_nonneg {fd : ℤ} (h : 0 ≤ fd) : descriptor fd = {fd.toNat} := if_pos h

lemma descriptor_of_neg {fd : ℤ} (h : ¬ 0 ≤ fd) : descriptor fd = 0 := if_neg h

namespace DescriptorTable.Holds

variable {t : DescriptorTable} {held : Multiset ℕ}

/-- A new descriptor belongs to who asked for it. -/
lemma create (h : t.Holds held) (ok : Bool) :
    (t.create ok).2.Holds (descriptor (t.create ok).1 + held) := by
  cases ok with
  | false => exact ⟨h.1.trans (zero_add held).symm, h.2⟩
  | true =>
    refine ⟨?_, h.2⟩
    change (insert t.lowest t.opened).val = descriptor (t.lowest : ℤ) + held
    rw [Finset.insert_val_of_notMem t.lowest_notMem, h.1,
      descriptor_of_nonneg (Int.natCast_nonneg _), Int.toNat_natCast, Multiset.singleton_add]

/-- Its owner may close a descriptor. -/
lemma close {fd : ℤ} (hfd : 0 ≤ fd) (h : t.Holds (descriptor fd + held)) :
    (t.close fd).Holds held := by
  obtain ⟨hopened, hstray⟩ := h
  rw [descriptor_of_nonneg hfd, Multiset.singleton_add] at hopened
  have hmem : fd.toNat ∈ t.opened := by
    rw [Finset.mem_def, hopened]
    exact Multiset.mem_cons_self fd.toNat held
  refine ⟨?_, ?_⟩
  · rw [DescriptorTable.close, if_pos ⟨hfd, hmem⟩]
    change (t.opened.erase fd.toNat).val = held
    rw [Finset.erase_val, hopened, Multiset.erase_cons_head]
  · rw [DescriptorTable.close, if_pos ⟨hfd, hmem⟩]
    exact hstray

/-- `if (fd >= 0) close(fd)`. -/
lemma release {fd : ℤ} (h : t.Holds (descriptor fd + held)) :
    (if 0 ≤ fd then t.close fd else t).Holds held := by
  split_ifs with hfd
  · exact close hfd h
  · rwa [descriptor_of_neg hfd, zero_add] at h

end DescriptorTable.Holds

/-! ### Objects that hold descriptors -/

section Objects

variable {ι S E : Type} [DecidableEq ι]

/-- Every call of an object opens and closes its own descriptors only, and leaves those of `lost`
open that it does not hold any more. -/
def KeepsDescriptors (held : S → Multiset ℕ) (lost : E → S → Multiset ℕ)
    (call : ι → E → DescriptorTable → S → DescriptorTable × S) : Prop :=
  ∀ i e t s rest, t.Holds (held s + rest) →
    (call i e t s).1.Holds (held (call i e t s).2 + (lost e s + rest))

/-- What the calls of a run leave open. -/
def lostIn (lost : E → S → Multiset ℕ)
    (call : ι → E → DescriptorTable → S → DescriptorTable × S) :
    List (ι × E) → Sharing ι DescriptorTable S → Multiset ℕ
  | [], _         => 0
  | e :: calls, w => lost e.2 (w.own e.1) + lostIn lost call calls (w.step call e)

variable [Fintype ι] {held : S → Multiset ℕ} {lost : E → S → Multiset ℕ}
variable {call : ι → E → DescriptorTable → S → DescriptorTable × S}

/-- What all objects hold, apart from one. -/
lemma sum_held_update (held : S → Multiset ℕ) (own : ι → S) (i : ι) (s : S) :
    ∑ j, held (Function.update own i s j)
      = held s + ∑ j ∈ Finset.univ \ {i}, held (own j) := by
  have hcomp : (fun j => held (Function.update own i s j))
      = Function.update (fun j => held (own j)) i (held s) := by
    funext j
    by_cases hj : j = i
    · subst hj
      rw [Function.update_self, Function.update_self]
    · rw [Function.update_of_ne hj, Function.update_of_ne hj]
  rw [hcomp]
  exact Finset.sum_update_of_mem (Finset.mem_univ i) _ _

/-- All open descriptors belong to the objects, or were lost, after every call if before. -/
lemma holds_step (hcall : KeepsDescriptors held lost call) (w : Sharing ι DescriptorTable S)
    (e : ι × E) {rest : Multiset ℕ} (h : w.cell.Holds (∑ i, held (w.own i) + rest)) :
    (w.step call e).cell.Holds
      (∑ i, held ((w.step call e).own i) + (lost e.2 (w.own e.1) + rest)) := by
  have hsplit := sum_held_update held w.own e.1 (w.own e.1)
  rw [Function.update_eq_self] at hsplit
  rw [hsplit, add_assoc] at h
  have hnext := hcall e.1 e.2 w.cell (w.own e.1) _ h
  rw [Sharing.step, sum_held_update, add_assoc]
  rwa [add_left_comm (∑ j ∈ _, _)]

/-- The same for a run of calls, in any order, of any of the objects. -/
theorem holds_run (hcall : KeepsDescriptors held lost call) (calls : List (ι × E))
    (w : Sharing ι DescriptorTable S) {rest : Multiset ℕ}
    (h : w.cell.Holds (∑ i, held (w.own i) + rest)) :
    (Sharing.run call calls w).cell.Holds
      (∑ i, held ((Sharing.run call calls w).own i) + (lostIn lost call calls w + rest)) := by
  induction calls generalizing w rest with
  | nil => rwa [lostIn, zero_add]
  | cons e calls ih =>
    have hrun := ih (w.step call e) (holds_step hcall w e h)
    rwa [add_left_comm (lostIn lost call calls _), ← add_assoc (lost e.2 (w.own e.1))] at hrun

end Objects

end SdrUdp.Core
