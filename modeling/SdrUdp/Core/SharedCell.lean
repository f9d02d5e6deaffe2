import Mathlib.Data.List.Induction
import Mathlib.Logic.Function.Basic
import Mathlib.Tactic.Common
import Mathlib.Tactic.Lemma

/-!
# Objects around a shared cell

A call of an object reads and writes the object's own state and a cell that all objects share. An
object sees nothing of the others but the cell.
-/

namespace SdrUdp.Core

/-- The cell and the state of each object. -/
structure Sharing (ι C S : Type) where
  cell : C
  own : ι → S

namespace Sharing

variable {ι C S E : Type} [DecidableEq ι] (call : ι → E → C → S → C × S)

/-- A call of one object. -/
def step (w : Sharing ι C S) (e : ι × E) : Sharing ι C S where
  cell := (call e.1 e.2 w.cell (w.own e.1)).1
  own := Function.update w.own e.1 (call e.1 e.2 w.cell (w.own e.1)).2

/-- Calls of the objects, one after the other. -/
def run (calls : List (ι × E)) (w : Sharing ι C S) : Sharing ι C S := calls.foldl (step call) w

/-- The same without the calls of other objects. -/
def runAlone (i : ι) (calls : List (ι × E)) (w : Sharing ι C S) : Sharing ι C S :=
  run call (calls.filter fun e => e.1 = i) w

variable {call}

lemma run_concat (calls : List (ι × E)) (e : ι × E) (w : Sharing ι C S) :
    run call (calls ++ [e]) w = (run call calls w).step call e := by
  rw [run, List.foldl_append]
  rfl

lemma runAlone_concat_self (i : ι) (calls : List (ι × E)) (e : E) (w : Sharing ι C S) :
    runAlone call i (calls ++ [(i, e)]) w = (runAlone call i calls w).step call (i, e) := by
  have hself : [(i, e)].filter (fun e => e.1 = i) = [(i, e)] :=
    List.filter_cons_of_pos (decide_eq_true rfl)
  rw [runAlone, List.filter_append, hself]
  exact run_concat _ _ _

lemma runAlone_concat_of_ne {i j : ι} (hji : j ≠ i) (calls : List (ι × E)) (e : E)
    (w : Sharing ι C S) : runAlone call i (calls ++ [(j, e)]) w = runAlone call i calls w := by
  have hother : [(j, e)].filter (fun e => e.1 = i) = [] :=
    List.filter_cons_of_neg (by simpa using hji)
  rw [runAlone, List.filter_append, hother, List.append_nil]
  rfl

lemma step_own_self (w : Sharing ι C S) (i : ι) (e : E) :
    (w.step call (i, e)).own i = (call i e w.cell (w.own i)).2 := Function.update_self ..

lemma step_own_of_ne {i j : ι} (hij : i ≠ j) (w : Sharing ι C S) (e : E) :
    (w.step call (j, e)).own i = w.own i := Function.update_of_ne hij ..

/-- An object whose calls do the same with its own cell as with the shared one ends as if it were
alone. -/
theorem own_run_eq {i : ι} {calls : List (ι × E)} {w : Sharing ι C S}
    (h : ∀ before e after, calls = before ++ (i, e) :: after →
      (call i e (run call before w).cell ((run call before w).own i)).2
        = (call i e (runAlone call i before w).cell ((run call before w).own i)).2) :
    (run call calls w).own i = (runAlone call i calls w).own i := by
  induction calls using List.reverseRecOn with
  | nil => rfl
  | append_singleton calls last ih =>
    obtain ⟨j, e⟩ := last
    have hcalls : (run call calls w).own i = (runAlone call i calls w).own i :=
      ih fun before e' after heq => h before e' (after ++ [(j, e)]) (by rw [heq]; simp)
    rw [run_concat]
    by_cases hji : j = i
    · subst hji
      rw [runAlone_concat_self, step_own_self, step_own_self, h calls e [] rfl, hcalls]
    · rw [runAlone_concat_of_ne hji, step_own_of_ne (Ne.symm hji), hcalls]

end Sharing

end SdrUdp.Core
