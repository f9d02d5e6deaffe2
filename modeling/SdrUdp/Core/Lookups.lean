import Mathlib.Tactic.Lemma
import Mathlib.Tactic.Common

/-!
# Computations that read

`Lookups V α` computes an `α` from values that it reads by index. `Within n` says that it reads
below `n` only, whatever it finds, and so however the values change between two reads. `runOn load`
runs it in a monad that has the values.
-/

namespace SdrUdp.Core

universe u

/-- A computation of `α` that reads values of `V`. -/
inductive Lookups (V α : Type u) where
  | done : α → Lookups V α
  | read : ℕ → (V → Lookups V α) → Lookups V α

namespace Lookups

variable {V α β : Type u}

/-- Sequential composition. -/
def bind : Lookups V α → (α → Lookups V β) → Lookups V β
  | done a, f => f a
  | read i next, f => read i fun v => (next v).bind f

instance : Monad (Lookups V) where
  pure := done
  bind := bind

/-- Read the value at `i`. -/
def load (i : ℕ) : Lookups V V := read i done

/-- Whatever is read, it is read below `n`. -/
def Within (n : ℕ) : Lookups V α → Prop
  | done _ => True
  | read i next => i < n ∧ ∀ v, Within n (next v)

/-- Run with the values of a monad. -/
def runOn {m : Type u → Type u} [Monad m] (load : ℕ → m V) : Lookups V α → m α
  | done a => Pure.pure a
  | read i next => load i >>= fun v => (next v).runOn load

variable {n : ℕ}

lemma Within.pure (a : α) : Within n (Pure.pure a : Lookups V α) := trivial

lemma Within.bind {p : Lookups V α} {f : α → Lookups V β} (hp : Within n p)
    (hf : ∀ a, Within n (f a)) : Within n (p >>= f) := by
  change Within n (p.bind f)
  induction p with
  | done a => exact hf a
  | read i next ih => exact ⟨hp.1, fun v => ih v (hp.2 v)⟩

/-- Read, then go on from the value read. -/
lemma Within.load_bind {i : ℕ} (hi : i < n) {f : V → Lookups V α} (hf : ∀ v, Within n (f v)) :
    Within n (load i >>= f) := ⟨hi, hf⟩

section RunOn

variable {m : Type u → Type u} [Monad m]

@[simp] lemma runOn_pure (values : ℕ → m V) (a : α) :
    (Pure.pure a : Lookups V α).runOn values = Pure.pure a := rfl

variable [LawfulMonad m] (values : ℕ → m V)

@[simp] lemma runOn_load (i : ℕ) : (load i).runOn values = values i := by
  change values i >>= Pure.pure = _
  rw [bind_pure]

@[simp] lemma runOn_bind (p : Lookups V α) (f : α → Lookups V β) :
    (p >>= f).runOn values = p.runOn values >>= fun a => (f a).runOn values := by
  change (p.bind f).runOn values = _
  induction p with
  | done a =>
    change (f a).runOn values = Pure.pure a >>= fun a => (f a).runOn values
    rw [pure_bind]
  | read i next ih =>
    simp only [Lookups.bind, runOn, bind_assoc]
    exact congrArg (values i >>= ·) (funext ih)

end RunOn

end Lookups

end SdrUdp.Core
