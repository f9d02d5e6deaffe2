import Mathlib.Data.List.Basic

/-!
# Invariants of folds

What every step of a loop keeps holds after the loop, also for a loop that can fail.
-/

namespace SdrUdp.Core

variable {σ α : Type}

/-- A fold keeps what every step keeps. -/
lemma foldl_keeps {P : σ → Prop} {f : σ → α → σ} {l : List α} (hf : ∀ s, ∀ a ∈ l, P s → P (f s a))
    {s : σ} (hs : P s) : P (l.foldl f s) :=
  List.foldlRecOn l f hs fun s hs a ha => hf s a ha hs

/-- A fold that succeeds keeps what every successful step keeps. -/
lemma foldlM_keeps {P : σ → Prop} {f : σ → α → Option σ} {l : List α}
    (hf : ∀ s, ∀ a ∈ l, ∀ s', f s a = some s' → P s → P s') {s s' : σ}
    (h : l.foldlM f s = some s') (hs : P s) : P s' := by
  induction l generalizing s with
  | nil => exact Option.some.inj h ▸ hs
  | cons a l ih =>
    rw [List.foldlM_cons, Option.bind_eq_bind, Option.bind_eq_some_iff] at h
    obtain ⟨s₁, hstep, hrest⟩ := h
    exact ih (fun s b hb => hf s b (List.mem_cons_of_mem a hb)) hrest
      (hf s a List.mem_cons_self s₁ hstep hs)

/-- A fold succeeds when every step does from where the invariant holds. -/
lemma foldlM_succeeds {P : σ → Prop} {f : σ → α → Option σ} {l : List α}
    (hf : ∀ s, ∀ a ∈ l, P s → ∃ s', f s a = some s' ∧ P s') {s : σ} (hs : P s) :
    ∃ s', l.foldlM f s = some s' ∧ P s' := by
  induction l generalizing s with
  | nil => exact ⟨s, rfl, hs⟩
  | cons a l ih =>
    obtain ⟨s₁, hstep, hs₁⟩ := hf s a List.mem_cons_self hs
    obtain ⟨s', hrest, hs'⟩ := ih (fun s b hb => hf s b (List.mem_cons_of_mem a hb)) hs₁
    refine ⟨s', ?_, hs'⟩
    rw [List.foldlM_cons, hstep]
    exact hrest

/-- A loop whose steps are defined wherever the invariant holds. -/
lemma foldlM_eq_foldl {P : σ → Prop} {f : σ → α → Option σ} {g : σ → α → σ} {l : List α}
    (hf : ∀ s, ∀ a ∈ l, P s → f s a = some (g s a)) (hg : ∀ s, ∀ a ∈ l, P s → P (g s a)) {s : σ}
    (hs : P s) : l.foldlM f s = some (l.foldl g s) := by
  induction l generalizing s with
  | nil => rfl
  | cons a l ih =>
    rw [List.foldlM_cons, hf s a List.mem_cons_self hs, Option.bind_eq_bind, Option.bind_some]
    exact ih (fun s b hb => hf s b (List.mem_cons_of_mem a hb))
      (fun s b hb => hg s b (List.mem_cons_of_mem a hb)) (hg s a List.mem_cons_self hs)

lemma foldlM_congr {f g : σ → α → Option σ} {l : List α} (h : ∀ s, ∀ a ∈ l, f s a = g s a) (s : σ) :
    l.foldlM f s = l.foldlM g s := by
  induction l generalizing s with
  | nil => rfl
  | cons a l ih =>
    rw [List.foldlM_cons, List.foldlM_cons, h s a List.mem_cons_self]
    congr 1
    funext s'
    exact ih (fun s b hb => h s b (List.mem_cons_of_mem a hb)) s'

/-- A loop with a round that never succeeds. -/
lemma foldlM_eq_none {f : σ → α → Option σ} {l : List α} {a : α} (ha : a ∈ l)
    (hf : ∀ s, f s a = none) (s : σ) : l.foldlM f s = none := by
  induction l generalizing s with
  | nil => exact absurd ha List.not_mem_nil
  | cons b l ih =>
    rw [List.foldlM_cons, Option.bind_eq_bind]
    rcases List.mem_cons.mp ha with rfl | hl
    · rw [hf, Option.bind_none]
    · cases f s b with
      | none => rfl
      | some s' => exact ih hl s'

/-- A loop whose rounds do nothing. -/
lemma foldlM_eq_self {f : σ → α → Option σ} {l : List α} {s : σ} (hf : ∀ a ∈ l, f s a = some s) :
    l.foldlM f s = some s := by
  induction l with
  | nil => rfl
  | cons a l ih =>
    rw [List.foldlM_cons, hf a List.mem_cons_self, Option.bind_eq_bind, Option.bind_some]
    exact ih fun b hb => hf b (List.mem_cons_of_mem a hb)

/-- A loop over indices that reads an array goes over its first entries. -/
lemma foldlM_range_getElem? {β : Type} (f : σ → β → Option σ) (array : List β) {n : ℕ}
    (hn : n ≤ array.length) (s : σ) :
    (List.range n).foldlM (fun s i => (array[i]?).bind (f s)) s = (array.take n).foldlM f s := by
  induction n with
  | zero => rfl
  | succ n ih =>
    rw [List.range_succ, List.foldlM_append, ih (Nat.le_of_succ_le hn), List.take_add_one,
      List.foldlM_append, List.getElem?_eq_getElem hn]
    congr 1
    funext s'
    simp [List.getElem?_eq_getElem hn]

/-! ### What a loop puts out -/

/-- What the rounds of a fold put out, in order. -/
def emitted {β : Type} (f : σ → α → σ) (out : σ → α → List β) : List α → σ → List β
  | [], _     => []
  | a :: l, s => out s a ++ emitted f out l (f s a)

section Emitted

variable {β γ : Type} {f : σ → α → σ} {out : σ → α → List β}

lemma emitted_append (l l' : List α) (s : σ) :
    emitted f out (l ++ l') s = emitted f out l s ++ emitted f out l' (l.foldl f s) := by
  induction l generalizing s with
  | nil => rfl
  | cons a l ih =>
    rw [List.cons_append, emitted, ih, emitted, List.append_assoc, List.foldl_cons]

/-- A fold keeps what every round keeps of the state and of all that has been put out. -/
lemma foldl_emitted {P : σ → List γ → Prop} {g : β → γ} {l : List α}
    (hf : ∀ s, ∀ a ∈ l, ∀ log, P s log → P (f s a) (log ++ (out s a).map g)) {s : σ} {log : List γ}
    (hs : P s log) : P (l.foldl f s) (log ++ (emitted f out l s).map g) := by
  induction l generalizing s log with
  | nil => exact (List.append_nil log).symm ▸ hs
  | cons a l ih =>
    rw [List.foldl_cons, emitted, List.map_append, ← List.append_assoc]
    exact ih (fun s b hb => hf s b (List.mem_cons_of_mem a hb)) (hf s a List.mem_cons_self log hs)

/-- A log that every round extends by what it puts out. -/
lemma foldl_log {I : σ → Prop} (log : σ → List γ) {g : β → List γ} (hI : ∀ s a, I s → I (f s a))
    (hlog : ∀ s a, I s → log (f s a) = log s ++ (out s a).flatMap g) {l : List α} {s : σ}
    (hs : I s) : log (l.foldl f s) = log s ++ (emitted f out l s).flatMap g := by
  induction l generalizing s with
  | nil => exact (List.append_nil _).symm
  | cons a l ih =>
    rw [List.foldl_cons, ih (hI s a hs), hlog s a hs, emitted, List.flatMap_append,
      List.append_assoc]

end Emitted

/-! ### All states of a run -/

/-- `P` holds in every state that a fold goes through. -/
def Throughout (P : σ → Prop) (f : σ → α → σ) : List α → σ → Prop
  | [], s     => P s
  | a :: l, s => P s ∧ Throughout P f l (f s a)

/-- Every step of a fold meets `C` in the state in which it is taken. -/
def EachStep (C : σ → α → Prop) (f : σ → α → σ) : List α → σ → Prop
  | [], _     => True
  | a :: l, s => C s a ∧ EachStep C f l (f s a)

section Throughout

variable {P : σ → Prop} {C : σ → α → Prop} {f : σ → α → σ}

/-- Where every step keeps `I`, a property that exactly the steps with `C` keep holds throughout
exactly the runs of such steps. -/
theorem throughout_iff_of_invariant {I : σ → Prop} {l : List α}
    (hI : ∀ s, ∀ a ∈ l, I s → I (f s a))
    (hf : ∀ s, ∀ a ∈ l, I s → P s → (P (f s a) ↔ C s a)) {s : σ} (hs : I s) (hP : P s) :
    Throughout P f l s ↔ EachStep C f l s := by
  induction l generalizing s with
  | nil => exact iff_of_true hP trivial
  | cons a l ih =>
    have hstep := hf s a List.mem_cons_self hs hP
    have hnext := hI s a List.mem_cons_self hs
    have hrest : P (f s a) → (Throughout P f l (f s a) ↔ EachStep C f l (f s a)) :=
      ih (fun s b hb => hI s b (List.mem_cons_of_mem a hb))
        (fun s b hb => hf s b (List.mem_cons_of_mem a hb)) hnext
    constructor
    · rintro ⟨-, h⟩
      have ha : P (f s a) := by cases l with
        | nil => exact h
        | cons b l => exact h.1
      exact ⟨hstep.mp ha, (hrest ha).mp h⟩
    · rintro ⟨hc, h⟩
      exact ⟨hP, (hrest (hstep.mpr hc)).mpr h⟩

theorem throughout_iff {l : List α} (hf : ∀ s, ∀ a ∈ l, P s → (P (f s a) ↔ C s a)) {s : σ}
    (hs : P s) : Throughout P f l s ↔ EachStep C f l s :=
  throughout_iff_of_invariant (I := fun _ => True) (fun _ _ _ _ => trivial)
    (fun s a ha _ => hf s a ha) trivial hs

/-- A property of everything a loop puts out is one of each of its steps. -/
lemma forall_mem_emitted_iff {β : Type} {out : σ → α → List β} {Q : β → Prop} {l : List α} {s : σ} :
    (∀ b ∈ emitted f out l s, Q b) ↔ EachStep (fun s a => ∀ b ∈ out s a, Q b) f l s := by
  induction l generalizing s with
  | nil => simp [emitted, EachStep]
  | cons a l ih => rw [emitted, List.forall_mem_append, ih, EachStep]

lemma eachStep_congr {C' : σ → α → Prop} (h : ∀ s a, C s a ↔ C' s a) {l : List α} {s : σ} :
    EachStep C f l s ↔ EachStep C' f l s := by
  induction l generalizing s with
  | nil => exact Iff.rfl
  | cons a l ih => rw [EachStep, EachStep, h, ih]

/-- What every round puts out where the invariant holds. -/
lemma forall_mem_emitted {β : Type} {I : σ → Prop} {out : σ → α → List β} {Q : β → Prop}
    (hI : ∀ s a, I s → I (f s a)) (hout : ∀ s a, I s → ∀ b ∈ out s a, Q b) {l : List α} {s : σ}
    (hs : I s) : ∀ b ∈ emitted f out l s, Q b := by
  induction l generalizing s with
  | nil => exact List.forall_mem_nil _
  | cons a l ih => exact List.forall_mem_append.mpr ⟨hout s a hs, ih (hI s a hs)⟩

/-- A condition on every step, step by step. -/
lemma eachStep_iff_forall_split {l : List α} {s : σ} : EachStep C f l s ↔
    ∀ before a after, l = before ++ a :: after → C (before.foldl f s) a := by
  induction l generalizing s with
  | nil => exact iff_of_true trivial fun before a after h => absurd h (by simp)
  | cons b l ih =>
    rw [EachStep, ih]
    constructor
    · rintro ⟨hb, hl⟩ before a after h
      cases before with
      | nil =>
        obtain ⟨rfl, -⟩ := List.cons.inj h
        exact hb
      | cons c before =>
        obtain ⟨rfl, hrest⟩ := List.cons.inj h
        exact hl before a after hrest
    · intro h
      exact ⟨h [] b l rfl, fun before a after hrest => h (b :: before) a after (by rw [hrest]; rfl)⟩

/-- What every step that meets the condition keeps holds at the end of a run of such steps. -/
lemma EachStep.keeps {l : List α} (hf : ∀ s a, C s a → P s → P (f s a)) {s : σ}
    (h : EachStep C f l s) (hs : P s) : P (l.foldl f s) := by
  induction l generalizing s with
  | nil => exact hs
  | cons a l ih => exact ih h.2 (hf s a h.1 hs)

lemma Throughout.last {l : List α} {s : σ} (h : Throughout P f l s) : P (l.foldl f s) := by
  induction l generalizing s with
  | nil => exact h
  | cons a l ih => exact ih h.2

end Throughout

end SdrUdp.Core
