import Mathlib.Tactic.Lemma
import Mathlib.Tactic.Common
import Mathlib.Logic.Function.Basic
import Mathlib.Logic.Relation

/-!
# Threads over a shared memory

A thread is a `Prog M α`: it changes the memory `M` by one atomic action at a time, and between two
actions any other thread may move. The triple `Prog.Meets` is a rely-guarantee judgement: from a
memory satisfying the invariant `I`, whatever the others do within the rely `R`, every action of the
thread keeps `I` and stays within the guarantee `G`, and a result satisfies `Q`.

`Pool.reachable_meets` is the parallel composition rule.
-/

namespace SdrUdp.Core

universe u

/-- A thread over memory `M` with result `α`. -/
inductive Prog (M : Type u) (α : Type u) : Type u where
  | done : α → Prog M α
  | atomic : (M → M) → (M → Prog M α) → Prog M α
  | await : (M → Bool) → Prog M α → Prog M α

namespace Prog

variable {M α β : Type u}

/-- Sequential composition. -/
def bind : Prog M α → (α → Prog M β) → Prog M β
  | done a, f => f a
  | atomic act next, f => atomic act fun m => (next m).bind f
  | await ready next, f => await ready (next.bind f)

instance : Monad (Prog M) where
  pure := done
  bind := bind

lemma bind_done (p : Prog M α) : p.bind done = p := by
  induction p with
  | done a => rfl
  | atomic act next ih => exact congrArg (atomic act) (funext ih)
  | await ready next ih => exact congrArg (await ready) ih

lemma bind_bind {γ : Type u} (p : Prog M α) (f : α → Prog M β) (g : β → Prog M γ) :
    (p.bind f).bind g = p.bind fun a => (f a).bind g := by
  induction p with
  | done a => rfl
  | atomic act next ih => exact congrArg (atomic act) (funext ih)
  | await ready next ih => exact congrArg (await ready) ih

/-- The monad laws. As an instance they would let `simp` rewrite the programs into maps. -/
lemma lawfulMonad (M : Type u) : LawfulMonad (Prog M) :=
  LawfulMonad.mk' _ bind_done (fun _ _ => rfl) bind_bind

/-- Read the shared memory. -/
def load (f : M → α) : Prog M α := atomic id fun m => done (f m)

/-- Change the shared memory in one step. -/
def modify (f : M → M) : Prog M PUnit := atomic f fun _ => done ⟨⟩

/-- Block until the memory satisfies `ready`. -/
def waitUntil (ready : M → Bool) : Prog M PUnit := await ready (done ⟨⟩)

/-- Run a thread alone; `none` when it blocks. -/
def run : Prog M α → M → Option (α × M)
  | done a, m => some (a, m)
  | atomic act next, m => (next m).run (act m)
  | await ready next, m => if ready m then next.run m else none

/-- Run a thread among others. These change the memory by the first of `others` before the thread's
first action, by the next one before its next action, and by what is left at its end. -/
def runAmong : Prog M α → List (M → M) → M → Option (α × M)
  | done a, others, m => some (a, others.foldl (fun m act => act m) m)
  | atomic act next, others, m =>
    let seen := others.headD id m
    (next seen).runAmong others.tail (act seen)
  | await ready next, others, m =>
    let seen := others.headD id m
    if ready seen then next.runAmong others.tail seen else none

@[simp] lemma run_pure (a : α) (m : M) : (pure a : Prog M α).run m = some (a, m) := rfl

@[simp] lemma run_bind (p : Prog M α) (f : α → Prog M β) (m : M) :
    (p >>= f).run m = (p.run m).bind fun r => (f r.1).run r.2 := by
  change (p.bind f).run m = _
  induction p generalizing m with
  | done a => rfl
  | atomic act next ih => exact ih m (act m)
  | await ready next ih =>
    simp only [bind, run]
    split_ifs
    · exact ih m
    · rfl

@[simp] lemma run_load (f : M → α) (m : M) : (load f).run m = some (f m, m) := rfl

@[simp] lemma run_modify (f : M → M) (m : M) : (modify f).run m = some (⟨⟩, f m) := rfl

/-- Among threads that do nothing, a thread is alone. -/
lemma runAmong_nil (p : Prog M α) (m : M) : p.runAmong [] m = p.run m := by
  induction p generalizing m with
  | done a => rfl
  | atomic act next ih => exact ih m (act m)
  | await ready next ih => exact congrArg (fun result => if ready m then result else none) (ih m)

lemma runAmong_load_bind (f : M → α) (k : α → Prog M β) (others : List (M → M)) (m : M) :
    (load f >>= k).runAmong others m
      = (k (f (others.headD id m))).runAmong others.tail (others.headD id m) := rfl

lemma runAmong_modify_bind (f : M → M) (k : PUnit → Prog M β) (others : List (M → M)) (m : M) :
    (modify f >>= k).runAmong others m
      = (k ⟨⟩).runAmong others.tail (f (others.headD id m)) := rfl

/-! ### The rely-guarantee judgement -/

section Meets

variable {I : M → Prop} {R G : M → M → Prop}

/-- Every action of the thread keeps `I` and is one of `G`, and the result satisfies `Q`, as long as
the other threads keep `I` and stay within `R`. -/
def Meets (I : M → Prop) (R G : M → M → Prop) (Q : α → M → Prop) : Prog M α → M → Prop
  | done a, m => ∀ m', R m m' → I m' → Q a m'
  | atomic act next, m => ∀ m', R m m' → I m' →
      I (act m') ∧ G m' (act m') ∧ Meets I R G Q (next m') (act m')
  | await ready next, m => ∀ m', R m m' → I m' → ready m' = true → Meets I R G Q next m'

/-- What the others do does not hurt. -/
lemma Meets.stable [IsTrans M R] {Q : α → M → Prop} {p : Prog M α} {m m' : M}
    (h : Meets I R G Q p m) (hm : R m m') : Meets I R G Q p m' := by
  cases p with
  | done a => exact fun m'' h' => h m'' (IsTrans.trans _ _ _ hm h')
  | atomic act next => exact fun m'' h' => h m'' (IsTrans.trans _ _ _ hm h')
  | await ready next => exact fun m'' h' => h m'' (IsTrans.trans _ _ _ hm h')

lemma Meets.mono {P Q : α → M → Prop} (hPQ : ∀ a m, I m → P a m → Q a m) {p : Prog M α} {m : M}
    (h : Meets I R G P p m) : Meets I R G Q p m := by
  induction p generalizing m with
  | done a => exact fun m' hm hI => hPQ a m' hI (h m' hm hI)
  | atomic act next ih =>
    intro m' hm hI
    obtain ⟨hact, hG, hnext⟩ := h m' hm hI
    exact ⟨hact, hG, ih m' hnext⟩
  | await ready next ih => exact fun m' hm hI hr => ih (h m' hm hI hr)

/-- A guarantee may be weakened. -/
lemma Meets.weaken {G' : M → M → Prop} (hG : ∀ m m', G m m' → G' m m') {Q : α → M → Prop}
    {p : Prog M α} {m : M} (h : Meets I R G Q p m) : Meets I R G' Q p m := by
  induction p generalizing m with
  | done a => exact h
  | atomic act next ih =>
    intro m' hm hI
    obtain ⟨hact, hg, hnext⟩ := h m' hm hI
    exact ⟨hact, hG _ _ hg, ih m' hnext⟩
  | await ready next ih => exact fun m' hm hI hr => ih (h m' hm hI hr)

/-- A fact that neither the thread nor the others destroy can be carried to the end. -/
lemma Meets.frame {P : M → Prop} (hR : ∀ m m', R m m' → P m → P m')
    (hG : ∀ m m', G m m' → P m → P m') {Q : α → M → Prop} {p : Prog M α} {m : M} (hP : P m)
    (h : Meets I R G Q p m) : Meets I R G (fun a m => Q a m ∧ P m) p m := by
  induction p generalizing m with
  | done a => exact fun m' hm hI => ⟨h m' hm hI, hR m m' hm hP⟩
  | atomic act next ih =>
    intro m' hm hI
    obtain ⟨hact, hg, hnext⟩ := h m' hm hI
    exact ⟨hact, hg, ih m' (hG _ _ hg (hR m m' hm hP)) hnext⟩
  | await ready next ih => exact fun m' hm hI hr => ih (hR m m' hm hP) (h m' hm hI hr)

/-- Two judgements on one thread, for others that do no more than either of them allows. -/
lemma Meets.and {I' : M → Prop} {R' R'' G' : M → M → Prop} (hR : ∀ m m', R m m' → R' m m')
    (hR' : ∀ m m', R m m' → R'' m m') {P Q : α → M → Prop} {p : Prog M α} {m : M}
    (h : Meets I R' G P p m) (h' : Meets I' R'' G' Q p m) :
    Meets (fun m => I m ∧ I' m) R (fun m m' => G m m' ∧ G' m m') (fun a m => P a m ∧ Q a m) p
      m := by
  induction p generalizing m with
  | done a => exact fun m' hm hI => ⟨h m' (hR m m' hm) hI.1, h' m' (hR' m m' hm) hI.2⟩
  | atomic act next ih =>
    intro m' hm hI
    obtain ⟨hact, hg, hnext⟩ := h m' (hR m m' hm) hI.1
    obtain ⟨hact', hg', hnext'⟩ := h' m' (hR' m m' hm) hI.2
    exact ⟨⟨hact, hact'⟩, ⟨hg, hg'⟩, ih m' hnext hnext'⟩
  | await ready next ih =>
    exact fun m' hm hI hr => ih (h m' (hR m m' hm) hI.1 hr) (h' m' (hR' m m' hm) hI.2 hr)

lemma Meets.pure {Q : α → M → Prop} {a : α} {m : M} (h : ∀ m', R m m' → I m' → Q a m') :
    Meets I R G Q (pure a) m := h

/-- Sequencing: the continuation starts where the first part ended. -/
lemma Meets.bind [Std.Refl R] {P : α → M → Prop} {Q : β → M → Prop} {p : Prog M α}
    {f : α → Prog M β} {m : M} (hI : I m) (hp : Meets I R G P p m)
    (hf : ∀ a m', I m' → P a m' → Meets I R G Q (f a) m') :
    Meets I R G Q (p >>= f) m := by
  change Meets I R G Q (p.bind f) m
  induction p generalizing m with
  | done a => exact hf a m hI (hp m (Std.Refl.refl m) hI)
  | atomic act next ih =>
    intro m' hm hI'
    obtain ⟨hact, hG, hnext⟩ := hp m' hm hI'
    exact ⟨hact, hG, ih m' hact hnext⟩
  | await ready next ih => exact fun m' hm hI' hr => ih hI' (hp m' hm hI' hr)

lemma Meets.load [Std.Refl G] {Q : β → M → Prop} {f : M → β} {m : M}
    (h : ∀ m', R m m' → I m' → ∀ m'', R m' m'' → I m'' → Q (f m') m'') :
    Meets I R G Q (load f) m :=
  fun m' hm hI => ⟨hI, Std.Refl.refl m', h m' hm hI⟩

lemma Meets.modify {Q : PUnit → M → Prop} {f : M → M} {m : M}
    (h : ∀ m', R m m' → I m' → I (f m') ∧ G m' (f m') ∧ ∀ m'', R (f m') m'' → I m'' → Q ⟨⟩ m'') :
    Meets I R G Q (modify f) m := h

lemma Meets.waitUntil {Q : PUnit → M → Prop} {ready : M → Bool} {m : M}
    (h : ∀ m', R m m' → I m' → ready m' = true → ∀ m'', R m' m'' → I m'' → Q ⟨⟩ m'') :
    Meets I R G Q (waitUntil ready) m := h

/-- Read, then go on from the value read. -/
lemma Meets.load_bind [Std.Refl G] {Q : β → M → Prop} {f : M → α} {k : α → Prog M β} {m : M}
    (h : ∀ m', R m m' → I m' → Meets I R G Q (k (f m')) m') :
    Meets I R G Q (Prog.load f >>= k) m :=
  fun m' hm hI => ⟨hI, Std.Refl.refl m', h m' hm hI⟩

/-- Write, then go on. -/
lemma Meets.modify_bind {Q : β → M → Prop} {f : M → M} {k : PUnit → Prog M β} {m : M}
    (h : ∀ m', R m m' → I m' → I (f m') ∧ G m' (f m') ∧ Meets I R G Q (k ⟨⟩) (f m')) :
    Meets I R G Q (Prog.modify f >>= k) m := h

/-- Wait, then go on. -/
lemma Meets.waitUntil_bind {Q : β → M → Prop} {ready : M → Bool} {k : PUnit → Prog M β} {m : M}
    (h : ∀ m', R m m' → I m' → ready m' = true → Meets I R G Q (k ⟨⟩) m') :
    Meets I R G Q (Prog.waitUntil ready >>= k) m := h

end Meets

/-! ### Threads made of given actions -/

/-- Every action of the thread is one of `A`. -/
def Uses (A : (M → M) → Prop) : Prog M α → Prop
  | done _ => True
  | atomic act next => A act ∧ ∀ m, Uses A (next m)
  | await _ next => Uses A next

section Uses

variable {A : (M → M) → Prop}

lemma Uses.bind {p : Prog M α} {f : α → Prog M β} (hp : Uses A p) (hf : ∀ a, Uses A (f a)) :
    Uses A (p >>= f) := by
  change Uses A (p.bind f)
  induction p with
  | done a => exact hf a
  | atomic act next ih => exact ⟨hp.1, fun m => ih m (hp.2 m)⟩
  | await ready next ih => exact ih hp

lemma Uses.pure (a : α) : Uses A (pure a : Prog M α) := trivial

lemma Uses.load (hid : A id) (f : M → α) : Uses A (load f) := ⟨hid, fun _ => trivial⟩

lemma Uses.modify {f : M → M} (hf : A f) : Uses A (modify f) := ⟨hf, fun _ => trivial⟩

lemma Uses.waitUntil (ready : M → Bool) : Uses A (waitUntil ready) := trivial

lemma Uses.mono {A' : (M → M) → Prop} (hA : ∀ act, A act → A' act) {p : Prog M α}
    (hp : Uses A p) : Uses A' p := by
  induction p with
  | done a => trivial
  | atomic act next ih => exact ⟨hA act hp.1, fun m => ih m (hp.2 m)⟩
  | await ready next ih => exact ih hp

/-- Actions that keep the invariant and respect the guarantee make a thread that does. -/
lemma Uses.meets {I : M → Prop} {R G : M → M → Prop}
    (hA : ∀ act, A act → ∀ m, I m → I (act m) ∧ G m (act m)) {p : Prog M α} (hp : Uses A p)
      (m : M) :
    Meets I R G (fun _ _ => True) p m := by
  induction p generalizing m with
  | done a => exact fun _ _ _ => trivial
  | atomic act next ih =>
    intro m' _ hI
    obtain ⟨hact, hG⟩ := hA act hp.1 m' hI
    exact ⟨hact, hG, ih m' (hp.2 m') (act m')⟩
  | await ready next ih => exact fun m' _ _ _ => ih hp m'

/-- The actions may need a fact that neither they nor the others destroy. -/
lemma Uses.meets_while {I P : M → Prop} {R G : M → M → Prop}
    (hR : ∀ m m', R m m' → P m → P m')
    (hA : ∀ act, A act → ∀ m, I m → P m → I (act m) ∧ G m (act m) ∧ P (act m)) {p : Prog M α}
    (hp : Uses A p) {m : M} (hP : P m) : Meets I R G (fun _ => P) p m := by
  induction p generalizing m with
  | done a => exact fun m' hm _ => hR m m' hm hP
  | atomic act next ih =>
    intro m' hm hI
    obtain ⟨hact, hG, hP'⟩ := hA act hp.1 m' hI (hR m m' hm hP)
    exact ⟨hact, hG, ih m' (hp.2 m') hP'⟩
  | await ready next ih => exact fun m' hm _ _ => ih hp (hR m m' hm hP)

end Uses

/-- Every result of the thread satisfies `Q`, whatever it finds in memory. -/
def Returns (Q : α → Prop) : Prog M α → Prop
  | done a => Q a
  | atomic _ next => ∀ m, Returns Q (next m)
  | await _ next => Returns Q next

section Returns

variable {Q : α → Prop}

lemma Returns.of_forall (hQ : ∀ a, Q a) (p : Prog M α) : Returns Q p := by
  induction p with
  | done a => exact hQ a
  | atomic act next ih => exact fun m => ih m
  | await ready next ih => exact ih

lemma Returns.pure {a : α} (h : Q a) : Returns Q (pure a : Prog M α) := h

lemma Returns.bind {P : β → Prop} {p : Prog M β} {f : β → Prog M α} (hp : Returns P p)
    (hf : ∀ b, P b → Returns Q (f b)) : Returns Q (p >>= f) := by
  change Returns Q (p.bind f)
  induction p with
  | done b => exact hf b hp
  | atomic act next ih => exact fun m => ih m (hp m)
  | await ready next ih => exact ih hp

end Returns

/-- Every action of the thread is one of `A`, and it never blocks. -/
def Straight (A : (M → M) → Prop) : Prog M α → Prop
  | done _ => True
  | atomic act next => A act ∧ ∀ m, Straight A (next m)
  | await _ _ => False

section Straight

variable {A : (M → M) → Prop}

lemma Straight.bind {p : Prog M α} {f : α → Prog M β} (hp : Straight A p)
    (hf : ∀ a, Straight A (f a)) : Straight A (p >>= f) := by
  change Straight A (p.bind f)
  induction p with
  | done a => exact hf a
  | atomic act next ih => exact ⟨hp.1, fun m => ih m (hp.2 m)⟩
  | await ready next ih => exact hp.elim

lemma Straight.pure (a : α) : Straight A (pure a : Prog M α) := trivial

lemma Straight.load (hid : A id) (f : M → α) : Straight A (load f) := ⟨hid, fun _ => trivial⟩

lemma Straight.modify {f : M → M} (hf : A f) : Straight A (modify f) := ⟨hf, fun _ => trivial⟩

lemma Straight.mono {A' : (M → M) → Prop} (hA : ∀ act, A act → A' act) {p : Prog M α}
    (hp : Straight A p) : Straight A' p := by
  induction p with
  | done a => trivial
  | atomic act next ih => exact ⟨hA act hp.1, fun m => ih m (hp.2 m)⟩
  | await ready next ih => exact hp.elim

lemma Straight.uses {p : Prog M α} (hp : Straight A p) : Uses A p := by
  induction p with
  | done a => trivial
  | atomic act next ih => exact ⟨hp.1, fun m => ih m (hp.2 m)⟩
  | await ready next ih => exact hp.elim

/-- A thread that never blocks gets to its end. -/
lemma Straight.exists_run {p : Prog M α} (hp : Straight A p) (m : M) :
    ∃ a m', p.run m = some (a, m') := by
  induction p generalizing m with
  | done a => exact ⟨a, m, rfl⟩
  | atomic act next ih => exact ih m (hp.2 m) (act m)
  | await ready next ih => exact hp.elim

lemma Straight.exists_runAmong {p : Prog M α} (hp : Straight A p) (others : List (M → M)) (m : M) :
    ∃ a m', p.runAmong others m = some (a, m') := by
  induction p generalizing others m with
  | done a => exact ⟨a, _, rfl⟩
  | atomic act next ih =>
    exact ih (others.headD id m) (hp.2 _) others.tail (act (others.headD id m))
  | await ready next ih => exact hp.elim

end Straight

/-! ### Threads over a part of the memory -/

section Within

variable {S : Type u} (get : S → M) (set : M → S → S)

/-- A thread over `M`, run over the part `get` of a larger memory. -/
def within : Prog M α → Prog S α
  | done a => done a
  | atomic act next => atomic (fun s => set (act (get s)) s) fun s => (next (get s)).within
  | await ready next => await (fun s => ready (get s)) next.within

variable {get set}

/-- What a thread keeps and guarantees over the part, it does over the whole. -/
lemma Meets.within (hget : ∀ m s, get (set m s) = m) {I : M → Prop} {R G : M → M → Prop}
    {J : S → Prop} {R' G' : S → S → Prop} (hI : ∀ s, J s → I (get s))
    (hR : ∀ s s', R' s s' → R (get s) (get s'))
    (hset : ∀ s m, J s → I m → G (get s) m → J (set m s) ∧ G' s (set m s))
    {Q : α → M → Prop} {p : Prog M α} {s : S} (h : Meets I R G Q p (get s)) :
    Meets J R' G' (fun a s => Q a (get s)) (p.within get set) s := by
  induction p generalizing s with
  | done a => exact fun s' hs hJ => h (get s') (hR _ _ hs) (hI s' hJ)
  | atomic act next ih =>
    intro s' hs hJ
    obtain ⟨hact, hG, hnext⟩ := h (get s') (hR _ _ hs) (hI s' hJ)
    obtain ⟨hJ', hG'⟩ := hset s' _ hJ hact hG
    exact ⟨hJ', hG', ih (get s') (by rw [hget]; exact hnext)⟩
  | await ready next ih =>
    exact fun s' hs hJ hr => ih (h (get s') (hR _ _ hs) (hI s' hJ) hr)

end Within

end Prog

/-! ### Pools of threads -/

variable {T M : Type u}

/-- A shared memory and what is left of every thread. -/
structure Pool (T M : Type u) where
  memory : M
  threads : T → Prog M PUnit

/-- One step of a pool: an idle thread starts an allowed program, or a thread makes its next
move. -/
inductive Pool.Step [DecidableEq T] (allowed : T → Prog M PUnit → Prop) : Pool T M → Pool T M → Prop
  | spawn {s : Pool T M} (t : T) (p : Prog M PUnit) (idle : s.threads t = .done ⟨⟩)
      (h : allowed t p) :
      Step allowed s { s with threads := Function.update s.threads t p }
  | act {s : Pool T M} (t : T) (f : M → M) (next : M → Prog M PUnit)
      (h : s.threads t = .atomic f next) :
      Step allowed s ⟨f s.memory, Function.update s.threads t (next s.memory)⟩
  | wake {s : Pool T M} (t : T) (ready : M → Bool) (next : Prog M PUnit)
      (h : s.threads t = .await ready next) (hr : ready s.memory = true) :
      Step allowed s { s with threads := Function.update s.threads t next }

/-- The pool in which nothing has started yet. -/
def Pool.start (m : M) : Pool T M := ⟨m, fun _ => .done ⟨⟩⟩

/-- Reachability from an idle pool over the memory `m`. -/
def Pool.Reachable [DecidableEq T] (allowed : T → Prog M PUnit → Prop) (m : M) (s : Pool T M) :
    Prop :=
  Relation.ReflTransGen (Pool.Step allowed) (.start m) s

section Composition

variable {I : M → Prop} {R G : T → M → M → Prop}

/-- Every thread is as good as its rely and guarantee say. -/
def Pool.Meeting (I : M → Prop) (R G : T → M → M → Prop) (s : Pool T M) : Prop :=
  I s.memory ∧ ∀ t, Prog.Meets I (R t) (G t) (fun _ _ => True) (s.threads t) s.memory

/-- Every thread is as good as its rely and guarantee say, and its own `Q` holds when it is idle. -/
def Pool.Keeping (I : M → Prop) (R G : T → M → M → Prop) (Q : T → M → Prop) (s : Pool T M) :
    Prop :=
  I s.memory ∧ ∀ t, Prog.Meets I (R t) (G t) (fun _ => Q t) (s.threads t) s.memory

lemma Pool.keeping_start {Q : T → M → Prop} {m : M} (hm : I m)
    (hQ : ∀ t m', R t m m' → I m' → Q t m') : Pool.Keeping I R G Q (Pool.start m) := ⟨hm, hQ⟩

lemma Pool.meeting_start {m : M} (hm : I m) : Pool.Meeting I R G (Pool.start m) :=
  ⟨hm, fun _ _ _ _ => trivial⟩

variable [DecidableEq T] {allowed : T → Prog M PUnit → Prop}
variable [∀ t, Std.Refl (R t)] [∀ t, IsTrans M (R t)]

/-- One step of a pool whose programs start from their thread's `Q` and come back to it. -/
lemma Pool.Keeping.step {Q : T → M → Prop}
    (hGR : ∀ t t' m m', t ≠ t' → I m → I m' → G t m m' → R t' m m')
    (hmeets : ∀ t p m, allowed t p → I m → Q t m → Prog.Meets I (R t) (G t) (fun _ => Q t) p m)
    {s s' : Pool T M} (h : s.Keeping I R G Q) (hstep : Pool.Step allowed s s') :
    s'.Keeping I R G Q := by
  obtain ⟨hI, hall⟩ := h
  cases hstep with
  | spawn t p idle h =>
    refine ⟨hI, fun t' => ?_⟩
    by_cases ht : t' = t
    · subst ht
      have hQ := hall t'
      rw [idle] at hQ
      simpa using hmeets t' p _ h hI (hQ _ (Std.Refl.refl _) hI)
    · simpa [Function.update_of_ne ht] using hall t'
  | act t f next h =>
    have ht := hall t
    rw [h] at ht
    obtain ⟨hact, hG, hnext⟩ := ht _ (Std.Refl.refl _) hI
    refine ⟨hact, fun t' => ?_⟩
    by_cases htt : t' = t
    · subst htt
      simpa using hnext
    · simpa [Function.update_of_ne htt] using
        (hall t').stable (hGR t t' _ _ (Ne.symm htt) hI hact hG)
  | wake t ready next h hr =>
    refine ⟨hI, fun t' => ?_⟩
    by_cases ht : t' = t
    · subst ht
      have hwait := hall t'
      rw [h] at hwait
      simpa using hwait _ (Std.Refl.refl _) hI hr
    · simpa [Function.update_of_ne ht] using hall t'

/-- Any number of steps of such a pool. -/
lemma Pool.Keeping.steps {Q : T → M → Prop}
    (hGR : ∀ t t' m m', t ≠ t' → I m → I m' → G t m m' → R t' m m')
    (hmeets : ∀ t p m, allowed t p → I m → Q t m → Prog.Meets I (R t) (G t) (fun _ => Q t) p m)
    {s s' : Pool T M} (h : s.Keeping I R G Q)
    (hs : Relation.ReflTransGen (Pool.Step allowed) s s') : s'.Keeping I R G Q := by
  induction hs with
  | refl => exact h
  | tail _ hstep ih => exact ih.step hGR hmeets hstep

/-- One step of a pool. -/
lemma Pool.Meeting.step
    (hGR : ∀ t t' m m', t ≠ t' → I m → I m' → G t m m' → R t' m m')
    (hmeets : ∀ t p m, allowed t p → I m → Prog.Meets I (R t) (G t) (fun _ _ => True) p m)
    {s s' : Pool T M} (h : s.Meeting I R G) (hstep : Pool.Step allowed s s') :
    s'.Meeting I R G :=
  Pool.Keeping.step (Q := fun _ _ => True) hGR (fun t p m hp hI _ => hmeets t p m hp hI) h hstep

/-- Any number of steps of a pool. -/
lemma Pool.Meeting.steps
    (hGR : ∀ t t' m m', t ≠ t' → I m → I m' → G t m m' → R t' m m')
    (hmeets : ∀ t p m, allowed t p → I m → Prog.Meets I (R t) (G t) (fun _ _ => True) p m)
    {s s' : Pool T M} (h : s.Meeting I R G)
    (hs : Relation.ReflTransGen (Pool.Step allowed) s s') : s'.Meeting I R G := by
  induction hs with
  | refl => exact h
  | tail _ hstep ih => exact ih.step hGR hmeets hstep

/-- What every guarantee respects, every run respects. -/
lemma Pool.Meeting.steps_rel
    (hGR : ∀ t t' m m', t ≠ t' → I m → I m' → G t m m' → R t' m m')
    (hmeets : ∀ t p m, allowed t p → I m → Prog.Meets I (R t) (G t) (fun _ _ => True) p m)
    {P : M → M → Prop} [Std.Refl P] [IsTrans M P] (hG : ∀ t m m', G t m m' → P m m')
    {s s' : Pool T M} (h : s.Meeting I R G)
    (hs : Relation.ReflTransGen (Pool.Step allowed) s s') : P s.memory s'.memory := by
  induction hs with
  | refl => exact Std.Refl.refl _
  | tail hs hstep ih =>
    have hmeeting := h.steps hGR hmeets hs
    cases hstep with
    | spawn t p idle hallowed => exact ih
    | act t f next hact =>
      have ht := hmeeting.2 t
      rw [hact] at ht
      exact IsTrans.trans _ _ _ ih (hG t _ _ (ht _ (Std.Refl.refl _) hmeeting.1).2.1)
    | wake t ready next hwait hr => exact ih

/-- The parallel composition rule. When every allowed program meets its own rely and guarantee, and
no thread's guarantee leaves another thread's rely, every reachable memory satisfies the invariant
and every thread is still as good as it was. -/
theorem Pool.reachable_meets
    (hGR : ∀ t t' m m', t ≠ t' → I m → I m' → G t m m' → R t' m m')
    (hmeets : ∀ t p m, allowed t p → I m → Prog.Meets I (R t) (G t) (fun _ _ => True) p m)
    {m : M} (hm : I m) {s : Pool T M} (hs : Pool.Reachable allowed m s) :
    I s.memory ∧ ∀ t, Prog.Meets I (R t) (G t) (fun _ _ => True) (s.threads t) s.memory :=
  (Pool.meeting_start hm).steps hGR hmeets hs

omit [∀ t, IsTrans M (R t)] in
/-- What thread `t` and those around it keep, a step keeps. -/
lemma Pool.Meeting.step_stable
    (hGR : ∀ t t' m m', t ≠ t' → I m → I m' → G t m m' → R t' m m') {t : T} {Q : M → Prop}
    (hR : ∀ m m', R t m m' → Q m → Q m') (hG : ∀ m m', G t m m' → Q m → Q m')
    {s s' : Pool T M} (h : s.Meeting I R G) (hstep : Pool.Step allowed s s') (hQ : Q s.memory) :
    Q s'.memory := by
  cases hstep with
  | spawn t' p idle hallowed => exact hQ
  | act t' f next hact =>
    have ht' := h.2 t'
    rw [hact] at ht'
    obtain ⟨hI', hG', -⟩ := ht' _ (Std.Refl.refl _) h.1
    by_cases ht : t = t'
    · subst ht
      exact hG _ _ hG' hQ
    · exact hR _ _ (hGR t' t _ _ (Ne.symm ht) h.1 hI' hG') hQ
  | wake t' ready next hwait hr => exact hQ

/-- A step leaves a thread as good as it was, unless the thread was idle and starts a program. -/
lemma Pool.Meeting.step_thread
    (hGR : ∀ t t' m m', t ≠ t' → I m → I m' → G t m m' → R t' m m')
    {t : T} {Q : PUnit → M → Prop} {s s' : Pool T M} (h : s.Meeting I R G)
    (hp : Prog.Meets I (R t) (G t) Q (s.threads t) s.memory) (hstep : Pool.Step allowed s s') :
    Prog.Meets I (R t) (G t) Q (s'.threads t) s'.memory ∨
      (∃ p, allowed t p) ∧ s.threads t = .done ⟨⟩ ∧ s'.memory = s.memory := by
  cases hstep with
  | spawn t' p idle hallowed =>
    by_cases ht : t = t'
    · subst ht
      exact Or.inr ⟨⟨p, hallowed⟩, idle, rfl⟩
    · exact Or.inl (by simpa [Function.update_of_ne ht] using hp)
  | act t' f next hact =>
    by_cases ht : t = t'
    · subst ht
      rw [hact] at hp
      exact Or.inl (by simpa using (hp _ (Std.Refl.refl _) h.1).2.2)
    · have ht' := h.2 t'
      rw [hact] at ht'
      obtain ⟨hI', hG', -⟩ := ht' _ (Std.Refl.refl _) h.1
      have hrely := hGR t' t _ _ (Ne.symm ht) h.1 hI' hG'
      exact Or.inl (by simpa [Function.update_of_ne ht] using hp.stable hrely)
  | wake t' ready next hwait hr =>
    by_cases ht : t = t'
    · subst ht
      rw [hwait] at hp
      exact Or.inl (by simpa using hp _ (Std.Refl.refl _) h.1 hr)
    · exact Or.inl (by simpa [Function.update_of_ne ht] using hp)

/-- A thread on its way to something that nobody destroys has got there when it is idle again. -/
theorem Pool.Meeting.established
    (hGR : ∀ t t' m m', t ≠ t' → I m → I m' → G t m m' → R t' m m')
    (hmeets : ∀ t p m, allowed t p → I m → Prog.Meets I (R t) (G t) (fun _ _ => True) p m)
    {t : T} {Q : M → Prop} (hR : ∀ m m', R t m m' → Q m → Q m')
    (hG : ∀ m m', G t m m' → Q m → Q m') {s s' : Pool T M} (h : s.Meeting I R G)
    (hp : Prog.Meets I (R t) (G t) (fun _ => Q) (s.threads t) s.memory)
    (hs : Relation.ReflTransGen (Pool.Step allowed) s s') (hidle : s'.threads t = .done ⟨⟩) :
    Q s'.memory := by
  suffices hgoal : Prog.Meets I (R t) (G t) (fun _ => Q) (s'.threads t) s'.memory ∨ Q s'.memory by
    have hI := (h.steps hGR hmeets hs).1
    rcases hgoal with hgoal | hgoal
    · rw [hidle] at hgoal
      exact hgoal _ (Std.Refl.refl _) hI
    · exact hgoal
  clear hidle
  induction hs with
  | refl => exact Or.inl hp
  | tail hs hstep ih =>
    have hmeeting := h.steps hGR hmeets hs
    rcases ih with hQ | hQ
    · refine (hmeeting.step_thread hGR hQ hstep).imp_right ?_
      rintro ⟨-, idle, hmem⟩
      rw [idle] at hQ
      rw [hmem]
      exact hQ _ (Std.Refl.refl _) hmeeting.1
    · exact Or.inr (hmeeting.step_stable hGR hR hG hstep hQ)

/-- A thread that starts nothing more has delivered when it is idle. -/
theorem Pool.Meeting.delivers
    (hGR : ∀ t t' m m', t ≠ t' → I m → I m' → G t m m' → R t' m m')
    (hmeets : ∀ t p m, allowed t p → I m → Prog.Meets I (R t) (G t) (fun _ _ => True) p m)
    {t : T} (hnot : ∀ p, ¬ allowed t p) {Q : M → Prop} {s s' : Pool T M} (h : s.Meeting I R G)
    (hp : Prog.Meets I (R t) (G t) (fun _ => Q) (s.threads t) s.memory)
    (hs : Relation.ReflTransGen (Pool.Step allowed) s s') (hidle : s'.threads t = .done ⟨⟩) :
    Q s'.memory := by
  suffices hgoal : Prog.Meets I (R t) (G t) (fun _ => Q) (s'.threads t) s'.memory by
    rw [hidle] at hgoal
    exact hgoal _ (Std.Refl.refl _) (h.steps hGR hmeets hs).1
  clear hidle
  induction hs with
  | refl => exact hp
  | tail hs hstep ih =>
    refine ((h.steps hGR hmeets hs).step_thread hGR ih hstep).resolve_right ?_
    rintro ⟨⟨p, hallowed⟩, -⟩
    exact hnot p hallowed

end Composition

/-! ### Threads that run alone -/

/-- A triple speaks about the run of the thread alone as well. -/
lemma Prog.Meets.of_run {I : M → Prop} {R G : M → M → Prop} [Std.Refl R] {α : Type u}
    {Q : α → M → Prop} {p : Prog M α} {m m' : M} {a : α} (h : Prog.Meets I R G Q p m) (hI : I m)
    (hrun : p.run m = some (a, m')) : I m' ∧ Q a m' := by
  induction p generalizing m with
  | done b =>
    obtain ⟨rfl, rfl⟩ := Prod.mk.inj (Option.some.inj hrun)
    exact ⟨hI, h _ (Std.Refl.refl _) hI⟩
  | atomic act next ih =>
    obtain ⟨hact, -, hnext⟩ := h m (Std.Refl.refl m) hI
    exact ih m hnext hact hrun
  | await ready next ih =>
    simp only [Prog.run] at hrun
    split_ifs at hrun with hr
    exact ih (h m (Std.Refl.refl m) hI hr) hI hrun

/-- Others that keep to the rely, before the first action of a thread. -/
lemma Prog.seen_of_forall {I : M → Prop} {R : M → M → Prop} [Std.Refl R] {others : List (M → M)}
    (hothers : ∀ act ∈ others, ∀ m, I m → R m (act m) ∧ I (act m)) {m : M} (hI : I m) :
    R m (others.headD id m) ∧ I (others.headD id m) := by
  cases others with
  | nil => exact ⟨Std.Refl.refl m, hI⟩
  | cons act others => exact hothers act List.mem_cons_self m hI

/-- What holds when a thread has run among others that keep to its rely. -/
lemma Prog.Meets.of_runAmong {I : M → Prop} {R G : M → M → Prop} [Std.Refl R] [IsTrans M R]
    {α : Type u} {Q : α → M → Prop} {p : Prog M α} {others : List (M → M)} {m m' : M} {a : α}
    (h : Prog.Meets I R G Q p m) (hI : I m)
    (hothers : ∀ act ∈ others, ∀ m, I m → R m (act m) ∧ I (act m))
    (hrun : p.runAmong others m = some (a, m')) : Q a m' := by
  induction p generalizing others m with
  | done b =>
    obtain ⟨rfl, rfl⟩ := Prod.mk.inj (Option.some.inj hrun)
    have hall : R m (others.foldl (fun m act => act m) m) ∧
        I (others.foldl (fun m act => act m) m) := by
      refine List.foldlRecOn (motive := fun m' => R m m' ∧ I m') others _ ⟨Std.Refl.refl m, hI⟩
        fun m' hm act hact => ?_
      obtain ⟨hR, hI'⟩ := hothers act hact m' hm.2
      exact ⟨IsTrans.trans _ _ _ hm.1 hR, hI'⟩
    exact h _ hall.1 hall.2
  | atomic act next ih =>
    obtain ⟨hR, hseen⟩ := Prog.seen_of_forall hothers hI
    obtain ⟨hI', -, hnext⟩ := h _ hR hseen
    exact ih _ hnext hI' (fun act hact => hothers act (List.mem_of_mem_tail hact)) hrun
  | await ready next ih =>
    obtain ⟨hR, hseen⟩ := Prog.seen_of_forall hothers hI
    obtain ⟨hready, hrun⟩ := Option.ite_none_right_eq_some.mp hrun
    exact ih (h _ hR hseen hready) hseen (fun act hact => hothers act (List.mem_of_mem_tail hact))
      hrun

section Alone

variable [DecidableEq T] {allowed : T → Prog M PUnit → Prop}

variable (allowed)

lemma Pool.step_atomic (m : M) (threads : T → Prog M PUnit) (t : T) (f : M → M)
    (next : M → Prog M PUnit) :
    Pool.Step allowed ⟨m, Function.update threads t (.atomic f next)⟩
      ⟨f m, Function.update threads t (next m)⟩ := by
  have hstep : Pool.Step allowed ⟨m, Function.update threads t (.atomic f next)⟩ ⟨f m,
      Function.update (Function.update threads t (.atomic f next)) t (next m)⟩ :=
    .act t f next (Function.update_self _ _ _)
  rwa [Function.update_idem] at hstep

lemma Pool.step_await {m : M} {r : M → Bool} (hr : r m = true) (threads : T → Prog M PUnit)
    (t : T) (next : Prog M PUnit) :
    Pool.Step allowed ⟨m, Function.update threads t (.await r next)⟩
      ⟨m, Function.update threads t next⟩ := by
  have hstep : Pool.Step allowed ⟨m, Function.update threads t (.await r next)⟩
      ⟨m, Function.update (Function.update threads t (.await r next)) t next⟩ :=
    .wake t r next (Function.update_self _ _ _) hr
  rwa [Function.update_idem] at hstep

/-- What a thread does alone, it can do in a pool. -/
lemma Pool.steps_of_run {p : Prog M PUnit} {m m' : M} (hrun : p.run m = some (⟨⟩, m')) (t : T)
    (threads : T → Prog M PUnit) :
    Relation.ReflTransGen (Pool.Step allowed) ⟨m, Function.update threads t p⟩
      ⟨m', Function.update threads t (.done ⟨⟩)⟩ := by
  induction p generalizing m with
  | done a =>
    obtain ⟨-, rfl⟩ := Prod.mk.inj (Option.some.inj hrun)
    exact .refl
  | atomic act next ih => exact .head (Pool.step_atomic allowed m threads t act next) (ih m hrun)
  | await ready next ih =>
    simp only [Prog.run] at hrun
    split_ifs at hrun with hr
    exact .head (Pool.step_await allowed hr threads t next) (ih hrun)

variable {allowed}

/-- An idle thread may run an allowed program to its end. -/
lemma Pool.steps_of_spawn {t : T} {p : Prog M PUnit} (hp : allowed t p) {m m' : M}
    (hrun : p.run m = some (⟨⟩, m')) {threads : T → Prog M PUnit} (hidle : threads t = .done ⟨⟩) :
    Relation.ReflTransGen (Pool.Step allowed) ⟨m, threads⟩ ⟨m', threads⟩ := by
  have h := (Relation.ReflTransGen.single (Pool.Step.spawn (s := ⟨m, threads⟩) t p hidle hp)).trans
    (Pool.steps_of_run allowed hrun t threads)
  rwa [← hidle, Function.update_eq_self] at h

/-- More programs allow more runs. -/
lemma Pool.steps_mono {allowed' : T → Prog M PUnit → Prop}
    (h : ∀ t p, allowed t p → allowed' t p) {s s' : Pool T M}
    (hs : Relation.ReflTransGen (Pool.Step allowed) s s') :
    Relation.ReflTransGen (Pool.Step allowed') s s' := by
  refine Relation.ReflTransGen.mono (fun s s' hstep => ?_) _ _ hs
  cases hstep with
  | spawn t p idle hp => exact .spawn t p idle (h t p hp)
  | act t f next hact => exact .act t f next hact
  | wake t ready next hwait hr => exact .wake t ready next hwait hr

end Alone

/-! ### Schedules -/

section Schedule

variable [DecidableEq T]

/-- Thread `t` starts `p`, if it is idle. -/
def Pool.launch (t : T) (p : Prog M PUnit) (s : Pool T M) : Pool T M :=
  match s.threads t with
  | .done _ => { s with threads := Function.update s.threads t p }
  | _       => s

/-- Thread `t` makes its next move, if it has one and is not blocked. -/
def Pool.turn (t : T) (s : Pool T M) : Pool T M :=
  match s.threads t with
  | .done _            => s
  | .atomic f next     => ⟨f s.memory, Function.update s.threads t (next s.memory)⟩
  | .await ready next  =>
    if ready s.memory then { s with threads := Function.update s.threads t next } else s

/-- Threads start and move in a given order. -/
def Pool.play : List (T × Option (Prog M PUnit)) → Pool T M → Pool T M
  | [], s                         => s
  | (t, some p) :: schedule, s    => play schedule (s.launch t p)
  | (t, none) :: schedule, s      => play schedule (s.turn t)

variable {allowed : T → Prog M PUnit → Prop}

lemma Pool.steps_launch {t : T} {p : Prog M PUnit} (hp : allowed t p) (s : Pool T M) :
    Relation.ReflTransGen (Pool.Step allowed) s (s.launch t p) := by
  unfold launch
  split
  · exact .single (.spawn t p ‹_› hp)
  · exact .refl

lemma Pool.steps_turn (t : T) (s : Pool T M) :
    Relation.ReflTransGen (Pool.Step allowed) s (s.turn t) := by
  unfold turn
  split
  · exact .refl
  · exact .single (.act t _ _ ‹_›)
  · split_ifs with hr
    · exact .single (.wake t _ _ ‹_› hr)
    · exact .refl

/-- What a schedule of allowed programs leads to is reached. -/
lemma Pool.steps_play {schedule : List (T × Option (Prog M PUnit))}
    (hallowed : ∀ t p, (t, some p) ∈ schedule → allowed t p) (s : Pool T M) :
    Relation.ReflTransGen (Pool.Step allowed) s (Pool.play schedule s) := by
  induction schedule generalizing s with
  | nil => exact .refl
  | cons move schedule ih =>
    have hrest := ih fun t p h => hallowed t p (List.mem_cons_of_mem _ h)
    obtain ⟨t, _ | p⟩ := move
    · exact (Pool.steps_turn t s).trans (hrest _)
    · exact (Pool.steps_launch (hallowed t p List.mem_cons_self) s).trans (hrest _)

end Schedule

/-! ### Pools whose threads have something to deliver -/

/-- One step of a pool in which no thread starts anything. -/
def Pool.Move [DecidableEq T] : Pool T M → Pool T M → Prop := Pool.Step fun _ _ => False

section Promising

variable {I : M → Prop} {R : M → M → Prop} {Q Q' : T → M → Prop}

/-- The memory satisfies `I`, and each thread is on its way to its own `Q`. -/
def Pool.Promising (I : M → Prop) (R : M → M → Prop) (Q : T → M → Prop) (s : Pool T M) : Prop :=
  I s.memory ∧ ∀ t, Prog.Meets I R R (fun _ => Q t) (s.threads t) s.memory

/-- The memory may change from outside like the threads change it. -/
lemma Pool.Promising.outside [IsTrans M R] {s : Pool T M} (h : s.Promising I R Q) {m : M}
    (hI : I m) (hR : R s.memory m) : Pool.Promising I R Q { s with memory := m } :=
  ⟨hI, fun t => (h.2 t).stable hR⟩

/-- A thread that gets to its end has delivered. -/
lemma Pool.Promising.delivered [Std.Refl R] {s : Pool T M} (h : s.Promising I R Q) {t : T} {m : M}
    (hrun : (s.threads t).run s.memory = some (⟨⟩, m)) : I m ∧ Q t m := (h.2 t).of_run h.1 hrun

variable [DecidableEq T]

/-- A thread that starts a program may promise something else. -/
lemma Pool.Promising.spawn {s : Pool T M} (h : s.Promising I R Q) {t : T} {p : Prog M PUnit}
    (hp : Prog.Meets I R R (fun _ => Q' t) p s.memory) (hQ : ∀ t' ≠ t, Q' t' = Q t') :
    Pool.Promising I R Q' { s with threads := Function.update s.threads t p } := by
  refine ⟨h.1, fun t' => ?_⟩
  by_cases ht : t' = t
  · subst ht
    simpa using hp
  · simpa [Function.update_of_ne ht, hQ t' ht] using h.2 t'

lemma Pool.Promising.move [Std.Refl R] [IsTrans M R] {s s' : Pool T M} (h : s.Promising I R Q)
    (hstep : s.Move s') : s'.Promising I R Q ∧ R s.memory s'.memory := by
  cases hstep with
  | spawn t p idle hallowed => exact hallowed.elim
  | act t f next hact =>
    have ht := h.2 t
    rw [hact] at ht
    obtain ⟨hI, hR, hnext⟩ := ht _ (Std.Refl.refl _) h.1
    refine ⟨⟨hI, fun t' => ?_⟩, hR⟩
    by_cases htt : t' = t
    · subst htt
      simpa using hnext
    · simpa [Function.update_of_ne htt] using (h.2 t').stable hR
  | wake t ready next hwait hr =>
    refine ⟨⟨h.1, fun t' => ?_⟩, Std.Refl.refl _⟩
    by_cases htt : t' = t
    · subst htt
      have ht := h.2 t'
      rw [hwait] at ht
      simpa using ht _ (Std.Refl.refl _) h.1 hr
    · simpa [Function.update_of_ne htt] using h.2 t'

end Promising

section Moves

variable [DecidableEq T] {A : T → (M → M) → Prop}

/-- A move is an action of one of the threads, or changes nothing. -/
lemma Pool.Move.straight {s s' : Pool T M} (h : ∀ t, Prog.Straight (A t) (s.threads t))
    (hstep : s.Move s') : (∀ t, Prog.Straight (A t) (s'.threads t)) ∧
      ∃ t act, A t act ∧ s'.memory = act s.memory := by
  cases hstep with
  | spawn t p idle hallowed => exact hallowed.elim
  | act t f next hact =>
    have ht := h t
    rw [hact] at ht
    refine ⟨fun t' => ?_, t, f, ht.1, rfl⟩
    by_cases htt : t' = t
    · subst htt
      simpa using ht.2 s.memory
    · simpa [Function.update_of_ne htt] using h t'
  | wake t ready next hwait hr =>
    have ht := h t
    rw [hwait] at ht
    exact ht.elim

/-- A thread that never blocks may be run to its end. -/
lemma Pool.moves_of_straight {A : (M → M) → Prop} {s : Pool T M} {t : T}
    (h : Prog.Straight A (s.threads t)) :
    ∃ m, (s.threads t).run s.memory = some (⟨⟩, m) ∧ Relation.ReflTransGen Pool.Move s
      ⟨m, Function.update s.threads t (.done ⟨⟩)⟩ := by
  obtain ⟨_, m, hrun⟩ := h.exists_run s.memory
  have hsteps := Pool.steps_of_run (fun _ _ => False) hrun t s.threads
  rw [Function.update_eq_self] at hsteps
  exact ⟨m, hrun, hsteps⟩

end Moves

end SdrUdp.Core
