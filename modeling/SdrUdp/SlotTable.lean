import SdrUdp.Connection
import SdrUdp.Core.Fold
import Mathlib.Data.List.Induction

/-!
# Histories of the message table

Any calls on the message table of one connection, in any order. The generation of a slot comes from
the slot's own counter, which neither completing nor releasing a message touches. The generation
that a caller requests is only compared, and with the one that the slot was given last.
-/

namespace SdrUdp

open SdrUdp.Core

/-- A call on the message table. `markCompleted` is the assignment of COMPLETED to `state` that the
erasure code makes through its pointer to the message. -/
inductive SlotOp where
  | allocate (msgId : ℕ) (generation : U32)
  | get (msgId : ℕ)
  | complete (msgId : ℕ)
  | release (msgId : ℕ)
  | markCompleted (msgId : ℕ)
  deriving DecidableEq

namespace SlotOp

/-- The message id that the call is about. -/
def msgId : SlotOp → ℕ
  | allocate i _    => i
  | get i           => i
  | complete i      => i
  | release i       => i
  | markCompleted i => i

end SlotOp

namespace ConnectionContext

/-- `allocate_message_slot` as a call: the pointer it returns, and the connection. -/
def allocate (c : ConnectionContext) (msgId : ℕ) (generation : U32) :
    Option MessageContext × ConnectionContext :=
  match c.allocateMessageSlot msgId generation with
  | none         => (none, c)
  | some (m, c') => (some m, c')

/-- One call. -/
def apply (c : ConnectionContext) : SlotOp → ConnectionContext
  | .allocate i generation => (c.allocate i generation).2
  | .get _                 => c
  | .complete i            => c.completeMessage i
  | .release i             => c.releaseMessage i
  | .markCompleted i       =>
    { c with msgTable :=
        Function.update c.msgTable i ((c.msgTable i).map fun m => { m with state := .completed }) }

/-- What a call allocates in slot `i`: the generation that was requested and the one that was
given. -/
def grant (i : ℕ) (c : ConnectionContext) : SlotOp → List (U32 × U32)
  | .allocate j generation =>
    if j = i then (c.allocate j generation).1.toList.map fun m => (generation, m.generation) else []
  | _                      => []

/-- The successful allocations of slot `i` in a sequence of calls. -/
def grants (i : ℕ) (ops : List SlotOp) (c : ConnectionContext) : List (U32 × U32) :=
  emitted apply (grant i) ops c

/-- Slot `i` was allocated and not released since. -/
def HeldSince (c : ConnectionContext) (ops : List SlotOp) (i : ℕ) : Prop :=
  ∃ before generation after, ops = before ++ .allocate i generation :: after ∧
    ((before.foldl apply c).allocate i generation).1.isSome ∧ .release i ∉ after

/-! ### What a call does to a slot -/

/-- A call on another id changes nothing in the slot. -/
lemma apply_of_ne (c : ConnectionContext) {op : SlotOp} {i : ℕ} (h : i ≠ op.msgId) :
    (c.apply op).msgTable i = c.msgTable i ∧
      (c.apply op).generationCounters i = c.generationCounters i ∧ c.grant i op = [] := by
  cases op with
  | allocate j generation =>
    refine ⟨?_, ?_, if_neg (Ne.symm h)⟩
    · simp only [apply, allocate]
      split
      · rfl
      · rename_i hslot
        obtain ⟨-, -, -, -, -, -, rfl⟩ := allocateMessageSlot_eq_some hslot
        exact Function.update_of_ne h _ _
    · simp only [apply, allocate]
      split
      · rfl
      · rename_i hslot
        obtain ⟨-, -, -, -, -, -, rfl⟩ := allocateMessageSlot_eq_some hslot
        exact Function.update_of_ne h _ _
  | get j => exact ⟨rfl, rfl, rfl⟩
  | complete j =>
    refine ⟨?_, by rw [apply, completeMessage_generationCounters], rfl⟩
    simp only [apply, completeMessage]
    split_ifs
    · rfl
    · exact Function.update_of_ne h _ _
  | release j =>
    refine ⟨?_, by rw [apply, releaseMessage_generationCounters], rfl⟩
    simp only [apply, releaseMessage]
    split_ifs
    · rfl
    · exact Function.update_of_ne h _ _
  | markCompleted j => exact ⟨Function.update_of_ne h _ _, rfl, rfl⟩

/-- A change of a message that keeps its generation and does not empty its slot. -/
structure KeepsLive (f : MessageContext → MessageContext) : Prop where
  generation : ∀ m, (f m).generation = m.generation
  state : ∀ m, m.state ≠ .nullState → (f m).state ≠ .nullState

lemma keepsLive_id : KeepsLive id := ⟨fun _ => rfl, fun _ h => h⟩

/-- All that a call can do to slot `i`. -/
inductive SlotEffect (c : ConnectionContext) (i : ℕ) : SlotOp → ConnectionContext → Prop
  | granted (generation : U32) (m : MessageContext) (c' : ConnectionContext)
      (h : c.allocateMessageSlot i generation = some (m, c')) :
      SlotEffect c i (.allocate i generation) c'
  | released (c' : ConnectionContext)
      (table : c'.msgTable i = if i < maxMessages then none else c.msgTable i)
      (counter : c'.generationCounters i = c.generationCounters i) :
      SlotEffect c i (.release i) c'
  | kept (op : SlotOp) (c' : ConnectionContext) (f : MessageContext → MessageContext)
      (hf : KeepsLive f) (hop : op ≠ .release i) (hgrant : c.grant i op = [])
      (table : c'.msgTable i = (c.msgTable i).map f)
      (counter : c'.generationCounters i = c.generationCounters i) : SlotEffect c i op c'

lemma slotEffect (c : ConnectionContext) (i : ℕ) (op : SlotOp) :
    SlotEffect c i op (c.apply op) := by
  by_cases hi : i = op.msgId
  · cases op with
    | allocate j generation =>
      obtain rfl : i = j := hi
      cases hslot : c.allocateMessageSlot i generation with
      | none =>
        refine .kept _ _ id keepsLive_id (by simp) ?_ ?_ ?_
        · simp [grant, allocate, hslot]
        · simp [apply, allocate, hslot]
        · simp [apply, allocate, hslot]
      | some result =>
        have happly : c.apply (.allocate i generation) = result.2 := by
          simp [apply, allocate, hslot]
        rw [happly]
        exact .granted generation result.1 result.2 hslot
    | get j => exact .kept _ _ id keepsLive_id (by simp) rfl (by simp [apply]) rfl
    | complete j =>
      obtain rfl : i = j := hi
      have hcounter : (c.apply (.complete i)).generationCounters i = c.generationCounters i := by
        rw [apply, completeMessage_generationCounters]
      by_cases hlt : maxMessages ≤ i
      · exact .kept _ _ id keepsLive_id (by simp) rfl (by simp [apply, completeMessage, hlt])
          hcounter
      · refine .kept _ _ retire ⟨fun _ => rfl, fun _ _ => by simp [retire]⟩ (by simp) rfl ?_
          hcounter
        simp [apply, completeMessage, hlt]
    | release j =>
      obtain rfl : i = j := hi
      refine .released _ ?_ (by rw [apply, releaseMessage_generationCounters])
      by_cases hlt : i < maxMessages
      · simp [apply, releaseMessage, hlt, not_le.mpr hlt]
      · simp [apply, releaseMessage, hlt, not_lt.mp hlt]
    | markCompleted j =>
      obtain rfl : i = j := hi
      refine .kept _ _ (fun m => { m with state := .completed }) ⟨fun _ => rfl, ?_⟩ (by simp) rfl
        (by simp [apply]) rfl
      exact fun _ _ h => MessageState.noConfusion h
  · obtain ⟨htable, hcounter, hgrant⟩ := c.apply_of_ne hi
    refine .kept _ _ id keepsLive_id ?_ hgrant (by rw [htable, Option.map_id_fun, id]) hcounter
    rintro rfl
    exact hi rfl

/-! ### The invariant of a history -/

lemma heldSince_append (c : ConnectionContext) (ops : List SlotOp) (op : SlotOp) (i : ℕ) :
    c.HeldSince (ops ++ [op]) i ↔
      (∃ generation, op = .allocate i generation ∧
        ((ops.foldl apply c).allocate i generation).1.isSome) ∨
        c.HeldSince ops i ∧ op ≠ .release i := by
  constructor
  · rintro ⟨before, generation, after, hops, hsome, hafter⟩
    rcases List.eq_nil_or_concat after with rfl | ⟨after, last, rfl⟩
    · obtain ⟨rfl, hop⟩ := List.append_inj' hops rfl
      exact Or.inl ⟨generation, (List.cons.inj hop).1, hsome⟩
    · rw [List.concat_eq_append, ← List.cons_append, ← List.append_assoc] at hops
      obtain ⟨rfl, hop⟩ := List.append_inj' hops rfl
      obtain rfl := (List.cons.inj hop).1
      rw [List.concat_eq_append, List.mem_append, not_or, List.mem_singleton] at hafter
      exact Or.inr ⟨⟨before, generation, after, rfl, hsome, hafter.1⟩, Ne.symm hafter.2⟩
  · rintro (⟨generation, rfl, hsome⟩ | ⟨⟨before, generation, after, rfl, hsome, hafter⟩, hop⟩)
    · exact ⟨ops, generation, [], rfl, hsome, by simp⟩
    · refine ⟨before, generation, after ++ [op], by simp, hsome, ?_⟩
      rw [List.mem_append, not_or, List.mem_singleton]
      exact ⟨hafter, Ne.symm hop⟩

lemma grants_append (c : ConnectionContext) (ops : List SlotOp) (op : SlotOp) (i : ℕ) :
    grants i (ops ++ [op]) c = grants i ops c ++ (ops.foldl apply c).grant i op := by
  rw [grants, emitted_append, grants, emitted, emitted, List.append_nil]

/-- Slot `i` of a connection, given what was allocated in it and whether it is held. Generations are
handed out one after the other from 1 on. -/
structure SlotInv (c : ConnectionContext) (i : ℕ) (granted : List (U32 × U32)) (held : Prop) :
    Prop where
  given : granted.map Prod.snd = (List.range granted.length).map fun k => BitVec.ofNat 32 (k + 1)
  counter : c.generationCounters i = BitVec.ofNat 32 (granted.length + 1)
  held : (c.msgTable i).isSome ↔ held
  live : ∀ m, c.msgTable i = some m → m.state ≠ .nullState
  generation : ∀ m, c.msgTable i = some m → m.generation = BitVec.ofNat 32 granted.length
  range : maxMessages ≤ i → c.msgTable i = none

/-- A connection whose table was never used. -/
def unused (connectionId : U32) (params : ConnectionParams) : ConnectionContext :=
  fresh.initializeContext connectionId params

lemma slotInv_unused (connectionId : U32) (params : ConnectionParams) (i : ℕ) :
    SlotInv (unused connectionId params) i (grants i [] (unused connectionId params))
      ((unused connectionId params).HeldSince [] i) where
  given := rfl
  counter := rfl
  held := by
    refine iff_of_false (by simp [unused, initializeContext, fresh]) ?_
    rintro ⟨before, generation, after, hops, -⟩
    exact absurd hops (by simp)
  live m hm := by simp [unused, initializeContext, fresh] at hm
  generation m hm := by simp [unused, initializeContext, fresh] at hm
  range _ := rfl

section SlotInv

variable {c c' : ConnectionContext} {i : ℕ} {given : List (U32 × U32)} {held : Prop}

/-- A successful allocation hands out the next generation. -/
lemma SlotInv.granted (h : SlotInv c i given held) {generation : U32} {m : MessageContext}
    (hslot : c.allocateMessageSlot i generation = some (m, c')) :
    SlotInv c' i (given ++ [(generation, m.generation)]) True := by
  obtain ⟨hlt, -, hgen, hstate, -, -, rfl⟩ := allocateMessageSlot_eq_some hslot
  have htable : Function.update c.msgTable i (some m) i = some m := Function.update_self _ _ _
  refine ⟨?_, ?_, ?_, ?_, ?_, fun hle => absurd hle (not_le.mpr hlt)⟩
  · simp only [List.map_append, h.given, List.length_append, List.length_singleton,
      List.range_succ, List.map_cons, List.map_nil, hgen, h.counter]
  · refine (Function.update_self _ _ _).trans ?_
    rw [h.counter, List.length_append, List.length_singleton]
    exact (BitVec.ofNat_add _ 1).symm
  · exact iff_of_true (Option.isSome_iff_exists.mpr ⟨m, htable⟩) trivial
  · intro m' hm'
    obtain rfl := Option.some.inj (htable.symm.trans hm')
    rw [hstate]
    exact MessageState.noConfusion
  · intro m' hm'
    obtain rfl := Option.some.inj (htable.symm.trans hm')
    rw [hgen, h.counter, List.length_append, List.length_singleton]

/-- A released slot is empty. -/
lemma SlotInv.released (h : SlotInv c i given held) (htable : c'.msgTable i = none)
    (hcounter : c'.generationCounters i = c.generationCounters i) :
    SlotInv c' i given False where
  given := h.given
  counter := hcounter.trans h.counter
  held := by rw [htable]; exact iff_of_false Bool.false_ne_true not_false
  live m hm := absurd (htable.symm.trans hm) (by simp)
  generation m hm := absurd (htable.symm.trans hm) (by simp)
  range _ := htable

lemma SlotInv.kept (h : SlotInv c i given held) {f : MessageContext → MessageContext}
    (hf : KeepsLive f) (htable : c'.msgTable i = (c.msgTable i).map f)
    (hcounter : c'.generationCounters i = c.generationCounters i) :
    SlotInv c' i given held where
  given := h.given
  counter := hcounter.trans h.counter
  held := by rw [htable, Option.isSome_map]; exact h.held
  live m' hm' := by
    obtain ⟨m, hm, rfl⟩ := Option.map_eq_some_iff.mp (htable.symm.trans hm')
    exact hf.state m (h.live m hm)
  generation m' hm' := by
    obtain ⟨m, hm, rfl⟩ := Option.map_eq_some_iff.mp (htable.symm.trans hm')
    exact (hf.generation m).trans (h.generation m hm)
  range hle := by rw [htable, h.range hle]; rfl

lemma SlotInv.congr {held' : Prop} (h : SlotInv c i given held) (hheld : held ↔ held') :
    SlotInv c i given held' := { h with held := h.held.trans hheld }

end SlotInv

lemma SlotInv.apply {c c₀ : ConnectionContext} {ops : List SlotOp} {i : ℕ}
    (hc : c = ops.foldl apply c₀) (h : SlotInv c i (grants i ops c₀) (c₀.HeldSince ops i))
    (op : SlotOp) :
    SlotInv (c.apply op) i (grants i (ops ++ [op]) c₀) (c₀.HeldSince (ops ++ [op]) i) := by
  subst hc
  rw [grants_append, heldSince_append]
  generalize ops.foldl ConnectionContext.apply c₀ = c at *
  cases c.slotEffect i op with
  | granted generation m c' hslot =>
    have hgrant : c.grant i (.allocate i generation) = [(generation, m.generation)] := by
      simp [grant, allocate, hslot]
    have hsome : (c.allocate i generation).1.isSome := by simp [allocate, hslot]
    rw [hgrant]
    exact (h.granted hslot).congr (iff_of_true trivial (Or.inl ⟨generation, rfl, hsome⟩))
  | released _ table counter =>
    have hnone : (c.apply (.release i)).msgTable i = none := by
      rw [table]
      split_ifs with hlt
      · rfl
      · exact h.range (not_lt.mp hlt)
    have hgrant : c.grant i (.release i) = [] := rfl
    rw [hgrant, List.append_nil]
    refine (h.released hnone counter).congr (iff_of_false not_false ?_)
    rintro (⟨generation, hop, -⟩ | ⟨-, hop⟩)
    · exact absurd hop (by simp)
    · exact hop rfl
  | kept _ _ f hf hop hgrant table counter =>
    have hrefused : ¬ ∃ generation, op = .allocate i generation ∧
        (c.allocate i generation).1.isSome := by
      rintro ⟨generation, rfl, hsome⟩
      obtain ⟨m, hm⟩ := Option.isSome_iff_exists.mp hsome
      simp [grant, hm] at hgrant
    rw [hgrant, List.append_nil, or_iff_right hrefused, and_iff_left hop]
    exact h.kept hf table counter

/-- The invariant holds after any calls. -/
lemma slotInv_run (connectionId : U32) (params : ConnectionParams) (ops : List SlotOp) (i : ℕ) :
    SlotInv (ops.foldl apply (unused connectionId params)) i
      (grants i ops (unused connectionId params))
      ((unused connectionId params).HeldSince ops i) := by
  induction ops using List.reverseRecOn with
  | nil => exact slotInv_unused connectionId params i
  | append_singleton ops op ih =>
    rw [List.foldl_append]
    exact ih.apply rfl op

/-! ### The discipline of the table -/

lemma ofNat_range_pairwise {n : ℕ} (hn : n < 2 ^ 32) :
    ((List.range n).map fun k => BitVec.ofNat 32 (k + 1)).Pairwise (· < ·) := by
  rw [List.pairwise_map]
  refine List.pairwise_lt_range.imp_of_mem ?_
  intro a b ha hb hab
  rw [List.mem_range] at ha hb
  rw [BitVec.lt_def, BitVec.toNat_ofNat, BitVec.toNat_ofNat, Nat.mod_eq_of_lt (by omega),
    Nat.mod_eq_of_lt (by omega)]
  exact Nat.succ_lt_succ hab

/-- The message table after the calls `ops` on the connection `c₀`. -/
structure Disciplined (c₀ : ConnectionContext) (ops : List SlotOp) : Prop where
  /-- An ACTIVE slot or an id beyond the table is refused, and nothing changes. -/
  refuses : ∀ i generation, maxMessages ≤ i ∨ (∃ m, (ops.foldl apply c₀).msgTable i = some m ∧
    m.state = .active) → (ops.foldl apply c₀).allocate i generation = (none, ops.foldl apply c₀)
  /-- The generations given in one slot increase. -/
  increasing : ∀ i, (grants i ops c₀).length < 2 ^ 32 →
    ((grants i ops c₀).map Prod.snd).Pairwise (· < ·)
  /-- A call on one id changes no other slot. -/
  separate : ∀ op i, i ≠ op.msgId →
    ((ops.foldl apply c₀).apply op).msgTable i = (ops.foldl apply c₀).msgTable i ∧
      ((ops.foldl apply c₀).apply op).generationCounters i
        = (ops.foldl apply c₀).generationCounters i
  /-- `get_message` finds the slots that were allocated and not released since. -/
  getMessage : ∀ i, ((ops.foldl apply c₀).getMessage i).isSome ↔ c₀.HeldSince ops i

lemma allocate_refused (c : ConnectionContext) {i : ℕ} (generation : U32)
    (h : maxMessages ≤ i ∨ ∃ m, c.msgTable i = some m ∧ m.state = .active) :
    c.allocate i generation = (none, c) := by
  have hnone : c.allocateMessageSlot i generation = none := by
    unfold allocateMessageSlot
    rcases h with hle | ⟨m, hm, hactive⟩
    · exact if_pos hle
    · split_ifs with hle hbusy
      · rfl
      · rfl
      · simp [slotBusy, hm, hactive] at hbusy
  simp [allocate, hnone]

/-- Whatever is called on a connection, its message table is disciplined. -/
theorem slotTable_disciplined (connectionId : U32) (params : ConnectionParams)
    (ops : List SlotOp) : Disciplined (unused connectionId params) ops where
  refuses _ generation h := allocate_refused _ generation h
  increasing i hlen := by
    rw [(slotInv_run connectionId params ops i).given]
    exact ofNat_range_pairwise hlen
  separate op _ h := ⟨(apply_of_ne _ h).1, (apply_of_ne _ h).2.1⟩
  getMessage i := by
    have hinv := slotInv_run connectionId params ops i
    rw [← hinv.held]
    rcases Nat.lt_or_ge i maxMessages with hlt | hge
    · rw [getMessage_of_lt _ hlt]
      cases hm : (ops.foldl apply (unused connectionId params)).msgTable i with
      | none => simp
      | some m => simp [Option.filter, hinv.live m hm]
    · rw [hinv.range hge, ConnectionContext.getMessage, if_pos hge]

/-! ### Reuse of a slot -/

/-- The generation that the last successful allocation of slot `i` was requested with. -/
def lastRequested (i : ℕ) (ops : List SlotOp) (c : ConnectionContext) : Option U32 :=
  ((grants i ops c).map Prod.fst).getLast?

/-- After the calls `ops` slot `i` can be allocated under the generation `generation'` exactly when
that is newer than the generation requested last. -/
def ReusedIfNewer (c₀ : ConnectionContext) (ops : List SlotOp) (i : ℕ) (generation' : U32) : Prop :=
  ∀ generation ∈ lastRequested i ops c₀,
    (((ops.foldl apply c₀).allocate i generation').1.isSome ↔ generation < generation')

lemma allocate_finished {c : ConnectionContext} {i : ℕ} {m : MessageContext} (hlt : i < maxMessages)
    (hm : c.msgTable i = some m) (hstate : m.state = .completed ∨ m.state = .dead)
    (generation' : U32) : (c.allocate i generation').1.isSome ↔ m.generation < generation' := by
  have hbusy : slotBusy (c.msgTable i) generation' = decide (generation' ≤ m.generation) := by
    rcases hstate with h | h
    · simp [slotBusy, hm, h]
    · simp [slotBusy, hm, h]
  rw [← BitVec.not_le, ← decide_eq_true_iff (p := generation' ≤ m.generation), ← hbusy,
    ← allocateMessageSlot_eq_none_iff c hlt generation']
  unfold allocate
  cases c.allocateMessageSlot i generation' with
  | none => simp
  | some result => simp

/-- A finished slot compares with the number of its allocations. This follows the generation that
was requested last exactly when the two numbers lie on the same side of the new generation. -/
theorem reusedIfNewer_iff {connectionId : U32} {params : ConnectionParams} {ops : List SlotOp}
    {i : ℕ} {m : MessageContext} {generation : U32}
    (hm : (ops.foldl apply (unused connectionId params)).msgTable i = some m)
    (hstate : m.state = .completed ∨ m.state = .dead)
    (hlast : lastRequested i ops (unused connectionId params) = some generation)
    (generation' : U32) :
    ReusedIfNewer (unused connectionId params) ops i generation' ↔
      (BitVec.ofNat 32 (grants i ops (unused connectionId params)).length < generation' ↔
        generation < generation') := by
  have hinv := slotInv_run connectionId params ops i
  have hlt : i < maxMessages := by
    by_contra hge
    exact absurd (hm.symm.trans (hinv.range (not_lt.mp hge))) (by simp)
  have hfinished := allocate_finished hlt hm hstate generation'
  rw [hinv.generation m hm] at hfinished
  rw [← hfinished]
  constructor
  · intro h
    exact h generation hlast
  · intro h generation₁ hlast₁
    obtain rfl := Option.some.inj (hlast.symm.trans hlast₁)
    exact h

end ConnectionContext

/-- A slot that was allocated once, under generation 1, and completed. -/
theorem reusedIfNewer_first : ConnectionContext.ReusedIfNewer (ConnectionContext.unused 1 .zero)
    [.allocate 0 1, .complete 0] 0 2 :=
  (ConnectionContext.reusedIfNewer_iff (i := 0) rfl (Or.inr rfl) rfl 2).mpr (by decide)

/-- A slot that was allocated under generation 5 takes generation 3 once it is completed. -/
theorem not_reusedIfNewer_older : ¬ ConnectionContext.ReusedIfNewer
    (ConnectionContext.unused 1 .zero) [.allocate 0 5, .complete 0] 0 3 := by
  intro h
  exact absurd ((h 5 rfl).mp rfl) (by decide)

end SdrUdp
