import Mathlib.Data.Nat.Digits.Defs
import SdrUdp.Core.WordBits

/-!
# Texts

Texts as bytes: separators, decimal numerals, and `std::stoul`, which reads the number that a text
begins with and does not look at what follows.
-/

namespace SdrUdp.Core

def byte (c : Char) : U8 := BitVec.ofNat 8 c.toNat

/-- The bytes of an ASCII text. -/
def bytes (text : String) : List U8 := text.toList.map byte

/-! ### Separators -/

section Separators

variable {α : Type*} [BEq α] [LawfulBEq α] {sep : α}

lemma idxOf?_append_cons {before : List α} (h : sep ∉ before) (after : List α) :
    (before ++ sep :: after).idxOf? sep = some before.length := by
  induction before with
  | nil => simp [List.idxOf?_cons]
  | cons c before ih =>
    rw [List.mem_cons, not_or] at h
    have hne : (c == sep) = false := beq_eq_false_iff_ne.mpr (Ne.symm h.1)
    rw [List.cons_append, List.idxOf?_cons, hne, ih h.2]
    rfl

lemma eq_append_of_idxOf? {text : List α} {i : ℕ} (h : text.idxOf? sep = some i) :
    text = text.take i ++ sep :: text.drop (i + 1) ∧ sep ∉ text.take i := by
  obtain ⟨hlt, hsep, hfirst⟩ := List.idxOf?_eq_some_iff.mp h
  constructor
  · rw [← hsep, List.getElem_cons_drop, List.take_append_drop]
  · intro hmem
    obtain ⟨j, hj, heq⟩ := List.mem_iff_getElem.mp hmem
    rw [List.getElem_take] at heq
    exact hfirst j (by rw [List.length_take] at hj; omega) heq

/-- A text is split at the first separator in one way only. -/
lemma append_cons_inj {before after before' after' : List α} (h : sep ∉ before)
    (h' : sep ∉ before') (heq : before ++ sep :: after = before' ++ sep :: after') :
    before = before' ∧ after = after' := by
  have hlength : some before.length = some before'.length := by
    rw [← idxOf?_append_cons h after, heq, idxOf?_append_cons h']
  obtain ⟨hbefore, hafter⟩ := List.append_inj heq (Option.some.inj hlength)
  exact ⟨hbefore, List.tail_eq_of_cons_eq hafter⟩

/-- No piece of a text holds the separator. -/
lemma not_mem_of_mem_splitOn {text piece : List α} (h : piece ∈ text.splitOn sep) :
    sep ∉ piece := by
  induction text generalizing piece with
  | nil => simp_all
  | cons c text ih =>
    rw [List.splitOn_cons_eq_if_modifyHead] at h
    split_ifs at h with hc
    · rcases List.mem_cons.mp h with rfl | h
      · exact List.not_mem_nil
      · exact ih h
    · cases hpieces : text.splitOn sep with
      | nil => simp [hpieces] at h
      | cons first rest =>
        rw [hpieces] at h ih
        rcases List.mem_cons.mp h with rfl | h
        · have hne : sep ≠ c := fun heq => hc (beq_iff_eq.mpr heq.symm)
          simpa [hne] using ih List.mem_cons_self
        · exact ih (List.mem_cons_of_mem first h)

end Separators

/-! ### Numerals -/

/-- `isspace`: blank, tab, newline, vertical tab, form feed, carriage return. -/
def isSpace (c : U8) : Bool := c == byte ' ' || decide (9 ≤ c.toNat ∧ c.toNat ≤ 13)

def isDigit (c : U8) : Bool := decide (48 ≤ c.toNat ∧ c.toNat ≤ 57)

/-- The number that is written with these digits. -/
def decimal (digits : List U8) : ℕ := Nat.ofDigits 10 (digits.map fun d => d.toNat - 48).reverse

/-- The whole text is a decimal numeral of `n`. -/
structure IsNumeral (text : List U8) (n : ℕ) : Prop where
  ne_nil : text ≠ []
  digits : ∀ c ∈ text, isDigit c = true
  value : decimal text = n

/-! ### Conversion -/

/-- The exceptions of `std::stoul`. -/
inductive StoulError where
  | invalidArgument
  | outOfRange
  deriving DecidableEq

/-- An optional sign; whether it is a minus, and the text behind it. -/
def takeSign : List U8 → Bool × List U8
  | []        => (false, [])
  | c :: text =>
    if c = byte '-' then (true, text)
    else if c = byte '+' then (false, text)
    else (false, c :: text)

/-- A number in 64 bits, negated there. -/
def wrap (negative : Bool) (n : ℕ) : ℕ := if negative then (2 ^ 64 - n) % 2 ^ 64 else n

/-- `std::stoul` in base 10 with a 64-bit `unsigned long`. -/
def stoul (text : List U8) : Except StoulError ℕ :=
  let signed := takeSign (text.dropWhile isSpace)
  let digits := signed.2.takeWhile isDigit
  if digits = [] then .error .invalidArgument
  else if decimal digits ≥ 2 ^ 64 then .error .outOfRange
  else .ok (wrap signed.1 (decimal digits))

/-! ### What a text begins with -/

/-- A sign; whether it is a minus. -/
inductive Sign : List U8 → Bool → Prop
  | none : Sign [] false
  | plus : Sign [byte '+'] false
  | minus : Sign [byte '-'] true

def withSign (negative : Bool) (n : ℕ) : ℤ := if negative then -n else n

/-- After white space the text begins with an integer, which may be signed; it ends where its digits
do. -/
inductive BeginsWith : List U8 → ℤ → Prop
  | integer (space sign digits rest : List U8) {negative : Bool}
    (hspace : ∀ c ∈ space, isSpace c = true) (hsign : Sign sign negative) (hne : digits ≠ [])
    (hdigits : ∀ c ∈ digits, isDigit c = true) (hrest : ∀ c ∈ rest.head?, isDigit c = false) :
    BeginsWith (space ++ (sign ++ (digits ++ rest))) (withSign negative (decimal digits))

lemma IsNumeral.beginsWith {text : List U8} {n : ℕ} (h : IsNumeral text n) : BeginsWith text n := by
  have hint := BeginsWith.integer [] [] text [] (by simp) Sign.none h.ne_nil h.digits (by simp)
  simpa [h.value, withSign] using hint

/-- A digit is neither white space nor a sign. -/
lemma isDigit_spec {c : U8} (h : isDigit c = true) :
    isSpace c = false ∧ c ≠ byte '-' ∧ c ≠ byte '+' := by
  revert c
  decide

/-- The sign that is taken off. -/
lemma takeSign_spec (text : List U8) :
    ∃ sign, Sign sign (takeSign text).1 ∧ text = sign ++ (takeSign text).2 := by
  cases text with
  | nil => exact ⟨[], .none, rfl⟩
  | cons c text =>
    rw [takeSign]
    split_ifs with hminus hplus
    · exact ⟨[byte '-'], .minus, by rw [hminus]; rfl⟩
    · exact ⟨[byte '+'], .plus, by rw [hplus]; rfl⟩
    · exact ⟨[], .none, rfl⟩

lemma takeSign_append {sign : List U8} {negative : Bool} (h : Sign sign negative) {c : U8}
    (hc : isDigit c = true) (text : List U8) :
    takeSign (sign ++ c :: text) = (negative, c :: text) := by
  obtain ⟨-, hminus, hplus⟩ := isDigit_spec hc
  cases h with
  | none => rw [List.nil_append, takeSign, if_neg hminus, if_neg hplus]
  | plus => rfl
  | minus => rfl

lemma dropWhile_isSpace {sign : List U8} {negative : Bool} (h : Sign sign negative) {c : U8}
    (hc : isDigit c = true) (text : List U8) :
    (sign ++ c :: text).dropWhile isSpace = sign ++ c :: text := by
  cases h with
  | none =>
    have hspace := (isDigit_spec hc).1
    rw [List.nil_append, List.dropWhile_cons_of_neg (by rw [hspace]; decide)]
  | plus => exact List.dropWhile_cons_of_neg (by decide)
  | minus => exact List.dropWhile_cons_of_neg (by decide)

lemma takeWhile_isDigit {digits rest : List U8} (hdigits : ∀ c ∈ digits, isDigit c = true)
    (hrest : ∀ c ∈ rest.head?, isDigit c = false) :
    (digits ++ rest).takeWhile isDigit = digits := by
  rw [List.takeWhile_append_of_pos hdigits]
  cases rest with
  | nil => rw [List.takeWhile_nil, List.append_nil]
  | cons c rest =>
    have hc := hrest c rfl
    rw [List.takeWhile_cons_of_neg (by rw [hc]; decide), List.append_nil]

/-- The 64-bit result is the integer modulo 2^64. -/
lemma wrap_eq (negative : Bool) {n : ℕ} (hn : n < 2 ^ 64) :
    (wrap negative n : ℤ) = withSign negative n % 2 ^ 64 := by
  cases negative <;> simp only [wrap, withSign, if_true, Bool.false_eq_true, if_false] <;> omega

lemma natAbs_withSign (negative : Bool) (n : ℕ) : (withSign negative n).natAbs = n := by
  cases negative <;> simp [withSign]

/-- The digits that `std::stoul` finds belong to an integer with which the text begins. -/
lemma beginsWith_takeWhile (text : List U8)
    (hne : (takeSign (text.dropWhile isSpace)).2.takeWhile isDigit ≠ []) :
    BeginsWith text (withSign (takeSign (text.dropWhile isSpace)).1
      (decimal ((takeSign (text.dropWhile isSpace)).2.takeWhile isDigit))) := by
  obtain ⟨sign, hsign, htext⟩ := takeSign_spec (text.dropWhile isSpace)
  generalize takeSign (text.dropWhile isSpace) = signed at hne hsign htext
  have hrest : ∀ c ∈ (signed.2.dropWhile isDigit).head?, isDigit c = false := by
    intro c hc
    have := List.head?_dropWhile_not isDigit signed.2
    rw [Option.mem_def.mp hc] at this
    exact this
  have hint := BeginsWith.integer (text.takeWhile isSpace) sign (signed.2.takeWhile isDigit)
    (signed.2.dropWhile isDigit) (List.all_eq_true.mp List.all_takeWhile) hsign hne
    (List.all_eq_true.mp List.all_takeWhile) hrest
  rwa [List.takeWhile_append_dropWhile, ← htext, List.takeWhile_append_dropWhile] at hint

lemma stoul_of_beginsWith {text : List U8} {z : ℤ} (h : BeginsWith text z)
    (hlt : z.natAbs < 2 ^ 64) : ∃ n : ℕ, stoul text = .ok n ∧ (n : ℤ) = z % 2 ^ 64 := by
  cases h with
  | integer space sign digits rest hspace hsign hne hdigits hrest =>
    rename_i negative
    rw [natAbs_withSign] at hlt
    obtain ⟨c, digits', rfl⟩ := List.exists_cons_of_ne_nil hne
    have hc := hdigits c List.mem_cons_self
    refine ⟨wrap negative (decimal (c :: digits')), ?_, wrap_eq negative hlt⟩
    unfold stoul
    rw [List.dropWhile_append_of_pos hspace, List.cons_append, dropWhile_isSpace hsign hc,
      takeSign_append hsign hc, ← List.cons_append]
    dsimp only
    rw [takeWhile_isDigit hdigits hrest, if_neg hne, if_neg (not_le.mpr hlt)]

/-- `std::stoul` reads the integer that a text begins with, if there is one of less than 2^64. -/
lemma stoul_eq_ok_iff (text : List U8) (n : ℕ) :
    stoul text = .ok n ↔ ∃ z, BeginsWith text z ∧ z.natAbs < 2 ^ 64 ∧ (n : ℤ) = z % 2 ^ 64 := by
  constructor
  · intro h
    have hbegins := beginsWith_takeWhile text
    unfold stoul at h
    dsimp only at h
    generalize takeSign (text.dropWhile isSpace) = signed at h hbegins
    split_ifs at h with hne hlarge
    rw [not_le] at hlarge
    refine ⟨_, hbegins hne, by rwa [natAbs_withSign], ?_⟩
    rw [← wrap_eq _ hlarge, ← Except.ok.inj h]
  · rintro ⟨z, hz, hlt, hn⟩
    obtain ⟨n', hok, hn'⟩ := stoul_of_beginsWith hz hlt
    rw [hok, Int.ofNat.inj (hn.trans hn'.symm)]

end SdrUdp.Core
