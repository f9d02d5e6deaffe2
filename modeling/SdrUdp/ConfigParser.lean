import Mathlib.Data.Int.ModEq
import Mathlib.Data.List.DropRight
import Mathlib.Data.List.Induction
import Mathlib.Logic.Function.Basic
import SdrUdp.Core.Text

/-!
# Configuration files

`ConfigParser` reads lines `key=value` into a map and converts values with `std::stoul`. The last
line for a key counts. A value is given back as it stands, or the default, only as long as it does
not merely begin with a number.
-/

namespace SdrUdp

open SdrUdp.Core

/-- The entries of a configuration file. -/
structure ConfigParser where
  configMap : List U8 → Option (List U8)

namespace ConfigParser

/-- The constructor. -/
def fresh : ConfigParser := ⟨fun _ => none⟩

/-- The characters of `" \t\r\n"`. -/
def isBlank (c : U8) : Bool := c == byte ' ' || c == byte '\t' || c == byte '\r' || c == byte '\n'

def trim (str : List U8) : List U8 := (str.dropWhile isBlank).rdropWhile isBlank

/-- Blank lines and comments are valid; a line without a key or `=` is not. -/
def parseLine (c : ConfigParser) (line : List U8) : Bool × ConfigParser :=
  let trimmed := trim line
  if trimmed = [] ∨ trimmed.head? = some (byte '#') ∨ trimmed.head? = some (byte ';') then (true, c)
  else match trimmed.idxOf? (byte '=') with
    | none       => (false, c)
    | some eqPos =>
      let key := trim (trimmed.take eqPos)
      let value := trim (trimmed.drop (eqPos + 1))
      if key = [] then (false, c)
      else (true, { c with configMap := Function.update c.configMap key (some value) })

/-- The calls of `std::getline`: behind the last newline there is a line only if it is not empty. -/
def getlines (file : List U8) : List (List U8) :=
  let lines := file.splitOn (byte '\n')
  if lines.getLast? = some [] then lines.dropLast else lines

/-- The loop of `load_from_file`, which goes on after an invalid line. -/
def parseLines (c : ConfigParser) (lines : List (List U8)) : ConfigParser :=
  lines.foldl (fun c line => (c.parseLine line).2) c

/-- `config_map_.clear()`. -/
def clear (c : ConfigParser) : ConfigParser := { c with configMap := fun _ => none }

/-- `load_from_file` with the content of the file, if it can be opened. -/
def loadFromFile (c : ConfigParser) (file : Option (List U8)) : Bool × ConfigParser :=
  match file with
  | none      => (false, c.clear)
  | some file => (true, c.clear.parseLines (getlines file))

/-- `get_uint32`: whatever `std::stoul` returns is cut to 32 bits. -/
def getUint32 (c : ConfigParser) (key : List U8) (defaultValue : U32) : U32 :=
  match c.configMap key with
  | none       => defaultValue
  | some value => match stoul value with
    | .ok n    => BitVec.ofNat 32 n
    | .error _ => defaultValue

/-! ### Lines of a file -/

/-- The lines of a file come back one by one. -/
lemma getlines_flatMap {lines : List (List U8)} (h : ∀ line ∈ lines, byte '\n' ∉ line) :
    getlines (lines.flatMap (· ++ [byte '\n'])) = lines := by
  have hsplit : (lines.flatMap (· ++ [byte '\n'])).splitOn (byte '\n') = lines ++ [[]] := by
    induction lines with
    | nil => rfl
    | cons line lines ih =>
      rw [List.flatMap_cons, List.append_assoc, List.singleton_append,
        List.splitOn_append_cons_self_of_not_mem (h line List.mem_cons_self),
        ih fun l hl => h l (List.mem_cons_of_mem line hl), List.cons_append]
  rw [getlines, hsplit]
  simp

/-- `load_from_file` starts from an empty map and takes the lines in order. -/
lemma loadFromFile_flatMap (c : ConfigParser) {lines : List (List U8)}
    (h : ∀ line ∈ lines, byte '\n' ∉ line) :
    c.loadFromFile (some (lines.flatMap (· ++ [byte '\n'])))
      = (true, c.clear.parseLines lines) := by
  rw [loadFromFile, getlines_flatMap h]

/-! ### Entries -/

/-- The line is `key=value`, split at the first `=`, without the blanks around either. -/
structure Entry (line key value : List U8) : Prop where
  noComment : ∀ c ∈ (trim line).head?, c ≠ byte '#' ∧ c ≠ byte ';'
  split : ∃ before after, trim line = before ++ byte '=' :: after ∧ byte '=' ∉ before ∧
    key = trim before ∧ value = trim after
  key_ne_nil : key ≠ []

/-- The value of the last entry for the key. -/
def LastValue (lines : List (List U8)) (key value : List U8) : Prop :=
  ∃ before line after, lines = before ++ line :: after ∧ Entry line key value ∧
    ∀ line' ∈ after, ∀ value', ¬ Entry line' key value'

/-- A line has at most one key and one value. -/
lemma Entry.unique {line key value key' value' : List U8} (h : Entry line key value)
    (h' : Entry line key' value') : key = key' ∧ value = value' := by
  obtain ⟨before, after, hline, hbefore, rfl, rfl⟩ := h.split
  obtain ⟨before', after', hline', hbefore', rfl, rfl⟩ := h'.split
  obtain ⟨rfl, rfl⟩ := append_cons_inj hbefore hbefore' (hline.symm.trans hline')
  exact ⟨rfl, rfl⟩

/-- `parse_line` stores the entry of a line. -/
lemma parseLine_of_entry (c : ConfigParser) {line key value : List U8} (h : Entry line key value) :
    c.parseLine line = (true, ⟨Function.update c.configMap key (some value)⟩) := by
  obtain ⟨before, after, hline, hbefore, rfl, rfl⟩ := h.split
  have hcomment : ¬ (trim line = [] ∨ (trim line).head? = some (byte '#') ∨
      (trim line).head? = some (byte ';')) := by
    rintro (hnil | hhash | hsemicolon)
    · rw [hline] at hnil
      exact List.append_ne_nil_of_right_ne_nil before (List.cons_ne_nil _ after) hnil
    · exact (h.noComment _ hhash).1 rfl
    · exact (h.noComment _ hsemicolon).2 rfl
  have hdrop : (before ++ byte '=' :: after).drop (before.length + 1) = after := by
    rw [List.drop_length_add_append, List.drop_one, List.tail_cons]
  unfold parseLine
  dsimp only
  rw [if_neg hcomment, hline, idxOf?_append_cons hbefore]
  dsimp only
  rw [List.take_left, hdrop, if_neg h.key_ne_nil]

/-- A line without an entry leaves the map alone. -/
lemma parseLine_of_not_entry (c : ConfigParser) {line : List U8}
    (h : ∀ key value, ¬ Entry line key value) : (c.parseLine line).2 = c := by
  unfold parseLine
  dsimp only
  split_ifs with hcomment
  · rfl
  · cases hfind : (trim line).idxOf? (byte '=') with
    | none => rfl
    | some eqPos =>
      dsimp only
      split_ifs with hkey
      · rfl
      · rw [not_or, not_or] at hcomment
        obtain ⟨hline, hbefore⟩ := eq_append_of_idxOf? hfind
        refine absurd ⟨fun c hc => ⟨?_, ?_⟩, ⟨_, _, hline, hbefore, rfl, rfl⟩, hkey⟩ (h _ _)
        · rintro rfl
          exact hcomment.2.1 hc
        · rintro rfl
          exact hcomment.2.2 hc

/-! ### The last value -/

lemma not_lastValue_nil (key value : List U8) : ¬ LastValue [] key value := by
  rintro ⟨before, line, after, h, -⟩
  exact absurd h.symm (List.append_ne_nil_of_right_ne_nil before (List.cons_ne_nil line after))

/-- One more line. -/
lemma lastValue_append_singleton (lines : List (List U8)) (line key value : List U8) :
    LastValue (lines ++ [line]) key value ↔ Entry line key value ∨
      (∀ value', ¬ Entry line key value') ∧ LastValue lines key value := by
  constructor
  · rintro ⟨before, line', after, h, hentry, hafter⟩
    rcases List.eq_nil_or_concat after with rfl | ⟨after, line'', rfl⟩
    · obtain ⟨-, hline⟩ := List.append_inj' h rfl
      rw [List.singleton_inj.mp hline]
      exact Or.inl hentry
    · rw [List.concat_eq_append, ← List.cons_append, ← List.append_assoc] at h
      obtain ⟨rfl, hline⟩ := List.append_inj' h rfl
      rw [List.concat_eq_append] at hafter
      rw [List.singleton_inj.mp hline]
      exact Or.inr ⟨hafter _ (by simp), before, line', after, rfl, hentry,
        fun l hl => hafter l (List.mem_append_left _ hl)⟩
  · rintro (hentry | ⟨hnone, before, line', after, rfl, hentry, hafter⟩)
    · exact ⟨lines, line, [], rfl, hentry, by simp⟩
    · refine ⟨before, line', after ++ [line], by simp, hentry, fun l hl => ?_⟩
      rcases List.mem_append.mp hl with hl | hl
      · exact hafter l hl
      · rw [List.mem_singleton.mp hl]
        exact hnone

lemma parseLines_append_singleton (c : ConfigParser) (lines : List (List U8)) (line : List U8) :
    c.parseLines (lines ++ [line]) = ((c.parseLines lines).parseLine line).2 := by
  rw [parseLines, List.foldl_append]
  rfl

/-- The map holds the last value of every key. -/
lemma configMap_parseLines (c : ConfigParser) (lines : List (List U8)) (key value : List U8) :
    (c.clear.parseLines lines).configMap key = some value ↔ LastValue lines key value := by
  -- from the end: the last line decides, unless it has no entry for the key
  induction lines using List.reverseRecOn with
  | nil => exact iff_of_false (by simp [parseLines, clear]) (not_lastValue_nil key value)
  | append_singleton lines line ih =>
    rw [lastValue_append_singleton, ← ih, parseLines_append_singleton]
    by_cases hentry : ∃ key' value', Entry line key' value'
    · obtain ⟨key', value', hentry⟩ := hentry
      rw [parseLine_of_entry _ hentry]
      dsimp only
      by_cases hkey : key = key'
      · subst hkey
        rw [Function.update_self, Option.some.injEq]
        constructor
        · rintro rfl
          exact Or.inl hentry
        · rintro (h | h)
          · exact (hentry.unique h).2
          · exact absurd hentry (h.1 _)
      · rw [Function.update_of_ne hkey]
        have hnone : ∀ value'', ¬ Entry line key value'' := fun value'' h =>
          hkey (h.unique hentry).1
        simp [hnone]
    · have hnone : ∀ key' value', ¬ Entry line key' value' := fun key' value' h =>
        hentry ⟨key', value', h⟩
      rw [parseLine_of_not_entry _ hnone]
      simp [hnone]

lemma LastValue.unique {lines : List (List U8)} {key value value' : List U8}
    (h : LastValue lines key value) (h' : LastValue lines key value') : value = value' := by
  rw [← configMap_parseLines fresh] at h h'
  exact Option.some.inj (h.symm.trans h')

/-! ### Numbers -/

/-- The result is the number that the last value denotes as a whole, if this is below 2^32, else the
default. -/
structure ReadsAsWritten (lines : List (List U8)) (key : List U8) (defaultValue result : U32) :
    Prop where
  numeral : ∀ value n, LastValue lines key value → IsNumeral value n → n < 2 ^ 32 →
    result.toNat = n
  default : (¬ ∃ value n, LastValue lines key value ∧ IsNumeral value n ∧ n < 2 ^ 32) →
    result = defaultValue

/-- The last value begins with an integer of less than 64 bits but is not a numeral below 2^32, and
in 32 bits the integer is not the default. -/
def Misread (lines : List (List U8)) (key : List U8) (defaultValue : U32) : Prop :=
  ∃ value z, LastValue lines key value ∧ BeginsWith value z ∧ z.natAbs < 2 ^ 64 ∧
    (∀ n, IsNumeral value n → 2 ^ 32 ≤ n) ∧ ¬ z ≡ defaultValue.toNat [ZMOD 2 ^ 32]

/-- The cast to 32 bits. -/
lemma ofNat_eq_iff {n : ℕ} {z : ℤ} (h : (n : ℤ) = z % 2 ^ 64) (x : U32) :
    BitVec.ofNat 32 n = x ↔ z ≡ x.toNat [ZMOD 2 ^ 32] := by
  have hx := x.isLt
  rw [← BitVec.toNat_inj, BitVec.toNat_ofNat, Int.ModEq]
  omega

/-- A value that begins with an integer is read as this integer in 32 bits. -/
lemma getUint32_of_beginsWith (c : ConfigParser) {lines : List (List U8)} {key value : List U8}
    {z : ℤ} (hlast : LastValue lines key value) (hz : BeginsWith value z) (hlt : z.natAbs < 2 ^ 64)
    (defaultValue x : U32) :
    (c.clear.parseLines lines).getUint32 key defaultValue = x ↔ z ≡ x.toNat [ZMOD 2 ^ 32] := by
  obtain ⟨n, hok, hn⟩ := stoul_of_beginsWith hz hlt
  rw [getUint32, (configMap_parseLines c lines key value).mpr hlast]
  simp only [hok]
  exact ofNat_eq_iff hn x

/-- Any other value is an exception, and a key without a value is not there. -/
lemma getUint32_of_not_beginsWith (c : ConfigParser) {lines : List (List U8)} {key : List U8}
    (h : ∀ value z, LastValue lines key value → BeginsWith value z → ¬ z.natAbs < 2 ^ 64)
    (defaultValue : U32) :
    (c.clear.parseLines lines).getUint32 key defaultValue = defaultValue := by
  have hmap := configMap_parseLines c lines key
  generalize c.clear.parseLines lines = parser at hmap
  cases hkey : parser.configMap key with
  | none => rw [getUint32, hkey]
  | some value =>
    rw [getUint32, hkey]
    dsimp only
    cases hok : stoul value with
    | error e => rfl
    | ok n =>
      obtain ⟨z, hz, hlt, -⟩ := (stoul_eq_ok_iff value n).mp hok
      exact absurd hlt (h value z ((hmap value).mp hkey) hz)

/-- `get_uint32` reads what is written exactly when the last value is not misread. -/
theorem readsAsWritten_iff (c : ConfigParser) (lines : List (List U8)) (key : List U8)
    (defaultValue : U32) :
    ReadsAsWritten lines key defaultValue
        ((c.clear.parseLines lines).getUint32 key defaultValue) ↔
      ¬ Misread lines key defaultValue := by
  constructor
  · rintro h ⟨value, z, hlast, hz, hlt, hnot, hne⟩
    refine hne ((getUint32_of_beginsWith c hlast hz hlt defaultValue defaultValue).mp ?_)
    apply h.default
    rintro ⟨value', n, hlast', hn, hsmall⟩
    rw [hlast'.unique hlast] at hn
    exact absurd (hnot n hn) hsmall.not_ge
  · intro h
    constructor
    case numeral =>
      intro value n hlast hn hsmall
      have hread := getUint32_of_beginsWith c hlast hn.beginsWith (by omega) defaultValue
        (BitVec.ofNat 32 n)
      rw [BitVec.toNat_ofNat, Nat.mod_eq_of_lt hsmall] at hread
      rw [hread.mpr (Int.ModEq.refl _), BitVec.toNat_ofNat, Nat.mod_eq_of_lt hsmall]
    case default =>
      intro hnone
      by_cases hbegins : ∃ value z, LastValue lines key value ∧ BeginsWith value z ∧
          z.natAbs < 2 ^ 64
      · obtain ⟨value, z, hlast, hz, hlt⟩ := hbegins
        rw [getUint32_of_beginsWith c hlast hz hlt]
        -- else it would be misread
        by_contra hne
        refine h ⟨value, z, hlast, hz, hlt, fun n hn => ?_, hne⟩
        exact not_lt.mp fun hsmall => hnone ⟨value, n, hlast, hn, hsmall⟩
      · exact getUint32_of_not_beginsWith c
          (fun value z hlast hz hlt => hbegins ⟨value, z, hlast, hz, hlt⟩) defaultValue

/-- What follows the number is not looked at. -/
example : (fresh.clear.parseLines [bytes " mtu_bytes = 4096x"]).getUint32 (bytes "mtu_bytes") 128
    = 4096 := by decide

/-- A negative MTU is read as 4294967295. -/
theorem not_readsAsWritten_negative :
    ¬ ReadsAsWritten [bytes "mtu_bytes=-1"] (bytes "mtu_bytes") 128
      ((fresh.clear.parseLines [bytes "mtu_bytes=-1"]).getUint32 (bytes "mtu_bytes") 128) := by
  intro h
  refine absurd (h.default ?_) (by decide)
  rintro ⟨value, n, hlast, hn, -⟩
  rw [← configMap_parseLines fresh] at hlast
  have hvalue : value = bytes "-1" := (Option.some.inj hlast).symm
  have hminus := hn.digits (byte '-') (hvalue ▸ List.mem_cons_self)
  exact absurd hminus (by decide)

end ConfigParser

end SdrUdp
