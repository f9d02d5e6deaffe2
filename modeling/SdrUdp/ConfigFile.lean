import Std.Data.TreeMap.Lemmas
import SdrUdp.ConfigParser

/-!
# Printed configurations

`print_all` walks the map in the order of its keys and writes a heading and a line for each entry.
What it writes is again a configuration file, which `load_from_file` reads back to the same
configuration: keys and values were trimmed when they were read, and a key has no `=` in it.
-/

namespace SdrUdp

open SdrUdp.Core

/-- `config_map_`, with the order in which `std::map` is walked. -/
abbrev ConfigMap := Std.TreeMap (List U8) (List U8) compare

namespace ConfigParser

variable {c : ConfigParser} {entries : ConfigMap} {line key value text : List U8}

def getString (c : ConfigParser) (key defaultValue : List U8) : List U8 :=
  match c.configMap key with
  | none       => defaultValue
  | some value => value

def hasKey (c : ConfigParser) (key : List U8) : Bool := (c.configMap key).isSome

lemma hasKey_iff (c : ConfigParser) (lines : List (List U8)) (key : List U8) :
    (c.clear.parseLines lines).hasKey key = true ↔ ∃ value, LastValue lines key value := by
  simp only [hasKey, Option.isSome_iff_exists, configMap_parseLines]

/-- A text is given back as it stands, whatever it begins with. -/
lemma getString_eq_iff (c : ConfigParser) (lines : List (List U8))
    (key defaultValue value : List U8) :
    (c.clear.parseLines lines).getString key defaultValue = value ↔
      LastValue lines key value ∨
        (∀ value', ¬ LastValue lines key value') ∧ value = defaultValue := by
  simp only [← configMap_parseLines c, getString]
  cases hkey : (c.clear.parseLines lines).configMap key with
  | none       => simp [eq_comm]
  | some found => simp

/-- What `print_all` writes before the entries. -/
def heading : List U8 := bytes "[Config] Current configuration:"

def printEntry (key value : List U8) : List U8 := bytes "  " ++ key ++ bytes " = " ++ value

def printAll (entries : ConfigMap) : List U8 :=
  (heading :: entries.toList.map fun pair => printEntry pair.1 pair.2).flatMap (· ++ [byte '\n'])

/-- The entries are those of the configuration. -/
def Holds (entries : ConfigMap) (c : ConfigParser) : Prop := ∀ key, entries[key]? = c.configMap key

lemma Holds.mem_toList (h : Holds entries c) :
    (key, value) ∈ entries.toList ↔ c.configMap key = some value := by
  rw [Std.TreeMap.mem_toList_iff_getElem?_eq_some, h]

/-- Two maps with the same entries are walked alike. -/
lemma Holds.toList_eq {entries' : ConfigMap} (h : Holds entries c) (h' : Holds entries' c) :
    entries.toList = entries'.toList := by
  have hsorted (t : ConfigMap) : t.toList.Pairwise fun a b => compare a.1 b.1 = .lt :=
    Std.TreeMap.ordered_keys_toList
  refine List.Perm.eq_of_pairwise ?_ (hsorted entries) (hsorted entries') ?_
  · intro a b _ _ hab hba
    exact absurd (hab.symm.trans (Std.OrientedCmp.gt_of_lt hba)) (by decide)
  · refine (List.perm_ext_iff_of_nodup ?_ ?_).mpr fun ⟨key, value⟩ => ?_
    · exact (hsorted entries).imp fun hab heq => by simp [heq] at hab
    · exact (hsorted entries').imp fun hab heq => by simp [heq] at hab
    · rw [h.mem_toList, h'.mem_toList]

/-! ### Trimmed texts -/

/-- Neither end of the text is a blank. -/
structure Trimmed (text : List U8) : Prop where
  head : ∀ c ∈ text.head?, isBlank c = false
  last : ∀ c ∈ text.getLast?, isBlank c = false

lemma trimmed_trim (text : List U8) : Trimmed (trim text) := by
  refine ⟨fun c hc => ?_, fun c hc => ?_⟩
  · obtain ⟨rest, hrest⟩ := List.rdropWhile_prefix isBlank (l := text.dropWhile isBlank)
    have hhead : c ∈ (text.dropWhile isBlank).head? := by
      rw [← hrest, List.head?_append]
      change c ∈ Option.or (trim text).head? _
      simp [Option.mem_def.mp hc]
    simpa [Option.mem_def.mp hhead] using List.head?_dropWhile_not isBlank text
  · have hne : trim text ≠ [] := by
      intro hnil
      simp [hnil] at hc
    rw [List.getLast?_eq_some_getLast hne, Option.mem_some_iff] at hc
    subst hc
    exact Bool.eq_false_of_not_eq_true
      (List.rdropWhile_last_not isBlank (text.dropWhile isBlank) hne)

/-- Blanks around a text are dropped. -/
lemma trim_pad {before after : List U8} (hbefore : ∀ c ∈ before, isBlank c = true)
    (hafter : ∀ c ∈ after, isBlank c = true) (h : Trimmed text) :
    trim (before ++ text ++ after) = text := by
  have hright : (text ++ after).rdropWhile isBlank = text := by
    rw [List.rdropWhile, List.reverse_append,
      List.dropWhile_append_of_pos (by simpa using hafter)]
    change text.rdropWhile isBlank = text
    rw [List.rdropWhile_eq_self_iff]
    intro hne
    simp [h.last _ (List.getLast?_eq_some_getLast hne)]
  rw [trim, List.append_assoc, List.dropWhile_append_of_pos hbefore]
  cases text with
  | nil => simp [List.dropWhile_eq_nil_iff.mpr hafter]
  | cons c text =>
    rw [List.cons_append, List.dropWhile_cons_of_neg (by simp [h.head c rfl])]
    exact hright

/-- Whatever stands between two trimmed texts. -/
lemma Trimmed.append {before after : List U8} (hbefore : Trimmed before) (hafter : Trimmed after)
    (hne : before ≠ []) (hne' : after ≠ []) (middle : List U8) :
    Trimmed (before ++ middle ++ after) := by
  obtain ⟨c, before, rfl⟩ := List.exists_cons_of_ne_nil hne
  refine ⟨by simpa using hbefore.head, fun d hd => hafter.last d ?_⟩
  rwa [List.getLast?_append_of_ne_nil _ hne'] at hd

lemma mem_of_mem_trim {a : U8} (h : a ∈ trim text) : a ∈ text :=
  (List.dropWhile_suffix isBlank).subset ((List.rdropWhile_prefix isBlank _).subset h)

/-! ### Entries as they are stored -/

/-- A key and a value that a line of a file can have. -/
structure Stored (key value : List U8) : Prop where
  key_trimmed : Trimmed key
  value_trimmed : Trimmed value
  key_ne_nil : key ≠ []
  noComment : ∀ c ∈ key.head?, c ≠ byte '#' ∧ c ≠ byte ';'
  noSeparator : byte '=' ∉ key
  key_oneLine : byte '\n' ∉ key
  value_oneLine : byte '\n' ∉ value

/-- `parse_line` stores trimmed keys and values. -/
lemma Entry.stored (h : Entry line key value) (hline : byte '\n' ∉ line) : Stored key value := by
  obtain ⟨before, after, htrim, hbefore, rfl, rfl⟩ := h.split
  have hmem : ∀ c ∈ trim line, c ∈ line := fun c => mem_of_mem_trim
  rw [htrim] at hmem
  have hhead : (trim before).head? = (trim line).head? := by
    -- the line begins with its key, without a blank before it
    cases before with
    | nil => exact absurd rfl h.key_ne_nil
    | cons c before =>
      have hc : isBlank c = false := (trimmed_trim line).head c (by simp [htrim])
      have hdrop : (c :: before).dropWhile isBlank = c :: before :=
        List.dropWhile_cons_of_neg (by simp [hc])
      obtain ⟨rest, hrest⟩ := List.rdropWhile_prefix isBlank (c :: before)
      have hkey := h.key_ne_nil
      rw [trim, hdrop] at hkey ⊢
      cases hfront : (c :: before).rdropWhile isBlank with
      | nil => exact absurd hfront hkey
      | cons d key =>
        rw [hfront, List.cons_append] at hrest
        simp [htrim, (List.cons.inj hrest).1]
  constructor
  case key_trimmed => exact trimmed_trim before
  case value_trimmed => exact trimmed_trim after
  case key_ne_nil => exact h.key_ne_nil
  case noComment =>
    rw [hhead]
    exact h.noComment
  case noSeparator => exact fun hmem => hbefore (mem_of_mem_trim hmem)
  case key_oneLine => exact fun hnew => hline (hmem _ (by simp [mem_of_mem_trim hnew]))
  case value_oneLine => exact fun hnew => hline (hmem _ (by simp [mem_of_mem_trim hnew]))

/-- A line that `print_all` writes has the entry it was written for. -/
lemma Stored.entry (h : Stored key value) : Entry (printEntry key value) key value := by
  have hblank : ∀ c ∈ [byte ' '], isBlank c = true := by decide
  have hindent : ∀ c ∈ bytes "  ", isBlank c = true := by decide
  have hkey : trim (key ++ [byte ' ']) = key :=
    (trim_pad (List.forall_mem_nil _) hblank h.key_trimmed : trim ([] ++ key ++ _) = key)
  have hseparator : byte '=' ∉ key ++ [byte ' '] := by
    rw [List.mem_append, not_or]
    exact ⟨h.noSeparator, by decide⟩
  suffices hline : ∃ after, trim (printEntry key value) = (key ++ [byte ' ']) ++ byte '=' :: after ∧
      value = trim after by
    obtain ⟨after, hline, hafter⟩ := hline
    refine ⟨?_, ⟨_, after, hline, hseparator, hkey.symm, hafter⟩, h.key_ne_nil⟩
    obtain ⟨first, rest, hfirst⟩ := List.exists_cons_of_ne_nil h.key_ne_nil
    have hcomment := h.noComment
    rw [hfirst] at hcomment
    rw [hline, hfirst]
    exact hcomment
  cases value with
  | nil =>
    -- the blank behind `=` goes
    refine ⟨[], ?_, rfl⟩
    have htrimmed : Trimmed (key ++ [byte ' '] ++ [byte '=']) :=
      h.key_trimmed.append ⟨by decide, by decide⟩ h.key_ne_nil (by simp) _
    refine Eq.trans (congrArg trim ?_) (trim_pad hindent hblank htrimmed)
    simp [printEntry, bytes]
  | cons c value =>
    have htrimmed : Trimmed (key ++ bytes " = " ++ c :: value) :=
      h.key_trimmed.append h.value_trimmed h.key_ne_nil (by simp) _
    refine ⟨byte ' ' :: c :: value, ?_, ?_⟩
    · have hpad := trim_pad hindent (List.forall_mem_nil _) htrimmed
      rw [List.append_nil] at hpad
      refine Eq.trans (congrArg trim ?_) (hpad.trans ?_)
      · simp [printEntry]
      · simp [bytes]
    · have hpad := trim_pad hblank (List.forall_mem_nil _) h.value_trimmed
      rw [List.append_nil] at hpad
      exact hpad.symm

/-- It has no newline in it. -/
lemma Stored.oneLine (h : Stored key value) : byte '\n' ∉ printEntry key value := by
  simp only [printEntry, List.mem_append, not_or]
  exact ⟨⟨⟨by decide, h.key_oneLine⟩, by decide⟩, h.value_oneLine⟩

lemma not_entry_heading : ¬ Entry heading key value := by
  rintro ⟨-, ⟨before, after, hline, -⟩, -⟩
  have hmem : byte '=' ∈ trim heading := by
    rw [hline]
    simp
  exact absurd hmem (by decide)

/-! ### Configurations that were read -/

/-- Any number of files, one after the other. -/
def loadAll (c : ConfigParser) (files : List (Option (List U8))) : ConfigParser :=
  files.foldl (fun c file => (c.loadFromFile file).2) c

/-- A configuration comes from the lines of the last file. -/
lemma exists_lines (files : List (Option (List U8))) : ∃ lines : List (List U8),
    (∀ line ∈ lines, byte '\n' ∉ line) ∧ fresh.loadAll files = fresh.clear.parseLines lines := by
  rcases List.eq_nil_or_concat files with rfl | ⟨files, file, rfl⟩
  · exact ⟨[], List.forall_mem_nil _, rfl⟩
  · rw [List.concat_eq_append, loadAll, List.foldl_append]
    cases file with
    | none => exact ⟨[], List.forall_mem_nil _, rfl⟩
    | some file =>
      refine ⟨getlines file, fun line hline => ?_, rfl⟩
      have hpiece : line ∈ file.splitOn (byte '\n') := by
        rw [getlines] at hline
        split_ifs at hline
        · exact List.dropLast_subset _ hline
        · exact hline
      exact not_mem_of_mem_splitOn hpiece

/-- Each entry comes from a line, so it is stored as `parse_line` stores it. -/
lemma stored_loadAll (files : List (Option (List U8)))
    (h : (fresh.loadAll files).configMap key = some value) : Stored key value := by
  obtain ⟨lines, hlines, hload⟩ := exists_lines files
  rw [hload, configMap_parseLines] at h
  obtain ⟨before, line, after, rfl, hentry, -⟩ := h
  exact hentry.stored (hlines line (by simp))

/-- The map that `parse_line` builds. -/
lemma exists_holds (files : List (Option (List U8))) :
    ∃ entries, Holds entries (fresh.loadAll files) := by
  obtain ⟨lines, -, hload⟩ := exists_lines files
  rw [hload]
  clear hload
  induction lines using List.reverseRecOn with
  | nil => exact ⟨∅, fun key => Std.TreeMap.getElem?_emptyc⟩
  | append_singleton lines line ih =>
    obtain ⟨entries, hentries⟩ := ih
    rw [parseLines_append_singleton]
    by_cases hentry : ∃ key value, Entry line key value
    · obtain ⟨key, value, hentry⟩ := hentry
      rw [parseLine_of_entry _ hentry]
      refine ⟨entries.insert key value, fun key' => ?_⟩
      change _ = Function.update (fresh.clear.parseLines lines).configMap key (some value) key'
      rw [Std.TreeMap.getElem?_insert]
      by_cases hkey : key' = key
      · simp [hkey]
      · rw [Function.update_of_ne hkey, hentries key',
          if_neg fun h => hkey (Std.LawfulEqCmp.compare_eq_iff_eq.mp h).symm]
    · rw [parseLine_of_not_entry _ fun key value h => hentry ⟨key, value, h⟩]
      exact ⟨entries, hentries⟩

/-! ### Reading back -/

/-- The last value of a key in the printed lines is its value in the map. -/
lemma lastValue_printed (h : ∀ pair ∈ entries.toList, Stored pair.1 pair.2) :
    LastValue (heading :: entries.toList.map fun pair => printEntry pair.1 pair.2) key value ↔
      (key, value) ∈ entries.toList := by
  constructor
  · rintro ⟨before, line, after, hlines, hentry, -⟩
    have hline : line ∈ heading :: entries.toList.map fun pair => printEntry pair.1 pair.2 := by
      simp [hlines]
    rcases List.mem_cons.mp hline with rfl | hline
    · exact absurd hentry not_entry_heading
    · obtain ⟨pair, hpair, rfl⟩ := List.mem_map.mp hline
      obtain ⟨rfl, rfl⟩ := hentry.unique (h pair hpair).entry
      exact hpair
  · intro hmem
    obtain ⟨before, after, hsplit⟩ := List.append_of_mem hmem
    refine ⟨heading :: before.map fun pair => printEntry pair.1 pair.2, printEntry key value,
      after.map fun pair => printEntry pair.1 pair.2, by simp [hsplit], (h _ hmem).entry, ?_⟩
    intro line hline value' hentry
    obtain ⟨pair, hpair, rfl⟩ := List.mem_map.mp hline
    -- a key is printed once
    have hkey : key = pair.1 := (hentry.unique (h pair (by simp [hsplit, hpair])).entry).1
    have hdistinct := Std.TreeMap.distinct_keys_toList (t := entries)
    rw [hsplit, List.pairwise_append] at hdistinct
    exact (List.pairwise_cons.mp hdistinct.2.1).1 pair hpair (by simp [hkey])

/-- The printed lines fill an empty map with the same entries. -/
lemma parseLines_printed (hentries : Holds entries c)
    (h : ∀ pair ∈ entries.toList, Stored pair.1 pair.2) (c' : ConfigParser) :
    c'.clear.parseLines (heading :: entries.toList.map fun pair => printEntry pair.1 pair.2)
      = c := by
  have hmap : (c'.clear.parseLines
      (heading :: entries.toList.map fun pair => printEntry pair.1 pair.2)).configMap
        = c.configMap := by
    funext key
    refine Option.ext fun value => ?_
    rw [configMap_parseLines, lastValue_printed h, hentries.mem_toList]
  exact congrArg ConfigParser.mk hmap

/-- What `print_all` writes about a configuration is read back to this configuration, and only the
heading is reported as an invalid line; to print it again gives the same text. -/
theorem printAll_loads (files : List (Option (List U8))) :
    let loaded := fresh.loadAll files
    (∃ entries, Holds entries loaded) ∧
      ∀ entries, Holds entries loaded →
        (∀ c : ConfigParser, c.loadFromFile (some (printAll entries)) = (true, loaded)) ∧
        ((getlines (printAll entries)).filter fun line => !(fresh.parseLine line).1) = [heading] ∧
        ∀ entries', Holds entries' loaded → printAll entries' = printAll entries := by
  intro loaded
  refine ⟨exists_holds files, fun entries hentries => ?_⟩
  have hstored : ∀ pair ∈ entries.toList, Stored pair.1 pair.2 := fun pair hpair =>
    stored_loadAll files (hentries.mem_toList.mp hpair)
  have hlines : ∀ line ∈ heading :: entries.toList.map fun pair => printEntry pair.1 pair.2,
      byte '\n' ∉ line := by
    intro line hline
    rcases List.mem_cons.mp hline with rfl | hline
    · decide
    · obtain ⟨pair, hpair, rfl⟩ := List.mem_map.mp hline
      exact (hstored pair hpair).oneLine
  refine ⟨fun c => ?_, ?_, fun entries' hentries' => ?_⟩
  · rw [printAll, loadFromFile_flatMap c hlines, parseLines_printed hentries hstored]
  · rw [printAll, getlines_flatMap hlines, List.filter_cons_of_pos (by decide),
      List.filter_eq_nil_iff.mpr]
    intro line hline
    obtain ⟨pair, hpair, rfl⟩ := List.mem_map.mp hline
    simp [parseLine_of_entry fresh (hstored pair hpair).entry]
  · rw [printAll, printAll, hentries'.toList_eq hentries]

end ConfigParser

end SdrUdp
