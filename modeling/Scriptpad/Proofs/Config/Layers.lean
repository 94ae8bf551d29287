import Scriptpad.Config.Decode
import Scriptpad.Proofs.Dictionary
import Scriptpad.Proofs.Text.Trimming

/-!
# Configured colors over the standard ones

The table that a document is shown with depends on three things: its path, the extensions that ask
for highlighting, and the configured words. This module says what the table is and which changes of
the three leave it alone.

A path decides through its extension, and through that only up to the case of ASCII letters. Slashes
and dots are no letters, so a path in other letters has the same parts in other letters
(`Path.extension?_asciiLower`). If the path is `Unlit` the table is empty, and otherwise it holds
the standard words under the configured ones.

Settings that are read from a text name no word twice (`distinct_keywords_of_ofText`), which is all
that is asked of them here.
-/

namespace Scriptpad

/-! ### The case of letters -/

namespace Text

variable {f : Char → Char}

/-- Characters may be changed before a text is cut or after, if separators stay what they are. -/
theorem pieces_map {p : Char → Bool} (hf : ∀ c, p (f c) = p c) (t : Text) :
    pieces p (t.map f) = (pieces p t).map (List.map f) := by
  induction t with
  | nil => rfl
  | cons c rest ih =>
    simp only [List.map_cons, pieces, hf, ih]
    split
    · rfl
    · cases pieces p rest <;> rfl

theorem splitFirst?_map {separator : Char} (hf : ∀ c, f c = separator ↔ c = separator) (t : Text) :
    splitFirst? separator (t.map f) =
      (splitFirst? separator t).map (Prod.map (List.map f) (List.map f)) := by
  induction t with
  | nil => rfl
  | cons c rest ih =>
    simp only [List.map_cons, splitFirst?, hf, ih]
    split
    · rfl
    · cases splitFirst? separator rest <;> rfl

/-- Capitals and small letters of ASCII are in two rows. -/
theorem toNat_toLower {c : Char} (h : 0x41 ≤ c.toNat ∧ c.toNat ≤ 0x5A) :
    c.toLower.toNat = c.toNat + 0x20 := by
  have hlower : c.toLower.val = c.val + 0x20 :=
    congrArg Char.val (dif_pos (c := c.val ≥ 'A'.val ∧ c.val ≤ 'Z'.val) h)
  have hsmall : c.toNat + 0x20 < 2 ^ 32 := by omega
  exact (congrArg UInt32.toNat hlower).trans
    ((UInt32.toNat_add c.val 0x20).trans (Nat.mod_eq_of_lt hsmall))

/-- A mark that stands before the letters comes from no other character. -/
theorem toLower_eq_iff {mark : Char} (hmark : mark.toNat < 0x41) (c : Char) :
    c.toLower = mark ↔ c = mark := by
  by_cases hcapital : 0x41 ≤ c.toNat ∧ c.toNat ≤ 0x5A
  · have hletter : mark.toNat < c.toNat ∧ c.toNat < c.toLower.toNat := by
      rw [toNat_toLower hcapital]
      omega
    constructor
    · rintro rfl
      omega
    · rintro rfl
      omega
  · rw [toLower_of_not_capital hcapital]

theorem asciiLower_eq_iff {mark : Text} (hmark : (mark.all fun c ↦ c.toNat < 0x41) = true)
    {t : Text} : asciiLower t = mark ↔ t = mark := by
  induction t generalizing mark with
  | nil => rfl
  | cons c t ih =>
    cases mark with
    | nil => simp [asciiLower]
    | cons d mark =>
      rw [List.all_cons, Bool.and_eq_true, decide_eq_true_iff] at hmark
      rw [List.cons.injEq, ← ih hmark.2, ← toLower_eq_iff hmark.1]
      exact List.cons_eq_cons

end Text

namespace Path

theorem steps_asciiLower (p : Path) :
    steps (Text.asciiLower p) = (steps p).map Text.asciiLower := by
  have hslash : ∀ c : Char, (c.toLower == '/') = (c == '/') := fun c ↦
    Bool.eq_iff_iff.2 (by simpa only [beq_iff_eq] using Text.toLower_eq_iff (by decide) c)
  rw [steps, Text.asciiLower, Text.pieces_map hslash, List.filter_map, steps]
  refine congrArg (List.map _) (List.filter_congr fun piece _ ↦ ?_)
  simp

theorem names_asciiLower (p : Path) :
    names (Text.asciiLower p) = (names p).map Text.asciiLower := by
  have hhere : (here.all fun c ↦ c.toNat < 0x41) = true := by decide
  rw [names, steps_asciiLower, List.filter_map, names]
  simp only [Function.comp_def, ne_eq, Text.asciiLower_eq_iff hhere]

theorem fileName?_asciiLower (p : Path) :
    fileName? (Text.asciiLower p) = (fileName? p).map Text.asciiLower := by
  have hupward : (upward.all fun c ↦ c.toNat < 0x41) = true := by decide
  rw [fileName?, names_asciiLower, List.getLast?_map, Option.filter_map, fileName?]
  simp only [Function.comp_def, ne_eq, Text.asciiLower_eq_iff hupward]

theorem nameExtension?_asciiLower (name : Text) :
    nameExtension? (Text.asciiLower name) = (nameExtension? name).map Text.asciiLower := by
  have hsplit : splitLast? '.' (Text.asciiLower name) =
      (splitLast? '.' name).map (Prod.map Text.asciiLower Text.asciiLower) := by
    rw [splitLast?, Text.asciiLower, ← List.map_reverse,
      Text.splitFirst?_map (Text.toLower_eq_iff (by decide)), splitLast?]
    cases Text.splitFirst? '.' name.reverse <;> simp [Text.asciiLower]
  rw [nameExtension?, hsplit, nameExtension?]
  cases splitLast? '.' name with
  | none => rfl
  | some parts =>
    by_cases hstem : parts.1 = [] <;> simp [Text.asciiLower, hstem]

/-- **A path in other letters has its extension in other letters.** -/
theorem extension?_asciiLower (p : Path) :
    extension? (Text.asciiLower p) = (extension? p).map Text.asciiLower := by
  rw [extension?, fileName?_asciiLower, extension?]
  cases fileName? p with
  | none => rfl
  | some name => exact nameExtension?_asciiLower name

theorem hasExtensionIn_iff {p : Path} {extensions : List Text} :
    hasExtensionIn p extensions = true ↔ ∃ own ∈ extension? p, ∃ wanted ∈ extensions,
      Text.asciiLower wanted = Text.asciiLower own := by
  rw [hasExtensionIn]
  cases extension? p <;> simp [Text.sameIgnoringAsciiCase]

end Path

namespace Config

variable {c d : Config} {path other : Option Path}

/-! ### Which documents are highlighted -/

/-- A path is given, and its extension is none of those that ask for highlighting, in whatever
letters they are written. -/
def Unlit (c : Config) : Option Path → Prop
  | none => False
  | some p => ∀ own ∈ Path.extension? p, ∀ wanted ∈ c.highlightExtensions,
      Text.asciiLower wanted ≠ Text.asciiLower own

instance (c : Config) : (path : Option Path) → Decidable (c.Unlit path)
  | none => inferInstanceAs (Decidable False)
  | some p => inferInstanceAs (Decidable (∀ own ∈ Path.extension? p,
      ∀ wanted ∈ c.highlightExtensions, Text.asciiLower wanted ≠ Text.asciiLower own))

theorem colorsFor_eq (c : Config) (path : Option Path) :
    c.colorsFor path = if c.Unlit path then ∅ else c.colors := by
  cases path with
  | none => rfl
  | some p =>
    have hunlit : c.Unlit (some p) ↔ ¬Path.hasExtensionIn p c.highlightExtensions = true := by
      simp only [Unlit, Path.hasExtensionIn_iff, not_exists, not_and, ne_eq]
    rw [colorsFor]
    simp only [hunlit, ite_not]

/-- Neither the letters nor the order of the extensions count, nor how often one is given. -/
theorem unlit_congr
    (hwanted : ∀ e, e ∈ d.highlightExtensions.map Text.asciiLower ↔
      e ∈ c.highlightExtensions.map Text.asciiLower)
    (hpath : other.map Text.asciiLower = path.map Text.asciiLower) :
    d.Unlit other ↔ c.Unlit path := by
  -- what is asked about an extension is asked of its small letters
  have hlower (c : Config) (p : Path) : c.Unlit (some p) ↔
      ∀ own ∈ Path.extension? (Text.asciiLower p),
        own ∉ c.highlightExtensions.map Text.asciiLower := by
    simp [Unlit, Path.extension?_asciiLower]
  cases path with
  | none =>
    rw [Option.map_none, Option.map_eq_none_iff] at hpath
    rw [hpath]
    rfl
  | some p =>
    obtain ⟨q, rfl, hq⟩ := Option.map_eq_some_iff.1 hpath
    rw [hlower, hlower, hq]
    simp only [hwanted]

/-! ### What their table holds -/

theorem find?_colors_of_distinct (hwords : c.keywords.Distinct) (word : Text) :
    c.colors.find? word = (c.keywords.find? word).or (WordColors.standard.find? word) := by
  rw [find?_colors, Dictionary.find?_ofList_entries hwords]

/-- **A configured word is in its color**, and any other in its standard color, unless no word is
in color. -/
theorem find?_colorsFor (hwords : c.keywords.Distinct) (path : Option Path) (word : Text) :
    (c.colorsFor path).find? word =
      if c.Unlit path then none
      else (c.keywords.find? word).or (WordColors.standard.find? word) := by
  rw [colorsFor_eq, ← find?_colors_of_distinct hwords]
  split <;> rfl

theorem size_colors (hwords : c.keywords.Distinct) :
    c.colors.size = WordColors.standard.size +
      c.keywords.keys.countP (· ∉ WordColors.standard.keys) :=
  Dictionary.size_insertAll _ hwords

theorem distinct_colorsFor (c : Config) (path : Option Path) : (c.colorsFor path).Distinct := by
  rw [colorsFor_eq]
  split
  · exact Dictionary.distinct_empty
  · exact (Dictionary.distinct_ofList _).insertAll _

/-! ### Settings of a file -/

theorem distinct_keywordSetting {v : Toml.Value} {words : Dictionary Color}
    (h : keywordSetting v = .ok words) : words.Distinct := by
  cases v with
  | table form entries =>
    simp only [keywordSetting, Bind.bind, Except.bind] at h
    split at h
    · cases h
    · cases h
      exact Dictionary.distinct_ofList _
  | _ => cases h

/-- A setting that is taken is that of the keywords, or leaves them alone. -/
theorem keywords_of_take {name : Text} {v : Toml.Value} (h : c.take name v = .ok d) :
    d.keywords = c.keywords ∨ keywordSetting v = .ok d.keywords := by
  unfold take at h
  split at h
  · cases htext : textSetting "a string".toList v <;> rw [htext] at h <;> cases h
    exact .inl rfl
  split at h
  · cases hlist : listSetting v <;> rw [hlist] at h <;> cases h
    exact .inl rfl
  split at h
  · cases htext : textSetting "path string".toList v <;> rw [htext] at h <;> cases h
    exact .inl rfl
  split at h
  · cases hwords : keywordSetting v <;> rw [hwords] at h <;> cases h
    exact .inr rfl
  · cases h

theorem distinct_keywords_of_foldlM {entries : List (Text × Toml.Value)}
    (h : entries.foldlM (fun c (name, v) ↦ c.take name v) c = .ok d)
    (hwords : c.keywords.Distinct) : d.keywords.Distinct := by
  induction entries generalizing c with
  | nil =>
    cases h
    exact hwords
  | cons entry entries ih =>
    obtain ⟨name, v⟩ := entry
    cases htake : c.take name v with
    | error e =>
      simp only [List.foldlM_cons, htake] at h
      cases h
    | ok between =>
      simp only [List.foldlM_cons, htake] at h
      refine ih h ?_
      rcases keywords_of_take htake with heq | hset
      · rw [heq]
        exact hwords
      · exact distinct_keywordSetting hset

/-- **Settings that a text gives name no word twice**, whatever the text is. -/
theorem distinct_keywords_of_ofText {t : Text} (h : ofText t = .ok c) : c.keywords.Distinct := by
  unfold ofText at h
  split at h
  · cases h
  · exact distinct_keywords_of_foldlM h Dictionary.distinct_empty

/-! ### The table of a document -/

/-- **The table of a document is empty if it is not to be lit, and otherwise holds the configured
words over the standard ones.** Each configured word that is not standard adds one entry. The same
entries come out in other letters of the path, in other letters or another order of the extensions,
and in another order of the configured words. -/
theorem colorsFor_layered (hwords : c.keywords.Distinct) (path : Option Path) :
    (∀ word, (c.colorsFor path).find? word =
      if c.Unlit path then none
      else (c.keywords.find? word).or (WordColors.standard.find? word)) ∧
    ((c.colorsFor path).size =
      if c.Unlit path then 0
      else WordColors.standardEntries.length +
        c.keywords.keys.countP (· ∉ WordColors.standard.keys)) ∧
    ∀ (d : Config) (other : Option Path),
      d.keywords.entries.Perm c.keywords.entries →
      (∀ e, e ∈ d.highlightExtensions.map Text.asciiLower ↔
        e ∈ c.highlightExtensions.map Text.asciiLower) →
      other.map Text.asciiLower = path.map Text.asciiLower →
      (d.colorsFor other).entries.Perm (c.colorsFor path).entries := by
  refine ⟨find?_colorsFor hwords path, ?_, fun d other hperm hwanted hpath ↦ ?_⟩
  · rw [colorsFor_eq, ← WordColors.size_standard, ← size_colors hwords]
    split <;> rfl
  · have hdistinct : d.keywords.Distinct := ((hperm.map Prod.fst).nodup_iff).2 hwords
    refine Dictionary.perm_of_find?_eq (d.distinct_colorsFor other) (c.distinct_colorsFor path) ?_
    intro word
    rw [find?_colorsFor hdistinct, find?_colorsFor hwords,
      Dictionary.find?_eq_of_perm hwords hperm]
    simp only [unlit_congr hwanted hpath]

/-- Two words of which one is standard, in either order, and a path in capitals and in small
letters. -/
theorem colorsFor_layered_in_capitals :
    let c : Config :=
      { highlightExtensions := ["Txt".toList, "ns".toList]
        keywords := ⟨[("var".toList, .red), ("print".toList, .green)]⟩ }
    let d : Config :=
      { highlightExtensions := ["NS".toList, "txt".toList, "nS".toList]
        keywords := ⟨[("print".toList, .green), ("var".toList, .red)]⟩ }
    let path : Path := "games/Snake.ns".toList
    let other : Path := "games/snake.NS".toList
    c.keywords.Distinct ∧ ¬c.Unlit (some path) ∧
      (c.colorsFor (some path)).find? "var".toList = some .red ∧
      (c.colorsFor (some path)).find? "func".toList = some .blue ∧
      (c.colorsFor (some path)).size = 18 ∧
      c.Unlit (some "games/snake".toList) ∧
      (c.colorsFor (some "games/snake".toList)).size = 0 ∧
      (d.colorsFor (some other)).entries.Perm (c.colorsFor (some path)).entries := by
  intro c d path other
  have hwords : c.keywords.Distinct := by decide
  have hlit : ¬c.Unlit (some path) := by decide
  have hbare : c.Unlit (some "games/snake".toList) := by decide
  obtain ⟨hfind, hsize, hsame⟩ := colorsFor_layered hwords (some path)
  refine ⟨hwords, hlit, ?_, ?_, ?_, hbare, ?_, ?_⟩
  · rw [hfind, if_neg hlit]
    decide
  · rw [hfind, if_neg hlit]
    decide
  · rw [hsize, if_neg hlit]
    decide
  · rw [(colorsFor_layered hwords _).2.1, if_pos hbare]
  · refine hsame d (some other) (by decide) (fun e ↦ ?_) (by decide)
    have hd : d.highlightExtensions.map Text.asciiLower =
        ["ns".toList, "txt".toList, "ns".toList] := by decide
    have hc : c.highlightExtensions.map Text.asciiLower = ["txt".toList, "ns".toList] := by decide
    rw [hd, hc]
    simp only [List.mem_cons, List.not_mem_nil, or_false]
    exact ⟨fun h ↦ h.elim .inr id, .inr⟩

end Config

end Scriptpad
