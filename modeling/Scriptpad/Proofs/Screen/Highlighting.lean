import Scriptpad.Highlight
import Scriptpad.Proofs.Text.Words

/-!
# Highlighted lines in normal form

The tokens of a line are its runs of visible characters in their order, and the color of each is
found by its text alone. So the blanks of a line leave no trace in its tokens, and tokens shown with
one space between each two are a normal form of all lines that have these tokens: highlighting it
again gives the tokens back (`ofLine_spaced`), and lines have the same tokens just when they differ
in their blanks only (`ofLine_eq_ofLine_iff`).

Everything about the line is a statement about its words. Tokens add only that a list of tokens is
known from the list of its texts (`ofLine_eq_iff`).
-/

namespace Scriptpad.Token

open Text (IsWord IsRun IsSpaced DiffersInBlanks isBlank)

variable {table : WordColors} {line : Text} {tokens : List Token}

/-- A list of tokens is that of a line if its texts are the words and its colors those of the
texts. -/
theorem ofLine_eq_iff :
    ofLine table line = tokens ↔
      Text.words line = tokens.map (·.text) ∧
        ∀ token ∈ tokens, token.color = table.find? token.text := by
  constructor
  · rintro rfl
    exact ⟨(map_text_ofLine table line).symm, fun token hmem ↦ (text_mem_words hmem).2⟩
  · rintro ⟨hwords, hcolors⟩
    rw [ofLine, hwords, List.map_map]
    refine (List.map_congr_left fun token hmem ↦ ?_).trans (List.map_id tokens)
    show Token.mk token.text (table.find? token.text) = token
    rw [← hcolors token hmem]

theorem isWord_of_mem_ofLine {token : Token} (h : token ∈ ofLine table line) :
    IsWord token.text :=
  Text.isWord_of_mem_words (text_mem_words h).1

/-- **Lines have the same tokens just when they differ in their blanks only.** -/
theorem ofLine_eq_ofLine_iff {other : Text} :
    ofLine table other = ofLine table line ↔ DiffersInBlanks other line := by
  rw [← Text.words_eq_words_iff]
  constructor
  · intro h
    rw [← map_text_ofLine table other, h, map_text_ofLine]
  · intro h
    rw [ofLine, h]
    rfl

/-- **Highlighting what is shown gives the same tokens.** -/
theorem ofLine_spaced (table : WordColors) (line : Text) :
    ofLine table (spaced (ofLine table line)) = ofLine table line := by
  rw [ofLine_eq_ofLine_iff]
  refine ⟨Text.words line, ?_, Text.words_eq_iff.1 rfl⟩
  rw [spaced, map_text_ofLine]
  exact Text.isSpaced_joinWith fun word ↦ Text.isWord_of_mem_words

/-- **The tokens are the runs in their order**, each in the color of its text. -/
theorem ofLine_eq_append_cons_iff {earlier later : List Token} {token : Token} :
    ofLine table line = earlier ++ token :: later ↔
      ∃ before behind, line = before ++ token.text ++ behind ∧ IsRun before token.text behind ∧
        token.color = table.find? token.text ∧ ofLine table before = earlier ∧
        ofLine table behind = later := by
  constructor
  · intro h
    obtain ⟨hwords, hcolors⟩ := ofLine_eq_iff.1 h
    rw [List.map_append, List.map_cons, Text.words_eq_append_cons_iff] at hwords
    obtain ⟨before, behind, hline, hrun, hbefore, hbehind⟩ := hwords
    obtain ⟨hearlier, hrest⟩ := List.forall_mem_append.1 hcolors
    obtain ⟨hcolor, hlater⟩ := List.forall_mem_cons.1 hrest
    exact ⟨before, behind, hline, hrun, hcolor, ofLine_eq_iff.2 ⟨hbefore, hearlier⟩,
      ofLine_eq_iff.2 ⟨hbehind, hlater⟩⟩
  · rintro ⟨before, behind, rfl, hrun, hcolor, rfl, rfl⟩
    rw [ofLine, hrun.words_eq, List.map_append, List.map_cons, ← hcolor]
    rfl

/-- **Highlighting, and the normal form of a line.** The tokens of a line are exactly its maximal
runs of characters that are not blank, in their order: a token stands between earlier and later
tokens just where a run stands between parts of the line that have these tokens. So each has a
character and no blank, put end to end they are the line without its blanks, and the color of each
is what the table has for exactly its text. Shown with single spaces and highlighted again they stay
the same, so showing a line twice is showing it once; and another line has the same tokens just when
it differs from this one in its blanks only. -/
theorem highlighting_normal_form (table : WordColors) (line : Text) :
    let tokens := ofLine table line
    (∀ earlier token later, tokens = earlier ++ token :: later ↔
      ∃ before behind, line = before ++ token.text ++ behind ∧ IsRun before token.text behind ∧
        token.color = table.find? token.text ∧ ofLine table before = earlier ∧
        ofLine table behind = later) ∧
    (∀ token ∈ tokens, token.text ≠ [] ∧ (∀ c ∈ token.text, isBlank c = false) ∧
      token.color = table.find? token.text) ∧
    (tokens.map (·.text)).flatten = line.filter (!isBlank ·) ∧
    ofLine table (spaced tokens) = tokens ∧
    spaced (ofLine table (spaced tokens)) = spaced tokens ∧
    ∀ other, ofLine table other = tokens ↔ DiffersInBlanks other line := by
  intro tokens
  refine ⟨fun _ _ _ ↦ ofLine_eq_append_cons_iff, fun token hmem ↦ ?_, ?_, ofLine_spaced table line,
    congrArg spaced (ofLine_spaced table line), fun _ ↦ ofLine_eq_ofLine_iff⟩
  · have hword : IsWord token.text := isWord_of_mem_ofLine hmem
    exact ⟨hword.ne_nil, hword.visible, (text_mem_words hmem).2⟩
  · rw [map_text_ofLine, Text.flatten_words]

/-- Tabs and wide spaces part words as spaces do, and none of them is left. -/
theorem highlighting_normal_form_of_blanks :
    let line := "\u3000if\t x ".toList
    let tokens : List Token := [⟨"if".toList, some .magenta⟩, ⟨"x".toList, none⟩]
    ofLine .standard line = tokens ∧ IsRun ['\u3000'] "if".toList "\t x ".toList ∧
      IsWord "if".toList ∧ ofLine .standard "if x".toList = tokens := by
  intro line tokens
  have hmem : "if".toList ∈ Text.words line := by decide
  have hword : IsWord "if".toList := Text.isWord_of_mem_words hmem
  have hrun : IsRun ['\u3000'] "if".toList "\t x ".toList := by
    refine ⟨hword, ?_, ?_⟩
    · rintro c ⟨⟩
      rfl
    · rintro c ⟨⟩
      rfl
  obtain ⟨hruns, -, -, hspaced, -⟩ := highlighting_normal_form .standard line
  have htokens : ofLine .standard line = tokens :=
    (hruns [] tokens[0] [tokens[1]]).2 ⟨_, _, rfl, hrun, by decide, by decide, by decide⟩
  rw [htokens] at hspaced
  exact ⟨htokens, hrun, hword, hspaced⟩

end Scriptpad.Token
