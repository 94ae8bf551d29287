import Scriptpad.Proofs.Text.Trimming

/-!
# Words as maximal runs

The words of a text are defined by cutting at each blank and leaving out what is empty. Here they
are said in two ways that do not cut.

* `IsSpaced` builds a text from its words: any padding, a word, at least one blank, and so on, with
  blanks at the end or none. Every text is built in this way from its words and from no other list
  (`words_eq_iff`), so two texts have the same words just when they differ in their blanks only
  (`words_eq_words_iff`).
* `IsRun` says of a place in a text that what stands there is a word and cannot be made longer. The
  runs are the words in their order: what is before a run has the words before it, and what is
  behind it has the others (`words_eq_append_cons_iff`).

Words joined by single spaces are one of the texts that they build, and so come back from it.
-/

namespace Scriptpad.Text

variable {s t : Text} {ws : List Text}

/-- A text with a character and no blank. -/
structure IsWord (w : Text) : Prop where
  ne_nil : w ≠ []
  visible : ∀ c ∈ w, isBlank c = false

/-- The text is made of the words in their order, with a blank or more between each two, and any
padding at its two ends. -/
inductive IsSpaced : List Text → Text → Prop
  | blank (u : Padding) : IsSpaced [] u
  | last (u : Padding) {w : Text} (hw : IsWord w) : IsSpaced [w] (u ++ w)
  | next (u : Padding) {w : Text} (hw : IsWord w) {c : Char} (hc : isBlank c = true)
    {ws : List Text} {rest : Text} (h : IsSpaced ws rest) :
    IsSpaced (w :: ws) (u ++ w ++ c :: rest)

/-- The texts differ in their blanks only: in how many there are between two words, at least one, in
which they are, and in those at the ends. -/
def DiffersInBlanks (s t : Text) : Prop :=
  ∃ ws, IsSpaced ws s ∧ IsSpaced ws t

/-- Between what is before it and what is behind it, the word is a maximal run of characters that
are not blank. -/
structure IsRun (before word behind : Text) : Prop where
  isWord : IsWord word
  left : ∀ c ∈ before.getLast?, isBlank c = true
  right : ∀ c ∈ behind.head?, isBlank c = true

theorem isWord_of_mem_words {w : Text} (h : w ∈ words t) : IsWord w :=
  ⟨(mem_words h).1, (mem_words h).2⟩

/-! ### Blanks on one side -/

theorem words_cons_of_blank {c : Char} (hc : isBlank c = true) (t : Text) :
    words (c :: t) = words t :=
  words_append_cons hc [] t

theorem IsWord.words_eq {w : Text} (hw : IsWord w) : words w = [w] :=
  words_of_forall hw.ne_nil hw.visible

/-- What ends in a blank is parted from what follows. -/
theorem words_append_of_getLast? (h : ∀ c ∈ s.getLast?, isBlank c = true) (t : Text) :
    words (s ++ t) = words s ++ words t := by
  rcases List.eq_nil_or_concat' s with rfl | ⟨front, c, rfl⟩
  · rfl
  · have hc : isBlank c = true := h c List.getLast?_concat
    rw [List.append_assoc, List.singleton_append, words_append_cons hc, words_append_cons hc]
    show _ = words front ++ [] ++ words t
    rw [List.append_nil]

/-- And what begins with one, from what precedes it. -/
theorem words_append_of_head? (h : ∀ c ∈ t.head?, isBlank c = true) (s : Text) :
    words (s ++ t) = words s ++ words t := by
  cases t with
  | nil => rw [List.append_nil]; exact (List.append_nil _).symm
  | cons c t =>
    have hc : isBlank c = true := h c rfl
    rw [words_append_cons hc, words_cons_of_blank hc]

theorem words_padding (u : Padding) : words u = [] := by
  obtain ⟨u, hu⟩ := u
  show words u = []
  induction u with
  | nil => rfl
  | cons c u ih =>
    obtain ⟨hc, hu⟩ := Bool.and_eq_true_iff.1 hu
    rw [words_cons_of_blank hc, ih hu]

theorem Padding.blank_of_mem_getLast? (u : Padding) : ∀ c ∈ u.text.getLast?, isBlank c = true :=
  fun c hc ↦ List.all_eq_true.1 u.blank c (List.mem_of_mem_getLast? hc)

theorem words_pad (u : Padding) (t : Text) : words (u ++ t) = words t := by
  rw [words_append_of_getLast? u.blank_of_mem_getLast?, words_padding, List.nil_append]

/-! ### Texts from words -/

/-- **The words come back.** -/
theorem IsSpaced.words_eq (h : IsSpaced ws t) : words t = ws := by
  induction h with
  | blank u => exact words_padding u
  | last u hw => rw [words_pad, hw.words_eq]
  | next u hw hc _ ih =>
    rw [words_append_cons hc, words_pad, hw.words_eq, ih, List.singleton_append]

/-- A text is padding, or has a first word, which ends with the text or before a blank. -/
theorem exists_first_word (t : Text) :
    (∃ u : Padding, t = u) ∨ ∃ (u : Padding) (w : Text), IsWord w ∧
      (t = u ++ w ∨ ∃ c rest, isBlank c = true ∧ t = u ++ w ++ c :: rest) := by
  let u : Padding := ⟨t.takeWhile isBlank, List.all_takeWhile⟩
  have ht : t = u ++ trimStart t := List.takeWhile_append_dropWhile.symm
  have hhead := List.head?_dropWhile_not isBlank t
  rw [show t.dropWhile isBlank = trimStart t from rfl] at hhead
  cases hbody : trimStart t with
  | nil =>
    rw [hbody, List.append_nil] at ht
    exact .inl ⟨u, ht⟩
  | cons d body =>
    rw [hbody] at ht hhead
    let w := d :: body.takeWhile (!isBlank ·)
    have hword : IsWord w := by
      refine ⟨List.cons_ne_nil _ _, List.forall_mem_cons.2 ⟨hhead, fun c hc ↦ ?_⟩⟩
      have hvisible := List.all_eq_true.1 List.all_takeWhile c hc
      exact Bool.not_eq_eq_eq_not.1 hvisible
    have hsplit : d :: body = w ++ body.dropWhile (!isBlank ·) :=
      congrArg (d :: ·) List.takeWhile_append_dropWhile.symm
    have hbehind := List.head?_dropWhile_not (!isBlank ·) body
    refine .inr ⟨u, w, hword, ?_⟩
    rw [ht, hsplit, ← List.append_assoc]
    cases hrest : body.dropWhile (!isBlank ·) with
    | nil => exact .inl (List.append_nil _)
    | cons c rest =>
      rw [hrest] at hbehind
      exact .inr ⟨c, rest, Bool.not_eq_eq_eq_not.1 hbehind, rfl⟩

/-- **Every text is made of words.** -/
theorem exists_isSpaced (t : Text) : ∃ ws, IsSpaced ws t := by
  induction hlength : t.length using Nat.strongRecOn generalizing t with
  | ind n ih =>
    rcases exists_first_word t with ⟨u, rfl⟩ | ⟨u, w, hw, rfl | ⟨c, rest, hc, rfl⟩⟩
    · exact ⟨_, .blank u⟩
    · exact ⟨_, .last u hw⟩
    · have hshorter : rest.length < n := by
        rw [← hlength, List.length_append, List.length_cons]
        omega
      obtain ⟨ws, hws⟩ := ih _ hshorter rest rfl
      exact ⟨_, .next u hw hc hws⟩

theorem words_eq_iff : words t = ws ↔ IsSpaced ws t := by
  refine ⟨fun h ↦ ?_, IsSpaced.words_eq⟩
  obtain ⟨vs, hvs⟩ := exists_isSpaced t
  rwa [← h, hvs.words_eq]

/-- **Texts have the same words just when they differ in their blanks only.** -/
theorem words_eq_words_iff : words s = words t ↔ DiffersInBlanks s t := by
  constructor
  · intro h
    exact ⟨words s, words_eq_iff.1 rfl, words_eq_iff.1 h.symm⟩
  · rintro ⟨ws, hs, ht⟩
    exact hs.words_eq.trans ht.words_eq.symm

/-- Single spaces are enough to part words. -/
theorem isSpaced_joinWith (h : ∀ w ∈ ws, IsWord w) : IsSpaced ws (joinWith [' '] ws) := by
  induction ws with
  | nil => exact .blank .none
  | cons w more ih =>
    obtain ⟨hw, hmore⟩ := List.forall_mem_cons.1 h
    cases more with
    | nil => exact .last .none hw
    | cons next more =>
      have hjoin : joinWith [' '] (w :: next :: more) =
          Padding.none ++ w ++ ' ' :: joinWith [' '] (next :: more) := List.append_assoc _ _ _
      rw [hjoin]
      exact .next .none hw rfl (ih hmore)

/-! ### Runs -/

theorem IsRun.words_eq {before word behind : Text} (h : IsRun before word behind) :
    words (before ++ word ++ behind) = words before ++ word :: words behind := by
  rw [words_append_of_head? h.right, words_append_of_getLast? h.left, h.isWord.words_eq,
    List.append_assoc, List.singleton_append]

theorem blank_of_mem_getLast?_append {c : Char} (hc : isBlank c = true)
    (h : ∀ d ∈ t.getLast?, isBlank d = true) (s : Text) :
    ∀ d ∈ (s ++ c :: t).getLast?, isBlank d = true := by
  intro d hd
  rw [List.getLast?_append_of_ne_nil _ (List.cons_ne_nil c t)] at hd
  rcases eq_or_ne t [] with rfl | hne
  · obtain rfl := Option.some.inj hd
    exact hc
  · rw [List.getLast?_cons_of_ne_nil hne] at hd
    exact h d hd

/-- Each word of a text stands in it as a run, behind the words that come before it. -/
theorem IsSpaced.exists_run {earlier later : List Text} {word : Text} (h : IsSpaced ws t)
    (hws : ws = earlier ++ word :: later) :
    ∃ before behind, t = before ++ word ++ behind ∧ IsRun before word behind ∧
      words before = earlier ∧ words behind = later := by
  induction h generalizing earlier with
  | blank u =>
    exact absurd hws.symm (List.append_ne_nil_of_right_ne_nil _ (List.cons_ne_nil _ _))
  | @last u w hw =>
    obtain ⟨rfl, rfl, rfl⟩ : earlier = [] ∧ word = w ∧ later = [] := by
      simpa [List.append_eq_cons_iff] using hws.symm
    exact ⟨u, [], (List.append_nil _).symm, ⟨hw, u.blank_of_mem_getLast?, nofun⟩,
      words_padding u, rfl⟩
  | @next u w hw c hc ws rest h ih =>
    cases earlier with
    | nil =>
      obtain ⟨rfl, rfl⟩ := List.cons.inj hws
      refine ⟨u, c :: rest, rfl, ⟨hw, u.blank_of_mem_getLast?, ?_⟩, words_padding u, ?_⟩
      · rintro d ⟨⟩
        exact hc
      · rw [words_cons_of_blank hc, h.words_eq]
    | cons first earlier =>
      obtain ⟨rfl, hmore⟩ := List.cons.inj hws
      obtain ⟨before, behind, rfl, hrun, rfl, rfl⟩ := ih hmore
      refine ⟨u ++ w ++ c :: before, behind, ?_, ⟨hrun.isWord, ?_, hrun.right⟩, ?_, rfl⟩
      · simp only [List.append_assoc, List.cons_append]
      · exact blank_of_mem_getLast?_append hc hrun.left _
      · rw [words_append_cons hc, words_pad, hw.words_eq, List.singleton_append]

/-- **The words are the runs in their order.** -/
theorem words_eq_append_cons_iff {earlier later : List Text} {word : Text} :
    words t = earlier ++ word :: later ↔
      ∃ before behind, t = before ++ word ++ behind ∧ IsRun before word behind ∧
        words before = earlier ∧ words behind = later := by
  constructor
  · intro h
    obtain ⟨ws, hws⟩ := exists_isSpaced t
    rw [hws.words_eq] at h
    exact hws.exists_run h
  · rintro ⟨before, behind, rfl, hrun, rfl, rfl⟩
    exact hrun.words_eq

end Scriptpad.Text
