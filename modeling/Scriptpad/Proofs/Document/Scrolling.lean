import Mathlib.Data.Nat.Dist
import Mathlib.Logic.Function.Iterate
import Scriptpad.Proofs.Document.History
import Scriptpad.Proofs.Document.View

/-!
# Scrolling one line at a time

A window can be taken to a line outside of it in two ways. Following the line moves the window by
one line each time; revealing the line, as a change of height does, moves it there at once. The two
meet: after as many turns as the line is away, following has made the window that revealing makes
(`iterate_follow_eq_reveal`), and further turns change nothing. It is the one window of this height
that shows the line and is moved least (`IsNearest`).

The window of a document follows the cursor once after each edit and each movement. That this is
enough does not come from the window: it is because none of them takes the cursor more than one line
further (`Follows`), so that a cursor that was shown is never more than one line outside
(`Follows.scrollsOnce`).

A line is above the window, shown by it, or below it, and each law is proved by these three cases.
Differences of natural numbers stop at zero, so how far a window has moved up is said as a sum, in
which nothing can stop.
-/

namespace Scriptpad

namespace Window

variable {w : Window} {line : Nat}

/-! ### Where a line is -/

/-- How many lines a line is outside of a window; zero if the window shows it. -/
def distance (w : Window) (line : Nat) : Nat :=
  if line < w.offset then w.offset - line
  else if w.bottom < line then line - w.bottom
  else 0

theorem above_or_contains_or_below (w : Window) (line : Nat) :
    line < w.offset ∨ w.contains line = true ∨ w.bottom < line := by
  rw [contains_iff]
  show line < w.offset ∨ _ ∨ w.offset + w.height - 1 < line
  omega

/-- A window with a row has no line that is both above and below it. -/
theorem not_above_of_below (hw : w.WellFormed) (h : w.bottom < line) : ¬line < w.offset := by
  have hheight : 1 ≤ w.height := hw
  have hbelow : w.offset + w.height - 1 < line := h
  omega

theorem distance_of_above (h : line < w.offset) : w.distance line = w.offset - line :=
  if_pos h

theorem distance_of_below (hw : w.WellFormed) (h : w.bottom < line) :
    w.distance line = line - w.bottom := by
  rw [distance, if_neg (not_above_of_below hw h), if_pos h]

theorem distance_of_contains (h : w.contains line = true) : w.distance line = 0 := by
  obtain ⟨htop, hbottom⟩ := not_outside_of_contains h
  rw [distance, if_neg htop, if_neg hbottom]

/-- A line next to one that is shown is at most one line outside. -/
theorem distance_le_one (hw : w.WellFormed) {next : Nat} (h : w.contains line = true)
    (hup : line ≤ next + 1) (hdown : next ≤ line + 1) : w.distance next ≤ 1 := by
  have hbottom : w.bottom = w.offset + w.height - 1 := rfl
  obtain ⟨htop, hlast⟩ := contains_iff.1 h
  rcases above_or_contains_or_below w next with habove | hcontains | hbelow
  · rw [distance_of_above habove]
    omega
  · rw [distance_of_contains hcontains]
    exact Nat.zero_le 1
  · rw [distance_of_below hw hbelow]
    omega

/-! ### One turn -/

theorem follow_of_above (h : line < w.offset) :
    w.follow line = { w with offset := w.offset - 1 } :=
  if_pos h

theorem follow_of_below (hw : w.WellFormed) (h : w.bottom < line) :
    w.follow line = { w with offset := w.offset + 1 } := by
  rw [follow, if_neg (not_above_of_below hw h), if_pos h]

/-! ### Many turns -/

theorem height_iterate_follow (w : Window) (line k : Nat) :
    ((follow · line)^[k] w).height = w.height := by
  induction k with
  | zero => rfl
  | succ k ih => rw [Function.iterate_succ_apply', height_follow, ih]

theorem iterate_follow_of_contains (h : w.contains line = true) (k : Nat) :
    (follow · line)^[k] w = w :=
  Function.iterate_fixed (follow_of_contains h) k

/-- **A line above**: each turn takes the window one line up, until the line is its first. -/
theorem iterate_follow_of_above (hw : w.WellFormed) (h : line < w.offset) (k : Nat) :
    (follow · line)^[k] w = { w with offset := w.offset - min k (w.distance line) } := by
  have hheight : 1 ≤ w.height := hw
  rw [distance_of_above h]
  induction k with
  | zero => rw [Nat.zero_min]; rfl
  | succ k ih =>
    rw [Function.iterate_succ_apply', ih]
    rcases Nat.lt_or_ge k (w.offset - line) with hmore | hdone
    · have habove : line < w.offset - min k (w.offset - line) := by omega
      rw [follow_of_above habove, Nat.min_eq_left hmore, Nat.min_eq_left (Nat.le_of_lt hmore)]
      rfl
    · have hoffset : w.offset - (w.offset - line) = line := by omega
      rw [Nat.min_eq_right hdone, Nat.min_eq_right (Nat.le_succ_of_le hdone), hoffset]
      refine follow_of_contains (contains_iff.2 ⟨Nat.le_refl line, ?_⟩)
      show line ≤ line + w.height - 1
      omega

/-- **A line below**: each turn takes the window one line down, until the line is its last. -/
theorem iterate_follow_of_below (hw : w.WellFormed) (h : w.bottom < line) (k : Nat) :
    (follow · line)^[k] w = { w with offset := w.offset + min k (w.distance line) } := by
  have hheight : 1 ≤ w.height := hw
  have hbottom : w.bottom = w.offset + w.height - 1 := rfl
  rw [distance_of_below hw h]
  induction k with
  | zero => rw [Nat.zero_min]; rfl
  | succ k ih =>
    rw [Function.iterate_succ_apply', ih]
    rcases Nat.lt_or_ge k (line - w.bottom) with hmore | hdone
    · rw [Nat.min_eq_left hmore, Nat.min_eq_left (Nat.le_of_lt hmore)]
      refine follow_of_below hw ?_
      show w.offset + k + w.height - 1 < line
      omega
    · rw [Nat.min_eq_right hdone, Nat.min_eq_right (Nat.le_succ_of_le hdone)]
      refine follow_of_contains (contains_iff.2 ⟨?_, ?_⟩)
      · show w.offset + (line - w.bottom) ≤ line
        omega
      · show line ≤ w.offset + (line - w.bottom) + w.height - 1
        omega

/-! ### Following and revealing -/

theorem reveal_of_contains (h : w.contains line = true) : w.reveal line = w := by
  obtain ⟨htop, hbottom⟩ := not_outside_of_contains h
  rw [reveal, if_neg htop, if_neg hbottom]

theorem reveal_of_above (h : line < w.offset) : w.reveal line = { w with offset := line } :=
  if_pos h

theorem reveal_of_below (hw : w.WellFormed) (h : w.bottom < line) :
    w.reveal line = { w with offset := line + 1 - w.height } := by
  rw [reveal, if_neg (not_above_of_below hw h), if_pos h]

/-- A window with a row has its height already, so giving it this height only reveals the line. -/
theorem resize_height (hw : w.WellFormed) (line : Nat) :
    w.resize w.height line = w.reveal line := by
  rw [resize, Nat.max_eq_left hw]

/-- **Following for as many turns as the line is away reveals it.** -/
theorem iterate_follow_eq_reveal (hw : w.WellFormed) {k : Nat} (hk : w.distance line ≤ k) :
    (follow · line)^[k] w = w.reveal line := by
  have hheight : 1 ≤ w.height := hw
  have hbottom : w.bottom = w.offset + w.height - 1 := rfl
  rcases above_or_contains_or_below w line with habove | hcontains | hbelow
  · rw [iterate_follow_of_above hw habove, Nat.min_eq_right hk, distance_of_above habove,
      reveal_of_above habove, Nat.sub_sub_self (Nat.le_of_lt habove)]
  · rw [iterate_follow_of_contains hcontains, reveal_of_contains hcontains]
  · rw [iterate_follow_of_below hw hbelow, Nat.min_eq_right hk, distance_of_below hw hbelow,
      reveal_of_below hw hbelow]
    congr 1
    omega

/-- The window of the same height that shows a line and is moved least. -/
structure IsNearest (w : Window) (line : Nat) (nearest : Window) : Prop where
  height : nearest.height = w.height
  contains : nearest.contains line = true
  dist_lt : ∀ other : Window, other.height = w.height → other.contains line = true →
    other ≠ nearest → Nat.dist w.offset nearest.offset < Nat.dist w.offset other.offset

/-- **Revealing a line moves the window least.** -/
theorem isNearest_reveal (hw : w.WellFormed) (line : Nat) : w.IsNearest line (w.reveal line) := by
  refine ⟨height_reveal w line, contains_reveal hw line, fun other hsame hother hne ↦ ?_⟩
  have hoffset : other.offset ≠ (w.reveal line).offset := fun heq ↦
    hne (Window.mk.injEq .. ▸ ⟨heq, hsame.trans (height_reveal w line).symm⟩)
  have hheight : 1 ≤ w.height := hw
  have hbottom : w.bottom = w.offset + w.height - 1 := rfl
  obtain ⟨htop, hlast⟩ := contains_iff.1 hother
  rw [hsame] at hlast
  rcases above_or_contains_or_below w line with habove | hcontains | hbelow
  · rw [reveal_of_above habove] at hoffset ⊢
    simp only [Nat.dist] at hoffset ⊢
    omega
  · rw [reveal_of_contains hcontains] at hoffset ⊢
    simp only [Nat.dist]
    omega
  · rw [reveal_of_below hw hbelow] at hoffset ⊢
    simp only [Nat.dist] at hoffset ⊢
    omega

end Window

namespace Document

variable {doc next : Document}

/-- Going from one document to the next asks of the window one turn of following at most, and the
turn that it does is the right one. -/
structure ScrollsOnce (doc next : Document) : Prop where
  distance_le : doc.window.distance next.cursor.line ≤ 1
  follows : next.window = doc.window.follow next.cursor.line
  nearest : doc.window.IsNearest next.cursor.line next.window
  unmoved : doc.window.contains next.cursor.line = true → next.window = doc.window

/-- **One turn keeps up with a cursor** that was shown and has gone one line further at most. -/
theorem Follows.scrollsOnce (h : doc.Follows next) (hdoc : doc.WellFormed) :
    doc.ScrollsOnce next := by
  obtain ⟨hfollows, hdistance⟩ : next.window = doc.window.follow next.cursor.line ∧
      doc.window.distance next.cursor.line ≤ 1 := by
    rcases h with - | ⟨hwindow, hup, hdown⟩
    · -- a cursor that stays is shown as before, so following it would do nothing
      rw [Window.follow_of_contains hdoc.visible, Window.distance_of_contains hdoc.visible]
      exact ⟨rfl, Nat.zero_le 1⟩
    · exact ⟨hwindow, Window.distance_le_one hdoc.height_pos hdoc.visible hup hdown⟩
  have hreveal : doc.window.follow next.cursor.line = doc.window.reveal next.cursor.line :=
    Window.iterate_follow_eq_reveal hdoc.height_pos hdistance
  refine ⟨hdistance, hfollows, ?_, fun hcontains ↦ ?_⟩
  · rw [hfollows, hreveal]
    exact Window.isNearest_reveal hdoc.height_pos _
  · rw [hfollows, Window.follow_of_contains hcontains]

/-! ### Walking down a document -/

theorem Reachable.iterate_move (h : doc.Reachable) (d : Movement) (n : Nat) :
    ((Document.move · d)^[n] doc).Reachable :=
  Function.Iterate.rec Reachable h (fun _ h ↦ h.move d) n

theorem move_down (hzero : doc.cursor.column = 0) (hnext : doc.cursor.line + 1 < doc.size) :
    doc.move .down = doc.moveTo ⟨doc.cursor.line + 1, 0⟩ := by
  have htarget : doc.target? .down = some ⟨doc.cursor.line + 1, 0⟩ := by
    rw [target?, if_pos hnext, onLine, hzero, Nat.zero_min]
  rw [move, htarget]

/-- A window whose last line is `n`, or which is at the top and shows it, goes on to the next. -/
theorem follow_next (w : Window) (hw : w.WellFormed) (n : Nat) :
    Window.follow { w with offset := n + 1 - w.height } (n + 1) =
      { w with offset := n + 2 - w.height } := by
  have hheight : 1 ≤ w.height := hw
  rcases Nat.lt_or_ge (n + 1) w.height with hshown | hpast
  · have htop : n + 1 - w.height = 0 := by omega
    have htop' : n + 2 - w.height = 0 := by omega
    rw [htop, htop']
    refine Window.follow_of_contains (Window.contains_iff.2 ⟨Nat.zero_le _, ?_⟩)
    show n + 1 ≤ 0 + w.height - 1
    omega
  · have hbelow : Window.bottom { w with offset := n + 1 - w.height } < n + 1 := by
      show n + 1 - w.height + w.height - 1 < n + 1
      omega
    have hmoved : Window.WellFormed { w with offset := n + 1 - w.height } := hw
    refine (Window.follow_of_below hmoved hbelow).trans ?_
    congr 1
    show n + 1 - w.height + 1 = n + 2 - w.height
    omega

/-- **From the very start of a document**, moving down takes the cursor from line to line, and once
it has reached the last row of the window, the window goes with it. -/
theorem iterate_move_down (hcursor : doc.cursor = ⟨0, 0⟩) (hoffset : doc.window.offset = 0)
    (hheight : doc.window.WellFormed) {n : Nat} (hn : n < doc.size) :
    (Document.move · .down)^[n] doc =
      { doc with
          cursor := ⟨n, 0⟩
          window := { doc.window with offset := n + 1 - doc.window.height } } := by
  induction n with
  | zero =>
    obtain ⟨lines, cursor, ⟨offset, height⟩, modified⟩ := doc
    obtain rfl : cursor = ⟨0, 0⟩ := hcursor
    obtain rfl : offset = 0 := hoffset
    have htop : 0 + 1 - height = 0 := Nat.sub_eq_zero_of_le hheight
    show _ = Document.mk lines ⟨0, 0⟩ ⟨0 + 1 - height, height⟩ modified
    rw [htop]
    rfl
  | succ n ih =>
    rw [Function.iterate_succ_apply', ih (Nat.lt_of_succ_lt hn), move_down rfl hn, moveTo,
      follow_next _ hheight]

/-- **Following agrees with revealing.** A window that has a row, following any line for any number
of turns, keeps its height and moves towards the line by one line each turn, until it has moved by
as many lines as the line was outside; it never moves past the line, and not at all if the line is
shown. From then on it is the window that resizing to the same height makes, the one window that
shows the line and is moved least. In a document with a history, no edit and no movement takes the
cursor more than one line outside of the window, so the one turn of following that comes with it
makes this window, which is the old one if it shows the cursor's line. -/
theorem following_agrees_with_revealing {w : Window} (hw : w.WellFormed) (line : Nat)
    {doc : Document} (hdoc : doc.Reachable) :
    let outside := w.distance line
    let after := fun turns ↦ (Window.follow · line)^[turns] w
    (∀ turns, (after turns).height = w.height ∧
      (line < w.offset →
        (after turns).offset + min turns outside = w.offset ∧ line ≤ (after turns).offset) ∧
      (w.bottom < line →
        (after turns).offset = w.offset + min turns outside ∧ (after turns).bottom ≤ line) ∧
      (w.contains line = true → after turns = w)) ∧
    (∀ turns, outside ≤ turns → after turns = w.resize w.height line) ∧
    w.IsNearest line (w.resize w.height line) ∧
    (∀ c, doc.ScrollsOnce (doc.typeChar c)) ∧ doc.ScrollsOnce doc.deleteLeft ∧
      doc.ScrollsOnce doc.breakLine ∧ ∀ d, doc.ScrollsOnce (doc.move d) := by
  intro outside after
  have hheight : 1 ≤ w.height := hw
  have hbottom : w.bottom = w.offset + w.height - 1 := rfl
  have hwell : doc.WellFormed := hdoc.wellFormed
  rw [Window.resize_height hw]
  refine ⟨fun turns ↦ ⟨?_, fun habove ↦ ?_, fun hbelow ↦ ?_, fun hcontains ↦ ?_⟩,
    fun turns ↦ Window.iterate_follow_eq_reveal hw, Window.isNearest_reveal hw line,
    fun c ↦ (follows_typeChar doc c).scrollsOnce hwell, (follows_deleteLeft doc).scrollsOnce hwell,
    (follows_breakLine doc).scrollsOnce hwell, fun d ↦ (follows_move doc d).scrollsOnce hwell⟩
  · exact Window.height_iterate_follow w line turns
  · have houtside : outside = w.offset - line := Window.distance_of_above habove
    have hafter : after turns = _ := Window.iterate_follow_of_above hw habove turns
    rw [hafter]
    show w.offset - min turns outside + min turns outside = _ ∧ line ≤ w.offset - min turns outside
    omega
  · have houtside : outside = line - w.bottom := Window.distance_of_below hw hbelow
    have hafter : after turns = _ := Window.iterate_follow_of_below hw hbelow turns
    rw [hafter]
    refine ⟨rfl, ?_⟩
    show w.offset + min turns outside + w.height - 1 ≤ line
    omega
  · exact Window.iterate_follow_of_contains hcontains turns

/-- Three turns take a window of three rows to a line that is three lines below it, and the fourth
does nothing. A break in a document of one line, shown in one row, takes one turn. -/
theorem following_three_lines_down :
    let w : Window := ⟨5, 3⟩
    let doc := (Origin.lines ["  ab".toList]).document.resizeWindow 1
    w.WellFormed ∧ doc.Reachable ∧ w.distance 10 = 3 ∧
      (Window.follow · 10)^[2] w = ⟨7, 3⟩ ∧ (Window.follow · 10)^[4] w = w.resize 3 10 ∧
      w.resize 3 10 = ⟨8, 3⟩ ∧ doc.breakLine.cursor = ⟨1, 2⟩ ∧
      doc.window.IsNearest 1 ⟨1, 1⟩ := by
  intro w doc
  have hw : w.WellFormed := show 1 ≤ 3 by decide
  have hdoc : doc.Reachable := (Reachable.origin _).resizeWindow 1
  have hdistance : w.distance 10 = 3 := by decide
  obtain ⟨hafter, hresize, -, -, -, hbreak, -⟩ := following_agrees_with_revealing hw 10 hdoc
  obtain ⟨hheight, -, hbelow, -⟩ := hafter 2
  obtain ⟨hoffset, -⟩ := hbelow (by decide)
  rw [hdistance] at hoffset
  have htwo : (Window.follow · 10)^[2] w = ⟨7, 3⟩ := Window.mk.injEq .. ▸ ⟨hoffset, hheight⟩
  exact ⟨hw, hdoc, hdistance, htwo, hresize 4 (by decide), by decide, by decide, hbreak.nearest⟩

end Document

end Scriptpad
