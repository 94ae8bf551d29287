import Scriptpad.Proofs.Session.Coherence

/-!
# The size that a session is drawn at

A session is drawn at the size of its screen, and learns of a new size of the terminal by an input.
While a command is waited for, this input is a resize, and the screen takes the new size over. While
a name, an answer or any key is waited for, the input is taken for a key like others, the terminal
has its new size all the same, and nothing reminds the session of it later.

So there are two sizes in every turn, and each of them is the last one that came its way: the
terminal's of all that were sent, the screen's of those that were taken over. They are the same
unless the last one sent came at a question, and they stay apart until the next resize that is met
by a session waiting for a command. The window always goes with the screen.

Main statement: `drawn_size_follows_adopted_sizes`.
-/

namespace Scriptpad

namespace Session

/-- Every change keeps the window as high as the screen has rows for text, also the first change of
a session that did not begin so. -/
theorem keeps_height :
    Keeps (fun _ ↦ True) fun s ↦ s.document.window.height = s.screen.textRows := by
  intro action? size s t _ hchange h
  cases hchange with
  | typed _ => exact (Document.keepsView_typeChar _ _).height.trans h
  | broken _ => exact (Document.keepsView_breakLine _).height.trans h
  | deleted _ => exact (Document.keepsView_deleteLeft _).height.trans h
  | moved _ => exact (Document.keepsView_move _ _).height.trans h
  | resized _ => exact height_adjustWindow _
  | saved | announced | bound | ended => exact h

/-- Only a resize changes the size of the screen. -/
theorem keeps_screenSize (drawn : Terminal.Size) :
    Keeps (· ≠ .resize) fun s ↦ s.screen.size = drawn := by
  intro action? size s t hother hchange h
  cases hchange with
  | resized hresize => exact absurd rfl (hother .resize hresize)
  | typed | broken | deleted | moved => exact h
  | saved | announced | bound | ended => exact h

end Session

namespace Dialogue

variable {σ : Type}

/-! ### The sizes that come in a turn -/

/-- The size that the terminal gets in a turn, if it gets one. -/
def Turn.sent? (t : Turn σ) : Option Terminal.Size :=
  match t.input with
  | some (.resize size) => some size
  | _ => none

/-- The size that the screen takes over in a turn, if the input is taken for a resize. -/
def Turn.adopted? (t : Turn σ) : Option Terminal.Size :=
  t.input.bind fun input ↦
    if t.dialogue.action? input = some .resize then some (t.dialogue.sizeAfter input) else none

/-- The last of the sizes that come in some turns, or the size before them. -/
def lastSize (size? : Turn σ → Option Terminal.Size) (size : Terminal.Size)
    (turns : List (Turn σ)) : Terminal.Size :=
  (turns.filterMap size?).getLast?.getD size

theorem lastSize_concat (size? : Turn σ → Option Terminal.Size) (size : Terminal.Size)
    (past : List (Turn σ)) (t : Turn σ) :
    lastSize size? size (past ++ [t]) = (size? t).getD (lastSize size? size past) := by
  rw [lastSize, List.filterMap_append]
  cases ht : size? t <;> simp [lastSize, ht]

/-- The terminal has the size that was sent, or the one that it had. -/
theorem sizeAfter_eq (d : Dialogue) (files : σ) (input : Input) :
    d.sizeAfter input = (Turn.sent? ⟨d, files, some input⟩).getD d.size := by
  cases input <;> rfl

/-- A resize that comes while a command is waited for is taken over. -/
theorem adopted?_of_resize {d : Dialogue} (hcommand : d.waiting = .command) (files : σ)
    (size : Terminal.Size) :
    Turn.adopted? ⟨d, files, some (.resize size)⟩ = some size := by
  have haction : d.action? (.resize size) = some .resize := by
    rw [action?, hcommand, Input.action_toKey_resize]
  simp [Turn.adopted?, haction, sizeAfter]

/-- **The screen has the size that was taken over**, or the one that it had. -/
theorem screenSize_reaction (store : Store σ) (d : Dialogue) (files : σ) (input : Input) :
    ((d.reaction input).perform store files).value.1.screen.size =
      (Turn.adopted? ⟨d, files, some input⟩).getD d.session.screen.size := by
  by_cases hresize : d.action? input = some .resize
  · obtain ⟨s, waiting, size⟩ := d
    cases waiting with
    | command =>
      have haction : input.toKey.action = .resize := Option.some.inj hresize
      simp only [Turn.adopted?, Option.bind_some, if_pos hresize, Option.getD_some, reaction,
        haction]
      rfl
    | fileName typed purpose => cases hresize
    | answer => cases hresize
    | anyKey => cases hresize
  · simp only [Turn.adopted?, Option.bind_some, if_neg hresize, Option.getD_none]
    refine (Session.keeps_screenSize _).reaction rfl ?_ store files
    rintro action haction rfl
    exact hresize haction

/-! ### Sizes that the session missed -/

/-- The last size that was sent came at a question, and none was taken over since. -/
def Missed (past : List (Turn σ)) (size : Terminal.Size) : Prop :=
  ∃ earlier missed since, past = earlier ++ missed :: since ∧ missed.sent? = some size ∧
    missed.dialogue.waiting ≠ .command ∧ ∀ t ∈ since, t.sent? = none ∧ t.adopted? = none

theorem Missed.concat {past : List (Turn σ)} {size : Terminal.Size} (h : Missed past size)
    {t : Turn σ} (hsent : t.sent? = none) (hadopted : t.adopted? = none) :
    Missed (past ++ [t]) size := by
  obtain ⟨earlier, missed, since, rfl, hmissed, hquestion, hsince⟩ := h
  refine ⟨earlier, missed, since ++ [t], by simp, hmissed, hquestion, fun u hu ↦ ?_⟩
  rcases List.mem_append.1 hu with hbefore | hlast
  · exact hsince u hbefore
  · obtain rfl := List.mem_singleton.1 hlast
    exact ⟨hsent, hadopted⟩

/-- **Screen and terminal part only over a missed size**, and a size that is taken over brings them
together again. -/
theorem missed_reaction (store : Store σ) {past : List (Turn σ)} {d : Dialogue} (files : σ)
    (input : Input) (h : d.session.screen.size ≠ d.size → Missed past d.size)
    (hparted : ((d.reaction input).perform store files).value.1.screen.size ≠
      d.sizeAfter input) :
    Missed (past ++ [⟨d, files, some input⟩]) (d.sizeAfter input) := by
  rw [screenSize_reaction] at hparted
  cases hadopted : Turn.adopted? ⟨d, files, some input⟩ with
  | some size =>
    -- What is taken over is the size that the terminal has after the input.
    simp only [Turn.adopted?, Option.bind_some, Option.ite_none_right_eq_some,
      Option.some.injEq] at hadopted
    simp only [Turn.adopted?, Option.bind_some, if_pos hadopted.1, Option.getD_some] at hparted
    exact absurd rfl hparted
  | none =>
    rw [hadopted, Option.getD_none] at hparted
    cases input with
    | key k => exact (h hparted).concat rfl hadopted
    | resize size =>
      refine ⟨past, _, [], rfl, rfl, fun hcommand ↦ ?_, fun _ hnone ↦ absurd hnone (by simp)⟩
      rw [adopted?_of_resize hcommand] at hadopted
      cases hadopted

end Dialogue

namespace Session

open Dialogue

variable {σ : Type} {s : Session} {store : Store σ} {desk : Desk} {inputs : List Input} {files : σ}

/-- **A session is drawn at the last size that it took over**, in every turn of a whole session,
whatever it waits for, and its window has the height that goes with this size. The terminal has the
last size that it was given, so the two differ only if this one came at a question and no resize was
taken over since. -/
theorem drawn_size_follows_adopted_sizes {before later : List (Turn σ)} {t : Turn σ}
    (h : s.turns store desk inputs files = before ++ t :: later) :
    t.dialogue.session.screen.size = lastSize Turn.adopted? desk.size before ∧
      t.dialogue.session.document.window.height = t.dialogue.session.screen.textRows ∧
      t.dialogue.size = lastSize Turn.sent? desk.size before ∧
      (t.dialogue.session.screen.size ≠ t.dialogue.size → Missed before t.dialogue.size) := by
  have hturns := turns_opening h
  refine ⟨?_, ?_, ?_, ?_⟩
  · refine of_turns_eq (P := fun past d _ ↦ d.session.screen.size =
      lastSize Turn.adopted? desk.size past) hturns rfl fun past d files input hd ↦ ?_
    rw [lastSize_concat, ← hd]
    exact screenSize_reaction store d files input
  · have hopened : (s.opening desk).session.document.window.height =
        (s.opening desk).session.screen.textRows := height_adjustWindow _
    have ht : t ∈ Dialogue.turns store isOver inputs (s.opening desk) files := by
      rw [hturns]
      exact List.mem_append_cons_self
    exact keeps_height.mem_turns (fun _ ↦ trivial) hopened ht
  · refine of_turns_eq (P := fun past d _ ↦ d.size =
      lastSize Turn.sent? desk.size past) hturns rfl fun past d files input hd ↦ ?_
    rw [lastSize_concat, ← hd]
    exact sizeAfter_eq d files input
  · refine of_turns_eq (P := fun past d _ ↦ d.session.screen.size ≠ d.size → Missed past d.size)
      hturns (fun hparted ↦ absurd rfl hparted) fun past d files input hd ↦ ?_
    exact missed_reaction store files input hd

/-- A terminal is made smaller while a name is asked for, and the question is left. The next turn
is one of those that the law speaks of. -/
theorem drawn_size_after_question :
    let s := start .empty ⟨⟨80, 24⟩, none⟩ {} none
    let saveKey : Key := ⟨.char 's', { control := true }⟩
    let inputs : List Input := [.key saveKey, .resize ⟨60, 10⟩, .key ⟨.escape, {}⟩]
    let all := s.turns Memory.store { size := ⟨80, 24⟩ } inputs {}
    ∃ before t later, all = before ++ t :: later ∧
      t.dialogue.waiting = .command ∧ t.dialogue.session.screen.size = ⟨80, 24⟩ ∧
      t.dialogue.session.screen.size ≠ t.dialogue.size ∧ Missed before t.dialogue.size := by
  intro s saveKey inputs all
  have hlast : 3 < all.length := by decide
  have hcut : all = all.take 3 ++ all.get ⟨3, hlast⟩ :: all.drop 4 := by
    rw [List.get_eq_getElem, List.getElem_cons_drop, List.take_append_drop]
  obtain ⟨hscreen, -, -, hmissed⟩ := drawn_size_follows_adopted_sizes hcut
  have hadopted : lastSize Turn.adopted? ⟨80, 24⟩ (all.take 3) = ⟨80, 24⟩ := by decide
  have hsize : (all.get ⟨3, hlast⟩).dialogue.size = ⟨60, 10⟩ := rfl
  have hparted : (all.get ⟨3, hlast⟩).dialogue.session.screen.size ≠
      (all.get ⟨3, hlast⟩).dialogue.size := by
    rw [hscreen, hadopted, hsize]
    decide
  exact ⟨all.take 3, all.get ⟨3, hlast⟩, all.drop 4, hcut, rfl, hscreen.trans hadopted, hparted,
    hmissed hparted⟩

/-- A resize is taken for the key that leads back from a run. The session is then drawn with twenty
rows of text on a terminal that has room for six. -/
theorem drawn_at_missed_size :
    let s := start .empty ⟨⟨80, 24⟩, none⟩ {} (some "a.ns".toList)
    let inputs : List Input := [.key ⟨.char 'r', { control := true }⟩, .resize ⟨60, 10⟩]
    ∃ t ∈ s.turns Memory.store { size := ⟨80, 24⟩ } inputs {},
      t.dialogue.waiting = .command ∧ t.dialogue.size = ⟨60, 10⟩ ∧
        t.dialogue.session.screen.size = ⟨80, 24⟩ ∧
        t.dialogue.session.document.window.height = 20 := by
  decide

end Session

end Scriptpad
