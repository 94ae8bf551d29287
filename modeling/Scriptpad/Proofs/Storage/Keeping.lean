import Scriptpad.Storage.Disk
import Scriptpad.Storage.Memory

/-!
# Stores that keep what they accept

A `Store` is free to answer as it likes. What makes it a store is that an accepted write leaves a
file that holds what was written: `Store.Keeps` says so for any reading of *holds*, which is the
store's own affair. Files in memory hold lists of lines (`Memory.keeps`), and files on a disk hold
the bytes of the text that is joined from them (`Disk.keeps`). `Store.IsFaithful` says in full how
a store treats its files, whatever it refuses: reads and refused writes change none.

For a disk the point is that a path still leads to the same place after the write: a write neither
makes nor removes a directory, and directories are all that is asked for on the way
(`Disk.locate_writeBytes`).

A refused write is another matter. Files in memory are not touched by it (`Store.KeepsWhenRefused`),
and neither is a disk that has room, because there a write is refused before its file is opened. On
a disk with limits a write may also fail with its file half written; no other file suffers by that
(`Disk.bytes?_of_refused`).
-/

namespace Scriptpad

/-- After a write that the store accepts, the file holds what was written. -/
def Store.Keeps {σ : Type} (store : Store σ) (holds : Path → List Text → σ → Prop) : Prop :=
  ∀ path lines files, (store.write path lines files).1 = .ok () →
    holds path lines (store.write path lines files).2

/-- The store answers from files of which `lines?` gives the lines, and `kept` is what it keeps of
lines that it is given. It may refuse to read and to write whenever it likes. -/
structure Store.IsFaithful {σ : Type} (store : Store σ) (lines? : Path → σ → Option (List Text))
    (kept : List Text → List Text) : Prop where
  /-- What is read are the lines of the file. -/
  lines?_of_read : ∀ {path files lines}, (store.read path files).1 = .ok lines →
    lines? path files = some lines
  /-- A read changes no file. -/
  lines?_read : ∀ path files other, lines? other (store.read path files).2 = lines? other files
  /-- An accepted write leaves what the store keeps of the lines. -/
  keeps : store.Keeps fun path lines files ↦ lines? path files = some (kept lines)
  /-- A refused write changes no file. -/
  lines?_refused : ∀ {path lines files}, (store.write path lines files).1 ≠ .ok () →
    ∀ other, lines? other (store.write path lines files).2 = lines? other files

/-- A refused write leaves the store as it was. -/
def Store.KeepsWhenRefused {σ : Type} (store : Store σ) : Prop :=
  ∀ path lines files, (store.write path lines files).1 ≠ .ok () →
    (store.write path lines files).2 = files

/-! ### Memory -/

/-- Files in memory refuse all writes or none. -/
theorem Memory.write_eq_ok_iff {m : Memory} {path : Path} {lines : List Text} :
    (Memory.store.write path lines m).1 = .ok () ↔ m.refusesWrites = false := by
  simp only [Memory.store, Memory.write]
  cases m.refusesWrites <;> simp

theorem Memory.keeps : Memory.store.Keeps fun path lines m ↦ m.lines? path = some lines := by
  intro path lines m haccepted
  exact (lines?_write (write_eq_ok_iff.1 haccepted) path path lines).trans (if_pos rfl)

theorem Memory.keepsWhenRefused : Memory.store.KeepsWhenRefused := by
  intro path lines m hrefused
  have hrefuses : m.refusesWrites = true := eq_true_of_ne_false (mt write_eq_ok_iff.2 hrefused)
  simp only [Memory.store, Memory.write, hrefuses, if_true]

/-- Files in memory are lists of lines, and are kept as they are written. -/
theorem Memory.isFaithful : Memory.store.IsFaithful Memory.lines? id where
  lines?_of_read := by
    intro path m lines hread
    simp only [Memory.store, Memory.read] at hread
    split at hread
    · cases hread
    · split at hread
      · rename_i hfind
        cases hread
        exact hfind
      · cases hread
  lines?_read _ _ _ := rfl
  keeps := Memory.keeps
  lines?_refused hrefused other := congrArg (Memory.lines? other)
    (Memory.keepsWhenRefused _ _ _ hrefused)

/-- A computation that may fail has come to a result if both of its parts have. -/
theorem bind_eq_ok_iff {ε α β : Type} {x : Except ε α} {f : α → Except ε β} {b : β} :
    x >>= f = .ok b ↔ ∃ a, x = .ok a ∧ f a = .ok b := by
  cases x with
  | error e => simp [Bind.bind, Except.bind]
  | ok a => simp [Bind.bind, Except.bind]

namespace Disk

/-! ### Disks -/

variable {d : Disk}

theorem enter_eq_ok_iff {place : Place} :
    d.enter place = .ok () ↔ d.isDirectory place = true := by
  unfold enter
  split
  · simp_all
  · split <;> simp_all

/-- A step asks of the disk only that it starts from a directory, and a write changes none. -/
theorem step_writeBytes (written : Place) (bytes : ByteArray) {place next : Place} {name : Text}
    (h : d.step place name = .ok next) :
    (d.writeBytes written bytes).step place name = .ok next := by
  obtain ⟨⟨⟩, henter, hnext⟩ := bind_eq_ok_iff.1 h
  have hdirectory : d.isDirectory place = true := enter_eq_ok_iff.1 henter
  exact bind_eq_ok_iff.2 ⟨(), enter_eq_ok_iff.2 hdirectory, hnext⟩

theorem foldlM_step_writeBytes (written : Place) (bytes : ByteArray) {names : List Text}
    {place last : Place} (h : names.foldlM d.step place = .ok last) :
    names.foldlM (d.writeBytes written bytes).step place = .ok last := by
  induction names generalizing place with
  | nil => exact h
  | cons name names ih =>
    rw [List.foldlM_cons] at h ⊢
    obtain ⟨next, hstep, hmore⟩ := bind_eq_ok_iff.1 h
    exact bind_eq_ok_iff.2 ⟨next, step_writeBytes written bytes hstep, ih hmore⟩

theorem locate_writeBytes (written : Place) (bytes : ByteArray) {path : Path} {place : Place}
    (h : d.locate path = .ok place) : (d.writeBytes written bytes).locate path = .ok place := by
  obtain ⟨origin, horigin, hway⟩ := bind_eq_ok_iff.1 h
  exact bind_eq_ok_iff.2 ⟨origin, horigin, foldlM_step_writeBytes written bytes hway⟩

/-- A place at which a file can be written is where its path leads, and no directory. -/
theorem locate_of_locateForWriting {path : Path} {place : Place}
    (h : d.locateForWriting path = .ok place) :
    endsWithSlash path = false ∧ d.locate path = .ok place ∧ d.isDirectory place = false := by
  unfold locateForWriting at h
  split at h
  · -- The path of a directory is refused, wherever it leads.
    obtain ⟨origin, -, h⟩ := bind_eq_ok_iff.1 h
    obtain ⟨last, -, h⟩ := bind_eq_ok_iff.1 h
    obtain ⟨⟨⟩, -, h⟩ := bind_eq_ok_iff.1 h
    cases h
  · rename_i hslash
    obtain ⟨found, hlocate, h⟩ := bind_eq_ok_iff.1 h
    split at h
    · cases h
    · rename_i hfile
      cases h
      exact ⟨by simpa using hslash, hlocate, by simpa using hfile⟩

theorem readBytes_writeBytes {path : Path} {place : Place}
    (h : d.locateForWriting path = .ok place) (bytes : ByteArray) :
    (d.writeBytes place bytes).readBytes path = .ok bytes := by
  obtain ⟨hslash, hlocate, hfile⟩ := locate_of_locateForWriting h
  refine bind_eq_ok_iff.2 ⟨place, locate_writeBytes place bytes hlocate, ?_⟩
  have hfile' : (d.writeBytes place bytes).isDirectory place = false := hfile
  simp [hfile', bytes?_writeBytes, hslash]

/-! ### Writes within limits -/

variable {limit? : Disk → Place → Option Limit} {path : Path}

/-- **What a write comes to**: no file is opened for it, or the text goes beyond a limit, or there
is room for it. -/
theorem writeText_cases (limit? : Disk → Place → Option Limit) (d : Disk) (path : Path) (t : Text) :
    (∃ cause, d.writeText limit? path t = (.error cause, d)) ∨
      ∃ place, d.locateForWriting path = .ok place ∧
        ((∃ limit, limit? d place = some limit ∧ limit.size < (Text.encode t).size ∧
            d.writeText limit? path t =
              (.error limit.cause, d.writeBytes place ((Text.encode t).extract 0 limit.size))) ∨
          d.writeText limit? path t = (.ok (), d.writeBytes place (Text.encode t))) := by
  unfold writeText
  cases d.locateForWriting path with
  | error cause => exact .inl ⟨cause, rfl⟩
  | ok place =>
    refine .inr ⟨place, rfl, ?_⟩
    dsimp only
    cases hlimit : (limit? d place).filter (·.size < (Text.encode t).size) with
    | none => exact .inr rfl
    | some limit =>
      obtain ⟨hsome, hsize⟩ := Option.filter_eq_some_iff.1 hlimit
      exact .inl ⟨limit, hsome, of_decide_eq_true hsize, rfl⟩

/-- **A file on a disk holds the text that was written to it.** -/
theorem keeps (limit? : Disk → Place → Option Limit) : (storeWithin limit?).Keeps fun path lines d ↦
    d.readBytes path = .ok (Text.encode (Text.ofLines lines)) := by
  intro path lines d haccepted
  simp only [storeWithin] at haccepted ⊢
  rcases writeText_cases limit? d path (Text.ofLines lines) with
    ⟨cause, hwrite⟩ | ⟨place, hplace, ⟨limit, -, -, hwrite⟩ | hwrite⟩
  · rw [hwrite] at haccepted
    cases haccepted
  · rw [hwrite] at haccepted
    cases haccepted
  · rw [hwrite]
    exact readBytes_writeBytes hplace _

/-- **What a refused write does to files on a disk**: nothing, unless there was no room for all of
the text. Then its file holds the beginning of it, and all others are what they were. -/
theorem bytes?_of_refused {lines : List Text}
    (hrefused : ((storeWithin limit?).write path lines d).1 ≠ .ok ()) :
    let bytes := Text.encode (Text.ofLines lines)
    let rest := ((storeWithin limit?).write path lines d).2
    rest = d ∨ ∃ place limit, d.locateForWriting path = .ok place ∧
      limit? d place = some limit ∧ limit.size < bytes.size ∧
      ∀ other, rest.bytes? other =
        if other = place then some (bytes.extract 0 limit.size) else d.bytes? other := by
  simp only [storeWithin] at hrefused ⊢
  rcases writeText_cases limit? d path (Text.ofLines lines) with
    ⟨cause, hwrite⟩ | ⟨place, hplace, ⟨limit, hlimit, hsize, hwrite⟩ | hwrite⟩
  · rw [hwrite]
    exact .inl rfl
  · rw [hwrite]
    exact .inr ⟨place, limit, hplace, hlimit, hsize, fun other ↦ bytes?_writeBytes d place other _⟩
  · rw [hwrite] at hrefused
    exact absurd rfl hrefused

/-- A disk with room refuses a write before it opens a file. -/
theorem keepsWhenRefused : store.KeepsWhenRefused := by
  intro path lines d hrefused
  rcases bytes?_of_refused hrefused with hsame | ⟨place, limit, -, hlimit, -⟩
  · exact hsame
  · cases hlimit

/-! ### Lines of files -/

/-- The lines that are read from a file on a disk. -/
def lines? (path : Path) (d : Disk) : Option (List Text) :=
  ((d.readText path).map Text.lines).toOption

/-- What a file holds is read from it. -/
theorem read_of_lines? {ls : List Text} (h : lines? path d = some ls) :
    (store.read path d).1 = .ok ls := by
  show (d.readText path).map Text.lines = .ok ls
  rw [lines?] at h
  cases hread : (d.readText path).map Text.lines with
  | error cause =>
    rw [hread] at h
    cases h
  | ok lines =>
    rw [hread] at h
    exact congrArg Except.ok (Option.some.inj h)

/-- A file that holds the bytes of a text is this text. -/
theorem readText_of_readBytes {t : Text} (hbytes : d.readBytes path = .ok (Text.encode t)) :
    d.readText path = .ok t := by
  refine bind_eq_ok_iff.2 ⟨_, hbytes, ?_⟩
  rw [Text.decode?_encode]

/-- A file that was written is the text that was joined from the lines. -/
theorem readText_of_accepted {lines : List Text}
    (haccepted : (store.write path lines d).1 = .ok ()) :
    (store.write path lines d).2.readText path = .ok (Text.ofLines lines) :=
  readText_of_readBytes (keeps _ path lines d haccepted)

/-- **What is read after a write** is cut from the text that was written. -/
theorem read_of_accepted {lines : List Text}
    (haccepted : (store.write path lines d).1 = .ok ()) :
    ((store.write path lines d).2.readText path).map Text.lines =
      .ok (Text.lines (Text.ofLines lines)) := by
  rw [readText_of_accepted haccepted]
  rfl

/-- Files on a disk are cut into lines, and what is kept of lines is what is cut from their text. -/
theorem isFaithful : store.IsFaithful lines? fun lines ↦ Text.lines (Text.ofLines lines) where
  lines?_of_read hread := congrArg Except.toOption hread
  lines?_read _ _ _ := rfl
  keeps _ _ _ haccepted := congrArg Except.toOption (read_of_accepted haccepted)
  lines?_refused hrefused other := congrArg (lines? other) (keepsWhenRefused _ _ _ hrefused)

end Disk

end Scriptpad
