import Scriptpad.Main
import Scriptpad.Proofs.Document.History
import Scriptpad.Storage.Memory
import Scriptpad.Text.Offset
import Scriptpad.Proofs.Document.FlatText
import Scriptpad.Proofs.Session.Conversation
import Scriptpad.Proofs.Session.Saving
import Scriptpad.Proofs.Session.Quitting
import Scriptpad.Proofs.Storage.Keeping
import Scriptpad.Proofs.Session.Content
import Scriptpad.Proofs.Session.Resizing
import Scriptpad.Proofs.Script.Bindings
import Scriptpad.Proofs.Script.Trace
import Scriptpad.Proofs.Script.Rereading
import Scriptpad.Proofs.Session.HostCalls
import Scriptpad.Proofs.Session.Running
import Scriptpad.Proofs.Document.Unmodified
import Scriptpad.Proofs.Session.Stepping
import Scriptpad.Proofs.Session.Unedited
import Scriptpad.Proofs.Session.Unmodified
import Scriptpad.Proofs.Storage.RoundTrip
import Scriptpad.Proofs.Text.Trimming
import Scriptpad.Proofs.Script.Writing
import Scriptpad.Proofs.Document.Typing
import Scriptpad.Proofs.Session.Typing
import Scriptpad.Proofs.Document.Alphabet
import Scriptpad.Proofs.Document.View
import Scriptpad.Proofs.Session.Changes
import Scriptpad.Proofs.Session.Coherence
import Scriptpad.Proofs.Session.Redrawing
import Scriptpad.Proofs.Session.RefusedSaves
import Scriptpad.Proofs.Session.Reopening
import Scriptpad.Proofs.Screen.Drawing
import Scriptpad.Proofs.Session.Bracketing
import Scriptpad.Proofs.Session.Moments
import Scriptpad.Proofs.Session.Ending
import Scriptpad.Proofs.Session.OneFile
import Scriptpad.Proofs.Document.Scrolling
import Scriptpad.Proofs.Document.Parts
import Scriptpad.Proofs.Document.Undoing
import Scriptpad.Proofs.Screen.Layout
import Scriptpad.Proofs.Screen.Parking
import Scriptpad.Proofs.Decimal.Grammar
import Scriptpad.Proofs.Script.Literals
import Scriptpad.Proofs.Text.Words
import Scriptpad.Proofs.Screen.Highlighting
import Scriptpad.Proofs.Script.Dispatch
import Scriptpad.Proofs.Document.Navigating
import Scriptpad.Proofs.Document.Filing
import Scriptpad.Proofs.Session.Naming
import Scriptpad.Proofs.Config.Layers
import Scriptpad.Proofs.Document.Stored
