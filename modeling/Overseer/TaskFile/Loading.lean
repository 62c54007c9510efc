import Overseer.Data.Toml.Document
import Overseer.Files.Reading
import Overseer.TaskFile.Document

/-!
# Loading task files

`TaskFile.load` reads a task file from a folder: its text, the document in it,
the task that the document describes.
-/

namespace Overseer

/-- Why a task file cannot be loaded. -/
inductive LoadError
  | unreadable (fault : ReadFault)
  /-- The text is not TOML, or its document does not describe a task. -/
  | malformed
  | invalid (fault : TaskFileError)

/-- The text of an error, where it is not worded by the system or left to the
document format. -/
def LoadError.message? : LoadError → Option String
  | unreadable fault => fault.message?.map ("IO error: " ++ ·)
  | malformed => none
  | invalid fault => some fault.message

/-- The text of what an error goes back to. -/
def LoadError.source? : LoadError → Option String
  | unreadable fault => fault.message?
  | malformed | invalid _ => none

namespace TaskFile

/-- The task file with the given text. -/
def ofText (text : String) : Except LoadError TaskFile :=
  match Value.ofToml? text >>= TaskFileDraft.ofValue? .toml with
  | none => .error .malformed
  | some draft =>
    match draft.validate with
    | .ok file => .ok file
    | .error fault => .error (.invalid fault)

def load (tree : FileTree) (folder : Nat) (path : String) : Except LoadError TaskFile :=
  match tree.readText folder path with
  | .ok text => ofText text
  | .error fault => .error (.unreadable fault)

end TaskFile

end Overseer
