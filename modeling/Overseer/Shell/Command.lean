import Overseer.Text.Octets

/-!
# Shell commands

The commands that a command line is made of. A word is a row of pieces that are
joined when the command is carried out; what an unquoted expansion gives is then
split into fields and matched with file names.
-/

namespace Overseer.Shell

/-- How a redirection opens its file. -/
inductive FileMode
  | read
  | readWrite
  | write
  /-- Like `write`, also where files that are there are to be kept. -/
  | overwrite
  | append
  deriving DecidableEq

mutual

inductive Piece
  | text (octets : Octets) (quoted : Bool)
  /-- A pair of quotes, which makes a field even of nothing. -/
  | anchor
  | parameter (name : Octets) (use : ParameterUse) (quoted : Bool)
  /-- The output of a command. -/
  | output (command : Command) (quoted : Bool)
  | arithmetic (expression : List Piece) (quoted : Bool)

/-- What is done with a parameter. One that has an empty value counts as not set
where the use covers that. -/
inductive ParameterUse
  | value
  | length
  /-- A word in the place of a value that is not set. -/
  | fallback (coversEmpty : Bool) (word : List Piece)
  /-- Such a word becomes the value. -/
  | assign (coversEmpty : Bool) (word : List Piece)
  /-- Without a value the shell ends with a message. -/
  | demand (coversEmpty : Bool) (word : List Piece)
  /-- A word in the place of a value that is set. -/
  | replace (coversEmpty : Bool) (word : List Piece)
  /-- The value without the part at its start or end that a pattern covers. -/
  | trim (fromEnd longest : Bool) (pattern : List Piece)
  | unknown

inductive Redirect
  | file (descriptor : Nat) (mode : FileMode) (target : List Piece)
  /-- Makes a descriptor the same as another, or closes it. -/
  | join (descriptor : Nat) (target : List Piece)
  /-- Text of the command line as input. -/
  | here (descriptor : Nat) (document : List Piece)

inductive Command
  | nothing
  | simple (line : Nat) (assignments : List (Octets × List Piece)) (words : List (List Piece))
      (redirects : List Redirect)
  /-- Commands that each read what the one before writes. -/
  | pipeline (parts : List Command) (inBackground : Bool)
  | sequence (first second : Command)
  /-- The second only after success of the first. -/
  | both (first second : Command)
  /-- The second only after failure of the first. -/
  | either (first second : Command)
  | negated (command : Command)
  | choice (test yes no : Command)
  /-- The first branch with a pattern that covers the subject. -/
  | matching (subject : List Piece) (branches : List (List (List Piece) × Command))
  /-- Repeats the body as long as the test succeeds, or as long as it fails. -/
  | loop (onSuccess : Bool) (test body : Command)
  | each (name : Octets) (words : List (List Piece)) (body : Command)
  | group (line : Nat) (body : Command) (redirects : List Redirect)
  /-- A command with a shell of its own. -/
  | enclosed (line : Nat) (body : Command) (redirects : List Redirect)
  | background (line : Nat) (body : Command) (redirects : List Redirect)
  | function (name : Octets) (body : Command)

end

abbrev Word := List Piece

instance : Inhabited Piece := ⟨.anchor⟩
instance : Inhabited Command := ⟨.nothing⟩

end Overseer.Shell
