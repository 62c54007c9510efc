import Overseer.Files.Path
import Overseer.Pattern.Glob

/-!
# Searching for names

The paths that a pattern covers. A slash separates patterns, each of which is matched
with the names in one folder; a dot at the start of a name is matched only by a dot.
-/

namespace Overseer.FileTree

/-- The patterns between the slashes of a pattern. -/
def splitPattern : List MarkedChar → List (List MarkedChar)
  | [] => [[]]
  | (c, quoted) :: rest =>
    match splitPattern rest with
    | first :: others =>
      if c = '/' then [] :: first :: others else ((c, quoted) :: first) :: others
    | [] => [[(c, quoted)]]

def plainText (pattern : List MarkedChar) : Octets := String.ofList (pattern.map (·.1))

/-- Whether a pattern may cover a name, as far as dots are concerned. -/
def admitsName (pattern : List MarkedChar) (name : Octets) : Bool :=
  !name.startsWith "." || (pattern.head?.map (·.1)) = some '.'

/-- The paths after `before` that patterns cover. -/
def pathsAfter (tree : FileTree) (start : Nat) : (before : Octets) → List (List MarkedChar) →
    List Octets
  | before, [] => [before]
  | before, [pattern] =>
    if Glob.isActive pattern then (namesAt before pattern).map (before ++ ·)
    else
      let path := before ++ plainText pattern
      if (tree.find start (if path.isEmpty then "." else path) false).isOk then [path] else []
  | before, pattern :: rest =>
    if Glob.isActive pattern then
      (namesAt before pattern).flatMap fun name => pathsAfter tree start (before ++ name ++ "/") rest
    else pathsAfter tree start (before ++ plainText pattern ++ "/") rest
where
  namesAt (before : Octets) (pattern : List MarkedChar) : List Octets :=
    match tree.find start (if before.isEmpty then "." else before) true with
    | .error _ => []
    | .ok folder =>
      let glob := Glob.ofChars pattern
      let names := [".", ".."] ++ tree.names folder
      if tree.isFolder folder then
        names.filter fun name => admitsName pattern name && Glob.covers glob name.toList
      else []

/-- The paths that a pattern covers, in the order of their bytes. -/
def search (tree : FileTree) (start : Nat) (pattern : List MarkedChar) : List Octets :=
  (tree.pathsAfter start "" (splitPattern pattern)).mergeSort fun a b => !Octets.isBefore b a

end Overseer.FileTree
