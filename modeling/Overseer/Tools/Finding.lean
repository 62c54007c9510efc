import Overseer.Tools.Batches
import Overseer.Tools.Listing

/-!
# Finding files

`find` goes through folders and carries an expression out for each path: conditions, and
actions that count as conditions too.
-/

namespace Overseer.Tool

/-! ## Expressions -/

/-- A number that something is compared with. -/
inductive Bound
  | exactly (number : Nat)
  | above (number : Nat)
  | below (number : Nat)

def Bound.holds (bound : Bound) (number : Nat) : Bool :=
  match bound with
  | exactly wanted => number = wanted
  | above least => least < number
  | below most => number < most

inductive FindTerm
  | always (holds : Bool)
  /-- The name or the whole path fits a pattern. -/
  | name (pattern : Octets) (ofPath ignoresCase : Bool)
  | expression (regex : Regex)
  | kind (letters : List Char)
  | empty
  | size (bound : Bound) (unit : Nat)
  | mode (mode : Nat) (exactly : Bool)
  | links (bound : Bound)
  | number (bound : Bound)
  | newer (path : Octets)
  | age (bound : Bound) (unit : Nat)
  | print (ending : Octets)
  | printed (format : Octets)
  | delete
  | prune
  | quit
  /-- Runs a program for each path, or for all of them at the end. -/
  | run (words : List Octets) (together : Bool)
  | not (term : FindTerm)
  | both (first second : FindTerm)
  | either (first second : FindTerm)
  /-- Carries both out; the second one counts. -/
  | after (first second : FindTerm)

namespace FindTerm

/-- Whether some action shows or runs something, so that paths are not shown as such. -/
def acts : FindTerm → Bool
  | print _ | printed _ | delete | quit | run .. => true
  | not term => term.acts
  | both first second | either first second | after first second => first.acts || second.acts
  | _ => false

def deletes : FindTerm → Bool
  | delete => true
  | not term => term.deletes
  | both first second | either first second | after first second => first.deletes || second.deletes
  | _ => false

end FindTerm

/-- What holds for all paths. -/
structure FindStyle where
  least : Nat := 0
  most : Option Nat := none
  innerFirst : Bool := false
  followsLinks : Bool := false

/-! ## Reading expressions -/

/-- What is left of an expression, and the options that were met in it. -/
structure FindWords where
  words : List Octets
  style : FindStyle := {}

abbrev FindReader := StateT FindWords (Except Octets)

namespace FindReader

def peek : FindReader (Option Octets) := return (← get).words.head?

def skip : FindReader Unit := modify fun state => { state with words := state.words.tail }

/-- The argument of a word. -/
def argument (word : Octets) : FindReader Octets := do
  match ← peek with
  | some value => do
    skip
    return value
  | none => throw ("missing argument to \x60" ++ word ++ "'")

def bound? (text : Octets) : Option Bound :=
  match text.toList with
  | '+' :: digits => (naturalOf? digits).map .above
  | '-' :: digits => (naturalOf? digits).map .below
  | digits => (naturalOf? digits).map .exactly

def bound (word : Octets) : FindReader Bound := do
  let text ← argument word
  match bound? text with
  | some bound => return bound
  | none => throw ("invalid argument \x60" ++ text ++ "' to \x60" ++ word ++ "'")

def natural (word : Octets) : FindReader Nat := do
  let text ← argument word
  match naturalOf? text.toList with
  | some number => return number
  | none =>
    throw ("Expected a positive decimal integer argument to " ++ word ++ ", but got " ++ quote text)

/-- A size with a unit; blocks of 512 bytes if there is none. -/
def size (word : Octets) : FindReader FindTerm := do
  let text ← argument word
  let (digits, unit) := text.toList.span fun c => c.isDigit || c = '+' || c = '-'
  let factor :=
    match unit with
    | [] | ['b'] => some 512
    | ['c'] => some 1
    | ['w'] => some 2
    | ['k'] => some 1024
    | ['M'] => some (1024 * 1024)
    | ['G'] => some (1024 * 1024 * 1024)
    | _ => none
  match bound? (String.ofList digits), factor with
  | some bound, some factor => return .size bound factor
  | _, _ => throw ("Invalid argument \x60" ++ text ++ "' to -size")

def mode (word : Octets) : FindReader FindTerm := do
  let text ← argument word
  let (exactly, digits) :=
    match text.toList with
    | '-' :: digits | '/' :: digits => (false, digits)
    | digits => (true, digits)
  if !digits.isEmpty && digits.all fun c => (digitValue? 8 c).isSome then
    return .mode (valueOfDigits 8 digits) exactly
  else throw ("invalid mode " ++ quote text)

/-- The words of a program up to the sign that ends them. -/
def program (word : Octets) : FindReader FindTerm := do
  let words := (← get).words
  let before := words.takeWhile (· ≠ ";")
  let joined := words.takeWhile (· ≠ "+")
  if joined.length < before.length && joined.getLast? = some "\x7b\x7d" then do
    modify fun state => { state with words := words.drop (joined.length + 1) }
    return .run joined.dropLast true
  else if before.length < words.length && !before.isEmpty then do
    modify fun state => { state with words := words.drop (before.length + 1) }
    return .run before false
  else throw ("missing argument to \x60" ++ word ++ "'")

def setStyle (change : FindStyle → FindStyle) : FindReader FindTerm := do
  modify fun state => { state with style := change state.style }
  return .always true

/-- A condition or an action, given the word that names it. -/
def term (word : Octets) : FindReader FindTerm := do
  match word with
  | "-true" => return .always true
  | "-false" => return .always false
  | "-name" => return .name (← argument word) false false
  | "-iname" => return .name (← argument word) false true
  | "-path" | "-wholename" => return .name (← argument word) true false
  | "-ipath" => return .name (← argument word) true true
  | "-regex" | "-iregex" => do
    let text ← argument word
    match Regex.read? { ignoresCase := word = "-iregex" } text.toList with
    | some regex => return .expression regex
    | none => throw "invalid regular expression"
  | "-type" => do
    let text ← argument word
    let letters := text.toList.filter (· ≠ ',')
    match letters.find? fun c => !(['f', 'd', 'l', 'c', 'b', 'p', 's'].contains c) with
    | none => return .kind letters
    | some c => throw ("Unknown argument to -type: " ++ String.singleton c)
  | "-empty" => return .empty
  | "-size" => size word
  | "-perm" => mode word
  | "-links" => return .links (← bound word)
  | "-inum" => return .number (← bound word)
  | "-newer" => return .newer (← argument word)
  | "-mtime" | "-atime" | "-ctime" => return .age (← bound word) 86400
  | "-mmin" | "-amin" | "-cmin" => return .age (← bound word) 60
  | "-user" | "-group" => do
    let name ← argument word
    return .always (name = "root" || name = "0")
  | "-readable" | "-writable" => return .always true
  | "-executable" => return .mode 0o111 false
  | "-maxdepth" => do
    let most ← natural word
    setStyle fun style => { style with most }
  | "-mindepth" => do
    let least ← natural word
    setStyle fun style => { style with least }
  | "-depth" | "-d" => setStyle fun style => { style with innerFirst := true }
  | "-follow" => setStyle fun style => { style with followsLinks := true }
  | "-xdev" | "-mount" | "-noleaf" | "-warn" | "-nowarn" | "-daystart" => return .always true
  | "-regextype" => do
    let _ ← argument word
    return .always true
  | "-print" => return .print "\n"
  | "-print0" => return .print "\x00"
  | "-printf" => return .printed (← argument word)
  | "-delete" => return .delete
  | "-prune" => return .prune
  | "-quit" => return .quit
  | "-exec" | "-execdir" => program word
  | _ =>
    if word.startsWith "-" then throw ("unknown predicate \x60" ++ word ++ "'")
    else throw ("paths must precede expression: \x60" ++ word ++ "'")

mutual

/-- Conditions with signs between them that bind ever more tightly, from `level` on: the comma,
then choice, then both. `fuel` bounds the words. -/
def joined : (fuel : Nat) → (level : Nat) → FindReader FindTerm
  | 0, _ => throw "expression too long"
  | fuel + 1, level => do
    if 2 < level then single fuel
    else further fuel level (← joined fuel (level + 1))

/-- Goes on after a condition with the signs of a level. -/
def further : (fuel : Nat) → (level : Nat) → FindTerm → FindReader FindTerm
  | 0, _, _ => throw "expression too long"
  | fuel + 1, level, first => do
    let next (join : FindTerm → FindTerm → FindTerm) : FindReader FindTerm := do
      further fuel level (join first (← joined fuel (level + 1)))
    match level, ← peek with
    | 0, some "," => do
      skip
      next .after
    | 1, some "-o" | 1, some "-or" => do
      skip
      next .either
    | 2, some "-a" | 2, some "-and" => do
      skip
      next .both
    | 2, some word =>
      if [",", "-o", "-or", ")"].contains word then return first else next .both
    | _, _ => return first

def single : (fuel : Nat) → FindReader FindTerm
  | 0 => throw "expression too long"
  | fuel + 1 => do
    match ← peek with
    | none => throw "invalid expression; expected an expression but did not see one."
    | some word => do
      skip
      match word with
      | "!" | "-not" => return .not (← single fuel)
      | "(" => do
        let inner ← joined fuel 0
        if (← peek) = some ")" then do
          skip
          return inner
        else
          throw "invalid expression; I was expecting to find a ')' somewhere but did not see one."
      | ")" => throw "invalid expression; you have used a binary operator with nothing before it."
      | _ => term word

end

end FindReader

/-- The expression that words write, and what holds for all paths. -/
def findExpression (words : List Octets) : Except Octets (FindTerm × FindStyle) := do
  if words.isEmpty then return (.print "\n", {})
  else
    let (expression, state) ← (FindReader.joined (8 * words.length + 8) 0).run ⟨words, {}⟩
    if !state.words.isEmpty then throw "you have too many ')'"
    else
      let style := { state.style with innerFirst := state.style.innerFirst || expression.deletes }
      return (if expression.acts then expression else .both expression (.print "\n"), style)

/-! ## Going through folders -/

/-- Where the search stands. -/
structure FindPlace where
  path : Octets
  /-- The path that the search began with. -/
  start : Octets
  node : Nat
  depth : Nat

/-- What has come of the search so far. -/
structure FindState where
  failed : Bool := false
  ended : Bool := false
  pruned : Bool := false
  /-- The paths for the programs that are run at the end, latest first. -/
  collected : List (List Octets × List Octets) := []

abbrev Find := StateT FindState Work

/-- Waits for a program that is run with some words, and gives whether it succeeded. -/
def runFound (launch : Launch) (invocation : Invocation) (words : List Octets) : Work Bool := do
  let name := words.headD ""
  let searchPath := (invocation.environment.lookup "PATH").getD standardSearchPath
  let called := { invocation with name, arguments := words.drop 1 }
  let tree ← Work.tree
  let resolved := do
    let (path, file) ← tree.findProgram invocation.folder searchPath name
    tree.resolve path interpreterLimit file called
  match resolved with
  | .error fault => do
    warn invocation (quote name ++ ": " ++ fault.text)
    return false
  | .ok (program, called) => do
    let child ← Work.fork fun _ => Work.toCourse (Work.become launch program called)
    match ← Work.await (some child) false with
    | .child _ (.exited 0) => return true
    | _ => return false

/-- What a letter of a format says about a path. -/
def foundPart (tree : FileTree) (place : FindPlace) : Char → Octets
  | 'p' => place.path
  | 'f' => lastStep place.path
  | 'h' =>
    let folder := folderPart place.path
    if place.path.contains '/' then folder else "."
  | 'P' => ((place.path.drop place.start.length).dropWhile (· = '/')).toString
  | 'H' => place.start
  | 's' => Nat.repr (nodeSize tree place.node)
  | 'y' =>
    let letter := kindLetter tree place.node
    String.singleton (if letter = '-' then 'f' else letter)
  | 'd' => Nat.repr place.depth
  | 'm' => String.ofList (Nat.toDigits 8 (tree.node place.node).mode)
  | 'M' => modeText tree place.node
  | 'n' => Nat.repr (linkCount tree place.node)
  | 'i' => Nat.repr place.node
  | 'u' | 'g' => "root"
  | 'U' | 'G' => "0"
  | 'l' =>
    match tree.kind place.node with
    | .link target => target
    | _ => ""
  | '%' => "%"
  | c => String.ofList ['%', c]

def foundText (tree : FileTree) (place : FindPlace) : List Char → List Char
  | '%' :: c :: rest => (foundPart tree place c).toList ++ foundText tree place rest
  | c :: rest => c :: foundText tree place rest
  | [] => []

/-- Carries an expression out for a path, and gives whether it holds. -/
def FindTerm.holds (launch : Launch) (invocation : Invocation) (place : FindPlace) :
    FindTerm → Find Bool
  | .always holds => return holds
  | .name pattern ofPath ignoresCase => do
    let subject := if ofPath then place.path else lastStep place.path
    let folded (text : Octets) : Octets := if ignoresCase then text.toLower else text
    return Glob.covers (Glob.ofChars ((folded pattern).toList.map (·, false))) (folded subject).toList
  | .expression regex => do
    let text := place.path.toList.toArray
    return (regex.lasts text 0).contains text.size
  | .kind letters => do
    let letter := kindLetter (← Work.tree) place.node
    return letters.contains (if letter = '-' then 'f' else letter)
  | .empty => do
    let tree ← Work.tree
    return match tree.kind place.node with
      | .file content => content.isEmpty
      | .folder .. => (tree.entries place.node).isEmpty
      | _ => false
  | .size bound unit => do
    let size := nodeSize (← Work.tree) place.node
    return bound.holds ((size + unit - 1) / unit)
  | .mode wanted isWhole => do
    let own := ((← Work.tree).node place.node).mode
    return if isWhole then own = wanted else own &&& wanted = wanted
  | .links bound => do return bound.holds (linkCount (← Work.tree) place.node)
  | .number bound => return bound.holds place.node
  | .newer path => do
    let tree ← Work.tree
    match tree.find invocation.folder path true with
    | .ok other => return (tree.node other).changedAt.nanos < (tree.node place.node).changedAt.nanos
    | .error fault => fail invocation 1 (quote path ++ ": " ++ fault.text)
  | .age bound unit => do
    let changed := changeTime (← Work.tree) place.node
    let age := changed.elapsed (← Work.now)
    return bound.holds (age.wholeSeconds / unit)
  | .print ending => do
    put invocation (place.path ++ ending)
    return true
  | .printed format => do
    let unescaped := (PrintStyle.ofProgram.format.unescape format).1
    put invocation (String.ofList (foundText (← Work.tree) place unescaped.toList))
    return true
  | .delete => do
    let isFolder := (← Work.tree).isFolder place.node
    let fault ← Work.change fun tree =>
      if isFolder then tree.removeFolder invocation.folder place.path
      else tree.removeFile invocation.folder place.path
    match fault with
    | none => return true
    | some fault => do
      warn invocation ("cannot delete " ++ quote place.path ++ ": " ++ fault.text)
      modify fun state => { state with failed := true }
      return false
  | .prune => do
    modify fun state => { state with pruned := true }
    return true
  | .quit => do
    modify fun state => { state with ended := true }
    return true
  | .run words false =>
    runFound launch invocation (words.map fun word => word.replace "\x7b\x7d" place.path)
  | .run words true => do
    modify fun state =>
      let paths := place.path :: (state.collected.lookup words).getD []
      { state with collected := (words, paths) :: state.collected.filter (·.1 ≠ words) }
    return true
  | .not term => return !(← term.holds launch invocation place)
  | .both first second => do
    if ← first.holds launch invocation place then
      if (← get).ended then return false else second.holds launch invocation place
    else return false
  | .either first second => do
    if ← first.holds launch invocation place then return true
    else second.holds launch invocation place
  | .after first second => do
    let _ ← first.holds launch invocation place
    second.holds launch invocation place

/-- Goes through a path and what is below it; `levels` bounds the levels. -/
def findBelow (launch : Launch) (invocation : Invocation) (expression : FindTerm)
    (style : FindStyle) : (levels : Nat) → FindPlace → Find Unit
  | 0, _ => return
  | levels + 1, place => do
    if (← get).ended then return
    let isMeant := style.least ≤ place.depth
    modify fun state => { state with pruned := false }
    if isMeant && !style.innerFirst then
      let _ ← expression.holds launch invocation place
    let state ← get
    let tree ← Work.tree
    if tree.isFolder place.node && !state.pruned && !state.ended &&
        style.most.all (place.depth < ·) then
      for (name, node) in tree.entries place.node do
        let path := joinPath place.path name
        let now ← Work.tree
        let target :=
          if style.followsLinks then (now.find invocation.folder path true).toOption.getD node
          else node
        findBelow launch invocation expression style levels
          { place with path, node := target, depth := place.depth + 1 }
    if isMeant && style.innerFirst && !(← get).ended then
      let _ ← expression.holds launch invocation place

/-- Runs the programs that were to be run at the end. -/
def runCollected (launch : Launch) (invocation : Invocation) (state : FindState) : Work Bool := do
  let results ← state.collected.reverse.mapM fun (words, paths) =>
    runFound launch invocation (words ++ paths.reverse)
  return results.all id

def find (launch : Launch) : Tool := fun invocation => do
  let isPath (word : Octets) : Bool :=
    !word.startsWith "-" && word ≠ "(" && word ≠ ")" && word ≠ "!" && word ≠ ","
  let (flags, rest) := invocation.arguments.span ["-L", "-P", "-H"].contains
  let (paths, words) := rest.span isPath
  match findExpression words with
  | .error message => fail invocation 1 message
  | .ok (expression, style) => do
    let style := { style with followsLinks := style.followsLinks || flags.getLast? = some "-L" }
    let paths := if paths.isEmpty then ["."] else paths
    let visit (path : Octets) : Find Unit := do
      match ← nodeAt invocation path (flags.contains "-L" || flags.contains "-H") with
      | .error fault => do
        warn invocation (quote path ++ ": " ++ fault.text)
        modify fun state => { state with failed := true }
      | .ok (_, node) =>
        findBelow launch invocation expression style 1000 ⟨path, path, node, 0⟩
    let ((), state) ← (paths.forM visit).run {}
    let areRun ← runCollected launch invocation state
    return if state.failed || !areRun then 1 else 0

end Overseer.Tool
