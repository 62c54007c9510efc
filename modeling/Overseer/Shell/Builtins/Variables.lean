import Overseer.Shell.Builtins.Basic

/-!
# Commands about variables

Marking variables, keeping them within a function, taking them away, the options and
arguments of the shell, and reading a line into variables.
-/

namespace Overseer.Shell.Builtin

/-! ## Names and values -/

/-- A word as a name and the value after its first equals sign. -/
def splitAssignment (word : Octets) : Octets × Option Octets :=
  match word.toList.span (· ≠ '=') with
  | (name, []) => (String.ofList name, none)
  | (name, _ :: value) => (String.ofList name, some (String.ofList value))

/-- Gives up if a text is not the name of a variable. -/
def demandName (name : Octets) : Script Unit := do
  if isName name then return else Script.fail (name ++ ": bad variable name")

/-- Assigns a value to a name that may be none. -/
def assignNamed (name value : Octets) : Script Unit := do
  demandName name
  Script.assign name value

/-- The variables that are as asked for, in the order of their names. -/
def sortedVariables (state : State) (isMeant : Variable → Bool) : List (Octets × Variable) :=
  (state.bindings.filter fun entry => isMeant entry.2).mergeSort fun a b =>
    !Octets.isBefore b.1 a.1

/-- A command that marks variables, or shows the ones that are marked. -/
def marking (name : Octets) (isMarked : Variable → Bool) (mark : Variable → Variable) : Builtin where
  name
  isSpecial := true
  takesAssignments := true
  run _ _ arguments := do
    let (options, words) ← options [('p', false)] arguments
    if words.isEmpty || !options.isEmpty then do
      let line (entry : Octets × Variable) : Octets :=
        name ++ " " ++ entry.1 ++
          ((entry.2.value.map fun value => "=" ++ quoted value).getD "") ++ "\n"
      say (String.join ((sortedVariables (← get) isMarked).map line)) 0
    else do
      for word in words do
        let (name, value) := splitAssignment word
        demandName name
        match value with
        | some value => Script.assign name value
        | none => pure ()
        modify fun state =>
          state.setVariable name (mark ((state.bindings.lookup name).getD default))
      return 0

def exporting : Builtin :=
  marking "export" (·.isExported) fun content => { content with isExported := true }

def readOnly : Builtin :=
  marking "readonly" (·.isReadOnly) fun content => { content with isReadOnly := true }

/-! ## Variables of a function -/

/-- The name under which the options of the shell are kept. -/
def optionsName : Octets := "-"

/-- Keeps what a variable is now, so that it comes back after the function. -/
def keep (name : Octets) : Script Unit :=
  modify fun state =>
    match state.kept with
    | [] => state
    | innermost :: others =>
      let content :=
        if name = optionsName then some { value := some (String.ofList state.options) }
        else state.bindings.lookup name
      { state with kept := ((name, content) :: innermost) :: others }

/-- Brings back the variables that the innermost function has kept. -/
def bringBack : Script Unit :=
  modify fun state =>
    match state.kept with
    | [] => state
    | innermost :: others =>
      innermost.foldl (fun state (name, content) =>
        if name = optionsName then
          { state with options := ((content.bind (·.value)).getD "").toList }
        else
          match content with
          | some content => state.setVariable name content
          | none => state.dropVariable name) { state with kept := others }

def localVariables : Builtin where
  name := "local"
  isSpecial := true
  takesAssignments := true
  run _ _ arguments := do
    if (← get).functionDepth = 0 then Script.fail "not in a function"
    for word in arguments do
      let (name, value) := splitAssignment word
      keep name
      if name ≠ optionsName then
        match value with
        | some value => Script.assign name value
        | none => pure ()
    return 0

def unset : Builtin where
  name := "unset"
  isSpecial := true
  run _ _ arguments := do
    let (options, words) ← options [('v', false), ('f', false)] arguments
    for word in words do
      if (options.getLast?.map (·.1)) = some 'f' then
        modify fun state =>
          { state with functions := state.functions.filter (·.1 ≠ word) }
      else do
        demandName word
        Script.unset word
    return 0

/-! ## Options and arguments of the shell -/

/-- The names of the options, and their letters where they have one. -/
def optionNames : List (Octets × Option Char) :=
  [("errexit", some 'e'), ("noglob", some 'f'), ("ignoreeof", some 'I'), ("interactive", some 'i'),
   ("monitor", some 'm'), ("noexec", some 'n'), ("stdin", some 's'), ("xtrace", some 'x'),
   ("verbose", some 'v'), ("vi", some 'V'), ("emacs", some 'E'), ("noclobber", some 'C'),
   ("allexport", some 'a'), ("notify", some 'b'), ("nounset", some 'u'), ("privileged", some 'p'),
   ("nolog", none), ("debug", none)]

def setOption (letter : Char) (isOn : Bool) : Script Unit := do
  if optionNames.any (·.2 = some letter) then
    modify fun state =>
      let others := state.options.filter (· ≠ letter)
      { state with options := if isOn then letter :: others else others }
  else Script.fail ("Illegal option -" ++ String.singleton letter)

/-- Sets an option by its name. -/
def setNamedOption (isOn : Bool) (name : Octets) : Script Unit := do
  match optionNames.lookup name with
  | some (some letter) => setOption letter isOn
  | some none => return
  | none => Script.fail ("Illegal option -o " ++ name)

/-- Shows which options are set: as a list, or as commands that set them. -/
def showOptions (asList : Bool) : Script Unit := do
  let state ← get
  let isOn (option : Octets × Option Char) : Bool := option.2.any state.has
  let line (option : Octets × Option Char) : Octets :=
    if asList then
      option.1 ++ String.ofList (List.replicate (16 - option.1.length) ' ') ++
        (if isOn option then "on" else "off") ++ "\n"
    else "set " ++ (if isOn option then "-" else "+") ++ "o " ++ option.1 ++ "\n"
  let title := if asList then "Current option settings\n" else ""
  let _ ← say (title ++ String.join (optionNames.map line)) 0

/-- Sets the options that the letters of a word stand for; some take the next word. -/
def setLetters (isOn : Bool) : List Char → List Octets → Script (List Octets)
  | [], words => return words
  | 'o' :: rest, [] => do
    showOptions isOn
    setLetters isOn rest []
  | 'o' :: rest, name :: words => do
    setNamedOption isOn name
    setLetters isOn rest words
  | letter :: rest, words => do
    setOption letter isOn
    setLetters isOn rest words

/-- Sets the options at the start of some words; `fuel` bounds these. Gives the arguments
after them, if they are to be replaced. -/
def setOptions : (fuel : Nat) → List Octets → Script (Option (List Octets))
  | 0, _ => return none
  | _, [] => return none
  | fuel + 1, word :: words => do
    match word.toList with
    | ['-'] => do
      modify fun state => { state with options := state.options.filter fun c => c ≠ 'x' && c ≠ 'v' }
      return if words.isEmpty then none else some words
    | ['-', '-'] => return some words
    | '-' :: letters => setOptions fuel (← setLetters true letters words)
    | '+' :: letters => setOptions fuel (← setLetters false letters words)
    | _ => return some (word :: words)

def setting : Builtin where
  name := "set"
  isSpecial := true
  run _ _ arguments := do
    if arguments.isEmpty then do
      let line (entry : Octets × Variable) : Octets :=
        (entry.2.value.map fun value => entry.1 ++ "=" ++ quoted value ++ "\n").getD ""
      say (String.join ((sortedVariables (← get) fun _ => true).map line)) 0
    else do
      match ← setOptions arguments.length arguments with
      | some arguments => modify fun state => { state with arguments, optionPlace := {} }
      | none => pure ()
      return 0

def shift : Builtin where
  name := "shift"
  isSpecial := true
  run _ _ arguments := do
    let count ←
      match arguments with
      | [] => pure 1
      | word :: _ => number word
    let state ← get
    if state.arguments.length < count then Script.fail "can't shift that many"
    else do
      set { state with arguments := state.arguments.drop count, optionPlace := {} }
      return 0

/-! ## Options of a script -/

/-- What looking for the next option came to. -/
structure FoundOption where
  letter : Char
  argument : Option Octets := none
  complaint : Option Octets := none
  place : OptionPlace
  isDone : Bool := false

/-- Looks for the next option in the arguments. -/
def nextOption (known : Octets) (arguments : List Octets) (place : OptionPlace) : FoundOption :=
  let index := place.index
  let current := if index ≤ 1 then [] else ((arguments[index - 2]?).getD "").toList
  let rest := if place.letters = 0 then [] else current.drop place.letters
  let ended (index : Nat) : FoundOption := { letter := '?', place := { index }, isDone := true }
  let isQuiet := known.startsWith ":"
  let take (c : Char) (rest : List Char) (index letters : Nat) : FoundOption :=
    let after : OptionPlace := { index, letters := if rest.isEmpty then 0 else letters }
    let illegal : FoundOption :=
      if isQuiet then { letter := '?', argument := some (String.singleton c), place := after }
      else
        { letter := '?', place := after
          complaint := some ("Illegal option -" ++ String.singleton c) }
    if c = ':' then illegal
    else
      match (known.toList.span (· ≠ c)).2 with
      | _ :: ':' :: _ =>
        if !rest.isEmpty then
          { letter := c, argument := some (String.ofList rest), place := { index } }
        else
          match arguments[index - 1]? with
          | some argument => { letter := c, argument, place := { index := index + 1 } }
          | none =>
            if isQuiet then { letter := ':', argument := some (String.singleton c), place := after }
            else
              { letter := '?', place := after
                complaint := some ("No arg for -" ++ String.singleton c ++ " option") }
      | _ :: _ => { letter := c, argument := some "", place := after }
      | [] => illegal
  match rest with
  | c :: rest => take c rest index (place.letters + 1)
  | [] =>
    match arguments[index - 1]?.map String.toList with
    | some ['-', '-'] => ended (index + 1)
    | some ('-' :: c :: rest) => take c rest (index + 1) 2
    | _ => ended index

def readOptions : Builtin where
  name := "getopts"
  run _ _ arguments := do
    match ← operands arguments with
    | known :: name :: given => do
      let state ← get
      let arguments := if given.isEmpty then state.arguments else given
      let place :=
        if arguments.length + 1 < state.optionPlace.index then {} else state.optionPlace
      let found := nextOption known arguments place
      match found.complaint with
      | some complaint => complain complaint
      | none => pure ()
      if !found.isDone then
        match found.argument with
        | some argument => Script.assign "OPTARG" argument
        | none => Script.unset "OPTARG"
      Script.assign "OPTIND" (Nat.repr found.place.index)
      assignNamed name (String.singleton found.letter)
      modify fun state => { state with optionPlace := found.place }
      return if found.isDone then 1 else 0
    | _ => Script.fail "Usage: getopts optstring var [arg...]"

/-! ## Reading a line -/

/-- Reads a line byte by byte. A back-slashed line end joins two lines, unless the line is
taken as it stands. Also gives whether the line had an end. -/
def readLine (asItStands : Bool) : Work (List MarkedChar × Bool) :=
  Work.iterate (fun (read, afterBackslash) => do
    match ← Work.read 0 1 with
    | .error _ => return .inr (read.reverse, false)
    | .ok piece =>
      match piece.toList with
      | [] => return .inr (read.reverse, false)
      | c :: _ =>
        if c = '\x00' then return .inl (read, afterBackslash)
        else if afterBackslash then
          return .inl (if c = '\n' then read else (c, true) :: read, false)
        else if c = '\n' then return .inr (read.reverse, true)
        else if c = '\\' && !asItStands then return .inl (read, true)
        else return .inl ((c, false) :: read, false)) (([] : List MarkedChar), false)

/-- The fields of a line, the last of which takes all that is left. -/
def lineFields (separators : List Char) : (count : Nat) → List MarkedChar → List Octets
  | 0, _ => []
  | count + 1, line =>
    let isSeparator (mark : MarkedChar) : Bool := !mark.2 && separators.contains mark.1
    let isBlank (mark : MarkedChar) : Bool :=
      isSeparator mark && [' ', '\t', '\n'].contains mark.1
    let line := line.dropWhile isBlank
    let (field, rest) := line.span fun mark => !isSeparator mark
    let rest := rest.dropWhile isBlank
    let after :=
      match rest with
      | mark :: others => if isSeparator mark then others.dropWhile isBlank else rest
      | [] => []
    if count = 0 && !after.isEmpty then
      [FileTree.plainText (line.reverse.dropWhile isBlank).reverse]
    else FileTree.plainText field :: lineFields separators count after

def reading : Builtin where
  name := "read"
  run _ _ arguments := do
    let (options, names) ← options [('p', true), ('r', false)] arguments
    if names.isEmpty then Script.fail "arg count"
    let (line, hasEnd) ← readLine (options.any (·.1 = 'r'))
    for (name, value) in names.zip (lineFields (← get).separators names.length line) do
      assignNamed name value
    return if hasEnd then 0 else 1

end Overseer.Shell.Builtin
