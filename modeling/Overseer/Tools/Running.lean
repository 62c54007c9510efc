import Overseer.Tools.Plain

/-!
# Tools that run programs

A program is run with another environment, with its input as arguments, with a limit on its
time, or with some signals ignored.
-/

namespace Overseer.Tool

/-! ## Becoming another program -/

/-- Becomes the program that some words call, in the way of tools: the status tells whether
it is missing or cannot be carried out. -/
def becomeWords (launch : Launch) (invocation : Invocation) (words : List Octets) : Work Nat := do
  let name := words.headD ""
  let searchPath := (invocation.environment.lookup "PATH").getD standardSearchPath
  let called := { invocation with name, arguments := words.drop 1 }
  let fault ←
    if name.isEmpty then pure FileFault.missing else Work.becomeNamed launch searchPath called
  warn invocation (quote name ++ ": " ++ fault.text)
  return if fault = .missing then 127 else 126

/-- The status that the end of a child gives. -/
def endStatus : Awaited → Nat
  | .child _ (.exited status) => status
  | .child _ (.ended signal) => 128 + signal
  | _ => 1

/-- Splits the words `NAME=VALUE` off from the front of others. -/
def splitSettings : List Octets → List (Octets × Octets) × List Octets
  | [] => ([], [])
  | word :: rest =>
    match word.toList.span (· ≠ '=') with
    | (_, []) => ([], word :: rest)
    | (name, _ :: value) =>
      let (settings, words) := splitSettings rest
      ((String.ofList name, String.ofList value) :: settings, words)

/-- An environment with one more entry, in the place of the one with its name. -/
def setEntry (environment : List (Octets × Octets)) (entry : Octets × Octets) :
    List (Octets × Octets) :=
  if (environment.lookup entry.1).isSome then
    environment.map fun old => if old.1 = entry.1 then entry else old
  else environment ++ [entry]

def environment (launch : Launch) : Tool := fun invocation => do
  let parsed ← parse invocation
    [⟨'i', "ignore-environment", .nothing⟩, ⟨'u', "unset", .needed⟩, ⟨'0', "null", .nothing⟩,
     ⟨'C', "chdir", .needed⟩, ⟨'S', "split-string", .needed⟩, ⟨'v', "debug", .nothing⟩] 125 true
  let (isEmpty, words) :=
    match parsed.operands with
    | "-" :: words => (true, words)
    | words => (parsed.has 'i', words)
  let split := (parsed.values 'S').flatMap fun text => (text.splitOn " ").filter (· ≠ "")
  let (settings, words) := splitSettings (split ++ words)
  let unset := parsed.values 'u'
  let start := if isEmpty then [] else invocation.environment
  let kept := start.filter fun entry => !unset.contains entry.1
  let environment := settings.foldl setEntry kept
  let folder ←
    match parsed.value? 'C' with
    | none => pure invocation.folder
    | some path => do
      match (← Work.tree).find invocation.folder path true with
      | .ok folder => pure folder
      | .error fault =>
        fail invocation 125 ("cannot change directory to " ++ quote path ++ ": " ++ fault.text)
  if words.isEmpty then do
    let ending := if parsed.has '0' then "\x00" else "\n"
    let line (entry : Octets × Octets) : Octets := entry.1 ++ "=" ++ entry.2 ++ ending
    put invocation (String.join (environment.map line))
    return 0
  else becomeWords launch { invocation with environment, folder } words

def nice (launch : Launch) : Tool := fun invocation => do
  let words :=
    match invocation.arguments with
    | word :: rest =>
      match word.toList with
      | '-' :: c :: digits =>
        if c.isDigit || ((c = '-' || c = '+') && digits.head?.any Char.isDigit) then
          "-n" :: String.ofList (c :: digits) :: rest
        else word :: rest
      | _ => word :: rest
    | [] => []
  let parsed ← parse { invocation with arguments := words } [⟨'n', "adjustment", .needed⟩] 125 true
  match parsed.value? 'n' with
  | some text =>
    if (integerOf? text.toList).isNone then
      fail invocation 125 ("invalid adjustment " ++ quote text)
  | none => pure ()
  match parsed.operands with
  | [] =>
    if parsed.has 'n' then misuse invocation 125 "a command must be given with an adjustment"
    else do
      put invocation "0\n"
      return 0
  | words => becomeWords launch invocation words

def nohup (launch : Launch) : Tool := fun invocation => do
  let parsed ← parse invocation [] 125 true
  if parsed.operands.isEmpty then missingOperand invocation 125
  Work.dispose 1 .ignored
  becomeWords launch invocation parsed.operands

/-- Becomes a program, whatever the options for it say. -/
def plainly (launch : Launch) (rules : List OptionRule) : Tool := fun invocation => do
  let parsed ← parse invocation rules 125 true
  if parsed.operands.isEmpty then missingOperand invocation 125
  becomeWords launch invocation parsed.operands

/-! ## Limits on time -/

/-- The signal with a number or a name. -/
def signalNamed? (word : Octets) : Option Signal :=
  match naturalOf? word.toList with
  | some number => if number < 65 then some number else none
  | none =>
    Signal.ofName? (if word.toUpper.startsWith "SIG" then (word.drop 3).toString else word)

/-- Sends a signal to some processes, and makes them go on so that it reaches them. -/
def signalAll (target : Int) (signal : Signal) : Work Unit := do
  let _ ← Work.send target signal
  if signal ≠ Signal.kill then
    let _ ← Work.send target Signal.resume

/-- Waits for a child. If it takes longer than a time, some processes are killed. -/
def awaitOrKill (child : ProcessId) (target : Int) (limit : Option Span) : Work Awaited := do
  match limit with
  | none => Work.await (some child) false
  | some span => do
    let killer ← Work.fork fun _ => Work.toCourse do
      Work.sleep span
      let _ ← Work.send target Signal.kill
      return 0
    let ended ← Work.await (some child) false
    let _ ← Work.send killer Signal.kill
    return ended

/-- Ends as a child has ended: by the same signal, or else with its status. -/
def endLike (ended : Awaited) : Work Nat := do
  match ended with
  | .child _ (.ended signal) => do
    Work.dispose signal .standard
    let _ ← Work.send (← Work.look).self signal
    return endStatus ended
  | _ => return endStatus ended

/-- Runs a program for at most some time. What it starts belongs to its group, which is
ended as a whole. -/
def timeout (launch : Launch) : Tool := fun invocation => do
  let parsed ← parse invocation
    [⟨'k', "kill-after", .needed⟩, ⟨'s', "signal", .needed⟩, ⟨'v', "verbose", .nothing⟩,
     ⟨'p', "preserve-status", .nothing⟩, ⟨'f', "foreground", .nothing⟩] 125 true
  let span (text : Octets) : Work Span := do
    match spanOf? text with
    | some span => return span
    | none => misuse invocation 125 ("invalid time interval " ++ quote text)
  let signal ←
    match parsed.value? 's' with
    | none => pure Signal.terminate
    | some text =>
      match signalNamed? text with
      | some signal => pure signal
      | none => misuse invocation 125 (quote text ++ ": invalid signal")
  let patience ←
    match parsed.value? 'k' with
    | none => pure none
    | some text => do pure (some (← span text))
  match parsed.operands with
  | [] | [_] => missingOperand invocation 125
  | limit :: words => do
    let limit ← span limit
    let child ← Work.fork fun _ => Work.toCourse do
      Work.lead
      becomeWords launch invocation words
    let target : Int := if parsed.has 'f' then Int.ofNat child else Int.negOfNat child
    if limit = .zero then endLike (← Work.await (some child) false)
    else do
      let alarm ← Work.fork fun _ => .sleep limit fun _ => .exit 0
      let first ← Work.await none false
      match first with
      | .child id _ =>
        if id = child then do
          let _ ← Work.send alarm Signal.kill
          endLike first
        else do
          signalAll target signal
          let ended ← awaitOrKill child target patience
          match ended, parsed.has 'f' with
          | .child _ (.ended 9), false => endLike ended
          | .child _ (.ended 9), true => return endStatus ended
          | _, _ => return if parsed.has 'p' then endStatus ended else 124
      | _ => return 124

end Overseer.Tool
