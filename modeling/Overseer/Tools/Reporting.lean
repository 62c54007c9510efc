import Overseer.Tools.Records.Evaluation

/-!
# Reports

`awk` carries out a program on the records of files: what it finds in them, it reports.
-/

namespace Overseer.Tool

open Records (Value Content Table)

/-- What the arguments ask for. -/
structure ReportRequest where
  /-- The files that hold the program, if any do. -/
  programFiles : List Octets := []
  /-- The separator of fields. -/
  separator : Option Octets := none
  /-- The variables that are set before anything else is done, as they are written. -/
  settings : List Octets := []
  operands : List Octets := []

/-- What the arguments ask for, or the message about what is wrong with them. `fuel` bounds
them. -/
def ReportRequest.read (request : ReportRequest) : (fuel : Nat) → List Octets →
    Except Octets ReportRequest
  | 0, _ | _, [] => .ok request
  | fuel + 1, word :: words =>
    match word.toList with
    | ['-', '-'] => .ok { request with operands := words }
    | '-' :: letter :: rest =>
      let value : Option (Octets × List Octets) :=
        match rest, words with
        | [], [] => none
        | [], value :: words => some (value, words)
        | _, _ => some (String.ofList rest, words)
      match letter, value with
      | 'f', some (path, words) =>
        read { request with programFiles := request.programFiles ++ [path] } fuel words
      | 'F', some (text, words) => read { request with separator := some text } fuel words
      | 'v', some (text, words) =>
        read { request with settings := request.settings ++ [text] } fuel words
      | 'W', some (_, words) => read request fuel words
      | _, _ =>
        if ['f', 'F', 'v', 'W'].contains letter then
          .error ("option -" ++ String.singleton letter ++ " lacks argument")
        else .error ("not an option: " ++ word)
    | _ => .ok { request with operands := word :: words }

/-- The variables that a program begins with. -/
def reportVariables (count : Nat) (separator : Octets) : List (Octets × Content) :=
  [("FS", .scalar (.text separator)), ("OFS", .scalar (.text " ")),
   ("ORS", .scalar (.text "\n")), ("RS", .scalar (.text "\n")), ("NR", .scalar (.number 0)),
   ("FNR", .scalar (.number 0)), ("SUBSEP", .scalar (.text "\x1c")),
   ("CONVFMT", .scalar (.text "%.6g")), ("OFMT", .scalar (.text "%.6g")),
   ("ARGC", .scalar (.number (Records.ofWhole count))), ("ARGV", .table 0), ("ENVIRON", .table 1)]

/-- The state that a program begins in. -/
def reportState (invocation : Invocation) (separator : Octets) (operands : List Octets) :
    Records.State :=
  let arguments := invocation.name :: operands
  let argumentTable :=
    arguments.zipIdx.foldl
      (fun (table : Table) entry => table.put (Nat.repr entry.2) (.read entry.1)) {}
  let environment :=
    invocation.environment.foldl
      (fun (table : Table) entry => table.put entry.1 (.read entry.2)) {}
  { globals := reportVariables arguments.length separator
    tables := #[argumentTable, environment]
    outputs := Records.standardOutputs }

/-- The text of the program: of the files that hold it, or the first operand. Also gives the
other operands. -/
def programText (invocation : Invocation) (request : ReportRequest) :
    Work (Octets × List Octets) := do
  match request.programFiles, request.operands with
  | [], [] => do
    let _ ← Work.write 2 "Usage: mawk [Options] [Program] [file ...]\n"
    Work.exit 0
  | [], text :: operands => return (text, operands)
  | files, operands => do
    let texts ← files.mapM fun path => do
      match ← readFile invocation path with
      | .ok text => return text
      | .error fault =>
        fail invocation 2 ("cannot open \"" ++ path ++ "\" (" ++ fault.text ++ ")")
    return ("\n".intercalate texts, operands)

def awk (launch : Launch) : Tool := fun invocation => do
  let arguments := invocation.arguments
  match ReportRequest.read {} (arguments.length + 1) arguments with
  | .error message => fail invocation 2 message
  | .ok request => do
    let (text, operands) ← programText invocation request
    let setting : Records.Setting := ⟨invocation, launch⟩
    let separator := (request.separator.map fun text => (Records.Lexeme.escapes.unescape text).1)
    let state := reportState invocation (separator.getD " ") operands
    let (prepared, state) ←
      (request.settings.forM fun text =>
        match Records.Run.assignment? text with
        | some (name, value) => Records.Run.setFromArgument setting name value
        | none => Records.Run.fail invocation ("improper assignment: -v " ++ text) :
        Records.Run Unit).run.run state
    match prepared, Records.Program.read text with
    | .error _, _ => return state.status
    | .ok (), .error fault =>
      fail invocation 2 ("line " ++ Nat.repr fault.line ++ ": " ++ fault.text)
    | .ok (), .ok program => Records.runProgram setting program state

end Overseer.Tool
