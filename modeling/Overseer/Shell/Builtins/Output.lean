import Overseer.Shell.Builtins.Basic
import Overseer.Tools.Condition
import Overseer.Tools.Printing

/-!
# Commands that write or compare
-/

namespace Overseer.Shell.Builtin

def echo : Builtin where
  name := "echo"
  run _ _ arguments := say (shellEcho arguments) 0

def printf : Builtin where
  name := "printf"
  run _ _ arguments := do
    match ← operands arguments with
    | [] => Script.fail "usage: printf format [arg ...]"
    | format :: values => do
      let printed := PrintStyle.ofShell.print format values
      for complaint in printed.complaints do Script.warn complaint
      match printed.fault with
      | some fault => do
        let _ ← say printed.octets 0
        Script.fail fault
      | none => say printed.octets (if printed.complaints.isEmpty then 0 else 1)

/-- Says whether a condition holds. -/
def testing (words : List Octets) : Script Nat := do
  let view ← Work.look
  match Condition.holds ⟨view.tree, (← get).folder, view.descriptors⟩ words with
  | .error message => Script.fail message
  | .ok holds => return if holds then 0 else 1

def test : Builtin where
  name := "test"
  run _ _ := testing

def bracket : Builtin where
  name := "["
  run _ _ words :=
    if words.getLast? = some "]" then testing words.dropLast else Script.fail "missing ]"

end Overseer.Shell.Builtin
