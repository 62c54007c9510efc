import Overseer.Time.CalendarReader
import Overseer.Tools.Listing

/-!
# Dates

`date` puts a time in words: that of the moment, of the last change of a file, or one that is
given in words itself. All times are in UTC.
-/

namespace Overseer.Tool

/-- The formats with a name, and how exact they are. -/
def standardFormat? (style precision : Octets) : Option Octets :=
  let separator := if style = "rfc" then " " else "T"
  let clock? : Option Octets :=
    match precision with
    | "" | "date" => some ""
    | "hours" => some (separator ++ "%H%:z")
    | "minutes" => some (separator ++ "%H:%M%:z")
    | "seconds" => some (separator ++ "%H:%M:%S%:z")
    | "ns" =>
      some (separator ++ (if style = "rfc" then "%H:%M:%S.%N%:z" else "%H:%M:%S,%N%:z"))
    | _ => none
  clock?.map ("%Y-%m-%d" ++ ·)

def usualFormat : Octets := "%a %b %e %H:%M:%S %Z %Y"

/-- The format that the options and operands ask for. -/
def dateFormat (invocation : Invocation) (parsed : Parsed) : Work Octets := do
  let named (style text : Octets) : Work Octets := do
    match standardFormat? style text with
    | some format => return format
    | none => misuse invocation 1 ("invalid argument " ++ quote text ++ " for '--iso-8601'")
  match parsed.operands with
  | first :: rest =>
    if !first.startsWith "+" then fail invocation 1 ("invalid date " ++ quote first)
    else do
      refuseExtra invocation 1 0 rest
      return (first.drop 1).toString
  | [] =>
    match parsed.lastOf ['R', 'I', '\x10'] with
    | some 'R' => return "%a, %d %b %Y %H:%M:%S %z"
    | some 'I' => named "iso" ((parsed.value? 'I').getD "")
    | some _ => named "rfc" ((parsed.value? '\x10').getD "")
    | none => return usualFormat

def date : Tool := fun invocation => do
  let parsed ← arguments invocation
    [⟨'d', "date", .needed⟩, ⟨'u', "utc", .nothing⟩, ⟨'u', "universal", .nothing⟩,
     ⟨'R', "rfc-email", .nothing⟩, ⟨'I', "iso-8601", .optional⟩, ⟨'\x10', "rfc-3339", .needed⟩,
     ⟨'r', "reference", .needed⟩, ⟨'s', "set", .needed⟩, ⟨'f', "file", .needed⟩]
  let format ← dateFormat invocation parsed
  let now ← Work.now
  let moment ←
    match parsed.lastOf ['d', 'r'] with
    | none => pure now
    | some 'd' => do
      let text := (parsed.value? 'd').getD ""
      match TimeReading.read? now text with
      | some moment => pure moment
      | none => fail invocation 1 ("invalid date " ++ quote text)
    | some _ => do
      let path := (parsed.value? 'r').getD ""
      match ← nodeAt invocation path true with
      | .ok (tree, node) => pure (changeTime tree node)
      | .error fault => fail invocation 1 (unreadable path fault)
  put invocation ((CalendarTime.ofInstant moment).format format ++ "\n")
  return 0

end Overseer.Tool
