import Overseer.Number.Leading
import Overseer.Text.Directive
import Overseer.Tools.Input

/-!
# Series of numbers

`seq` counts in exact decimal steps; `factor` takes numbers apart.
-/

namespace Overseer.Tool

/-! ## Decimal numbers -/

/-- A number `value / 10 ^ places`, written with so many places. -/
structure Decimal where
  value : Int
  places : Nat

namespace Decimal

/-- The number times a power of ten, as an integer. -/
def scaled (number : Decimal) (places : Nat) : Int :=
  number.value * (powerOfTen (places - number.places) : Int)

/-- The decimal number that a text writes as a whole. -/
def ofText? (text : Octets) : Option Decimal :=
  let (isNegative, digits) := leadingSign (text.toList.dropWhile isSpacing)
  let signed (value : Nat) : Int := if isNegative then -(value : Int) else value
  match digits with
  | '0' :: 'x' :: digits =>
    if !digits.isEmpty && digits.all fun c => (digitValue? 16 c).isSome then
      some ⟨signed (valueOfDigits 16 digits), 0⟩
    else none
  | _ => do
    let (value, places, rest) ← leadingDigits? 10 digits
    let (power, rest) := leadingExponent 'e' rest
    if !rest.isEmpty then none
    else
      match power - places with
      | .ofNat zeros => if zeros < 5000 then some ⟨signed (value * powerOfTen zeros), 0⟩ else none
      | .negSucc places => some ⟨signed value, places + 1⟩

/-- A scaled integer as a text with so many places. -/
def text (places : Nat) (value : Int) : Octets :=
  let digits := (Nat.toDigits 10 value.natAbs).leftpad (places + 1) '0'
  let whole := digits.take (digits.length - places)
  let fraction := digits.drop (digits.length - places)
  String.ofList ((if value < 0 then ['-'] else []) ++ whole ++
    if places = 0 then [] else '.' :: fraction)

def toFloat (places : Nat) (value : Int) : Float :=
  (nearestFloat (value < 0) value.natAbs (-(places : Int))).getD 0

end Decimal

/-! ## Counting -/

/-- Brings a text to a width with zeros after its sign. -/
def padWithZeros (width : Nat) (text : Octets) : Octets :=
  let (sign, digits) := text.toList.span (· = '-')
  String.ofList (sign ++ digits.leftpad (width - sign.length) '0')

/-- The parts of a format for one number: what stands before it, how it is laid out, and what
stands after it. -/
def numberFormat? (format : Octets) : Option (Octets × Layout × Char × Octets) := do
  let unfold (text : List Char) : Octets := ("%".intercalate ((String.ofList text).splitOn "%%"))
  let rec find : List Char → List Char → Option (List Char × List Char)
    | before, '%' :: '%' :: rest => find ('%' :: '%' :: before) rest
    | before, '%' :: rest => some (before.reverse, rest)
    | before, c :: rest => find (c :: before) rest
    | _, [] => none
  let (before, rest) ← find [] format.toList
  let (directive, rest) := Directive.read rest
  let conversion ← directive.conversion
  if !(['e', 'f', 'g', 'a', 'E', 'F', 'G', 'A'].contains conversion) then none
  else
    let count : Amount → Nat
      | .given count => count
      | .argument => 0
    let layout : Layout := ⟨directive.flags, count directive.width, directive.precision.map count⟩
    if (find [] rest).isSome then none else some (unfold before, layout, conversion, unfold rest)

/-- How the numbers of a series are written. -/
def seriesText (parsed : Parsed) (places : Nat) (first last : Int) : Option (Int → Octets) :=
  match parsed.value? 'f' with
  | some format =>
    (numberFormat? format).map fun (before, layout, conversion, after) value =>
      before ++ layout.float conversion (Decimal.toFloat places value) ++ after
  | none =>
    let width := max (Decimal.text places first).length (Decimal.text places last).length
    if parsed.has 'w' then some fun value => padWithZeros width (Decimal.text places value)
    else some (Decimal.text places)

/-- Puts out a series of numbers, some at a time, with what stands between them. -/
def putSeries (invocation : Invocation) (separator : Octets) (write : Int → Octets)
    (first step : Int) (last : Option Int) : Work Unit :=
  let isWithin (value : Int) : Bool :=
    last.all fun last => if step < 0 then last ≤ value else value ≤ last
  Work.iterate (fun (value : Int) => do
    Work.pause
    let ahead := (List.range 512).map fun (count : Nat) => value + step * Int.ofNat count
    let values := ahead.takeWhile isWithin
    let texts := values.map fun value' =>
      (if value' = first then "" else separator) ++ write value'
    put invocation (String.join texts)
    if values.length < 512 then do
      if isWithin first then put invocation "\n"
      return .inr ()
    else return .inl (value + step * 512)) first

/-- Whether a word begins like a negative number. -/
def isNegativeNumber (word : Octets) : Bool :=
  match word.toList with
  | '-' :: c :: _ => c.isDigit || c = '.'
  | _ => false

/-- Puts a mark for the end of the options before the first negative number. -/
def withNegatives : List Octets → List Octets
  | [] => []
  | word :: rest =>
    if isNegativeNumber word then "--" :: word :: rest
    else if ["-f", "-s", "--format", "--separator"].contains word then
      word :: rest.take 1 ++ withNegatives (rest.drop 1)
    else if word = "--" || !word.startsWith "-" then word :: rest
    else word :: withNegatives rest
  termination_by words => words.length

def seq : Tool := fun invocation => do
  let parsed ← parse { invocation with arguments := withNegatives invocation.arguments }
    [⟨'f', "format", .needed⟩, ⟨'s', "separator", .needed⟩, ⟨'w', "equal-width", .nothing⟩] 1 true
  if parsed.operands.isEmpty then missingOperand invocation 1
  refuseExtra invocation 1 3 parsed.operands
  let number (text : Octets) : Work Decimal := do
    match Decimal.ofText? text with
    | some number => return number
    | none => misuse invocation 1 ("invalid floating point argument: " ++ quote text)
  let isEndless (text : Octets) : Bool := ["inf", "+inf", "infinity"].contains text.toLower
  let (first, step, last) :=
    match parsed.operands with
    | [last] => ("1", "1", last)
    | [first, last] => (first, "1", last)
    | first :: step :: last :: _ => (first, step, last)
    | [] => ("1", "1", "0")
  let start ← number first
  let increment ← number step
  let goal ← if isEndless last then pure ⟨0, 0⟩ else number last
  if increment.value = 0 then misuse invocation 1 ("invalid Zero increment value: " ++ quote step)
  let places := max start.places increment.places
  let fine := max places goal.places
  let shift := powerOfTen (fine - places)
  let bound : Int := Int.tdiv (goal.scaled fine) shift
  let isExact := bound * shift = goal.scaled fine
  let bound : Int :=
    if isExact || (goal.scaled fine < 0) == (increment.value < 0) then bound
    else if increment.value < 0 then bound + 1 else bound - 1
  match seriesText parsed places (start.scaled places) (Int.tdiv (goal.scaled fine) shift) with
  | none => fail invocation 1 ("format " ++ quote ((parsed.value? 'f').getD "") ++ " has no % directive")
  | some write => do
    putSeries invocation ((parsed.value? 's').getD "\n") write (start.scaled places)
      (increment.scaled places) (if isEndless last then none else some bound)
    return 0

/-! ## Factors -/

/-- The prime factors of a number from a candidate on. `fuel` bounds the candidates. -/
def primeFactors : (fuel : Nat) → (candidate number : Nat) → List Nat
  | 0, _, number => [number]
  | fuel + 1, candidate, number =>
    if number < 2 then []
    else if number < candidate * candidate then [number]
    else if number % candidate = 0 then candidate :: primeFactors fuel candidate (number / candidate)
    else primeFactors fuel (if candidate = 2 then 3 else candidate + 2) number

def factor : Tool := fun invocation => do
  let parsed ← arguments invocation []
  let words ←
    if !parsed.operands.isEmpty then pure parsed.operands
    else do
      let content ← Work.readAll 0
      pure (((content.toOption.getD "").toList.splitOnP isSpacing).filterMap fun word =>
        if word.isEmpty then none else some (String.ofList word))
  let known ← words.mapM fun word => do
    match naturalOf? (word.toList.dropWhile (· = '+')) with
    | some number => do
      let factors := (primeFactors (Nat.sqrt number + 200) 2 number).map fun factor => " " ++ Nat.repr factor
      put invocation (Nat.repr number ++ ":" ++ String.join factors ++ "\n")
      return true
    | none => do
      warn invocation (quote word ++ " is not a valid positive integer")
      return false
  return if known.all id then 0 else 1

end Overseer.Tool
