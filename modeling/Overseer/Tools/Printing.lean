import Overseer.Number.Leading
import Overseer.Text.Directive

/-!
# Printing

What `echo` and `printf` write. A `PrintStyle` holds what differs between the shell's own
commands and the programs of the same names.
-/

namespace Overseer

structure PrintStyle where
  /-- The escapes in a format. -/
  format : EscapeStyle
  /-- The escapes in the values of the directive for them. -/
  values : EscapeStyle
  /-- What is said of a value that is no number, and of one that only starts with one. -/
  notNumber : Octets → Octets
  notWhole : Octets → Octets
  outOfRange : Octets → Octets
  badDirective : Octets → Octets
  /-- What may stand before the letter of a number's conversion. -/
  sizes : List Char := []

/-- What printing came to. -/
structure Printed where
  octets : Octets := ""
  /-- What is wrong with values, none of which ends the printing. -/
  complaints : List Octets := []
  /-- What is wrong with the format, which ends it. -/
  fault : Option Octets := none
  /-- Whether the output is to end here. -/
  ended : Bool := false

namespace PrintStyle

/-! ## Values -/

/-- The character code that a value after a quote stands for. -/
def quotedCode? : List Char → Option Int
  | quote :: c :: _ => if quote = '\'' || quote = '"' then some (c.toNat : Int) else none
  | _ => none

/-- What is wrong with a value of which some text is left after its number. -/
def leftOver (style : PrintStyle) (value : Octets) (rest : List Char) : List Octets :=
  if rest.isEmpty then [] else [style.notWhole value]

/-- The number that a value writes, and what is wrong with it. -/
def integerOf (style : PrintStyle) (isSigned : Bool) (value : Octets) : Int × List Octets :=
  match quotedCode? value.toList with
  | some code => (code, [])
  | none =>
    if value.isEmpty then (0, [])
    else
      match leadingInteger? true value.toList with
      | none => (0, [style.notNumber value])
      | some (number, rest) =>
        let least : Int := if isSigned then -(powerOfTwo 63 : Int) else -(powerOfTwo 64 : Int)
        let most : Int := if isSigned then (powerOfTwo 63 : Int) - 1 else (powerOfTwo 64 : Int) - 1
        if number < least || most < number then
          (if number < least && isSigned then least else most, [style.outOfRange value])
        else (number, style.leftOver value rest)

def floatOf (style : PrintStyle) (value : Octets) : Float × List Octets :=
  match quotedCode? value.toList with
  | some code => (Float.ofInt code, [])
  | none =>
    if value.isEmpty then (0, [])
    else
      match leadingFloat? true value.toList with
      | none => (0, [style.notNumber value])
      | some (number, rest) => (number, style.leftOver value rest)

/-! ## Formats -/

/-- The next value, if there is one, and those after it. -/
def next (values : List Octets) : Octets × List Octets := (values.headD "", values.tail)

/-- A width or precision. A negative width is a flag and a width, and a negative precision
none. -/
def amountOf (style : PrintStyle) (values : List Octets) :
    Amount → Int × List Octets × List Octets
  | .given count => (count, values, [])
  | .argument =>
    let (value, rest) := next values
    let (number, complaints) := style.integerOf true value
    (number, rest, complaints)

/-- What a directive writes for a value, and what is wrong with that. The last part says
whether the output ends. -/
def convert (style : PrintStyle) (layout : Layout) (conversion : Char) (value : Octets) :
    Option (Octets × List Octets × Bool) :=
  if conversion = 'd' || conversion = 'i' then
    let (number, complaints) := style.integerOf true value
    some (layout.integer number, complaints, false)
  else if ['u', 'o', 'x', 'X'].contains conversion then
    let (number, complaints) := style.integerOf false value
    some (layout.natural conversion (number % (powerOfTwo 64 : Int)).toNat, complaints, false)
  else if ['e', 'E', 'f', 'F', 'g', 'G', 'a', 'A'].contains conversion then
    let (number, complaints) := style.floatOf value
    some (layout.float conversion number, complaints, false)
  else if conversion = 'c' then
    some (layout.pad [] (if value.isEmpty then ['\x00'] else value.toList.take 1) false, [], false)
  else if conversion = 's' then some (layout.text value, [], false)
  else if conversion = 'b' then
    let (text, ended) := style.values.unescape value
    some (layout.text text, [], ended)
  else none

/-- Writes out the directive that a format goes on with. Also gives the rest of the format
and of the values. -/
def directive (style : PrintStyle) (text : List Char) (values : List Octets) :
    Printed × List Char × List Octets :=
  let (directive, rest) := Directive.read text
  let (conversion, rest) :=
    match directive.conversion with
    | some c =>
      if style.sizes.contains c then
        let rest := rest.dropWhile style.sizes.contains
        (rest.head?, rest.drop 1)
      else (some c, rest)
    | none => (none, rest)
  let written := String.ofList (text.take (text.length - rest.length))
  let (width, values, first) := style.amountOf values directive.width
  let (precision, values, second) :=
    match directive.precision with
    | some amount =>
      let (precision, values, complaints) := style.amountOf values amount
      (if precision < 0 then none else some precision.toNat, values, complaints)
    | none => (none, values, [])
  let flags := if width < 0 then '-' :: directive.flags else directive.flags
  let (value, after) := next values
  match conversion.bind fun c => style.convert ⟨flags, width.natAbs, precision⟩ c value with
  | some (octets, complaints, ended) =>
    ({ octets, complaints := first ++ second ++ complaints, ended }, rest, after)
  | none => ({ fault := some (style.badDirective ("%" ++ written)) }, rest, values)

def Printed.followedBy (first second : Printed) : Printed :=
  { octets := first.octets ++ second.octets
    complaints := first.complaints ++ second.complaints
    fault := second.fault
    ended := second.ended }

/-- Writes a format out once. Also gives the values that are left. -/
def once (style : PrintStyle) : (fuel : Nat) → List Char → List Octets → Printed × List Octets
  | 0, _, values => ({}, values)
  | _, [], values => ({}, values)
  | fuel + 1, '%' :: '%' :: rest, values =>
    let (after, values) := once style fuel rest values
    ({ after with octets := "%" ++ after.octets }, values)
  | fuel + 1, '%' :: rest, values =>
    let (first, rest, values) := style.directive rest values
    if first.fault.isSome || first.ended then (first, values)
    else
      let (after, values) := once style fuel rest values
      (Printed.followedBy first after, values)
  | fuel + 1, '\\' :: rest, values =>
    if style.format.ends && rest.head? = some 'c' then ({ ended := true }, values)
    else
      let (meaning, rest) := (style.format.read? rest).getD ('\\', rest)
      let (after, values) := once style fuel rest values
      ({ after with octets := String.singleton meaning ++ after.octets }, values)
  | fuel + 1, c :: rest, values =>
    let (after, values) := once style fuel rest values
    ({ after with octets := String.singleton c ++ after.octets }, values)

/-- Writes a format out, again and again as long as values are left that it takes. -/
def print (style : PrintStyle) (format : Octets) (values : List Octets) : Printed :=
  go (values.length + 1) values
where
  go : (rounds : Nat) → List Octets → Printed
    | 0, _ => {}
    | rounds + 1, values =>
      let (printed, left) := style.once format.length format.toList values
      if printed.fault.isSome || printed.ended || left.isEmpty || left.length = values.length then
        printed
      else Printed.followedBy printed (go rounds left)

/-! ## The two styles -/

/-- How the shell's own command prints. -/
def ofShell : PrintStyle where
  format :=
    { letters := ('"', '"') :: ('e', '\x1b') :: EscapeStyle.controlLetters, octal := true }
  values :=
    { letters := ('"', '"') :: ('e', '\x1b') :: EscapeStyle.controlLetters
      octal := true, longOctal := true, ends := true }
  notNumber value := value ++ ": expected numeric value"
  notWhole value := value ++ ": not completely converted"
  outOfRange value := value ++ ": Numerical result out of range"
  badDirective written := written ++ ": invalid directive"

/-- How the program prints. -/
def ofProgram : PrintStyle where
  format :=
    { letters := ('"', '"') :: ('e', '\x1b') :: EscapeStyle.controlLetters
      octal := true, hexadecimal := true, ends := true }
  values :=
    { letters := ('"', '"') :: ('e', '\x1b') :: EscapeStyle.controlLetters
      octal := true, longOctal := true, hexadecimal := true, ends := true }
  notNumber value := "'" ++ value ++ "': expected a numeric value"
  notWhole value := "'" ++ value ++ "': value not completely converted"
  outOfRange value := "'" ++ value ++ "': Numerical result out of range"
  badDirective written := written ++ ": invalid conversion specification"
  sizes := ['h', 'l', 'L', 'j', 't', 'z', 'q']

end PrintStyle

/-! ## Echoing -/

/-- What the shell's own command echoes. -/
def shellEcho (arguments : List Octets) : Octets :=
  let (plain, words) :=
    match arguments with
    | "-n" :: rest => (true, rest)
    | words => (false, words)
  let (text, ended) := PrintStyle.ofShell.values.unescape (" ".intercalate words)
  if plain || ended then text else text ++ "\n"

/-- Whether a word consists of options of the program that echoes. -/
def isEchoOption (word : Octets) : Bool :=
  match word.toList with
  | '-' :: letters => !letters.isEmpty && letters.all ['n', 'e', 'E'].contains
  | _ => false

/-- What the program echoes. -/
def programEcho (arguments : List Octets) : Octets :=
  let letters := (arguments.takeWhile isEchoOption).flatMap fun word => word.toList.drop 1
  let text := " ".intercalate (arguments.dropWhile isEchoOption)
  let unescapes := (letters.reverse.find? (· ≠ 'n')) = some 'e'
  let (text, ended) := if unescapes then PrintStyle.ofProgram.values.unescape text else (text, false)
  if letters.contains 'n' || ended then text else text ++ "\n"

end Overseer
