import Overseer.Tools.Amount
import Overseer.Tools.Folders
import Overseer.Tools.Joining

/-!
# Pieces of files

`dd` copies blocks, `split` cuts a file into others, `join` puts lines of two files together,
and `which` says where programs are.
-/

namespace Overseer.Tool

/-! ## Copying blocks -/

/-- The number that digits, a unit and signs of multiplication write. -/
def blockAmount? (text : Octets) : Option Nat :=
  (text.splitOn "x").foldl (fun (product : Option Nat) part => do
    let unit :=
      match part.toList.reverse with
      | 'c' :: digits => (String.ofList digits.reverse, 1)
      | 'w' :: digits => (String.ofList digits.reverse, 2)
      | _ => (part, 1)
    return (← product) * (← amountOf? unit.1) * unit.2) (some 1)

/-- The operands of a copy, by their names. -/
def copyOperands (invocation : Invocation) : Work (List (Octets × Octets)) :=
  invocation.arguments.mapM fun word => do
    match word.splitOn "=" with
    | name :: value@(_ :: _) =>
      if ["if", "of", "bs", "ibs", "obs", "cbs", "count", "skip", "seek", "iseek", "oseek", "conv",
          "status", "iflag", "oflag"].contains name then return (name, "=".intercalate value)
      else misuse invocation 1 ("unrecognized operand " ++ quote word)
    | _ => misuse invocation 1 ("unrecognized operand " ++ quote word)

/-- How many whole and partial blocks were read, and how many bytes. -/
structure CopyCounts where
  whole : Nat := 0
  partial_ : Nat := 0
  bytes : Nat := 0

def CopyCounts.text (counts : CopyCounts) : Octets :=
  let blocks := Nat.repr counts.whole ++ "+" ++ Nat.repr counts.partial_
  let bytes := Nat.repr counts.bytes ++ if counts.bytes = 1 then " byte" else " bytes"
  blocks ++ " records in\n" ++ blocks ++ " records out\n" ++ bytes ++ " copied, 0.001 s\n"

/-- Copies blocks until there are no more, or as many as are wanted. -/
def copyBlocks (invocation : Invocation) (input output size : Nat) (count : Option Nat)
    (fills : Bool) (change : Octets → Octets) : Work CopyCounts :=
  Work.iterate (fun (counts : CopyCounts) => do
    Work.pause
    if count.any (· ≤ counts.whole + counts.partial_) then return .inr counts
    else do
      let block ←
        if fills then readBlock input size
        else do pure ((← Work.read input size).toOption.getD "")
      if block.isEmpty then return .inr counts
      else do
        match ← Work.write output (change block) with
        | some fault => fail invocation 1 ("error writing output: " ++ fault.text)
        | none =>
          let bytes := counts.bytes + block.length
          return .inl (if block.length = size then { counts with whole := counts.whole + 1, bytes }
            else { counts with partial_ := counts.partial_ + 1, bytes })) {}
where
  /-- Reads until a block is whole or the input ends. -/
  readBlock (input size : Nat) : Work Octets :=
    Work.iterate (fun (block : Octets) => do
      if size ≤ block.length then return .inr block
      else
        match ← Work.read input (size - block.length) with
        | .ok piece => return if piece.isEmpty then .inr block else .inl (block ++ piece)
        | .error _ => return .inr block) ""

/-- Passes over blocks of the input. -/
def skipBlocks (input size count : Nat) : Work Unit :=
  Work.iterate (fun left => do
    if left = 0 then return .inr ()
    else
      match ← Work.read input (min left 65536) with
      | .ok piece => return if piece.isEmpty then .inr () else .inl (left - piece.length)
      | .error _ => return .inr ()) (size * count)

/-- What a conversion does with a block. -/
def blockChange (names : List Octets) (block : Octets) : Octets :=
  names.foldl (fun block name =>
    match name with
    | "ucase" => block.toUpper
    | "lcase" => block.toLower
    | "swab" =>
      let rec swap : List Char → List Char
        | a :: b :: rest => b :: a :: swap rest
        | rest => rest
      String.ofList (swap block.toList)
    | _ => block) block

def dd : Tool := fun invocation => do
  let operands ← copyOperands invocation
  let value? (name : Octets) : Option Octets := operands.reverse.lookup name
  let number? (name : Octets) : Work (Option Nat) := do
    match value? name with
    | none => return none
    | some text =>
      match blockAmount? text with
      | some number => return some number
      | none => fail invocation 1 ("invalid number: " ++ quote text)
  let both ← number? "bs"
  let size := both.getD ((← number? "ibs").getD 512)
  if size = 0 then fail invocation 1 ("invalid number: " ++ quote ((value? "bs").getD "0"))
  let count ← number? "count"
  let skipped := ((← number? "skip").orElse fun _ => none).getD ((← number? "iseek").getD 0)
  let sought := (← number? "seek").getD ((← number? "oseek").getD 0)
  let conversions := ((value? "conv").getD "").splitOn ","
  let input ←
    match value? "if" with
    | none => pure 0
    | some path => do
      match ← openInput invocation (if path = "-" then "./-" else path) with
      | .ok number => pure number
      | .error fault => fail invocation 1 ("failed to open " ++ quote path ++ ": " ++ fault.text)
  let output ←
    match value? "of" with
    | none => pure 1
    | some path => do
      let keeps := conversions.contains "notrunc" || 0 < sought
      let opening : Work.Opening := { writes := true, makes := true, empties := !keeps }
      match ← Work.openFile invocation.folder path opening (0o666 &&& (0o777 ^^^ invocation.mask)) with
      | .error fault => fail invocation 1 ("failed to open " ++ quote path ++ ": " ++ fault.text)
      | .ok stream => do
        let number := Work.freeNumber (← Work.look).descriptors fileNumber
        Work.place number stream
        if 0 < sought then do
          let tree ← Work.tree
          match tree.find invocation.folder path true with
          | .error _ => pure ()
          | .ok node => do
            let old := (tree.content node).toOption.getD .empty
            let start := sought * size
            let kept := (old.toList ++ List.replicate (start - old.size) 0).take start
            if !conversions.contains "notrunc" then
              Work.store (tree.setContent node ⟨kept.toArray⟩)
            let _ ← Work.write number (Octets.ofBytes ⟨kept.toArray⟩)
        pure number
  skipBlocks input size skipped
  let fills := ((value? "iflag").getD "").splitOn "," |>.contains "fullblock"
  let counts ← copyBlocks invocation input output size count fills (blockChange conversions)
  match value? "status" with
  | some "none" | some "noxfer" => pure ()
  | _ =>
    let _ ← Work.write 2 counts.text
  return 0

/-! ## Cutting -/

/-- The ending of the name of a piece. -/
def pieceSuffix (width : Nat) (digits : Bool) (place : Nat) : Octets :=
  if digits then String.ofList ((Nat.toDigits 10 place).leftpad width '0')
  else
    String.ofList ((List.range width).reverse.map fun power =>
      Char.ofNat ('a'.toNat + place / Nat.pow 26 power % 26))

/-- Splits a list into pieces of a length. `fuel` bounds the pieces. -/
def chunks (size : Nat) : (fuel : Nat) → List α → List (List α)
  | 0, _ => []
  | fuel + 1, items => if items.isEmpty then [] else items.take size :: chunks size fuel (items.drop size)

def split : Tool := fun invocation => do
  let parsed ← arguments { invocation with arguments := withLineOption invocation.arguments }
    [⟨'l', "lines", .needed⟩, ⟨'b', "bytes", .needed⟩, ⟨'a', "suffix-length", .needed⟩,
     ⟨'d', "", .nothing⟩, ⟨'d', "numeric-suffixes", .optional⟩, ⟨'n', "number", .needed⟩,
     ⟨'\x10', "additional-suffix", .needed⟩]
  refuseExtra invocation 1 2 parsed.operands
  let amount (letter : Char) (what : Octets) : Work (Option Nat) := do
    match parsed.value? letter with
    | none => return none
    | some text =>
      match amountOf? text with
      | some (amount + 1) => return some (amount + 1)
      | _ => fail invocation 1 ("invalid number of " ++ what ++ ": " ++ quote text)
  let path := parsed.operands.headD "-"
  let start := (parsed.operands[1]?).getD "x"
  match ← readFile invocation path with
  | .error fault => fail invocation 1 ("cannot open " ++ quote path ++ " for reading: " ++ fault.text)
  | .ok content => do
    let lines ← amount 'l' "lines"
    let bytes ← amount 'b' "bytes"
    let parts ← amount 'n' "chunks"
    let pieces :=
      match bytes, parts with
      | some size, _ => (chunks size (content.length + 1) content.toList).map String.ofList
      | none, some parts =>
        let size := content.length / parts
        let ends := (List.range parts).map fun i => if i + 1 = parts then content.length else (i + 1) * size
        ends.zipIdx.map fun (last, i) =>
          ((content.take last).drop (i * size)).toString
      | none, none =>
        let all := linesWithEnds content
        (chunks (lines.getD 1000) (all.length + 1) all).map String.join
    let width ← do pure ((← amount 'a' "suffix length").getD 2)
    let written ← pieces.zipIdx.mapM fun (piece, place) => do
      let name := start ++ pieceSuffix width (parsed.has 'd') place ++ (parsed.value? '\x10').getD ""
      let bytes := Octets.toBytes piece
      match ← Work.change fun tree => tree.write invocation.folder name bytes 0o644 with
      | none => return true
      | some fault => fail invocation 1 (unreadable name fault)
    return if written.all id then 0 else 1
where
  /-- Turns an old option that is only a number into a new one. -/
  withLineOption (words : List Octets) : List Octets :=
    words.map fun word =>
      match word.toList with
      | '-' :: digits => if !digits.isEmpty && digits.all Char.isDigit then "-l" ++ String.ofList digits else word
      | _ => word

/-! ## Joining lines -/

/-- How lines are joined. -/
structure JoinStyle where
  separator : Option Char
  ignoresCase : Bool
  /-- The places of the key in the lines of the first and the second file. -/
  firstKey : Nat
  secondKey : Nat
  /-- The fields that are put out: zero and no place for the key. -/
  fields : List (Nat × Nat)
  filler : Octets

namespace JoinStyle

def split (style : JoinStyle) (line : Octets) : List Octets :=
  match style.separator with
  | some c => line.splitOn (String.singleton c)
  | none => ((line.toList.splitOnP isSpacing).filter (!·.isEmpty)).map String.ofList

def key (style : JoinStyle) (place : Nat) (fields : List Octets) : Octets :=
  let key := (fields[place]?).getD ""
  if style.ignoresCase then key.toLower else key

/-- The line that comes of two rows of fields, one of which may be missing. -/
def line (style : JoinStyle) (first second : Option (List Octets)) : Octets :=
  let keyText :=
    match first, second with
    | some fields, _ => (fields[style.firstKey]?).getD ""
    | none, some fields => (fields[style.secondKey]?).getD ""
    | none, none => ""
  let others (fields : Option (List Octets)) (place : Nat) : List Octets :=
    match fields with
    | some fields => fields.eraseIdx place
    | none => []
  let field (choice : Nat × Nat) : Octets :=
    let text :=
      if choice.1 = 0 then keyText
      else
        let fields := if choice.1 = 1 then first else second
        ((fields.getD [])[choice.2 - 1]?).getD ""
    if text.isEmpty then style.filler else text
  let words :=
    if style.fields.isEmpty then keyText :: others first style.firstKey ++ others second style.secondKey
    else style.fields.map field
  (String.singleton (style.separator.getD ' ')).intercalate words ++ "\n"

/-- Joins sorted rows of fields. The flags say whether lines without a partner, of either
file, and lines with one are put out. `fuel` bounds the rows. -/
def join (style : JoinStyle) (alone : Bool × Bool) (paired : Bool) : (fuel : Nat) →
    List (List Octets) → List (List Octets) → List Octets
  | 0, _, _ => []
  | _, [], second => if alone.2 then second.map fun row => style.line none (some row) else []
  | _, first, [] => if alone.1 then first.map fun row => style.line (some row) none else []
  | fuel + 1, a :: first, b :: second =>
    let firstKey := style.key style.firstKey a
    let secondKey := style.key style.secondKey b
    if firstKey = secondKey then
      let firstGroup := a :: first.takeWhile fun row => style.key style.firstKey row = firstKey
      let secondGroup := b :: second.takeWhile fun row => style.key style.secondKey row = firstKey
      let lines := firstGroup.flatMap fun a => secondGroup.map fun b => style.line (some a) (some b)
      (if paired then lines else []) ++
        join style alone paired fuel ((a :: first).drop firstGroup.length)
          ((b :: second).drop secondGroup.length)
    else if Octets.isBefore firstKey secondKey then
      (if alone.1 then [style.line (some a) none] else []) ++
        join style alone paired fuel first (b :: second)
    else
      (if alone.2 then [style.line none (some b)] else []) ++
        join style alone paired fuel (a :: first) second

end JoinStyle

/-- The fields that a list of them names. -/
def joinFields? (text : Octets) : Option (List (Nat × Nat)) :=
  (((text.toList.splitOnP fun c => c = ',' || c = ' ').filter (!·.isEmpty))).mapM fun word =>
    match (String.ofList word).splitOn "." with
    | ["0"] => some (0, 0)
    | [file, place] => do
      let place ← naturalOf? place.toList
      if file = "1" then some (1, place) else if file = "2" then some (2, place) else none
    | _ => none

def join : Tool := fun invocation => do
  let parsed ← arguments invocation
    [⟨'t', "", .needed⟩, ⟨'1', "", .needed⟩, ⟨'2', "", .needed⟩, ⟨'j', "", .needed⟩,
     ⟨'a', "", .needed⟩, ⟨'v', "", .needed⟩, ⟨'o', "", .needed⟩, ⟨'e', "", .needed⟩,
     ⟨'i', "ignore-case", .nothing⟩, ⟨'\x10', "nocheck-order", .nothing⟩,
     ⟨'\x11', "check-order", .nothing⟩, ⟨'\x12', "header", .nothing⟩]
  match parsed.operands with
  | [] => missingOperand invocation 1
  | [only] => misuse invocation 1 ("missing operand after " ++ quote only)
  | first :: second :: rest => do
    refuseExtra invocation 1 0 rest
    let place (letter : Char) : Work Nat := do
      match (parsed.value? letter).orElse fun _ => parsed.value? 'j' with
      | none => return 0
      | some text =>
        match naturalOf? text.toList with
        | some (place + 1) => return place
        | _ => fail invocation 1 ("invalid field number: " ++ quote text)
    let fields ←
      match parsed.value? 'o' with
      | none | some "auto" => pure []
      | some text =>
        match joinFields? text with
        | some fields => pure fields
        | none => fail invocation 1 ("invalid field specifier: " ++ quote text)
    let rows (style : JoinStyle) (path : Octets) : Work (List (List Octets)) := do
      match ← readFile invocation path with
      | .ok content => return (Octets.lines content).map style.split
      | .error fault => fail invocation 1 (unreadable path fault)
    let style : JoinStyle :=
      { separator := (parsed.value? 't').bind fun text => text.toList.head?
        ignoresCase := parsed.has 'i', firstKey := ← place '1', secondKey := ← place '2', fields
        filler := (parsed.value? 'e').getD "" }
    let shows (file : Octets) : Bool :=
      (parsed.values 'a').contains file || (parsed.values 'v').contains file
    let firstRows ← rows style first
    let secondRows ← rows style second
    let lines := style.join (shows "1", shows "2") (!parsed.has 'v')
      (firstRows.length + secondRows.length + 1) firstRows secondRows
    put invocation (String.join lines)
    return 0

/-! ## Looking programs up -/

def which : Tool := fun invocation => do
  let parsed ← parse invocation [⟨'a', "", .nothing⟩, ⟨'s', "", .nothing⟩] 2 true
  let searchPath := (invocation.environment.lookup "PATH").getD standardSearchPath
  let tree ← Work.tree
  let found ← parsed.operands.mapM fun name => do
    match tree.findProgram invocation.folder searchPath name with
    | .ok (path, _) => do
      if !parsed.has 's' then put invocation (path ++ "\n")
      return true
    | .error _ => return false
  return if found.all id && !found.isEmpty then 0 else 1

end Overseer.Tool
