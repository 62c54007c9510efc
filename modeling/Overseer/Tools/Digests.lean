import Overseer.Digest.Rounds
import Overseer.Text.Packed
import Overseer.Tools.Columns

/-!
# Tools for digests and encodings
-/

namespace Overseer.Tool

/-! ## Digests -/

/-- A digest: what it is called, and what it makes of bytes. -/
structure DigestKind where
  title : Octets
  digest : Octets → List Nat

/-- A line with the digest of a file. -/
def DigestKind.line (kind : DigestKind) (tagged binary : Bool) (name content : Octets) : Octets :=
  let digest := Digest.hexadecimal (kind.digest content)
  if tagged then kind.title ++ " (" ++ name ++ ") = " ++ digest ++ "\n"
  else digest ++ (if binary then " *" else "  ") ++ name ++ "\n"

/-- The digest and the name that a line gives. -/
def digestLine? (line : Octets) : Option (Octets × Octets) :=
  let (digest, rest) := line.toList.span fun c => (digitValue? 16 c).isSome
  match rest with
  | ' ' :: mark :: name =>
    if digest.length < 8 || (mark ≠ ' ' && mark ≠ '*') then none
    else some (String.ofList digest, String.ofList name)
  | _ => none

/-- What the check of the files of a list has found. -/
structure CheckCounts where
  failed : Nat := 0
  unread : Nat := 0
  malformed : Nat := 0
  matched : Nat := 0

/-- Checks the files that a list names with their digests. -/
def checkDigests (invocation : Invocation) (kind : DigestKind) (isQuiet isSilent : Bool)
    (lines : List Octets) : Work CheckCounts :=
  lines.foldlM (fun (counts : CheckCounts) line => do
    match digestLine? line with
    | none => return { counts with malformed := counts.malformed + 1 }
    | some (digest, name) => do
      match ← readFile invocation name with
      | .error fault => do
        warn invocation (unreadable name fault)
        if !isSilent then put invocation (name ++ ": FAILED open or read\n")
        return { counts with unread := counts.unread + 1 }
      | .ok content =>
        if Digest.hexadecimal (kind.digest content) = digest.toLower then do
          if !isQuiet && !isSilent then put invocation (name ++ ": OK\n")
          return { counts with matched := counts.matched + 1 }
        else do
          if !isSilent then put invocation (name ++ ": FAILED\n")
          return { counts with failed := counts.failed + 1 }) {}

/-- A number of things in a warning. -/
def countText (count : Nat) (one many : Octets) : Octets :=
  Nat.repr count ++ " " ++ if count = 1 then one else many

def warnOfChecks (invocation : Invocation) (counts : CheckCounts) : Work Unit := do
  if 0 < counts.malformed then
    warn invocation ("WARNING: " ++ countText counts.malformed "line is improperly formatted"
      "lines are improperly formatted")
  if 0 < counts.unread then
    warn invocation ("WARNING: " ++ countText counts.unread "listed file could not be read"
      "listed files could not be read")
  if 0 < counts.failed then
    warn invocation ("WARNING: " ++ countText counts.failed "computed checksum did NOT match"
      "computed checksums did NOT match")

def digesting (kind : DigestKind) : Tool := fun invocation => do
  let parsed ← arguments invocation
    [⟨'b', "binary", .nothing⟩, ⟨'t', "text", .nothing⟩, ⟨'c', "check", .nothing⟩,
     ⟨'\x10', "tag", .nothing⟩, ⟨'\x11', "quiet", .nothing⟩, ⟨'\x12', "status", .nothing⟩,
     ⟨'w', "warn", .nothing⟩, ⟨'\x13', "strict", .nothing⟩, ⟨'\x14', "ignore-missing", .nothing⟩,
     ⟨'z', "zero", .nothing⟩]
  let (contents, isDone) ← readFiles invocation (orStandard parsed.operands)
  if parsed.has 'c' then do
    let isSilent := parsed.has '\x12'
    let results ← contents.mapM fun (name, content) => do
      let counts ← checkDigests invocation kind (parsed.has '\x11') isSilent (Octets.lines content)
      if counts.matched + counts.failed + counts.unread = 0 then
        warn invocation
          ((if name = "-" then "'standard input'" else shown name) ++
            ": no properly formatted checksum lines found")
        return false
      else do
        if !isSilent then warnOfChecks invocation counts
        return counts.failed + counts.unread = 0 &&
          !(parsed.has '\x13' && 0 < counts.malformed)
    return if isDone && results.all id then 0 else 1
  else do
    let binary := parsed.lastOf ['b', 't'] = some 'b'
    put invocation (String.join (contents.map fun (name, content) =>
      kind.line (parsed.has '\x10') binary name content))
    return if isDone then 0 else 1

def md5sum : Tool := digesting ⟨"MD5", Digest.digest128⟩
def sha1sum : Tool := digesting ⟨"SHA1", Digest.digest160⟩
def sha224sum : Tool := digesting ⟨"SHA224", Digest.digest224⟩
def sha256sum : Tool := digesting ⟨"SHA256", Digest.digest256⟩
def sha384sum : Tool := digesting ⟨"SHA384", Digest.digest384⟩
def sha512sum : Tool := digesting ⟨"SHA512", Digest.digest512⟩

/-- Puts out a line about each file, with its name if it was given one. -/
def summing (invocation : Invocation) (operands : List Octets) (line : Octets → Octets) :
    Work Nat := do
  let (contents, isDone) ← readFiles invocation (orStandard operands)
  put invocation (String.join (contents.map fun (name, content) =>
    line content ++ (if operands.isEmpty then "" else " " ++ name) ++ "\n"))
  return if isDone then 0 else 1

def cksum : Tool := fun invocation => do
  let parsed ← arguments invocation []
  summing invocation parsed.operands fun content =>
    Nat.repr (Digest.cyclicSum content) ++ " " ++ Nat.repr content.length

def sum : Tool := fun invocation => do
  let parsed ← arguments invocation [⟨'r', "", .nothing⟩, ⟨'s', "sysv", .nothing⟩]
  summing invocation parsed.operands fun content =>
    let blocks (size : Nat) : Nat := (content.length + size - 1) / size
    let padded (width : Nat) (fill : Char) (number : Nat) : Octets :=
      String.ofList ((Nat.toDigits 10 number).leftpad width fill)
    if parsed.lastOf ['r', 's'] = some 's' then
      Nat.repr (Digest.foldedSum content) ++ " " ++ Nat.repr (blocks 512)
    else padded 5 '0' (Digest.rotatedSum content) ++ " " ++ padded 5 ' ' (blocks 1024)

/-! ## Encodings -/

/-- A text in lines of a width. -/
def wrapped (width : Nat) : (fuel : Nat) → List Char → List Char
  | 0, text => text
  | fuel + 1, text =>
    if text.isEmpty then []
    else text.take width ++ '\n' :: wrapped width fuel (text.drop width)

def encoding (alphabet : Alphabet) : Tool := fun invocation => do
  let parsed ← arguments invocation
    [⟨'d', "decode", .nothing⟩, ⟨'i', "ignore-garbage", .nothing⟩, ⟨'w', "wrap", .needed⟩]
  refuseExtra invocation 1 1 parsed.operands
  let width ←
    match parsed.value? 'w' with
    | none => pure 76
    | some text =>
      match naturalOf? text.toList with
      | some width => pure width
      | none => fail invocation 1 ("invalid wrap size: " ++ quote text)
  let path := parsed.operands.headD "-"
  match ← readFile invocation path with
  | .error fault => fail invocation 1 (unreadable path fault)
  | .ok content =>
    if parsed.has 'd' then do
      let letters := content.toList.filter fun c =>
        c ≠ '\n' && (!parsed.has 'i' || c = Alphabet.pad || alphabet.letters.contains c)
      let (octets, isRight) := alphabet.decode letters
      put invocation octets
      if isRight then return 0 else fail invocation 1 "invalid input"
    else do
      let text := (alphabet.encode content).toList
      put invocation (String.ofList
        (if width = 0 then text else wrapped width (text.length + 1) text))
      return 0

def base64 : Tool := encoding .of64
def base32 : Tool := encoding .of32

end Overseer.Tool
