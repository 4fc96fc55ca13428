import StaticMulticast.Host.Utility.Input
import StaticMulticast.Text.Decimal
import StaticMulticast.Text.Digest
import StaticMulticast.Text.Member

/-!
# Octets in other forms

The programs that write digests or encodings of octets.
-/

/-!
## Digests of files

Programs that write digests of files, and check files against digests that have been written before.
-/

namespace StaticMulticast.Host.Utility

open Action

/-- A way to compute a digest: its name, the number of its octets, and the function. -/
structure DigestKind where
  name : String
  size : Nat
  digest : List UInt8 → List UInt8

/-- The digest that a name means, with so many octets if that can be chosen. -/
def DigestKind.ofName? (size : Option Nat) : String → Option DigestKind
  | "md5" => some ⟨"MD5", 16, Text.Digest.md5⟩
  | "sha1" => some ⟨"SHA1", 20, Text.Digest.sha1⟩
  | "sha224" => some ⟨"SHA224", 28, Text.Digest.sha224⟩
  | "sha256" => some ⟨"SHA256", 32, Text.Digest.sha256⟩
  | "sha384" => some ⟨"SHA384", 48, Text.Digest.sha384⟩
  | "sha512" => some ⟨"SHA512", 64, Text.Digest.sha512⟩
  | "blake2b" =>
      match size with
      | none | some 0 => some ⟨"BLAKE2b", 64, Text.Digest.blake2b 64⟩
      | some size => some ⟨"BLAKE2b-" ++ toString (8 * size), size, Text.Digest.blake2b size⟩
  | _ => none

/-- The digest of a text in digits. -/
def DigestKind.text (kind : DigestKind) (text : String) : String :=
  Text.Digest.hexadecimal (kind.digest (Text.Octets.toList text))

/-- The marks of options about digests that have no letters. -/
def digestMark (number : Nat) : Char := Char.ofNat number

/-- The options of programs about digests. -/
def digestOptions : List Known :=
  [⟨'b', "binary", .nothing⟩, ⟨'c', "check", .nothing⟩, ⟨digestMark 1, "tag", .nothing⟩,
    ⟨'t', "text", .nothing⟩, ⟨'z', "zero", .nothing⟩, ⟨digestMark 2, "ignore-missing", .nothing⟩,
    ⟨digestMark 3, "quiet", .nothing⟩, ⟨digestMark 4, "status", .nothing⟩,
    ⟨digestMark 5, "strict", .nothing⟩, ⟨'w', "warn", .nothing⟩, ⟨'l', "length", .text⟩,
    ⟨'a', "algorithm", .text⟩, ⟨digestMark 6, "untagged", .nothing⟩,
    ⟨digestMark 7, "raw", .nothing⟩]

/-- A path with marks in the place of ends of lines and backslashes, if it has any, and the mark of
that in front of its line. -/
def quotedPath (path : String) : String × String :=
  let isUnusual (letter : Char) : Bool := letter = '\\' || letter = '\n' || letter = '\r'
  if path.toList.any isUnusual then
    ("\\", String.ofList (path.toList.flatMap fun letter =>
      match letter with
      | '\\' => ['\\', '\\']
      | '\n' => ['\\', 'n']
      | '\r' => ['\\', 'r']
      | _ => [letter]))
  else ("", path)

/-- A path without such marks. -/
def unquotedPath : List Char → List Char
  | '\\' :: 'n' :: rest => '\n' :: unquotedPath rest
  | '\\' :: 'r' :: rest => '\r' :: unquotedPath rest
  | '\\' :: '\\' :: rest => '\\' :: unquotedPath rest
  | letter :: rest => letter :: unquotedPath rest
  | [] => []

/-- The line about a digest. -/
def digestLine (given : Given) (tagged : Bool) (kind : DigestKind) (path text : String) : String :=
  let ending := if given.has 'z' then String.singleton (Char.ofNat 0) else "\n"
  let (front, shown) := if given.has 'z' then ("", path) else quotedPath path
  let digest := kind.text text
  if tagged then front ++ kind.name ++ " (" ++ shown ++ ") = " ++ digest ++ ending
  else front ++ digest ++ (if given.has 'b' then " *" else "  ") ++ shown ++ ending

/-- The digest and the path that a line tells. -/
def checkedLine? (kind : Option DigestKind) (line : String) :
    Option (DigestKind × String × String) :=
  let letters := line.toList
  let isEscaped := letters.head? = some '\\'
  let letters := if isEscaped then letters.tail else letters
  let path (text : List Char) : String :=
    String.ofList (if isEscaped then unquotedPath text else text)
  let isDigit (letter : Char) : Bool := Text.inClass "xdigit" letter
  let (digits, rest) := letters.span isDigit
  let plain := match kind, rest with
    | some kind, ' ' :: mark :: name =>
        if digits.length = 2 * kind.size && (mark = ' ' || mark = '*') && !name.isEmpty then
          some (kind, String.ofList (digits.map Char.toLower), path name)
        else none
    | _, _ => none
  plain.orElse fun _ => do
    let (name, rest) := letters.span (· != ' ')
    let lower := String.ofList ((name.takeWhile (· != '-')).map Char.toLower)
    let size := (String.ofList ((name.dropWhile (· != '-')).drop 1)).toNat?.map (· / 8)
    let found ← DigestKind.ofName? size lower
    let isWanted := kind.all fun (kind : DigestKind) => kind.name = found.name
    match rest with
    | ' ' :: '(' :: inside => do
        let reversed := inside.reverse
        let (digits, before) := reversed.span isDigit
        match before with
        | ' ' :: '=' :: ' ' :: ')' :: name =>
            if isWanted && digits.length = 2 * found.size then
              some (found, String.ofList (digits.reverse.map Char.toLower), path name.reverse)
            else none
        | _ => none
    | _ => none

/-- What has come out of checking: the lines that are well formed, those that are not, the digests
that do not match, the files that cannot be read, and those that match. -/
structure Checked where
  formed : Nat := 0
  misformed : Nat := 0
  failed : Nat := 0
  unread : Nat := 0
  matched : Nat := 0

/-- A warning with a number, where one has a form of its own. -/
def countWarning (count : Nat) (one many : String) : String :=
  "WARNING: " ++ toString count ++ " " ++ if count = 1 then one else many

/-- Checks the files that lines tell. -/
def checkLines (given : Given) (kind : Option DigestKind) (source : String) :
    Nat → Checked → List String → Action Checked
  | _, checked, [] => pure checked
  | number, checked, line :: rest => do
      if line.toList.head? = some '#' then checkLines given kind source (number + 1) checked rest
      else match checkedLine? kind line with
      | none => do
          if given.has 'w' then
            complain (shownPath source ++ ": " ++ toString number ++
              ": improperly formatted checksum line")
          checkLines given kind source (number + 1)
            { checked with misformed := checked.misformed + 1 } rest
      | some (kind, digest, path) => do
          let isSilent := given.has (digestMark 4)
          let checked := { checked with formed := checked.formed + 1 }
          let (front, shown) := quotedPath path
          let tell (text : String) : Action Unit := do
            if !isSilent then
              let _ ← answer (front ++ shown ++ ": " ++ text ++ "\n")
          match ← readOperand path with
          | .error fault =>
              if given.has (digestMark 2) && fault = .missing then
                checkLines given kind source (number + 1) checked rest
              else do
                report path fault
                tell "FAILED open or read"
                checkLines given kind source (number + 1)
                  { checked with unread := checked.unread + 1 } rest
          | .ok text =>
              if kind.text text = digest then do
                if !given.has (digestMark 3) then tell "OK"
                checkLines given kind source (number + 1)
                  { checked with matched := checked.matched + 1 } rest
              else do
                tell "FAILED"
                checkLines given kind source (number + 1)
                  { checked with failed := checked.failed + 1 } rest

/-- Checks files against the digests in another one. -/
def checkDigests (given : Given) (kind : Option DigestKind) (path : String) : Action Nat := do
  match ← readOperand path with
  | .error fault => do
      report path fault
      pure 1
  | .ok text => do
      let checked ← checkLines given kind path 1 { } (linesOf text).1
      let source := if path = "-" then "'standard input'" else shownPath path
      if checked.formed = 0 then
        refuse 1 (source ++ ": no properly formatted checksum lines found")
      else do
        if !given.has (digestMark 4) then
          if checked.misformed != 0 then
            complain (countWarning checked.misformed "line is improperly formatted"
              "lines are improperly formatted")
          if checked.unread != 0 then
            complain (countWarning checked.unread "listed file could not be read"
              "listed files could not be read")
          if checked.failed != 0 then
            complain (countWarning checked.failed "computed checksum did NOT match"
              "computed checksums did NOT match")
        let isIdle := given.has (digestMark 2) && checked.matched = 0 && checked.failed = 0
        if isIdle then complain (source ++ ": no file was verified")
        let isStrict := given.has (digestMark 5) && checked.misformed != 0
        pure (if checked.failed + checked.unread != 0 || isStrict || isIdle then 1 else 0)

/-- Writes or checks digests of a kind. -/
def writeDigests (given : Given) (tagged : Bool) (kind : DigestKind) : Action Nat := do
  let paths := if given.operands.isEmpty then ["-"] else given.operands
  forEach paths fun path => do
    match ← readOperand path with
    | .error fault => do
        report path fault
        pure 1
    | .ok text => answer (digestLine given tagged kind path text)

/-- Writes or checks digests of the kind that is named. -/
def runDigest (name : String) (arguments : List String) : Action Nat :=
  withOptions 1 digestOptions arguments fun given => do
    let size := ((given.text? 'l').bind String.toNat?).map (· / 8)
    match DigestKind.ofName? size name with
    | none => pure 1
    | some kind =>
        if given.has 'c' then
          forEach (if given.operands.isEmpty then ["-"] else given.operands)
            (checkDigests given (some kind))
        else writeDigests given (given.has (digestMark 1)) kind

/-- Writes sums of files with their sizes. -/
def writeSums (operands : List String) (line : String → List UInt8 → String) : Action Nat := do
  let paths := if operands.isEmpty then ["-"] else operands
  forEach paths fun path => do
    match ← readOperand path with
    | .error fault => do
        report path fault
        pure 1
    | .ok text =>
        answer (line (if operands.isEmpty then "" else " " ++ path) (Text.Octets.toList text) ++
          "\n")

/-- The line about a sum that rotates. -/
def rotatingLine (path : String) (octets : List UInt8) : String :=
  let sum := toString (Text.Digest.rotatingSum octets)
  String.ofList (List.replicate (5 - sum.length) '0') ++ sum ++ " " ++
    atWidth 5 ((octets.length + 1023) / 1024) ++ path

/-- The line about a sum that is folded. -/
def foldedLine (path : String) (octets : List UInt8) : String :=
  toString (Text.Digest.foldedSum octets) ++ " " ++ toString ((octets.length + 511) / 512) ++ path

/-- The line about a remainder. -/
def remainderLine (path : String) (octets : List UInt8) : String :=
  toString (Text.Digest.remainder octets) ++ " " ++ toString octets.length ++ path

/-- Writes sums of files. -/
def runSum (arguments : List String) : Action Nat := do
  withOptions 1 [⟨'r', "", .nothing⟩, ⟨'s', "sysv", .nothing⟩] arguments fun given =>
    writeSums given.operands (if given.has 's' then foldedLine else rotatingLine)

/-- Writes remainders of files, or digests of a kind that is chosen. -/
def runCksum (arguments : List String) : Action Nat :=
  withOptions 1 digestOptions arguments fun given => do
    let size := ((given.text? 'l').bind String.toNat?).map (· / 8)
    let name := (given.text? 'a').getD "crc"
    match DigestKind.ofName? size name with
    | some kind =>
        if given.has 'c' then
          forEach (if given.operands.isEmpty then ["-"] else given.operands)
            (checkDigests given (some kind))
        else writeDigests given (!given.has (digestMark 6)) kind
    | none =>
        if given.has 'c' then
          forEach (if given.operands.isEmpty then ["-"] else given.operands)
            (checkDigests given none)
        else match name with
        | "crc" => writeSums given.operands remainderLine
        | "bsd" => writeSums given.operands rotatingLine
        | "sysv" => writeSums given.operands foldedLine
        | _ => refuseUse 1 ("invalid argument " ++ inQuotes name ++ " for '--algorithm'")

end StaticMulticast.Host.Utility

/-!
## Octets in letters

Programs that write octets with few different letters and read them back, and `od`, which shows
octets as numbers or letters.
-/

namespace StaticMulticast.Host.Utility

open Action

/-! ## Codes -/

/-- A code: its letters, and the number of binary digits that each stands for. -/
structure Code where
  letters : List Char
  digits : Nat

/-- The great letters. -/
def greatLetters : List Char := "ABCDEFGHIJKLMNOPQRSTUVWXYZ".toList

/-- The letters and the digits. -/
def lettersAndDigits : List Char :=
  greatLetters ++ greatLetters.map Char.toLower ++ "0123456789".toList

/-- The code of a name. -/
def Code.ofName? : String → Option Code
  | "base64" => some ⟨lettersAndDigits ++ ['+', '/'], 6⟩
  | "base64url" => some ⟨lettersAndDigits ++ ['-', '_'], 6⟩
  | "base32" => some ⟨greatLetters ++ "234567".toList, 5⟩
  | "base32hex" => some ⟨"0123456789".toList ++ greatLetters.take 22, 5⟩
  | "base16" => some ⟨"0123456789ABCDEF".toList, 4⟩
  | "base2msbf" => some ⟨['0', '1'], 1⟩
  | _ => none

namespace Code

/-- The number of letters in a group that stands for whole octets. -/
def groupLength (code : Code) : Nat :=
  if code.digits = 6 then 4 else if code.digits = 5 then 8 else 8 / code.digits

/-- Octets in the code. -/
def encode (code : Code) (octets : List UInt8) : String :=
  let size := code.groupLength * code.digits / 8
  let groups := Text.Digest.blocks size (octets.length + 1) octets
  String.ofList (groups.flatMap fun group =>
    let value := Text.Digest.ofOctets (group ++ List.replicate (size - group.length) 0)
    let count := (8 * group.length + code.digits - 1) / code.digits
    let letters := (List.range code.groupLength).map fun index =>
      if index < count then
        let place := code.digits * (code.groupLength - 1 - index)
        code.letters.getD (value / Nat.pow 2 place % Nat.pow 2 code.digits) '='
      else '='
    letters)

/-- The octets of a group of letters, if it is one. -/
def decodeGroup? (code : Code) (group : List Char) : Option (List UInt8) := do
  let (letters, marks) := group.span (· != '=')
  let values ← letters.mapM fun letter =>
    code.letters.findIdx? (· == (if code.digits = 4 then letter.toUpper else letter))
  let isWhole := group.length = code.groupLength
  let octets := letters.length * code.digits / 8
  let needed := (8 * octets + code.digits - 1) / code.digits
  if !isWhole || marks.any (· != '=') || letters.isEmpty || needed != letters.length then none
  else
    let value := values.foldl (fun value digit => Nat.pow 2 code.digits * value + digit) 0
    let rest := letters.length * code.digits - 8 * octets
    some (Text.Digest.numberOctets octets (value / Nat.pow 2 rest))

/-- The octets of letters, as far as they are well formed, and whether all are. The bound is on the
number of groups. -/
def decode (code : Code) : Nat → List Char → List UInt8 × Bool
  | 0, _ => ([], true)
  | bound + 1, letters =>
      if letters.isEmpty then ([], true)
      else
        match code.decodeGroup? (letters.take code.groupLength) with
        | none => (partOf (letters.take code.groupLength), false)
        | some octets =>
            let (others, isWhole) := code.decode bound (letters.drop code.groupLength)
            (octets ++ others, isWhole)
where
  /-- The octets of the letters at the front of a group that is not well formed. -/
  partOf (group : List Char) : List UInt8 :=
    let letters := group.takeWhile code.letters.contains
    let octets := letters.length * code.digits / 8
    let value := letters.foldl (fun value letter =>
      Nat.pow 2 code.digits * value + (code.letters.findIdx (· == letter))) 0
    Text.Digest.numberOctets octets
      (value / Nat.pow 2 (letters.length * code.digits - 8 * octets))

end Code

/-- Letters in lines of a width, or in one if it is zero. -/
def inLines (width : Nat) (letters : String) : String :=
  if width = 0 || letters.isEmpty then letters
  else
    let rec go : Nat → List Char → List String
      | 0, _ => []
      | bound + 1, rest =>
          if rest.isEmpty then []
          else String.ofList (rest.take width) :: go bound (rest.drop width)
    joinLines (go (letters.length + 1) letters.toList)

/-- The names of the codes that an option can choose. -/
def codeNames : List String :=
  ["base64", "base64url", "base32", "base32hex", "base16", "base2msbf"]

/-- Writes a file in a code, or back. The code may be chosen by an option. -/
def runCode (usual : Option String) (arguments : List String) : Action Nat :=
  let named : List Known := codeNames.mapIdx fun index name =>
    ⟨Char.ofNat (index + 1), name, .nothing⟩
  let known : List Known := [⟨'d', "decode", .nothing⟩, ⟨'i', "ignore-garbage", .nothing⟩,
    ⟨'w', "wrap", .text⟩] ++ if usual.isNone then named else []
  withOptions 1 known arguments fun given => do
    let chosen := codeNames.zipIdx.findSome? fun (name, index) =>
      if given.has (Char.ofNat (index + 1)) then some name else none
    let width := (given.text? 'w').getD "76"
    match (usual.orElse fun _ => chosen).bind Code.ofName?, width.toNat? with
    | none, _ => refuseUse 1 "missing encoding type"
    | some _, none => refuse 1 ("invalid wrap size: " ++ inQuotes width)
    | some code, some width =>
        match given.operands with
        | _ :: extra :: _ => refuseUse 1 ("extra operand " ++ inQuotes extra)
        | operands => do
            let (texts, status) ← readEach 1 [operands.headD "-"]
            if status != 0 then pure status
            else
              let text := together texts
              if given.has 'd' then
                let isKept (letter : Char) : Bool :=
                  if given.has 'i' then code.letters.contains letter || letter = '='
                  else letter != '\n'
                let letters := text.toList.filter isKept
                let (octets, isWhole) := code.decode (letters.length + 1) letters
                do
                  let written ← answer (Text.Octets.ofList octets)
                  if isWhole then pure written else refuse 1 "invalid input"
              else answer (inLines width (code.encode (Text.Octets.toList text)))

/-! ## Octets as they are -/

/-- How octets are shown: as numbers of a base with or without signs, or as letters or names. -/
inductive DumpKind where
  | signed
  | unsigned (base : Nat)
  | letters
  | names
deriving DecidableEq, Repr

/-- A way to show octets: so many at a time, and perhaps the letters behind them. -/
structure DumpForm where
  kind : DumpKind
  size : Nat
  showsText : Bool := false

/-- The number of digits that the greatest number of so many octets takes. -/
def DumpForm.width (form : DumpForm) : Nat :=
  match form.kind with
  | .letters | .names => 3
  | .unsigned base => (Nat.toDigits base (Nat.pow 256 form.size - 1)).length
  | .signed => (Nat.toDigits 10 (Nat.pow 256 form.size / 2)).length + 1

/-- The names of octets that are not seen. -/
def hiddenNames : List String :=
  ["nul", "soh", "stx", "etx", "eot", "enq", "ack", "bel", "bs", "ht", "nl", "vt", "ff", "cr", "so",
    "si", "dle", "dc1", "dc2", "dc3", "dc4", "nak", "syn", "etb", "can", "em", "sub", "esc", "fs",
    "gs", "rs", "us", "sp"]

/-- Digits with zeros in front of them. -/
def withZeros (width : Nat) (digits : List Char) : String :=
  String.ofList (List.replicate (width - digits.length) '0' ++ digits)

/-- What is shown of octets. -/
def DumpForm.text (form : DumpForm) (isReversed : Bool) (octets : List UInt8) : String :=
  let octets := octets ++ List.replicate (form.size - octets.length) 0
  let value := Text.Digest.ofOctets (if isReversed then octets else octets.reverse)
  match form.kind with
  | .unsigned base =>
      if base = 10 then toString value
      else withZeros form.width (Nat.toDigits base value)
  | .signed =>
      let half := Nat.pow 256 form.size / 2
      if value < half then toString value else "-" ++ toString (2 * half - value)
  | .names =>
      let code := value % 128
      if code = 127 then "del"
      else (hiddenNames[code]?).getD (String.singleton (Char.ofNat code))
  | .letters =>
      match value with
      | 0 => "\\0"
      | 7 => "\\a"
      | 8 => "\\b"
      | 9 => "\\t"
      | 10 => "\\n"
      | 11 => "\\v"
      | 12 => "\\f"
      | 13 => "\\r"
      | _ =>
          if 0x20 ≤ value && value < 0x7F then String.singleton (Char.ofNat value)
          else withZeros 3 (Nat.toDigits 8 value)

/-- The forms that a text gives: letters for kinds, each with a size behind it. The bound is on
their number. -/
def dumpForms? : Nat → List Char → Option (List DumpForm)
  | 0, _ => none
  | _ + 1, [] => some []
  | bound + 1, letter :: rest => do
      let (size, rest) ← if letter = 'a' || letter = 'c' then some (1, rest) else
        match rest with
        | 'C' :: rest => some (1, rest)
        | 'S' :: rest => some (2, rest)
        | 'I' :: rest => some (4, rest)
        | 'L' :: rest => some (8, rest)
        | _ =>
            let (digits, rest) := rest.span Char.isDigit
            let size := if digits.isEmpty then 4 else (Text.Decimal.digits? digits).getD 0
            if [1, 2, 4, 8].contains size then some (size, rest) else none
      let kind ← match letter with
        | 'a' => some DumpKind.names
        | 'c' => some .letters
        | 'd' => some .signed
        | 'o' => some (.unsigned 8)
        | 'u' => some (.unsigned 10)
        | 'x' => some (.unsigned 16)
        | _ => none
      let (showsText, rest) := match rest with
        | 'z' :: rest => (true, rest)
        | _ => (false, rest)
      some (⟨kind, size, showsText⟩ :: (← dumpForms? bound rest))

/-- A row of values of which each has the same width, and shares room that is left. -/
def spreadRow (width room : Nat) (count : Nat) : Nat → List String → String
  | _, [] => ""
  | index, text :: rest =>
      let left := count - index
      let own := room * left / count - room * (left - 1) / count + width
      " " ++ String.ofList (List.replicate (own - text.length) ' ') ++ text ++
        spreadRow width room count (index + 1) rest

/-- How `od` shows octets. -/
structure Dump where
  forms : List DumpForm
  /-- The base of the places in front of rows, if there are any. -/
  base : Option Nat
  rowSize : Nat
  showsAll : Bool
  isReversed : Bool

namespace Dump

/-- A place in front of a row. -/
def place (dump : Dump) (offset : Nat) : String :=
  match dump.base with
  | none => ""
  | some base => withZeros (if base = 16 then 6 else 7) (Nat.toDigits base offset)

/-- The lines about a row of octets. -/
def row (dump : Dump) (offset : Nat) (octets : List UInt8) : List String :=
  let widest := (dump.forms.map fun form =>
    (form.width + 1) * (dump.rowSize / form.size)).foldl max 0
  dump.forms.mapIdx fun index form =>
    let count := dump.rowSize / form.size
    let texts := (Text.Digest.blocks form.size (octets.length + 1) octets).map
      (form.text dump.isReversed)
    let room := widest - (form.width + 1) * count
    let front := if index = 0 then dump.place offset
      else String.ofList (List.replicate (dump.place offset).length ' ')
    let shown := spreadRow form.width room count 0 texts
    let missing := (count - texts.length) * (form.width + 1) +
      room * (count - texts.length) / count
    let behind := if form.showsText then
        String.ofList (List.replicate missing ' ') ++ "  >" ++ String.ofList (octets.map fun octet =>
          let letter := Char.ofNat octet.toNat
          if 0x20 ≤ octet.toNat && octet.toNat < 0x7F then letter else '.') ++ "<"
      else ""
    front ++ shown ++ behind

/-- The lines about rows of octets, of which equal ones are left out. -/
def rows (dump : Dump) : Nat → Option (List UInt8) → Bool → List (List UInt8) → List String
  | offset, _, _, [] => if dump.base.isNone then [] else [dump.place offset]
  | offset, before, isLeftOut, octets :: rest =>
      let next := offset + octets.length
      if !dump.showsAll && before = some octets && !rest.isEmpty &&
          octets.length = dump.rowSize then
        (if isLeftOut then [] else ["*"]) ++ dump.rows next before true rest
      else dump.row offset octets ++ dump.rows next (some octets) false rest

end Dump

/-- The options of `od`. -/
def dumpOptions : List Known :=
  [⟨'A', "address-radix", .text⟩, ⟨'t', "format", .text⟩, ⟨'N', "read-bytes", .text⟩,
    ⟨'j', "skip-bytes", .text⟩, ⟨'v', "output-duplicates", .nothing⟩, ⟨'w', "width", .attached⟩,
    ⟨Char.ofNat 1, "endian", .text⟩, ⟨'S', "strings", .text⟩] ++ knownLetters "abcdfiloxsDH" ""

/-- The form that an option with one letter means. -/
def shortForm : Char → Option String
  | 'a' => some "a"
  | 'b' => some "o1"
  | 'c' => some "c"
  | 'd' => some "u2"
  | 'i' => some "d4"
  | 'l' => some "d8"
  | 'o' => some "o2"
  | 's' => some "d2"
  | 'x' => some "x2"
  | 'D' => some "u4"
  | 'H' => some "x4"
  | _ => none

/-- The number of octets that a text tells, in one of the usual bases. -/
def octetCount? (text : String) : Option Nat :=
  match text.toList with
  | '0' :: 'x' :: digits =>
      let (value, rest) := (digits.foldl (fun (value, rest) digit =>
        if Text.inClass "xdigit" digit then
          (16 * value + (if digit.isDigit then digit.toNat - 48
            else digit.toLower.toNat - 87), rest)
        else (value, true)) (0, false))
      if rest then none else some value
  | _ => amount? text

/-- Shows octets of files. -/
def runOd (arguments : List String) : Action Nat :=
  withOptions 1 dumpOptions arguments fun given => do
    let texts := given.options.filterMap fun (letter, text) =>
      if letter = 't' then some text else shortForm letter
    let texts := if texts.isEmpty then ["o2"] else texts
    let radix := (given.text? 'A').getD "o"
    let base : Option (Option Nat) := match radix with
      | "o" => some (some 8)
      | "d" => some (some 10)
      | "x" => some (some 16)
      | "n" => some none
      | _ => none
    let forms := texts.mapM fun text => dumpForms? (text.length + 1) text.toList
    match base, forms with
    | none, _ => refuse 1 ("invalid output address radix '" ++ radix ++
        "'; it must be one character from [doxn]")
    | _, none =>
        let wrong := (texts.find? fun text => (dumpForms? (text.length + 1) text.toList).isNone)
        refuse 1 ("invalid type string " ++ inQuotes (wrong.getD ""))
    | some base, some forms => do
        let (files, status) ← readOperands 1 given.operands
        let octets := Text.Octets.toList (together files)
        let skipped := ((given.text? 'j').bind octetCount?).getD 0
        let octets := octets.drop skipped
        let octets := match (given.text? 'N').bind octetCount? with
          | some count => octets.take count
          | none => octets
        let width := (given.text? 'w').map fun text => (text.toNat?).getD 32
        let dump : Dump :=
          { forms := forms.flatten
            base
            rowSize := max 1 (width.getD 16)
            showsAll := given.has 'v'
            isReversed := (given.text? (Char.ofNat 1)) = some "big" }
        let rows := Text.Digest.blocks dump.rowSize (octets.length + 1) octets
        finish status (joinLines (dump.rows skipped none false rows))

end StaticMulticast.Host.Utility
