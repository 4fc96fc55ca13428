import StaticMulticast.Host.Utility.Copy
import StaticMulticast.Host.Utility.Encoding
import StaticMulticast.Host.Utility.Make
import StaticMulticast.Host.Utility.File
import StaticMulticast.Host.Utility.Statement.Child
import StaticMulticast.Text.Digest

/-!
# Functions of the library of scripts of statements

What the functions do that a script gets by using modules. They are known by their full names.
-/

namespace StaticMulticast.Host.Utility.Statement

open Action

/-! ## Lists -/

/-- The values of a list of which no two have the same key. -/
def withoutRepeats (key : Held → Actor String) : List String → List Held → Actor (List Held)
  | _, [] => pure []
  | known, value :: rest => do
      let own ← key value
      if known.contains own then withoutRepeats key known rest
      else do pure (value :: (← withoutRepeats key (own :: known) rest))

/-- The first value that no other one exceeds. -/
def bestOf (isBetter : Datum → Datum → Bool) (values : List Held) : Actor Held := do
  match values with
  | [] => pure .nothing
  | first :: rest => rest.foldlM (fun best value => do
      pure (if isBetter (← datumOf value) (← datumOf best) then value else best)) first

/-- Values two by two. -/
def inPairs : List Held → List (Held × Held)
  | one :: other :: rest => (one, other) :: inPairs rest
  | [one] => [(one, .nothing)]
  | [] => []

/-- Values in an order that is drawn by lot. The bound is on their number. -/
def shuffled : Nat → List Held → Actor (List Held)
  | 0, _ => pure []
  | bound + 1, values => do
      let index := Datum.truncated ((← drawNumber) * values.length)
      match values.splitAt index.toNat with
      | (before, value :: after) => do pure (value :: (← shuffled bound (before ++ after)))
      | (_, []) => pure []

/-- The result of a function of lists, if it is one. -/
def listTool? (wanted : Option Bool) (name : String) (values : List Held) :
    Actor (Option (List Held)) := do
  let numbers : Actor (List Rat) := values.mapM numberOfValue
  let unique (key : Held → Actor String) : Actor (Option (List Held)) := do
    let kept ← withoutRepeats key [] values
    pure (some (if wanted = some false then [.count kept.length] else kept))
  let numeric (value : Held) : Actor String := do pure (numberText (← numberOfValue value))
  let limit (size : Nat) (index : Int) : Nat :=
    (if index < 0 then Int.ofNat size + index else index).toNat
  match name with
  | "sum" => do
      if values.isEmpty then pure (some [.nothing])
      else do pure (some [.number (preciseNumber ((← numbers).foldl (· + ·) 0))])
  | "sum0" => do pure (some [.number (preciseNumber ((← numbers).foldl (· + ·) 0))])
  | "product" => do pure (some [.number (preciseNumber ((← numbers).foldl (· * ·) 1))])
  | "max" => do
      let best ← bestOf (fun one other => datumNumber other < datumNumber one) values
      pure (some [best])
  | "min" => do
      let best ← bestOf (fun one other => datumNumber one < datumNumber other) values
      pure (some [best])
  | "maxstr" => do
      pure (some [← bestOf (fun one other => datumText other < datumText one) values])
  | "minstr" => do
      pure (some [← bestOf (fun one other => datumText one < datumText other) values])
  | "uniq" | "uniqstr" => unique textOf
  | "uniqnum" | "uniqint" => unique numeric
  | "shuffle" => some <$> shuffled values.length values
  | "pairs" => do
      let pairs ← (inPairs values).mapM fun (one, other) => do
        let cells ← [one, other].mapM addValue
        Held.reference <$> addCell (.array cells.toArray)
      pure (some pairs)
  | "pairkeys" => pure (some ((inPairs values).map (·.1)))
  | "pairvalues" => pure (some ((inPairs values).map (·.2)))
  | "head" => do
      let size ← wholeOf (values.headD .nothing)
      pure (some (values.tail.take (limit (values.length - 1) size)))
  | "tail" => do
      let size ← wholeOf (values.headD .nothing)
      let all := values.tail
      pure (some (all.drop (if size < 0 then size.natAbs else all.length - size.toNat)))
  | _ => pure none

/-! ## Values -/

/-- The word for what a reference leads to, whatever package it has. -/
def scalarTool? (name : String) (values : List Held) : Actor (Option Held) := do
  let first := values.headD .nothing
  match name, first with
  | "blessed", .reference address => do
      let package ← packageOf? address
      let isExpression := (← kindAt address) = "Regexp"
      pure (some (match package with
        | some package => .text package
        | none => if isExpression then .text "Regexp" else .nothing))
  | "reftype", .reference address => do
      let kind ← kindAt address
      pure (some (.text (if kind = "Regexp" then "REGEXP" else kind)))
  | "refaddr", .reference address => pure (some (.count (addressNumber address)))
  | "blessed", _ | "reftype", _ | "refaddr", _ => pure (some .nothing)
  | "looks_like_number", .plain value =>
      pure (some (.answer (match value with
        | .nothing => false
        | .number _ | .both _ _ => true
        | .text text => looksNumeric text)))
  | "looks_like_number", _ => pure (some (.answer false))
  | "weaken", _ => pure (some .nothing)
  | "readonly", _ => pure (some (.answer false))
  | "dualvar", _ => do
      let number ← numberOfValue first
      pure (some (.plain (.both (← textOf (values[1]?.getD .nothing)) number)))
  | "openhandle", _ => do
      match ← handleOf first with
      | some address => do
          pure (some (if (← handleAt address).descriptor.isSome then first else .nothing))
      | none => pure (some .nothing)
  | _, _ => pure none

/-! ## Numbers, processes and times -/

/-- The whole number below a number, above it, or nearest to it. -/
def rounded? (name : String) (value : Rat) : Option Rat :=
  match name with
  | "floor" => some value.floor
  | "ceil" => some value.ceil
  | "trunc" => some (Datum.truncated value)
  | "round" | "lround" => some (if value < 0 then -(-value + 1 / 2).floor else (value + 1 / 2).floor)
  | _ => none

/-- The result of a function of numbers, processes and times, if it is one. -/
def systemTool? (name : String) (values : List Held) : Actor (Option (List Held)) := do
  let first := values.headD .nothing
  let second := values.tail.headD .nothing
  let one (value : Held) : Actor (Option (List Held)) := pure (some [value])
  let isEach (test : Char → Bool) : Actor (Option (List Held)) := do
    let text ← textOf first
    one (.answer (!text.isEmpty && text.toList.all test))
  let parts : Actor (List Int) := values.mapM wholeOf
  match rounded? name (← numberOfValue first) with
  | some value => one (.number value)
  | none => match name with
    | "fmod" => do
        let a ← numberOfValue first
        let b ← numberOfValue second
        if b = 0 then one (.number 0)
        else one (.number (a - b * Datum.truncated (a / b)))
    | "pow" => do one (powerOf (← numberOfValue first) (← numberOfValue second))
    | "fmax" => do
        let a ← numberOfValue first
        let b ← numberOfValue second
        one (.number (if a ≤ b then b else a))
    | "fmin" => do
        let a ← numberOfValue first
        let b ← numberOfValue second
        one (.number (if a ≤ b then a else b))
    | "log10" | "log2" => do
        let base : Rat := if name = "log2" then 2 else 10
        let value ← numberOfValue first
        one (.number (if value ≤ 0 then -Datum.unbounded
          else Datum.limited (Elementary.logarithm value / Elementary.logarithm base)))
    | "tan" => do
        let value ← numberOfValue first
        one (.number (Datum.limited (Elementary.sine value / Elementary.cosine value)))
    | "strftime" => do
        let numbers ← values.tail.mapM wholeOf
        one (.text (Text.Calendar.format (momentOfParts numbers) (← textOf first)))
    | "mktime" | "timelocal" | "timegm" => do
        let numbers ← parts
        let year := numbers[5]?.getD 0
        let numbers := if name != "mktime" && 1000 ≤ year then numbers.set 5 (year - 1900)
          else numbers
        one (.number (momentOfParts numbers).seconds)
    | "ctime" => do
        let moment := Text.Calendar.Moment.ofSeconds (← wholeOf first) 0
        one (.text (Text.Calendar.format moment "%a %b %e %H:%M:%S %Y" ++ "\n"))
    | "_exit" => do
        let status ← wholeOf first
        act (throw (.exits (status % 256).toNat))
    | "abort" => act (throw (.killed 6))
    | "getpid" => do one (.count (← act process).number)
    | "setsid" => do one (.count (← act process).number)
    | "nice" => one (.text "0 but true")
    | "isatty" => one (.answer false)
    | "ttyname" | "ctermid" => one .nothing
    | "setlocale" => one (.text "C")
    | "errno" => do one (.count (← get).fault)
    | "strerror" => do one (.text (Fault.description (← wholeOf first)))
    | "toupper" => do one (.text (String.ofList ((← textOf first).toList.map Char.toUpper)))
    | "tolower" => do one (.text (String.ofList ((← textOf first).toList.map Char.toLower)))
    | "isdigit" => isEach Char.isDigit
    | "isalpha" => isEach Char.isAlpha
    | "isspace" => isEach Char.isWhitespace
    | "strtol" => do
        let base ← if values.length < 2 then pure 10 else wholeOf second
        let base := base.toNat
        let letters := (← textOf first).toList.dropWhile Char.isWhitespace
        let (isNegative, letters) := match letters with
          | '-' :: rest => (true, rest)
          | '+' :: rest => (false, rest)
          | letters => (false, letters)
        let digits := leadingDigits base letters
        let value := Int.ofNat (numberOf base digits)
        pure (some [.number (if isNegative then -value else value),
          .count (letters.length - digits.length)])
    | "strtod" => do one (.number (textNumber (← textOf first)))
    | "strstr" => do
        let text := (← textOf first).toList
        one (.number (placeOf (← textOf second).toList 0 text))
    | "WIFEXITED" => do one (.answer ((← wholeOf first) % 128 = 0))
    | "WEXITSTATUS" => do one (.number (Int.fdiv (← wholeOf first) 256 % 256 : Int))
    | "WIFSIGNALED" => do one (.answer ((← wholeOf first) % 128 != 0))
    | "WTERMSIG" => do one (.number ((← wholeOf first) % 128 : Int))
    | "S_ISREG" => do one (.answer ((← wholeOf first).toNat &&& 0xF000 = 0x8000))
    | "S_ISDIR" => do one (.answer ((← wholeOf first).toNat &&& 0xF000 = 0x4000))
    | "access" => do
        let found ← act (find? true (← textOf first))
        let wanted := (← wholeOf second).toNat
        match found with
        | none => some <$> (List.singleton <$> failed .missing)
        | some found =>
            if wanted % 2 = 1 && !found.isDirectory && !found.isRunnable then
              some <$> (List.singleton <$> failed .denied)
            else one (.text "0 but true")
    | "mkfifo" => do
        let mode := String.ofList (Nat.toDigits 8 (← wholeOf second).toNat)
        let isThere := (← act (find? false (← textOf first))).isSome
        if isThere then some <$> (List.singleton <$> failed .present)
        else do
          let status ← act (makeQueue (some mode) (← textOf first))
          one (if status = 0 then .text "0 but true" else .nothing)
    | "dup2" => do
        match ← act (openFile? (← wholeOf first).toNat) with
        | some (number, _) => do
            flushAll
            act (setDescriptor (← wholeOf second).toNat (some number))
            one second
        | none => some <$> (List.singleton <$> failedWith 9)
    | "uname" => pure (some (["Linux", "localhost", "", "", "x86_64"].map Held.text))
    | "hostname" => one (.text "localhost")
    | "raise" => do
        let number := (← act process).number
        let _ ← sendSignal number (← wholeOf first).toNat
        one (.number 1)
    | _ => pure none

/-- The result of a function of exact times, if it is one. -/
def timeTool? (inner : Actors) (name : String) (values : List Held) :
    Actor (Option (List Held)) := do
  let first := values.headD .nothing
  let duration (unit : Rat) : Actor Nat := do
    pure (Datum.truncated ((← numberOfValue first) * 1000000 * unit)).toNat
  let wait (unit : Rat) : Actor (Option (List Held)) := do
    let passed ← waitFor inner (← duration unit)
    pure (some [.number (Datum.limited (((passed : Nat) : Rat) / 1000000 / unit))])
  match name with
  | "sleep" => wait 1
  | "usleep" => wait (1 / 1000000)
  | "nanosleep" => wait (1 / 1000000000)
  | "time" | "clock_gettime" => do
      let now ← act now
      pure (some [.number (Datum.limited ((now : Rat) / 1000000))])
  | "gettimeofday" => do
      let now ← act now
      pure (some [.number (Int.fdiv now 1000000), .number (now % 1000000 : Int)])
  | "alarm" => do
      let left ← setAlarm (← duration 1)
      pure (some [.number (Datum.limited (((left : Nat) : Rat) / 1000000))])
  | "ualarm" => do
      let left ← setAlarm (← duration (1 / 1000000))
      pure (some [.count left])
  | "tv_interval" => do
      let parts (value : Held) : Actor Rat := do
        match value with
        | .reference address => do
            let numbers ← (← listValues address).mapM numberOfValue
            pure ((numbers[0]?.getD 0) + (numbers[1]?.getD 0) / 1000000)
        | .plain _ => do pure (((← act now) : Rat) / 1000000)
      let start ← parts first
      let finish ← parts (values.tail.headD .nothing)
      pure (some [.number (Datum.limited (finish - start))])
  | "stat" => listValues? "stat" (some true) values
  | _ => pure none

/-! ## Paths -/

/-- A path without needless parts. -/
def plainPath (path : String) : String :=
  let isRooted := path.toList.head? = some '/'
  let parts := (path.splitOn "/").filter fun part => part != "" && part != "."
  let joined := String.intercalate "/" parts
  if isRooted then "/" ++ joined else if joined.isEmpty && !path.isEmpty then "." else joined

/-- A text without one of some endings, and that ending. -/
def withoutEnding (endings : List String) (name : String) : String × String :=
  match endings.find? fun ending =>
      ending.toList.isSuffixOf name.toList && ending.length < name.length with
  | some ending => (String.ofList (name.toList.take (name.length - ending.length)), ending)
  | none => (name, "")

/-- A path up to its last name, and that name. -/
def splitPath (path : String) : String × String :=
  let reversed := path.toList.reverse
  let name := (reversed.takeWhile (· != '/')).reverse
  let before := (reversed.dropWhile (· != '/')).reverse
  (String.ofList before, String.ofList name)

/-- The name of the module that a full name begins with, and the name in it. -/
def toolParts (full : String) : String × String :=
  let letters := full.toList.reverse
  let name := letters.takeWhile (· != ':')
  (String.ofList ((letters.drop (name.length + 2)).reverse), String.ofList name.reverse)

/-- A name that is drawn by lot. -/
def drawnName : Actor String := do
  let letters ← (List.range 10).mapM fun _ => do
    let index := Datum.truncated ((← drawNumber) * 62)
    pure (lettersAndDigits[index.toNat]?.getD 'x')
  pure (String.ofList letters)

/-- Removes all that is at a path and below it, and gives the number of removed places. -/
def removeAll (path : String) : Actor Nat := do
  match ← act (find? false path) with
  | none => pure 0
  | some found => do
      act (removeBelow false 64 path found.location)
      pure 1

/-- Makes a directory and those above it, and gives the number of those that are new. -/
def makeAll (path : String) : Actor Nat := do
  let made ← (pathsDown path).mapM fun path => do
    if (← act (find? true path)).isSome then pure 0
    else do
      match ← act (makeDirectory path 0x1FF) with
      | none => pure 1
      | some fault => do
          let _ ← failed fault
          pure 0
  pure (made.foldl (· + ·) 0)

/-- The result of a function of paths, if it is one. -/
def pathTool? (name : String) (values : List Held) : Actor (Option (List Held)) := do
  let plain := values.filter fun value => match value with
    | .plain _ => true
    | .reference _ => false
  let texts ← plain.mapM textOf
  let first := texts.headD ""
  let one (text : String) : Actor (Option (List Held)) := pure (some [.text text])
  match name with
  | "basename" =>
      let trimmed := String.ofList (first.toList.reverse.dropWhile (· == '/')).reverse
      let name := if trimmed.isEmpty && !first.isEmpty then "/" else (splitPath trimmed).2
      one (withoutEnding texts.tail name).1
  | "dirname" => one (directoryPart first)
  | "fileparse" => do
      let (before, name) := splitPath first
      let before := if before.isEmpty then "./" else before
      let patterns := (← (values.tail).mapM textOf).filterMap fun text =>
        Pattern.ofText? ("(?:" ++ text ++ ")\\z") "s"
      let cuts := patterns.filterMap fun pattern => (pattern.find name.toList 0).map fun finding =>
        (finding.before, (finding.group? 0).getD "")
      let (name, ending) := cuts.headD (name, "")
      pure (some [.text name, .text before, .text ending])
  | "catfile" | "catdir" => one (plainPath (String.intercalate "/" texts))
  | "curdir" => one "."
  | "rootdir" => one "/"
  | "updir" => one ".."
  | "tmpdir" => one "/tmp"
  | "file_name_is_absolute" => pure (some [.answer (first.toList.head? = some '/')])
  | "splitdir" => pure (some ((first.splitOn "/").map Held.text))
  | "splitpath" =>
      let (before, name) := splitPath first
      pure (some [.text "", .text before, .text name])
  | "canonpath" => one (plainPath first)
  | "rel2abs" => do
      let working := Text.Octets.encode (Files.pathOf (← act process).working)
      one (if first.toList.head? = some '/' then plainPath first
        else plainPath (working ++ "/" ++ first))
  | "getcwd" | "cwd" => do
      one (Text.Octets.encode (Files.pathOf (← act process).working))
  | "abs_path" | "realpath" => do
      let path := if first.isEmpty then "." else first
      match ← act (realLocation .directories path) with
      | .ok location => one (Text.Octets.encode (Files.pathOf location))
      | .error fault => do
          let _ ← failed fault
          pure (some [.nothing])
  | "copy" | "cp" | "move" | "mv" => do
      let isThere := (← act (find? true first)).isSome
      if !isThere then some <$> (List.singleton <$> failed .missing)
      else do
        flushAll
        let target := texts.tail.headD ""
        let run := if name = "copy" || name = "cp" then runCp else runMv
        let status ← act (run ["-f", "--", first, target])
        pure (some [.number (if status = 0 then 1 else 0)])
  | "mkpath" | "make_path" => do
      pure (some [.count ((← texts.mapM makeAll).foldl (· + ·) 0)])
  | "rmtree" | "remove_tree" => do
      pure (some [.count ((← texts.mapM removeAll).foldl (· + ·) 0)])
  | "tempdir" => do
      let path := "/tmp/" ++ (← drawnName)
      let _ ← act (makeDirectory path 0x1C0)
      one path
  | "tempfile" => do
      let path := "/tmp/" ++ (← drawnName)
      let address ← addHandle { }
      let _ ← openFile address "+>" path
      pure (some [.reference address, .text path])
  | "compare" => do
      let read (path : String) : Actor (Option (List UInt8)) := do
        pure (match ← act (readPath path) with
          | .ok octets => some octets
          | .error _ => none)
      let one ← read first
      let other ← read (texts.tail.headD "")
      pure (some [.number (if one.isNone || other.isNone then -1 else if one = other then 0 else 1)])
  | _ => pure none

/-! ## Codes -/

/-- The result of a function of codes and digests, if it is one. -/
def codeTool? (name : String) (values : List Held) : Actor (Option Held) := do
  let texts ← values.mapM textOf
  let octets (text : String) : List UInt8 := text.toList.map fun letter => letter.toNat.toUInt8
  let joined := octets (String.join texts)
  let digest (sum : List UInt8 → List UInt8) : Actor (Option Held) :=
    pure (some (.text (Text.Digest.hexadecimal (sum joined))))
  match name with
  | "md5_hex" => digest Text.Digest.md5
  | "sha1_hex" => digest Text.Digest.sha1
  | "sha224_hex" => digest Text.Digest.sha224
  | "sha256_hex" => digest Text.Digest.sha256
  | "sha384_hex" => digest Text.Digest.sha384
  | "sha512_hex" => digest Text.Digest.sha512
  | "encode_base64" =>
      let text := ((Code.ofName? "base64").map fun code => code.encode (octets (texts.headD ""))).getD ""
      let ending := texts.tail.headD "\n"
      let lines := groupsOfText 76 (text.length + 1) text.toList
      pure (some (.text (String.join (lines.map fun line => line ++ ending))))
  | "decode_base64" =>
      let letters := (texts.headD "").toList.filter fun letter =>
        letter.isAlphanum || letter = '+' || letter = '/' || letter = '='
      let decoded := ((Code.ofName? "base64").map fun code =>
        (code.decode (letters.length + 1) letters).1).getD []
      pure (some (.text (Text.Octets.ofList decoded)))
  | "encode" | "decode" => pure (some (.text (texts.tail.headD "")))
  | "encode_utf8" | "decode_utf8" => pure (some (.text (texts.headD "")))
  | "is_utf8" => pure (some (.answer false))
  | _ => pure none
where
  /-- A text in groups of a size. The bound is on their number. -/
  groupsOfText (size : Nat) : Nat → List Char → List String
    | 0, _ => []
    | bound + 1, letters =>
        if letters.isEmpty then []
        else String.ofList (letters.take size) :: groupsOfText size bound (letters.drop size)

/-! ## All of them -/

/-- The value of a constant of the library. -/
def constant? (name : String) : Option Held :=
  let known := (faultNames ++ fileNumbers ++ processNumbers).lookup name
  match known, rangeNumbers.lookup name with
  | some number, _ => some (.count number)
  | none, some number => some (.number number)
  | none, none =>
      match name with
      | "DBL_MAX" => some (.number Datum.greatest)
      | "DBL_MIN" => some (.number (1 / (Nat.pow 2 1022 : Nat)))
      | "DBL_EPSILON" => some (.number (1 / (Nat.pow 2 52 : Nat)))
      | "CLOCK_MONOTONIC" => some (.number 1)
      | "CLOCK_REALTIME" => some (.number 0)
      | "pi" => some (.number (Datum.limited (Elementary.toRat Elementary.halfTurn)))
      | _ => none

/-- A value with copies of all that it leads to. The bound is on how deep that is. -/
def deepCopy : Nat → Held → Actor Held
  | 0, value => pure value
  | bound + 1, value => do
      match value with
      | .plain _ => pure value
      | .reference address => do
          let package ← packageOf? address
          let copy ← match ← cellAt address with
            | .array elements => do
                let cells ← elements.toList.mapM fun cell => do
                  addValue (← deepCopy bound (← readCell cell))
                addCell (.array cells.toArray)
            | .table members _ => do
                let members ← members.mapM fun (key, cell) => do
                  pure (key, ← addValue (← deepCopy bound (← readCell cell)))
                addCell (.table members 0)
            | .scalar inner => do addValue (← deepCopy bound inner)
            | _ => pure address
          package.forM fun package =>
            modify fun state => { state with blessed := (copy, package) :: state.blessed }
          pure (.reference copy)

/-- The text of a value in which all is written that it leads to. It is given how far lines are
moved to the right. The bound is on how deep that is. -/
def dumped : Nat → Nat → Held → Actor String
  | 0, _, _ => pure "undef"
  | bound + 1, margin, value => do
      let blanks (count : Nat) : String := String.ofList (List.replicate count ' ')
      let quoted (text : String) : String :=
        "'" ++ String.join (text.toList.map fun letter =>
          if letter = '\'' || letter = '\\' then "\\" ++ String.singleton letter
          else String.singleton letter) ++ "'"
      let isWhole (text : String) : Bool :=
        let digits := if text.toList.head? = some '-' then text.toList.tail else text.toList
        !digits.isEmpty && digits.length < 10 && digits.all Char.isDigit &&
          (digits.head? != some '0' || text = "0")
      match value with
      | .plain .nothing => pure "undef"
      | .plain value =>
          let text := datumText value
          pure (match value with
            | .text _ => quoted text
            | _ => if isWhole text then text else quoted text)
      | .reference address => do
          let package ← packageOf? address
          let inside := margin + (if package.isSome then 7 else 0)
          let within (opening closing : String) (lines : List String) : String :=
            if lines.isEmpty then opening ++ closing
            else opening ++ "\n" ++ String.intercalate ",\n" (lines.map fun line =>
              blanks (inside + 2) ++ line) ++ "\n" ++ blanks inside ++ closing
          let text ← match ← cellAt address with
            | .array elements => do
                let lines ← elements.toList.mapM fun cell => do
                  dumped bound (inside + 2) (← readCell cell)
                pure (within "[" "]" lines)
            | .table members _ => do
                let sorts := isTrue (← sharedSetting "Data::Dumper::Sortkeys")
                let members := if sorts then members.mergeSort fun one other => one.1 ≤ other.1
                  else members
                let lines ← members.mapM fun (key, cell) => do
                  let front := quoted key ++ " => "
                  pure (front ++ (← dumped bound (inside + 2 + front.length) (← readCell cell)))
                pure (within "\x7b" "\x7d" lines)
            | .scalar inner => do pure ("\\" ++ (← dumped bound (inside + 2) inner))
            | .function _ _ _ | .tool _ => pure "sub \x7b \"DUMMY\" \x7d"
            | .expression text flags => pure ("qr/" ++ text ++ "/" ++ flags)
            | .handle _ => pure "\\*\x7b'::$fh'\x7d"
          pure (match package with
            | some package => "bless( " ++ text ++ ", " ++ quoted package ++ " )"
            | none => text)
where
  /-- The value of a name with a package. -/
  sharedSetting (name : String) : Actor Held := do
    match (← get).shared.lookup (sharedKey .scalar name) with
    | some address => readCell address
    | none => pure .nothing

/-- Gives up, or only warns, with a message that tells from where the function has been called. -/
def complainFrom (inner : Actors) (name : String) (values : List Held) : Actor (List Held) := do
  let text := String.join (← values.mapM textOf)
  let state ← get
  let line := match name, state.calls with
    | "confess", _ | "cluck", _ => state.line
    | _, call :: _ => call.line
    | _, [] => state.line
  let place := if text.toList.getLast? = some '\n' then ""
    else " at " ++ state.name ++ " line " ++ toString line ++ ".\n"
  if name = "croak" || name = "confess" then dieOf inner [.text (text ++ place)]
  else List.singleton <$> warnOf inner [.text (text ++ place)]

/-- The result of a function of the library. -/
def toolValues (inner : Actors) (full : String) (wanted : Option Bool) (values : List Held) :
    Actor (List Held) := do
  let (owner, name) := toolParts full
  let single (value : Option Held) : Option (List Held) := value.map List.singleton
  let result ← match owner with
    | "List::Util" => listTool? wanted name values
    | "Scalar::Util" => do pure (single (← scalarTool? name values))
    | "Time::HiRes" => timeTool? inner name values
    | "File::Basename" | "File::Spec::Functions" | "File::Spec" | "File::Copy" | "File::Path"
    | "File::Temp" | "Cwd" | "File::Compare" => pathTool? name values
    | "MIME::Base64" | "Digest::MD5" | "Digest::SHA" | "Encode" => do
        pure (single (← codeTool? name values))
    | "Data::Dumper" => do
        let texts ← values.zipIdx.mapM fun (value, index) => do
          pure ("$VAR" ++ toString (index + 1) ++ " = " ++ (← dumped 64 8 value) ++ ";\n")
        pure (some [.text (String.join texts)])
    | "Storable" =>
        if name = "dclone" then do
          pure (some [← deepCopy 64 (values.headD .nothing)])
        else pure none
    | "Carp" => some <$> complainFrom inner name values
    | "Getopt::Long" | "Getopt::Std" => pure (some [.number 1])
    | "POSIX" => do
        match ← pathTool? name values with
        | some values => pure (some values)
        | none => systemTool? name values
    | _ => systemTool? name values
  match result, constant? name with
  | some values, _ => pure values
  | none, some value => pure [value]
  | none, none => do
      match ← functionValues? name wanted values with
      | some values => pure values
      | none => die ("Undefined subroutine &" ++ full ++ " called")

end StaticMulticast.Host.Utility.Statement
