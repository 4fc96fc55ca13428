import StaticMulticast.Host.Account
import StaticMulticast.Host.Shell.Field
import StaticMulticast.Host.Utility.File
import StaticMulticast.Host.Utility.Input
import StaticMulticast.Host.Utility.Listing

/-!
# Programs about the machine

They tell how great things can be, what stands on which disk and how the terminal is used, or take
care of room on disks. Others tell who runs them, who is known, and on what system.
-/

namespace StaticMulticast.Host.Utility

open Action

/-! ## Sizes -/

/-- The sizes that can be asked for by name. -/
def sizes : List (String × String) :=
  [("PAGESIZE", "4096"), ("PAGE_SIZE", "4096"), ("ARG_MAX", "2097152"), ("LONG_BIT", "64"),
    ("WORD_BIT", "32"), ("CHAR_BIT", "8"), ("INT_MAX", "2147483647"), ("INT_MIN", "-2147483648"),
    ("UINT_MAX", "4294967295"), ("LONG_MAX", "9223372036854775807"), ("SHRT_MAX", "32767"),
    ("UCHAR_MAX", "255"), ("CHAR_MAX", "127"), ("SSIZE_MAX", "32767"), ("CLK_TCK", "100"),
    ("OPEN_MAX", "20000"), ("IOV_MAX", "1024"), ("LINE_MAX", "2048"), ("HOST_NAME_MAX", "64"),
    ("LOGIN_NAME_MAX", "256"), ("NGROUPS_MAX", "65536"), ("PATH", "/bin:/usr/bin"),
    ("_NPROCESSORS_ONLN", "4"), ("_NPROCESSORS_CONF", "4"), ("_POSIX_VERSION", "200809"),
    ("_POSIX2_VERSION", "200809"), ("GNU_LIBC_VERSION", "glibc 2.39"), ("BC_BASE_MAX", "99"),
    ("RE_DUP_MAX", "32767"), ("STREAM_MAX", "16"), ("TZNAME_MAX", "6"), ("CHILD_MAX", "128663")]

/-- The sizes that depend on a path. -/
def pathSizes : List (String × String) :=
  [("NAME_MAX", "255"), ("PATH_MAX", "4096"), ("PIPE_BUF", "4096"), ("LINK_MAX", "127"),
    ("MAX_CANON", "255"), ("MAX_INPUT", "255"), ("FILESIZEBITS", "64"), ("SYMLINK_MAX", "undefined")]

/-- Writes a size. -/
def runGetconf (arguments : List String) : Action Nat := do
  let isWide := arguments.head? = some "-a"
  let names := if arguments.head? = some "-v" then arguments.drop 2 else arguments
  let useFault : Action Nat := do
    let _ ← write 2 "Usage: getconf [-v specification] variable_name [pathname]\n"
    pure 2
  if isWide then
    answer (joinLines ((sizes ++ pathSizes).map fun (name, value) => name ++ " " ++ value))
  else match names with
    | [name] =>
        match sizes.lookup name with
        | some value => answer (value ++ "\n")
        | none =>
            if (pathSizes.lookup name).isSome then useFault
            else refuse 2 ("Unrecognized variable " ++ quoted name)
    | [name, path] => do
        match pathSizes.lookup name with
        | some value => do
            if (← find? true path).isNone then
              refuse 1 (path ++ ": " ++ Fault.missing.reason)
            else answer (value ++ "\n")
        | none => refuse 2 ("Unrecognized variable " ++ quoted name)
    | _ => useFault
where
  /-- The name between the quotes that the messages have. -/
  quoted (name : String) : String :=
    String.singleton (Char.ofNat 0x60) ++ name ++ "'"

/-! ## Disks -/

/-- The places at which disks stand. -/
def mountPlaces : List Location :=
  [[], ["proc"], ["sys"], ["dev"]]

/-- Tells whether a disk stands at a path. -/
def runMountpoint (arguments : List String) : Action Nat := do
  let options : List Known :=
    [⟨'q', "quiet", .nothing⟩, ⟨'d', "fs-devno", .nothing⟩, ⟨'x', "devno", .nothing⟩,
      ⟨Char.ofNat 1, "nofollow", .nothing⟩]
  match readOptions options arguments with
  | none => refuseUse 1 (optionFault options arguments)
  | some given =>
      match given.operands with
      | [path] => do
          match ← find? true path with
          | none => do
              if !given.has 'q' then complain (path ++ ": " ++ Fault.missing.reason)
              pure 1
          | some found =>
              if mountPlaces.contains found.location then
                if given.has 'q' then pure 0
                else if given.has 'd' then answer "254:0\n"
                else answer (path ++ " is a mountpoint\n")
              else if given.has 'q' then pure 32
              else do
                let _ ← answer (path ++ " is not a mountpoint\n")
                pure 32
      | _ => refuseUse 1 "bad usage"

/-- Tells how full the disk is on which paths stand. -/
def runDf (arguments : List String) : Action Nat := do
  let known := knownLetters "ahHiklPTv" "Btx" ++
    [⟨Char.ofNat 1, "total", .nothing⟩, ⟨Char.ofNat 1, "sync", .nothing⟩,
      ⟨'o', "output", .attached⟩, ⟨'P', "portability", .nothing⟩, ⟨'h', "human-readable", .nothing⟩]
  withOptions 1 known arguments fun given => do
    let status ← forEach given.operands fun path => do
      if (← find? true path).isSome then pure 0
      else refuse 1 (path ++ ": " ++ Fault.missing.reason)
    if status != 0 && given.operands.length = 1 then pure status
    else do
      let (head, line) := match given.text? 'o' with
        | some "target" => ("Mounted on", "/")
        | some "pcent" => ("Use%", " 20%")
        | some "source" => ("Filesystem", "/dev/vda")
        | _ =>
            if given.has 'P' then
              ("Filesystem     1024-blocks     Used Available Capacity Mounted on",
                "/dev/vda         264212084 20390040  82216160      20% /")
            else ("Filesystem     1K-blocks     Used Available Use% Mounted on",
                "/dev/vda       264212084 20390040  82216160  20% /")
      let found := (given.operands.filterM fun path => do pure (← find? true path).isSome)
      let count := max 1 (← found).length
      let written ← answer (joinLines (head :: List.replicate count line))
      pure (max status written)

/-- Waits until files are on the disk. -/
def runSync (arguments : List String) : Action Nat := do
  let known := [⟨'d', "data", .nothing⟩, ⟨'f', "file-system", .nothing⟩]
  withOptions 1 known arguments fun given =>
    forEach given.operands fun path => do
      if (← find? true path).isSome then pure 0
      else refuse 1 ("error opening " ++ inQuotes path ++ ": " ++ Fault.missing.reason)

/-- Takes room on the disk for a file. -/
def runFallocate (arguments : List String) : Action Nat := do
  let known : List Known := [⟨'l', "length", .text⟩, ⟨'o', "offset", .text⟩,
    ⟨'n', "keep-size", .nothing⟩, ⟨'v', "verbose", .nothing⟩, ⟨'x', "posix", .nothing⟩,
    ⟨'z', "zero-range", .nothing⟩, ⟨'p', "punch-hole", .nothing⟩, ⟨'d', "dig-holes", .nothing⟩,
    ⟨'c', "collapse-range", .nothing⟩, ⟨'i', "insert-range", .nothing⟩]
  withOptions 1 known arguments fun given => do
    let changes := !given.has 'n' && !given.has 'p' && !given.has 'd'
    match given.operands, given.text? 'l' with
    | [], _ => refuse 1 "no filename specified"
    | _ :: _ :: _, _ => refuse 1 "unexpected number of arguments"
    | [_], none => if given.has 'd' then pure 0 else refuse 1 "no length argument specified"
    | [path], some text =>
        match (amount? text).filter (0 < ·), (given.text? 'o').map amount? with
        | none, _ => refuse 1 "invalid length value specified"
        | _, some none => refuse 1 "invalid offset value specified"
        | some length, start => do
            let present := (← find? true path).isSome
            if !changes && !present then
              refuse 1 ("cannot open " ++ path ++ ": " ++ Fault.missing.reason)
            else match ← openPath path .appending with
              | .error fault => refuse 1 ("cannot open " ++ path ++ ": " ++ fault.reason)
              | .ok number => do
                  let size := ((← find? true path).map Found.size).getD 0
                  let wanted := (start.bind id).getD 0 + length
                  if changes && size < wanted then
                    writeOpen number (Text.Octets.ofList (List.replicate (wanted - size) 0))
                  pure 0

/-- Overwrites files with octets that mean nothing. -/
def runShred (arguments : List String) : Action Nat := do
  let known : List Known := [⟨'f', "force", .nothing⟩, ⟨'n', "iterations", .text⟩,
    ⟨'s', "size", .text⟩, ⟨'u', "", .nothing⟩, ⟨'u', "remove", .attached⟩, ⟨'v', "verbose", .nothing⟩,
    ⟨'x', "exact", .nothing⟩, ⟨'z', "zero", .nothing⟩, ⟨'r', "random-source", .text⟩]
  withOptions 1 known arguments fun given => do
    if given.operands.isEmpty then refuseUse 1 "missing file operand"
    else forEach given.operands fun path => do
      match ← find? true path with
      | none =>
          refuse 1 (path ++ ": failed to open for writing: " ++ Fault.missing.reason)
      | some found =>
          if found.isDirectory then
            refuse 1 (path ++ ": failed to open for writing: " ++ Fault.directory.reason)
          else do
            let size := ((given.text? 's').bind amount?).getD found.size
            let block := 0x1000
            let length := if given.has 'x' || given.has 's' then size
              else (size + block - 1) / block * block
            let octets := if given.has 'z' then List.replicate length 0
              else lotOctets length 1 []
            let _ ← writePath path (Text.Octets.ofList octets)
            if given.has 'u' then
              modifyFiles fun files => files.prune found.location
            pure 0

/-! ## Paths -/

/-- The characters that every system allows in names. -/
def isPortable (letter : Char) : Bool :=
  letter.isAlphanum || "._-".toList.contains letter

/-- Tells whether paths can be used. -/
def runPathchk (arguments : List String) : Action Nat := do
  let known : List Known :=
    [⟨'p', "", .nothing⟩, ⟨'P', "", .nothing⟩, ⟨'a', "portability", .nothing⟩]
  withOptions 1 known arguments fun given => do
    let isNarrow := given.has 'p' || given.has 'a'
    let isCareful := given.has 'P' || given.has 'a'
    let checked (path : String) : Action Nat := do
      let names := (Files.parts path).filter fun name => !name.isEmpty
      let greatest := if isNarrow then 14 else 255
      let strange := path.toList.find? fun letter => !isPortable letter && letter != '/'
      if isCareful && names.any fun name => name.toList.head? = some '-' then
        refuse 1 ("leading '-' in a component of file name " ++ inQuotes path)
      else if path.isEmpty then
        refuse 1 (if isNarrow || isCareful then "empty file name"
          else "'': " ++ Fault.missing.reason)
      else match isNarrow, strange with
        | true, some letter =>
            refuse 1 ("non-portable character " ++ inQuotes (String.singleton letter) ++
              " in file name " ++ inQuotes path)
        | _, _ =>
            match names.find? fun name => greatest < name.length with
            | some name =>
                refuse 1 ("limit " ++ toString greatest ++ " exceeded by length " ++
                  toString name.length ++ " of file name component " ++ inQuotes name)
            | none => pure 0
    if given.operands.isEmpty then refuseUse 1 "missing operand"
    else forEach given.operands checked

/-- Writes the steps on the way of a path. -/
def runNamei (arguments : List String) : Action Nat := do
  withOptions 1 (knownLetters "xmolnv" "") arguments fun given => do
    if given.operands.isEmpty then refuseUse 1 "pathname argument is missing"
    else forEach given.operands fun path => do
      if (← find? false path).isSome then answer ("f: " ++ path ++ "\n")
      else do
        let _ ← answer ("f: " ++ path ++ "\n    " ++ path ++ " - " ++ Fault.missing.reason ++ "\n")
        pure 1

/-- Writes where programs stand. -/
def runWhereis (arguments : List String) : Action Nat := do
  withOptions 1 (knownLetters "bmsuglf" "BMS") arguments fun given => do
    if given.operands.isEmpty then refuseUse 1 "not enough arguments"
    else forEach given.operands fun name => do
      let path := "/usr/bin/" ++ name
      let isThere := (← find? true path).isSome && !name.isEmpty
      answer (name ++ ":" ++ (if isThere then " " ++ path else "") ++ "\n")

/-! ## Terminals -/

/-- What terminals can do, with what is written for it. -/
def abilities : List (String × String) :=
  [("cols", "80\n"), ("lines", "24\n"), ("colors", "8\n"), ("bold", "\x1b[1m"),
    ("sgr0", "\x1b(B\x1b[m"), ("clear", "\x1b[H\x1b[2J\x1b[3J"), ("smul", "\x1b[4m"),
    ("rmul", "\x1b[24m"), ("rev", "\x1b[7m"), ("el", "\x1b[K"), ("civis", "\x1b[?25l"),
    ("cnorm", "\x1b[?12l\x1b[?25h"), ("home", "\x1b[H"), ("longname", "xterm"), ("init", ""),
    ("reset", "")]

/-- Writes what a terminal needs for something. -/
def runTput (arguments : List String) : Action Nat := do
  let known := knownLetters "SVvx" "T"
  match readLeading known arguments with
  | none => refuseUse 2 (optionFault known arguments)
  | some given => do
      let terminal ← match given.text? 'T' with
        | some name => pure (some name)
        | none => parameter? "TERM"
      match terminal, given.operands with
      | none, _ => refuse 2 "No value for $TERM and no -T specified"
      | some _, [] => refuse 2 "Usage: tput [options] [command]"
      | some _, [name] =>
          match abilities.lookup name with
          | some text => answer text
          | none => refuse 4 ("unknown terminfo capability " ++ inQuotes name)
      | some _, name :: number :: _ =>
          match name with
          | "setaf" => answer ("\x1b[3" ++ number ++ "m")
          | "setab" => answer ("\x1b[4" ++ number ++ "m")
          | "cup" => answer "\x1b[1;1H"
          | _ => refuse 4 ("unknown terminfo capability " ++ inQuotes name)

/-! ## Users -/

/-- A number with its name in parentheses. -/
def withName (label : String) (number : Nat) (name : String) : String :=
  label ++ toString number ++ "(" ++ name ++ ")"

/-- Writes who runs the program, or who somebody is. -/
def runId (arguments : List String) : Action Nat := do
  let known : List Known := [⟨'u', "user", .nothing⟩, ⟨'g', "group", .nothing⟩,
    ⟨'G', "groups", .nothing⟩, ⟨'n', "name", .nothing⟩, ⟨'r', "real", .nothing⟩,
    ⟨'z', "zero", .nothing⟩, ⟨'a', "", .nothing⟩, ⟨'Z', "context", .nothing⟩]
  withOptions 1 known arguments fun given => do
    let names := if given.operands.isEmpty then ["root"] else given.operands
    let kinds := ['u', 'g', 'G'].filter given.has
    if 1 < kinds.length then refuse 1 "cannot print \"only\" of more than one choice"
    else if kinds.isEmpty && (given.has 'n' || given.has 'r') then
      refuse 1 "cannot print only names or real IDs in default format"
    else forEach names fun name => do
      let account := (Account.named? name).orElse fun _ =>
        Account.all.find? fun account => name.toNat? = some account.number
      match account with
      | none => refuse 1 (inQuotes name ++ ": no such user")
      | some account =>
          let user := if given.has 'n' then account.name else toString account.number
          let group := if given.has 'n' then groupName account.group else toString account.group
          let ending := if given.has 'z' then String.singleton (Char.ofNat 0) else "\n"
          match kinds with
          | 'u' :: _ => answer (user ++ ending)
          | _ :: _ => answer (group ++ ending)
          | [] =>
              let shown := withName "gid=" account.group (groupName account.group)
              answer (withName "uid=" account.number account.name ++ " " ++ shown ++ " " ++
                withName "groups=" account.group (groupName account.group) ++ "\n")

/-- Writes the name of the user who runs the program. -/
def runWhoami (arguments : List String) : Action Nat :=
  match arguments with
  | [] => answer "root\n"
  | extra :: _ => refuseUse 1 ("extra operand " ++ inQuotes extra)

/-- Writes the groups of users. -/
def runGroups (arguments : List String) : Action Nat :=
  if arguments.isEmpty then answer "root\n"
  else forEach arguments fun name =>
    match Account.named? name with
    | some account => answer (name ++ " : " ++ groupName account.group ++ "\n")
    | none => refuse 1 (inQuotes name ++ ": no such user")

/-- Writes lines of a list of users or groups. -/
def runGetent (arguments : List String) : Action Nat :=
  let rows : Option (List (String × Nat × String)) := match arguments.head? with
    | some "passwd" => some (Account.all.map fun account =>
        (account.name, account.number, account.line))
    | some "group" => some (groupNumbers.map fun group =>
        (group.1, group.2, groupLine group))
    | _ => none
  match rows, arguments.tail with
  | none, _ => do
      if arguments.isEmpty then refuse 1 "wrong number of arguments"
      else pure (if ["hosts", "services", "protocols", "networks", "ahosts"].contains
        (arguments.headD "") then 2 else 1)
  | some rows, [] => answer (joinLines (rows.map fun (_, _, line) => line))
  | some rows, names => forEach names fun name =>
      match rows.find? fun row => row.1 = name || name.toNat? = some row.2.1 with
      | some (_, _, line) => answer (line ++ "\n")
      | none => pure 2

/-! ## The system -/

/-- The options of `uname` with what they stand for, in the order in which it is written. -/
def systemParts : List (Char × String × String) :=
  [('s', "kernel-name", "Linux"), ('n', "nodename", "localhost"),
    ('r', "kernel-release", "6.1.0"), ('v', "kernel-version", "#1 SMP PREEMPT_DYNAMIC"),
    ('m', "machine", "x86_64"), ('p', "processor", "unknown"),
    ('i', "hardware-platform", "unknown"), ('o', "operating-system", "GNU/Linux")]

/-- Writes the name of the system. -/
def runUname (arguments : List String) : Action Nat := do
  let known : List Known := ⟨'a', "all", .nothing⟩ ::
    systemParts.map fun (letter, name, _) => ⟨letter, name, .nothing⟩
  withOptions 1 known arguments fun given => do
    match given.operands with
    | extra :: _ => refuseUse 1 ("extra operand " ++ inQuotes extra)
    | [] =>
        let parts := systemParts.filter fun (letter, _, text) =>
          given.has letter || (given.has 'a' && text != "unknown")
        let parts := if parts.isEmpty then systemParts.take 1 else parts
        answer (String.intercalate " " (parts.map fun (_, _, text) => text) ++ "\n")

/-- Writes the number of processors. -/
def runNproc (arguments : List String) : Action Nat := do
  withOptions 1 [⟨'a', "all", .nothing⟩, ⟨'i', "ignore", .text⟩] arguments fun _ =>
    answer "1\n"

/-- Tells whether the input is a terminal, which it never is. -/
def runTty (arguments : List String) : Action Nat := do
  withOptions 2 [⟨'s', "silent", .nothing⟩, ⟨'s', "quiet", .nothing⟩] arguments fun given => do
    if !given.has 's' then
      let _ ← answer "not a tty\n"
    pure 1

/-! ## Room -/

/-- The options of `du`. -/
def roomOptions : List Known :=
  [⟨'a', "all", .nothing⟩, ⟨'b', "bytes", .nothing⟩, ⟨'c', "total", .nothing⟩,
    ⟨'d', "max-depth", .text⟩, ⟨'h', "human-readable", .nothing⟩, ⟨'k', "", .nothing⟩,
    ⟨'m', "", .nothing⟩, ⟨'s', "summarize", .nothing⟩, ⟨'S', "separate-dirs", .nothing⟩,
    ⟨'x', "one-file-system", .nothing⟩, ⟨'L', "dereference", .nothing⟩, ⟨'0', "null", .nothing⟩,
    ⟨'A', "apparent-size", .nothing⟩, ⟨'B', "block-size", .text⟩, ⟨'l', "count-links", .nothing⟩,
    ⟨'D', "", .nothing⟩, ⟨'H', "", .nothing⟩, ⟨'P', "", .nothing⟩, ⟨'e', "exclude", .text⟩]

/-- The octets that what is at a path takes, and the lines about it and what is below. The bound is
on the depth. -/
def roomBelow (given : Given) (line : Nat → String → String) :
    Nat → Nat → String → Found → Action (Nat × List String)
  | 0, _, _, _ => pure (0, [])
  | bound + 1, level, path, found => do
      let isApparent := given.has 'b' || given.has 'A'
      let own := if isApparent then found.size else 1024 * blockCount found
      let inner ← if !found.isDirectory then pure [] else do
        let names := ((← files).names found.location).map Text.Octets.encode
        (Shell.sortTexts names).mapM fun name => do
          match ← find? (given.has 'L') (joinPath path name) with
          | some inner => roomBelow given line bound (level + 1) (joinPath path name) inner
          | none => pure (0, [])
      let total := own + (inner.map fun row => row.1).foldl (· + ·) 0
      let most := if given.has 's' then some 0 else (given.text? 'd').bind String.toNat?
      let isShown := most.all (level ≤ ·) && (found.isDirectory || given.has 'a' || level = 0)
      pure (total, (inner.map fun row => row.2).flatten ++
        if isShown then [line total path] else [])

/-- Writes how much room files take. -/
def runDu (arguments : List String) : Action Nat :=
  withOptions 1 roomOptions arguments fun given => do
    let unit := if given.has 'b' then 1
      else if given.has 'm' then 0x100000
      else (((given.text? 'B').bind amount?).filter (0 < ·)).getD 1024
    let ending := if given.has '0' then String.singleton (Char.ofNat 0) else "\n"
    let size (octets : Nat) : String :=
      if given.has 'h' then unitSize 1024 octets else toString ((octets + unit - 1) / unit)
    let line (octets : Nat) (path : String) : String := size octets ++ "\t" ++ path ++ ending
    let paths := if given.operands.isEmpty then ["."] else given.operands
    let results ← paths.mapM fun path => do
      match ← find? (given.has 'L' || given.has 'D' || given.has 'H') path with
      | none => do
          complain ("cannot access " ++ inQuotes path ++ ": " ++ Fault.missing.reason)
          pure none
      | some found => do
          let (total, lines) ← roomBelow given line 64 0 path found
          let _ ← answer (String.join lines)
          pure (some total)
    let total := (results.map fun result => result.getD 0).foldl (· + ·) 0
    let status := if results.any Option.isNone then 1 else 0
    finish status (if given.has 'c' then line total "total" else "")

end StaticMulticast.Host.Utility
