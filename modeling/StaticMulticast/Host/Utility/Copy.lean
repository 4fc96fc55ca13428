import StaticMulticast.Host.Utility.Make
import StaticMulticast.Host.Utility.File

/-!
# Programs that move, copy and link files

Their last operand says where to: a new path, or a directory into which all others go.
-/

namespace StaticMulticast.Host.Utility

open Action

/-! ## Sources and targets -/

/-- Sources with their targets, or what is wrong with the operands. -/
def pairsOf (given : Given) : Action (Except String (List (String × String))) := do
  let into (directory : String) (sources : List String) : List (String × String) :=
    sources.map fun source => (source, joinPath directory (lastName source))
  match given.text? 't' with
  | some directory =>
      if given.operands.isEmpty then pure (.error "missing file operand")
      else if !(← leadsToDirectory directory) then
        pure (.error ("target directory " ++ inQuotes directory ++ ": " ++
          (if (← find? true directory).isSome then Fault.throughFile else .missing).reason))
      else pure (.ok (into directory given.operands))
  | none => do
      match given.operands.reverse with
      | target :: source :: more => do
          let sources := (source :: more).reverse
          let isLinkKept := given.has 'n' && given.has 's' &&
            (← find? false target).any Found.isLink
          let isDirectory ← leadsToDirectory target
          if !given.has 'T' && !isLinkKept && isDirectory then
            pure (.ok (into target sources))
          else if more.isEmpty then pure (.ok [(source, target)])
          else if given.has 'T' then pure (.error ("extra operand " ++ inQuotes target))
          else
            let fault : Fault := if (← find? true target).isSome then .throughFile else .missing
            pure (.error ("target " ++ inQuotes target ++ ": " ++ fault.reason))
      | [source] => pure (.error ("missing destination file operand after " ++ inQuotes source))
      | [] => pure (.error "missing file operand")

/-- Does something for each source and its target. -/
def forPairs (given : Given) (body : String → String → Action Nat) : Action Nat := do
  match ← pairsOf given with
  | .error message =>
      if "target".toList.isPrefixOf message.toList then refuse 1 message
      else refuseUse 1 message
  | .ok pairs => do
      let statuses ← pairs.mapM fun (source, target) => body source target
      pure (statuses.foldl max 0)

/-- A source that is older than its target, or as old, is not wanted. -/
def isUpToDate (given : Given) (source target : String) : Action Bool := do
  if !given.has 'u' then pure false
  else match ← find? true source, ← find? true target with
  | some one, some other => pure (one.time ≤ other.time)
  | _, _ => pure false

/-! ## Copies of what is replaced -/

/-- The mark of the option to keep what is replaced. It has no letter. -/
def backupMark : Char := Char.ofNat 1

/-- The path under which what is replaced is kept, if that is wanted. -/
def backupPath? (given : Given) (target : String) : Action (Option String) := do
  let ending := (given.text? 'S').getD "~"
  let simple := target ++ ending
  if !given.has 'b' && !given.has backupMark && !given.has 'S' then pure none
  else
    let manner := (given.text? backupMark).getD ""
    let numbered (number : Nat) : String := target ++ ".~" ++ toString number ++ "~"
    let rec fresh : Nat → Nat → Action String
      | 0, number => pure (numbered number)
      | bound + 1, number => do
          if (← find? false (numbered number)).isSome then fresh bound (number + 1)
          else pure (numbered number)
    match manner with
    | "none" | "off" => pure none
    | "numbered" | "t" => some <$> fresh 1000 1
    | "simple" | "never" => pure (some simple)
    | _ => do
        if (← find? false (numbered 1)).isSome then some <$> fresh 1000 1
        else pure (some simple)

/-- Keeps what is replaced under another path, if that is wanted, and tells the path. -/
def backUp (given : Given) (target : String) : Action (Option String) := do
  match ← backupPath? given target with
  | none => pure none
  | some path => do
      match ← place false target, ← place false path with
      | .ok old, .ok new => do
          if (← entryAt old).any fun entry => !entry.isDirectory then do
            modifyFiles fun files => files.move old new
            pure (some path)
          else pure none
      | _, _ => pure none

/-- What is told of a source and its target. -/
def pairText (arrow source target : String) (kept : Option String) : String :=
  inQuotes source ++ arrow ++ inQuotes target ++ match kept with
    | some path => " (backup: " ++ inQuotes path ++ ")"
    | none => ""

/-! ## Moving -/

/-- Moves what is at a place to another one. -/
def moveTo (given : Given) (source target : String) (old new : Location) : Action Nat := do
  match ← entryAt old, ← entryAt new with
  | none, _ => failWith "cannot stat" source .missing
  | some entry, found => do
      let isDirectory := entry.isDirectory
      let failed := "cannot move " ++ inQuotes source ++ " to " ++ inQuotes target
      if isDirectory && old.isPrefixOf new && old != new then
        refuse 1 ("cannot move " ++ inQuotes source ++ " to a subdirectory of itself, " ++
          inQuotes target)
      else if old = new || (← isLinkTo entry old new) then
        refuse 1 (inQuotes source ++ " and " ++ inQuotes target ++ " are the same file")
      else if !(← isDirectoryAt new.dropLast) then
        refuse 1 (failed ++ ": " ++ Fault.missing.reason)
      else match found with
      | none => finish
      | some (.directory _) => do
          if !isDirectory then
            refuse 1 ("cannot overwrite directory " ++ inQuotes target ++
              " with non-directory")
          else if ((← files).names new).isEmpty then finish
          else refuse 1 (failed ++ ": " ++ (Fault.system 39).reason)
      | some _ => do
          if given.has 'n' then pure 0
          else if ← isUpToDate given source target then pure 0
          else if isDirectory then
            refuse 1 ("cannot overwrite non-directory " ++ inQuotes target ++
              " with directory " ++ inQuotes source)
          else finish
where
  /-- The entry is a link at a place, which leads to another place. -/
  isLinkTo (entry : Entry) (place target : Location) : Action Bool := do
    match entry with
    | .link destination =>
        match (← files).locate true place.dropLast destination with
        | .ok location => pure (location = target && (← entryAt target).isSome)
        | .error _ => pure false
    | _ => pure false
  /-- Moves it. -/
  finish : Action Nat := do
    let kept ← backUp given target
    modifyFiles fun files => files.move old new
    tell (given.has 'v') ("renamed " ++ pairText " -> " source target kept)
    pure 0

/-- The options that say what happens to files that are there. -/
def replacingOptions : List Known :=
  [⟨'f', "force", .nothing⟩, ⟨'n', "no-clobber", .nothing⟩, ⟨'i', "interactive", .nothing⟩,
    ⟨'v', "verbose", .nothing⟩, ⟨'T', "no-target-directory", .nothing⟩,
    ⟨'t', "target-directory", .text⟩, ⟨'u', "update", .attached⟩, ⟨'b', "", .nothing⟩,
    ⟨backupMark, "backup", .attached⟩, ⟨'S', "suffix", .text⟩,
    ⟨Char.ofNat 2, "strip-trailing-slashes", .nothing⟩]

/-- The options with what the last of those that exclude each other asks for. An option that is
given for updates can stand without a text as a letter. -/
def settled (given : Given) : Given :=
  let last := given.options.reverse.find? fun option => ['f', 'n', 'i'].contains option.1
  { given with
    options := given.options.filter fun option =>
      !(['f', 'n', 'i'].contains option.1) || some option.1 = last.map (·.1) }

/-- Options of which the one for updates stands without a text among other letters. -/
def plainUpdate (known : List Known) (arguments : List String) : List Known :=
  if arguments.any fun argument => "--update=".toList.isPrefixOf argument.toList then known
  else known.map fun option => if option.letter = 'u' then { option with need := .nothing }
    else option

/-- The question whether a file is to be replaced is answered by the input. -/
def mayReplace (given : Given) (target : String) : Action Bool := do
  if !given.has 'i' || !(← find? false target).isSome then pure true
  else do
    let _ ← write 2 ((← process).name ++ ": overwrite " ++ inQuotes target ++ "? ")
    match ← readLine 0 0xA with
    | .ok line =>
        pure ((line.head?.map Char.ofUInt8).any fun letter => letter = 'y' || letter = 'Y')
    | .error _ => pure false

/-- Moves files. -/
def runMv (arguments : List String) : Action Nat := do
  withOptions 1 (plainUpdate replacingOptions arguments) arguments fun given => do
    let given := settled given
    forPairs given fun source target => do
      if !(← mayReplace given target) then pure 0
      else atPlace false "cannot stat" source fun old _ =>
        atPlace false "cannot stat" target fun new _ => moveTo given source target old new

/-! ## Copying -/

/-- How files are copied. -/
structure Copying where
  given : Given
  isDeep : Bool := false
  keepsLinks : Bool := false
  keepsRights : Bool := false
  keepsTimes : Bool := false
  /-- Targets are links to their sources, or share their files. -/
  linksSoftly : Bool := false
  linksHard : Bool := false
  replaces : Bool := false

/-- Tells of a copy. -/
def Copying.tell (copying : Copying) (source target : String) (kept : Option String) :
    Action Unit :=
  Utility.tell (copying.given.has 'v') (pairText " -> " source target kept)

/-- Copies a file into a place, which may have one already. -/
def copyFile (copying : Copying) (source target : String) (number : Nat) (node : Node) :
    Action Nat := do
  let found ← find? false target
  match found with
  | some found =>
      if copying.given.has 'n' then pure 0
      else if ← isUpToDate copying.given source target then pure 0
      else if !(← mayReplace copying.given target) then pure 0
      else match found.entry with
      | .file other =>
          if other = number then same
          else do
            match ← backUp copying.given target with
            | some kept => do
                let status ← fresh
                copying.tell source target (some kept)
                pure status
            | none =>
                if copying.linksHard then do
                  modifyFiles fun files => files.prune found.location
                  fresh
                else into node other
      | .link _ => do
          match ← find? true target with
          | some { entry := .file other, .. } =>
              if other = number then same else into node other
          | some { entry := .device _, .. } => pure 0
          | _ => refuse 1 ("not writing through dangling symlink " ++ inQuotes target)
      | .directory _ =>
          refuse 1 ("cannot overwrite directory " ++ inQuotes target ++ " with non-directory")
      | .device _ => do
          match ← openPath target .writing with
          | .error fault => failWith "cannot create regular file" target fault
          | .ok number => do
              let before := (← process).descriptors
              setDescriptor 3 (some number)
              let _ ← writeOctets 3 node.octets
              modifyProcess fun process => { process with descriptors := before }
              pure 0
      | _ => pure 0
  | none => do
      let status ← fresh
      if status = 0 then copying.tell source target none
      pure status
where
  /-- The source and the target are the same. -/
  same : Action Nat :=
    refuse 1 (inQuotes source ++ " and " ++ inQuotes target ++ " are the same file")
  /-- Puts a new file at the target. -/
  fresh : Action Nat := do
    let mode ← if copying.keepsRights then pure node.mode else newMode (node.mode &&& 0x1FF)
    let time ← if copying.keepsTimes then pure node.time else now
    atPlace true "cannot create regular file" target fun location _ => do
      if !(← isDirectoryAt location.dropLast) then
        failWith "cannot create regular file" target .missing
      else if copying.linksSoftly then do
        modifyFiles fun files => files.put location (.link (pathOf source))
        pure 0
      else if copying.linksHard then do
        modifyFiles fun files => files.put location (.file number)
        pure 0
      else do
        modifyFiles fun files => files.putFile location { node with mode, time }
        pure 0
  /-- Copies into a file that is there. -/
  into (node : Node) (other : Nat) : Action Nat := do
    modifyOctets other fun _ => node.octets
    if copying.keepsRights || copying.keepsTimes then
      modifyFiles fun files => files.modifyNode other fun held =>
        { held with
          mode := if copying.keepsRights then node.mode else held.mode
          time := if copying.keepsTimes then node.time else held.time }
    copying.tell source target none
    pure 0

/-- Copies what is at the end of a path. The bound is on the depth of directories. -/
def copyTo (copying : Copying) : Nat → String → String → Action Nat
  | 0, _, _ => pure 1
  | bound + 1, source, target => do
      match ← find? (!copying.keepsLinks) source with
      | none => failWith "cannot stat" source .missing
      | some found =>
          match found.entry with
          | .file number => copyFile copying source target number (found.node.getD { mode := 0 })
          | .link destination => do
              atPlace false "cannot stat" target fun location entry => do
                if entry.isSome && !copying.replaces then
                  failWith "cannot create symbolic link" target .present
                else do
                  modifyFiles fun files => files.put location (.link destination)
                  copying.tell source target none
                  pure 0
          | .directory _ =>
              if !copying.isDeep then
                refuse 1 ("-r not specified; omitting directory " ++ inQuotes source)
              else do
                let names := (← files).names found.location
                atPlace true "cannot stat" target fun location entry => do
                  if found.location.isPrefixOf location then
                    refuse 1 ("cannot copy a directory, " ++ inQuotes source ++
                      ", into itself, " ++ inQuotes target)
                  else if entry.any fun entry => !entry.isDirectory then
                    refuse 1 ("cannot overwrite non-directory " ++ inQuotes target ++
                      " with directory " ++ inQuotes source)
                  else do
                    if entry.isNone then
                      if !(← isDirectoryAt location.dropLast) then pure ()
                      else do
                        let mode ← if copying.keepsRights then pure found.mode
                          else newMode (found.mode &&& 0x1FF)
                        let fresh : Node := { mode, time := ← now }
                        modifyFiles fun files => files.putDirectory location fresh
                        copying.tell source target none
                    if !(← isDirectoryAt location) then
                      failWith "cannot create directory" target .missing
                    else do
                      let status ← forEach (Shell.sortTexts (names.map Text.Octets.encode))
                        fun name =>
                          copyTo copying bound (joinPath source name) (joinPath target name)
                      if copying.keepsTimes then setTime target found.time
                      pure status
          | .device (.queue node) => do
              let octets ← nodeOctets node
              copyEmpty target octets
          | .device _ => copyEmpty target []
          | .program _ => copyEntry target found.entry
where
  /-- Copies octets, as from a device. -/
  copyEmpty (target : String) (octets : List UInt8) : Action Nat := do
    match ← openPath target .writing with
    | .ok number => do
        let before := (← process).descriptors
        setDescriptor 3 (some number)
        let _ ← writeOctets 3 octets
        modifyProcess fun process => { process with descriptors := before }
        pure 0
    | .error fault => failWith "cannot create regular file" target fault
  /-- Copies a program of the system. -/
  copyEntry (target : String) (entry : Entry) : Action Nat :=
    atPlace true "cannot create regular file" target fun location _ => do
      modifyFiles fun files => files.put location entry
      pure 0

/-- Copies files. -/
def runCp (arguments : List String) : Action Nat := do
  let known : List Known := replacingOptions ++ [⟨'r', "recursive", .nothing⟩,
    ⟨'R', "", .nothing⟩, ⟨'a', "archive", .nothing⟩, ⟨'p', "", .nothing⟩, ⟨'d', "", .nothing⟩,
    ⟨'P', "no-dereference", .nothing⟩, ⟨'L', "dereference", .nothing⟩, ⟨'H', "", .nothing⟩,
    ⟨'l', "link", .nothing⟩, ⟨'s', "symbolic-link", .nothing⟩, ⟨'q', "preserve", .attached⟩,
    ⟨Char.ofNat 3, "parents", .nothing⟩, ⟨Char.ofNat 4, "remove-destination", .nothing⟩,
    ⟨Char.ofNat 4, "sparse", .attached⟩, ⟨Char.ofNat 4, "reflink", .attached⟩,
    ⟨Char.ofNat 4, "no-preserve", .attached⟩, ⟨'x', "one-file-system", .nothing⟩]
  withOptions 1 (plainUpdate known arguments) arguments fun given => do
    let given := settled given
    let isArchive := given.has 'a'
    let isDeep := isArchive || given.has 'r' || given.has 'R'
    let kept := match given.text? 'q' with
      | some "" => ["mode", "timestamps"]
      | some text => text.splitOn ","
      | none => []
    let keeps (name : String) : Bool :=
      isArchive || given.has 'p' || kept.contains name || kept.contains "all"
    let copying : Copying :=
      { given
        isDeep
        keepsLinks := !given.has 'L' && (isDeep || given.has 'd' || given.has 'P')
        keepsRights := keeps "mode"
        keepsTimes := keeps "timestamps"
        linksSoftly := given.has 's'
        linksHard := given.has 'l'
        replaces := given.has 'f' || isArchive || isDeep }
    if given.has (Char.ofNat 3) then
      match given.operands.reverse with
      | directory :: sources => forEach sources.reverse fun source => do
          let target := joinPath directory source
          let made ← runMkdir ["-p", (String.ofList ((target.toList.reverse.dropWhile
            (· != '/')).reverse))]
          if made != 0 then pure made else copyTo copying 64 source target
      | [] => refuseUse 1 "missing file operand"
    else forPairs given (copyTo copying 64)

/-! ## Linking -/

/-- Makes a link from a path to a target. -/
def link (given : Given) (target path : String) : Action Nat := do
  let isSoft := given.has 's'
  let deed := if isSoft then "failed to create symbolic link" else "failed to create hard link"
  atPlace false deed path fun location entry => do
    let source ← find? (given.has 'L') target
    if !isSoft && source.isNone then failWith "failed to access" target .missing
    else if !isSoft && source.any Found.isDirectory then
      refuse 1 (target ++ ": hard link not allowed for directory")
    else if entry.any Entry.isDirectory then
      if given.has 'f' then refuse 1 (path ++ ": cannot overwrite directory")
      else failWith deed path .present
    else do
      let isSame := source.any fun found => found.location = location
      if isSame && (given.has 'f' || !isSoft) && entry.isSome && (given.has 'f') then
        refuse 1 (inQuotes target ++ " and " ++ inQuotes path ++ " are the same file")
      else do
        let kept ← backUp given path
        if entry.isSome && !given.has 'f' && kept.isNone then failWith deed path .present
        else if !(← isDirectoryAt location.dropLast) then failWith deed path .missing
        else if isSoft then do
          let destination ← if !given.has 'r' then pure (pathOf target)
            else do
              pure (match ← place true target with
                | .ok found => relativePath location.dropLast found
                | .error _ => pathOf target)
          modifyFiles fun files => files.put location (.link destination)
          tell (given.has 'v') (pairText " -> " path (Text.Octets.encode destination) kept)
          pure 0
        else match source with
          | none => failWith "failed to access" target .missing
          | some found => do
              modifyFiles fun files => files.put location found.entry
              tell (given.has 'v') (pairText " => " path target kept)
              pure 0

/-- Makes links. With a single operand, the link is in the working directory. -/
def runLn (arguments : List String) : Action Nat := do
  let known : List Known := [⟨'s', "symbolic", .nothing⟩, ⟨'f', "force", .nothing⟩,
    ⟨'n', "no-dereference", .nothing⟩, ⟨'v', "verbose", .nothing⟩, ⟨'i', "interactive", .nothing⟩,
    ⟨'T', "no-target-directory", .nothing⟩, ⟨'t', "target-directory", .text⟩,
    ⟨'r', "relative", .nothing⟩, ⟨'L', "logical", .nothing⟩, ⟨'P', "physical", .nothing⟩,
    ⟨'b', "", .nothing⟩, ⟨backupMark, "backup", .attached⟩, ⟨'S', "suffix", .text⟩]
  withOptions 1 known arguments fun given => do
    match given.operands, given.text? 't' with
    | [target], none => link given target (lastName target)
    | _, _ => forPairs given (link given)

/-- Makes a single link. -/
def runLink (arguments : List String) : Action Nat := do
  match arguments with
  | [target, path] => link { } target path
  | [] => refuseUse 1 "missing operand"
  | [operand] => refuseUse 1 ("missing operand after " ++ inQuotes operand)
  | _ :: _ :: other :: _ => refuseUse 1 ("extra operand " ++ inQuotes other)

/-- Copies files with the rights of programs, or makes directories. -/
def runInstall (arguments : List String) : Action Nat := do
  let known : List Known := [⟨'d', "directory", .nothing⟩, ⟨'D', "", .nothing⟩,
    ⟨'m', "mode", .text⟩, ⟨'v', "verbose", .nothing⟩, ⟨'T', "no-target-directory", .nothing⟩,
    ⟨'t', "target-directory", .text⟩, ⟨'o', "owner", .text⟩, ⟨'g', "group", .text⟩,
    ⟨'p', "preserve-timestamps", .nothing⟩, ⟨'c', "", .nothing⟩, ⟨'C', "compare", .nothing⟩,
    ⟨'s', "strip", .nothing⟩, ⟨'b', "", .nothing⟩, ⟨backupMark, "backup", .attached⟩,
    ⟨'S', "suffix", .text⟩]
  withOptions 1 known arguments fun given => do
    let mode := (given.text? 'm').getD "755"
    let adjust (path : String) : Action Unit := do
      match ← place true path with
      | .ok location => setMode mode 0 location
      | .error _ => pure ()
    if given.has 'd' then do
      let status ← runMkdir ("-p" :: given.operands)
      given.operands.forM adjust
      pure status
    else do
      match given.has 'D', given.operands.getLast?, given.text? 't' with
      | true, some target, none => do
          let above := (target.toList.reverse.dropWhile (· != '/')).reverse
          if !above.isEmpty then
            let _ ← runMkdir ["-p", String.ofList above]
      | true, _, some directory => do
          let _ ← runMkdir ["-p", directory]
      | _, _, _ => pure ()
      forPairs given fun source target => do
        let copying : Copying := { given, keepsTimes := given.has 'p' }
        let isLink := (← find? false target).any Found.isLink
        if isLink then
          match ← place false target with
          | .ok location => modifyFiles fun files => files.prune location
          | .error _ => pure ()
        let copied ← copyTo copying 2 source target
        if copied = 0 then adjust target
        pure copied

end StaticMulticast.Host.Utility
