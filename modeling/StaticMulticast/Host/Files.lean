import StaticMulticast.Host.Environment

/-!
# The files of a host

The tree of files, the paths in it, and how files are opened and changed.
-/

/-!
## Files

A tree of directories, files, links and programs. What a file holds is kept apart from its place in
the tree: a file that has been opened goes on to exist when its place is given to another one, and
one file can have several places.
-/

namespace StaticMulticast.Host

/-- A place in the tree: the names on the way from the root. -/
abbrev Location := List String

/-- What a file holds, who may do what with it, the time of its last change, in millionths of a
second, and the user and the group that it belongs to. A directory has a node too, which holds
nothing. -/
structure Node where
  octets : List UInt8 := []
  mode : Nat
  time : Int := 0
  owner : Nat := 0
  group : Nat := 0
deriving DecidableEq, Repr

namespace Node

/-- The rights of a file that has just been written. -/
def ordinary : Nat := 0x1A4

/-- The rights of a directory that has just been made. -/
def passable : Nat := 0x1ED

/-- The rights that let a file be run. -/
def running : Nat := 0x49

/-- The file may be run. -/
def isExecutable (node : Node) : Bool :=
  node.mode &&& running != 0

end Node

/-- Something that is used like a file, but is none. -/
inductive Device where
  /-- Takes all that is written to it, and holds nothing. -/
  | sink
  /-- Holds nothing but zeros, without an end. -/
  | zeros
  /-- Holds octets that look as if they had been drawn by lot, without an end. -/
  | lots
  /-- Zeros without an end, but takes nothing that is written to it. -/
  | full
  /-- What is written to it is read from it, in the same order. -/
  | queue (node : Nat)
  /-- The terminal of the process, which has none. -/
  | terminal
  /-- What a descriptor of the process leads to. -/
  | descriptor (number : Nat)
deriving DecidableEq, Repr

/-- What stands at a place of the tree. -/
inductive Entry where
  /-- A directory, by the number of its node. -/
  | directory (node : Nat)
  /-- A file, by the number of its node. -/
  | file (node : Nat)
  /-- Another path that stands for this place. -/
  | link (target : String)
  | device (device : Device)
  /-- A program of the system, by name. -/
  | program (name : String)
deriving DecidableEq, Repr

namespace Entry

/-- It is a directory. -/
def isDirectory : Entry → Bool
  | .directory _ => true
  | _ => false

/-- The number of its node, if it has one. -/
def node? : Entry → Option Nat
  | .directory node | .file node | .device (.queue node) => some node
  | _ => none

end Entry

/-- A tree of files. -/
structure Files where
  entries : List (Location × Entry)
  nodes : Array Node

namespace Files

/-- What stands at a place. -/
def get? (files : Files) (location : Location) : Option Entry :=
  files.entries.lookup location

/-- Puts an entry at a place. -/
def put (files : Files) (location : Location) (entry : Entry) : Files :=
  { files with
    entries := (location, entry) :: files.entries.filter fun other => other.1 != location }

/-- Removes a place and all below it. -/
def prune (files : Files) (location : Location) : Files :=
  { files with entries := files.entries.filter fun other => !location.isPrefixOf other.1 }

/-- The names of what stands directly in a directory. -/
def names (files : Files) (location : Location) : List String :=
  files.entries.filterMap fun other =>
    if other.1.dropLast = location then other.1.getLast? else none

/-- Moves a place and all below it to another place. -/
def move (files : Files) (old new : Location) : Files :=
  { files with
    entries := (files.prune new).entries.map fun other =>
      if old.isPrefixOf other.1 then (new ++ other.1.drop old.length, other.2) else other }

/-- The node of a number. -/
def node? (files : Files) (number : Nat) : Option Node :=
  files.nodes[number]?

/-- Changes a node. -/
def modifyNode (files : Files) (number : Nat) (change : Node → Node) : Files :=
  { files with nodes := files.nodes.modify number change }

/-- Puts a new file at a place. -/
def putFile (files : Files) (location : Location) (node : Node) : Files :=
  { files with nodes := files.nodes.push node }.put location (.file files.nodes.size)

/-- Puts a new directory at a place. -/
def putDirectory (files : Files) (location : Location) (node : Node) : Files :=
  { files with nodes := files.nodes.push node }.put location (.directory files.nodes.size)

/-- A directory stands at a place. -/
def hasDirectory (files : Files) (location : Location) : Bool :=
  (files.get? location).any Entry.isDirectory

/-- The number of places that a file has. -/
def placesOf (files : Files) (node : Nat) : Nat :=
  files.entries.countP fun other => other.2 = .file node

end Files

end StaticMulticast.Host

/-!
## Following a path

A path is followed part by part from a working directory, or from the root if it begins with a
slash. Every part before the last must lead to a directory, and so must the whole path if a slash
ends it. A link on the way is replaced by its target.
-/

namespace StaticMulticast.Host.Files

/-- The longest name, in octets. -/
def longestName : Nat := 255

/-- The longest path, in octets. -/
def longestPath : Nat := 4095

/-- The greatest number of links that one path can lead over. -/
def mostLinks : Nat := 40

/-- The parts of a path between its slashes. -/
def parts (path : String) : List String :=
  (List.splitOnP (· == '/') path.toList).map String.ofList

/-- The path begins at the root. -/
def isAbsolute (path : String) : Bool :=
  path.toList.head? = some '/'

/-- The place that a path is followed from. -/
def origin (working : Location) (path : String) : Location :=
  if isAbsolute path then [] else working

/-- Where parts lead to: to a place, or to a link with parts after it. -/
inductive Way where
  | place (location : Location)
  | link (location : Location) (target : String) (rest : List String)

/-- Follows parts from a place up to the first link. Nothing need stand at the place that is
reached. Whether a link at the end is to be followed is given first. -/
def walk (files : Files) (through : Bool) (location : Location) :
    List String → Except Fault Way
  | [] => .ok (.place location)
  | part :: rest =>
      match files.get? location with
      | none => .error .missing
      | some (.directory _) =>
          if part = "" || part = "." then files.walk through location rest
          else if part = ".." then files.walk through location.dropLast rest
          else if longestName < part.utf8ByteSize then .error .nameTooLong
          else match files.get? (location ++ [part]) with
            | some (.link target) =>
                if rest.isEmpty && !through then .ok (.place (location ++ [part]))
                else .ok (.link location target rest)
            | _ => files.walk through (location ++ [part]) rest
      | some _ => .error .throughFile

/-- Follows parts from a place over no more than a number of links. -/
def follow (files : Files) (through : Bool) :
    Nat → Location → List String → Except Fault Location
  | 0, _, _ => .error .tooManyLevels
  | links + 1, location, rest => do
      match ← files.walk through location rest with
      | .place location => .ok location
      | .link location target rest =>
          files.follow through links (origin location target) (parts target ++ rest)

/-- The place that a path leads to. Whether a link at the end is to be followed is given first. -/
def locate (files : Files) (through : Bool) (working : Location) (path : String) :
    Except Fault Location :=
  if path.isEmpty then .error .missing
  else if longestPath < path.utf8ByteSize then .error .nameTooLong
  else files.follow through (mostLinks + 1) (origin working path) (parts path)

/-- What stands where a path leads to. -/
def lookup (files : Files) (through : Bool) (working : Location) (path : String) :
    Except Fault Entry := do
  match files.get? (← files.locate through working path) with
  | some entry => pure entry
  | none => .error .missing

/-- The path has a zero octet. -/
def hasZero (path : String) : Bool :=
  path.toList.contains (Char.ofNat 0)

/-- The path that leads to a place from the root. -/
def pathOf (location : Location) : String :=
  "/" ++ String.intercalate "/" location

end StaticMulticast.Host.Files

/-!
## Opening files

What can be opened at the end of a path. A file that is opened for writing is made if there is none.
-/

namespace StaticMulticast.Host

/-- What has been opened. -/
inductive Opened where
  /-- A file, by the number of its node. -/
  | file (node : Nat)
  | directory (location : Location)
  | device (device : Device)
deriving DecidableEq, Repr

namespace Files

/-- Opens what stands at the end of a path for reading. What a program of the system holds is not
known. -/
def openToRead (files : Files) (working : Location) (path : String) : Except Fault Opened :=
  if hasZero path then .error .zeroInPath
  else do
    let location ← files.locate true working path
    match files.get? location with
    | none => .error .missing
    | some (.directory _) => pure (.directory location)
    | some (.file node) => pure (.file node)
    | some (.device .terminal) => .error .noDevice
    | some (.device device) => pure (.device device)
    | some _ => pure (.device .sink)

/-- Opens a file for writing, or puts a fresh one where there is none. A path with a slash at the
end can only be that of a directory, which is no file. -/
def openToWrite (files : Files) (working : Location) (path : String) (fresh : Node) :
    Except Fault (Opened × Files) :=
  if hasZero path then .error .zeroInPath
  else if longestPath < path.utf8ByteSize then .error .nameTooLong
  else if path.toList.getLast? = some '/' then do
    let above := ((parts path).reverse.dropWhile String.isEmpty).tail.reverse
    let _ ← files.follow true (mostLinks + 1) (origin working path) (above ++ ["."])
    .error .directory
  else do
    let location ← files.locate true working path
    match files.get? location with
    | some (.directory _) => .error .directory
    | some (.file node) => pure (.file node, files)
    | some (.device .terminal) => .error .noDevice
    | some (.device device) => pure (.device device, files)
    | some _ => pure (.device .sink, files)
    | none => pure (.file files.nodes.size, files.putFile location fresh)

/-- What the reads of something opened come to. -/
def reads (files : Files) : Opened → List Read
  | .directory _ => [.failure .directory]
  | .device _ => []
  | .file node => [.data (((files.node? node).map Node.octets).getD [])]

/-- Writes at the end of something opened. -/
def append (files : Files) (opened : Opened) (octets : List UInt8) : Files :=
  match opened with
  | .file node => files.modifyNode node fun held => { held with octets := held.octets ++ octets }
  | _ => files

end Files

end StaticMulticast.Host

/-!
## Changes of files

What is done to the files from outside of any program. A change that is not possible is left out.
-/

namespace StaticMulticast.Host

namespace Files

/-- Puts a file at a place where none is, or new octets into the file that is there. -/
def writeAt (files : Files) (time : Int) (location : Location) (octets : List UInt8) : Files :=
  match files.get? location with
  | none => files.putFile location { octets, mode := Node.ordinary, time }
  | some (.file node) => files.modifyNode node fun held => { held with octets, time }
  | some _ => files

/-- Lets a file be run as a program. -/
def permitAt (files : Files) (location : Location) : Files :=
  match files.get? location with
  | some (.file node) =>
      files.modifyNode node fun held => { held with mode := Node.ordinary ||| Node.running }
  | _ => files

/-- Makes the directories that are missing on the way from a place. -/
def makeDirectories (files : Files) (fresh : Node) (location : Location) : List String → Files
  | [] => files
  | part :: rest =>
      if part = "" || part = "." then files.makeDirectories fresh location rest
      else if part = ".." then files.makeDirectories fresh location.dropLast rest
      else
        let next := location ++ [part]
        match files.get? next with
        | none => (files.putDirectory next fresh).makeDirectories fresh next rest
        | some (.directory _) => files.makeDirectories fresh next rest
        | some (.link target) =>
            match files.locate true location target with
            | .ok place => files.makeDirectories fresh place rest
            | .error _ => files
        | some _ => files

/-- Makes a change at a time. -/
def change (files : Files) (working : Location) (time : Int) : FileAction → Files
  | .write path octets =>
      match files.locate true working path with
      | .ok location => files.writeAt time location octets
      | .error _ => files
  | .writeScript path octets =>
      match files.locate true working path with
      | .ok location => (files.writeAt time location octets).permitAt location
      | .error _ => files
  | .makeDirectory path =>
      files.makeDirectories { mode := Node.passable, time } (origin working path) (parts path)
  | .remove path =>
      match files.locate false working path with
      | .ok location => files.prune location
      | .error _ => files

end Files

end StaticMulticast.Host
