import StaticMulticast.Configuration.Note
import StaticMulticast.Configuration.Rejection

/-!
# Events of a pass over the configuration

What a pass reports: remarks on single lines, the lines that had no effect and why, and how the file
as a whole fared.
-/

namespace StaticMulticast.Configuration

/-- What became of the lines of a file: how many there were, how many had their operation carried
out, how many were rejected, and how many had an operation that failed. -/
structure Summary where
  lines : Nat
  applied : Nat
  rejected : Nat
  failed : Nat
deriving DecidableEq, Repr

/-- What can happen in a pass. Lines are numbered from one. -/
inductive Event where
  /-- There is a remark on a line. -/
  | noted (line : Nat) (note : Note)
  /-- A line had no effect. -/
  | dropped (line : Nat) (fault : LineFault)
  /-- There is no file of this path. -/
  | absent (path : String)
  /-- The file could not be opened. -/
  | inaccessible (path : String) (fault : Host.Fault)
  /-- The daemon goes on without a file. -/
  | waiting
  /-- The file was read to its end. -/
  | parsed (path : String) (summary : Summary)
  /-- What is to be run after the pass failed. -/
  | hookFailed (reason : Failure)
deriving DecidableEq, Repr

open Log

/-- The record of a message about a line. -/
def lineRecord (level : Level) (line : Nat) (message : String) : Record :=
  ⟨level, Text.Decimal.padded line ++ ": " ++ message, [("line", some line)], some .configuration⟩

/-- The record of an event. -/
def Event.record : Event → Record
  | .noted line note => lineRecord note.level line note.message
  | .dropped line fault => lineRecord .warning line fault.message
  | .absent path =>
      ⟨.info, "configuration file " ++ path ++ " does not exist", [], some .configuration⟩
  | .inaccessible path fault =>
      ⟨.warning, "unexpected error when accessing " ++ path ++ ": " ++ fault.message, [],
        some .configuration⟩
  | .waiting =>
      ⟨.info, "continuing anyway, waiting for client to connect", [], some .configuration⟩
  | .parsed path summary =>
      ⟨.info, "parsed " ++ path,
        [("lines", some summary.lines), ("applied", some summary.applied),
          ("rejected", some summary.rejected), ("failed", some summary.failed)],
        some .configuration⟩
  | .hookFailed reason =>
      ⟨.warning, "post-configuration hook failed: " ++ reason.message, [], some .configuration⟩

end StaticMulticast.Configuration
