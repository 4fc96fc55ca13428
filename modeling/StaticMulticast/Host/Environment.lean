import StaticMulticast.Host.ExitStatus
import StaticMulticast.Host.Read

/-!
# The environment of the daemon

What the daemon asks of the host at one moment: what a file holds, and how a program ends that is
run without arguments. The host changes while the daemon runs, and what it must be able to do for
that is all that is asked of it here, whatever else there is to it.
-/

namespace StaticMulticast.Host

/-- The files and programs that the daemon can use. -/
structure Environment where
  openFile : String → Except Fault (List Read)
  runProgram : String → Except Fault ExitStatus

/-- The environment of a host on which there is nothing. -/
def Environment.empty : Environment :=
  ⟨fun _ => .error .missing, fun _ => .error .missing⟩

/-- A change of the files. -/
inductive FileAction where
  | write (path : String) (octets : List UInt8)
  | writeScript (path : String) (octets : List UInt8)
  | makeDirectory (path : String)
  | remove (path : String)
deriving DecidableEq, Repr

/-- What a computer does for the daemon. A program that is run may change anything about the
computer, and may send signals to the daemon. -/
class Platform (Computer : Type) (LogFile : outParam Type) where
  /-- What can be read through a path. -/
  openFile : Computer → String → Except Fault (List Read)
  /-- How the program of a path ends, and the computer after it. -/
  run : Computer → String → Except Fault (ExitStatus × Computer)
  /-- Changes the files. -/
  change : Computer → FileAction → Computer
  /-- Opens a file to write a log to. -/
  openLog : Computer → String → Except Fault (LogFile × Computer)
  /-- Writes octets to the log in a file. -/
  append : Computer → LogFile → List UInt8 → Computer
  /-- Writes octets to the output. -/
  print : Computer → List UInt8 → Computer
  /-- The numbers of the signals that programs have sent, which are then forgotten. -/
  takeSignals : Computer → List Nat × Computer

end StaticMulticast.Host
