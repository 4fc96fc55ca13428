import StaticMulticast.Failure
import StaticMulticast.Host.Environment
import StaticMulticast.Log.Record

/-!
# The script

A program that is run, without arguments, each time a file has been read to its end.
-/

namespace StaticMulticast.Script

/-- What can happen when the script is due. -/
inductive Event where
  /-- No script is wanted. -/
  | none
  /-- The script is about to be started. -/
  | running (path : String)
deriving DecidableEq, Repr

open Log in
/-- The record of an event. -/
def Event.record : Event → Record
  | .none => ⟨.debug, "no post-configuration script", [], some .script⟩
  | .running path => ⟨.info, "running " ++ path, [], some .script⟩

/-- What is reported when the script is due. -/
def event : Option String → Event
  | none => .none
  | some path => .running path

/-- Runs the script, if one is wanted. It must end with success. -/
def run (environment : Host.Environment) : Option String → Except Failure Unit
  | none => .ok ()
  | some path =>
      match environment.runProgram path with
      | .error fault => .error (.script ("failed to start " ++ path ++ ": " ++ fault.message))
      | .ok status =>
          if status.isSuccess then .ok ()
          else .error (.script (path ++ " exited with " ++ status.text))

end StaticMulticast.Script
