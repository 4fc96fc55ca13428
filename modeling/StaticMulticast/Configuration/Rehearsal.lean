import StaticMulticast.Configuration.Pass

/-!
# Rehearsals

A pass can be rehearsed: the interfaces are a fixed list that nothing changes, every call is written
down in order, and a call fails exactly if the plan has a failure for its position.
-/

namespace StaticMulticast.Configuration

/-- A call that a pass makes. -/
inductive Call where
  | operation (operation : Operation)
  | afterwards
deriving DecidableEq, Repr

/-- The interfaces that lines can name, and the failures by the position of the call. -/
structure Rehearsal where
  interfaces : List (String × Forwarding)
  failures : List (Nat × Failure)

namespace Rehearsal

/-- Writes a call down, and lets it fail if that is planned. -/
def call (rehearsal : Rehearsal) (calls : List Call) (made : Call) :
    Outcome (List Call) StaticMulticast.Event (Except Failure Unit) :=
  let value := match rehearsal.failures.lookup calls.length with
    | some reason => .error reason
    | none => .ok ()
  ⟨value, calls ++ [made], []⟩

/-- The collaborators of a rehearsal, whose state is the calls made so far. -/
def collaborators (rehearsal : Rehearsal) : Collaborators (List Call) where
  lookup _ name := rehearsal.interfaces.lookup name
  perform calls operation := rehearsal.call calls (.operation operation)
  afterwards calls := rehearsal.call calls .afterwards

end Rehearsal

end StaticMulticast.Configuration
