import StaticMulticast.Host.Fault

/-!
# Failures

Why an operation on the interfaces, the routes, the groups or the script did not succeed.
-/

namespace StaticMulticast

/-- Why an operation failed. -/
inductive Failure where
  /-- Input or output failed. -/
  | io (fault : Host.Fault)
  /-- The thing to be made is there already. -/
  | alreadyExists (what : String)
  /-- The thing to be used is not there. -/
  | missing (what : String)
  /-- The operation makes no sense for this thing. -/
  | invalid (what : String)
  /-- No slot of the table is free. -/
  | tableFull (table : String)
  /-- The script could not be started, or ended with an error. -/
  | script (what : String)
  /-- Any other failure. -/
  | other (what : String)
deriving DecidableEq, Repr

/-- A failure in words. -/
def Failure.message : Failure → String
  | .io fault => "I/O error: " ++ fault.detail
  | .alreadyExists what => "Resource already exists: " ++ what
  | .missing what => "Resource is missing: " ++ what
  | .invalid what => "Invalid argument: " ++ what
  | .tableFull table => "Table " ++ table ++ " is full"
  | .script what => "Script failed: " ++ what
  | .other what => "Error: " ++ what

end StaticMulticast
