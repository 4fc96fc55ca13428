import StaticMulticast.Host.Fault

/-!
# Reads

A file is read piece by piece, through a buffer. Each read gives some octets or fails. That a read
gives no octets is the end of the file, so this is what comes after the last read.
-/

namespace StaticMulticast.Host

/-- What one read comes to, before the buffer. A piece without octets stands for no read. -/
inductive Read where
  | data (octets : List UInt8)
  | failure (fault : Host.Fault)
deriving DecidableEq, Repr

namespace Read

/-- Cuts octets into pieces of the given size, the last of which may be smaller. The first argument
bounds the number of pieces. -/
def cut : Nat → Nat → List UInt8 → List (List UInt8)
  | 0, _, _ => []
  | _ + 1, _, [] => []
  | bound + 1, size, octets => octets.take size :: cut bound size (octets.drop size)

/-- The reads through a buffer of the given capacity: a piece beyond the capacity comes in several
reads, and a piece without octets in none, so that no read gives nothing before the end of the file.
Without capacity nothing can be given, which is the end of the file. -/
def buffered (capacity : Nat) : List Read → List Read
  | [] => []
  | .failure fault :: rest => .failure fault :: buffered capacity rest
  | .data [] :: rest => buffered capacity rest
  | .data octets :: rest =>
      if capacity = 0 then []
      else (cut octets.length capacity octets).map .data ++ buffered capacity rest

end Read

end StaticMulticast.Host
