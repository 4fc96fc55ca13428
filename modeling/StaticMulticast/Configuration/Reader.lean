import StaticMulticast.Configuration.Line
import StaticMulticast.Host.Read

/-!
# Reading lines

A file comes in pieces of any size, and a read may fail. A line is collected piece by piece until it
ends, the file ends, or as many octets are held as the longest accepted line has with the two that
can end it. If these do not end the line, the rest of it is passed over.

A read that is interrupted is tried again while a line is collected, but not while the rest of a
line is passed over. Any other fault ends the reading, and what was held of a line is dropped.
-/

namespace StaticMulticast.Configuration

open Host (Read)

/-- How many octets of a line are held at most. -/
def heldAtMost : Nat := longestLine + 2

/-- Where the reader is in a line, with the octets that it holds of the line. -/
inductive Place where
  /-- More of the line may come. -/
  | collecting (held : List UInt8)
  /-- The line or the file has ended, or no more octets can be held. -/
  | collected (held : List UInt8)
  /-- The line is too long, and the rest of it is passed over. -/
  | skipping (held : List UInt8)
deriving DecidableEq, Repr

namespace Place

/-- Between two lines. -/
def start : Place := .collecting []

/-- The octets that are held. -/
def held : Place → List UInt8
  | .collecting held => held
  | .collected held => held
  | .skipping held => held

/-- How far the place is from the start of the next line, where nothing more is read. -/
def rank : Place → Nat
  | .collected [] => 0
  | .collecting [] => 1
  | .skipping _ => 2
  | .collected (_ :: _) => 3
  | .collecting (_ :: _) => 4

/-- No place is farther than this. -/
theorem rank_lt (place : Place) : place.rank < 5 := by
  unfold rank
  split <;> omega

end Place

/-- The reader: the lines read so far, the latest first, the place it has come to, and the reads
that are left. -/
structure Reader where
  done : List Line
  place : Place
  reads : List Read
deriving DecidableEq, Repr

/-- What one step of the reader comes to: another state, or the end of the reading. -/
inductive Reader.Advance where
  | on (later : Reader)
  | stop (fault : Option Host.Fault)
deriving DecidableEq, Repr

/-- How many octets of a piece belong to the line, with its end, if the line ends in the piece. -/
def lengthToEnd? (piece : List UInt8) : Option Nat :=
  (piece.findIdx? (· == lineEnd)).map (· + 1)

/-- The reads that are left when these octets of a piece are. -/
def leave (octets : List UInt8) (reads : List Read) : List Read :=
  if octets.isEmpty then reads else .data octets :: reads

/-- A measure of what the reads can still give. -/
def weight : List Read → Nat
  | [] => 0
  | .data octets :: rest => octets.length + 1 + weight rest
  | .failure _ :: rest => 1 + weight rest

/-- A piece weighs less once octets of it are used up, if it has any. -/
theorem weight_leave_drop_lt {octets : List UInt8} {count : Nat} (reads : List Read)
    (h : octets ≠ [] → 0 < count) :
    weight (leave (octets.drop count) reads) < weight (.data octets :: reads) := by
  cases octets with
  | nil => simp [leave, weight]
  | cons octet octets =>
      have hcount := h (List.cons_ne_nil _ _)
      unfold leave
      split
      · simp only [weight]
        omega
      · simp only [weight, List.length_drop, List.length_cons]
        omega

/-- A line that ends in a piece has at least its end there. -/
theorem lengthToEnd?_pos {piece : List UInt8} {length : Nat}
    (h : lengthToEnd? piece = some length) : 0 < length ∧ length ≤ piece.length := by
  obtain ⟨index, hindex, rfl⟩ := Option.map_eq_some_iff.1 h
  obtain ⟨hlt, -⟩ := List.findIdx?_eq_some_iff_findIdx_eq.1 hindex
  omega

namespace Reader

/-- Before the first octet. -/
def start (reads : List Read) : Reader := ⟨[], .start, reads⟩

/-- Collects more of a line of which these octets are held. -/
def collect (reader : Reader) (held : List UInt8) : Advance :=
  let room := heldAtMost - held.length
  if room = 0 then .on { reader with place := .collected held }
  else match reader.reads with
    | [] => .on { reader with place := .collected held }
    | .failure fault :: rest =>
        if fault.kind = .interrupted then .on { reader with reads := rest } else .stop (some fault)
    | .data octets :: rest =>
        let piece := octets.take room
        match lengthToEnd? piece with
        | some length =>
            .on { reader with
              place := .collected (held ++ piece.take length)
              reads := leave (octets.drop length) rest }
        | none =>
            .on { reader with
              place := .collecting (held ++ piece)
              reads := leave (octets.drop piece.length) rest }

/-- Decides what becomes of a line that has been collected. Without octets, the file has ended. -/
def settle (reader : Reader) (held : List UInt8) : Advance :=
  if held.isEmpty then .stop none
  else if held.length < heldAtMost || held.getLast? = some lineEnd then
    .on { reader with done := .whole held :: reader.done, place := .start }
  else .on { reader with place := .skipping held }

/-- Passes over more of a line that is too long. -/
def skip (reader : Reader) : Advance :=
  match reader.reads with
  | [] => .on { reader with done := .overlong :: reader.done, place := .start }
  | .failure fault :: _ => .stop (some fault)
  | .data octets :: rest =>
      match lengthToEnd? octets with
      | some length =>
          .on ⟨.overlong :: reader.done, .start, leave (octets.drop length) rest⟩
      | none => .on { reader with reads := rest }

/-- Takes one step. -/
def step (reader : Reader) : Advance :=
  match reader.place with
  | .collecting held => reader.collect held
  | .collected held => reader.settle held
  | .skipping _ => reader.skip

/-- How much is still to be done. -/
def work (reader : Reader) : Nat :=
  5 * weight reader.reads + reader.place.rank

/-- The work is less where less can come of the reads. -/
theorem work_lt_of_weight_lt {reader later : Reader}
    (h : weight later.reads < weight reader.reads) : later.work < reader.work := by
  have hrank := later.place.rank_lt
  unfold work
  omega

/-- The work is less where the place is nearer to the next line. -/
theorem work_lt_of_rank_lt {reader later : Reader} (hreads : later.reads = reader.reads)
    (h : later.place.rank < reader.place.rank) : later.work < reader.work := by
  unfold work
  rw [hreads]
  omega

/-- Collecting leaves less to do. -/
theorem work_collect_lt {reader later : Reader} {held : List UInt8}
    (hplace : reader.place = .collecting held) (h : reader.collect held = .on later) :
    later.work < reader.work := by
  have hrank : (Place.collected held).rank < reader.place.rank := by
    rw [hplace]
    cases held <;> simp [Place.rank]
  simp only [collect] at h
  split at h
  · cases h
    exact work_lt_of_rank_lt rfl hrank
  · rename_i hroom
    split at h
    · cases h
      exact work_lt_of_rank_lt rfl hrank
    · rename_i fault rest hreads
      split at h
      · cases h
        exact work_lt_of_weight_lt (by simp [hreads, weight])
      · cases h
    · rename_i octets rest hreads
      apply work_lt_of_weight_lt
      rw [hreads]
      split at h
      · rename_i length hlength
        cases h
        exact weight_leave_drop_lt rest fun _ => (lengthToEnd?_pos hlength).1
      · cases h
        refine weight_leave_drop_lt rest fun hoctets => ?_
        have hlength := List.length_pos_iff.2 hoctets
        rw [List.length_take]
        omega

/-- Deciding about a line leaves less to do. -/
theorem work_settle_lt {reader later : Reader} {held : List UInt8}
    (hplace : reader.place = .collected held) (h : reader.settle held = .on later) :
    later.work < reader.work := by
  simp only [settle] at h
  cases held with
  | nil => cases h
  | cons octet held =>
      split at h
      · cases h
      · split at h <;> cases h <;>
          exact work_lt_of_rank_lt rfl (by simp [hplace, Place.rank, Place.start])

/-- Passing over octets leaves less to do. -/
theorem work_skip_lt {reader later : Reader} {held : List UInt8}
    (hplace : reader.place = .skipping held) (h : reader.skip = .on later) :
    later.work < reader.work := by
  simp only [skip] at h
  split at h
  · rename_i hreads
    cases h
    exact work_lt_of_rank_lt rfl (by simp [hplace, Place.rank, Place.start])
  · cases h
  · rename_i octets rest hreads
    apply work_lt_of_weight_lt
    rw [hreads]
    split at h
    · rename_i length hlength
      cases h
      exact weight_leave_drop_lt rest fun _ => (lengthToEnd?_pos hlength).1
    · cases h
      simp only [weight]
      omega

/-- Every step leaves less to do. -/
theorem work_step_lt {reader later : Reader} (h : reader.step = .on later) :
    later.work < reader.work := by
  unfold step at h
  split at h
  · rename_i held hplace
    exact work_collect_lt hplace h
  · rename_i held hplace
    exact work_settle_lt hplace h
  · rename_i held hplace
    exact work_skip_lt hplace h

/-- The lines that come of the reads, and the fault that ended the reading, if any. -/
def run (reader : Reader) : List Line × Option Host.Fault :=
  match _h : reader.step with
  | .stop fault => (reader.done.reverse, fault)
  | .on later => later.run
termination_by reader.work
decreasing_by exact work_step_lt _h

end Reader

/-- The lines of a file that comes in the given reads, through a buffer of the given capacity. -/
def readLines (capacity : Nat) (reads : List Read) : List Line × Option Host.Fault :=
  (Reader.start (Read.buffered capacity reads)).run

end StaticMulticast.Configuration
