import StaticMulticast.Configuration.Reader

/-!
# Data and its lines

What the reads of a file deliver, and the lines of that data by their ends alone. Neither has to do
with how the data is divided into reads, or with the buffer that it passes through.
-/

namespace StaticMulticast.Configuration

open Host (Read)

/-! ## Lines -/

/-- The lines of data that comes to its end, each without the line end. What stands after the last
line end is a line too, unless that is nothing. -/
def wholeLines (octets : List UInt8) : List (List UInt8) :=
  let pieces := octets.splitOn lineEnd
  if pieces.getLast? = some [] then pieces.dropLast else pieces

/-- The lines of data that are ended by a line end, without it. -/
def endedLines (octets : List UInt8) : List (List UInt8) :=
  (octets.splitOn lineEnd).dropLast

/-- The lines of data that comes to its end or is cut off by a fault. -/
def linesUntil (fault : Option Host.Fault) (octets : List UInt8) : List (List UInt8) :=
  match fault with
  | none => wholeLines octets
  | some _ => endedLines octets

variable {fault : Option Host.Fault} {piece octets : List UInt8}

/-- The first line ends at the first line end. -/
theorem linesUntil_append_cons (fault : Option Host.Fault) (h : lineEnd ∉ piece)
    (octets : List UInt8) :
    linesUntil fault (piece ++ lineEnd :: octets) = piece :: linesUntil fault octets := by
  have hsplit := List.splitOn_append_cons_self_of_not_mem h octets
  have hne := List.splitOn_ne_nil lineEnd octets
  have hlast : (piece :: octets.splitOn lineEnd).getLast? = (octets.splitOn lineEnd).getLast? :=
    List.getLast?_cons_of_ne_nil hne
  cases fault with
  | some fault => simp only [linesUntil, endedLines, hsplit, List.dropLast_cons_of_ne_nil hne]
  | none =>
      simp only [linesUntil, wholeLines, hsplit, hlast, List.dropLast_cons_of_ne_nil hne]
      split <;> rfl

/-- No data has no lines. -/
theorem linesUntil_nil (fault : Option Host.Fault) : linesUntil fault [] = [] := by
  cases fault <;> rfl

/-- Data without a line end is one line, if it is any. -/
theorem wholeLines_of_notMem (h : lineEnd ∉ piece) (hne : piece ≠ []) :
    wholeLines piece = [piece] := by
  simp [wholeLines, List.splitOn_eq_singleton h, hne]

/-- Data without a line end has no line that is ended. -/
theorem endedLines_of_notMem (h : lineEnd ∉ piece) : endedLines piece = [] := by
  simp [endedLines, List.splitOn_eq_singleton h]

/-- Data has no line end, or a first one. -/
theorem notMem_or_exists_first_lineEnd (octets : List UInt8) :
    lineEnd ∉ octets ∨ ∃ piece rest, lineEnd ∉ piece ∧ octets = piece ++ lineEnd :: rest := by
  by_cases h : lineEnd ∈ octets
  · obtain ⟨piece, rest, heq, hpiece⟩ := List.eq_append_cons_of_mem h
    exact .inr ⟨piece, rest, hpiece, heq⟩
  · exact .inl h

/-- What holds of data without a line end, and of data with one if it holds of what comes after the
first, holds of all data. -/
@[elab_as_elim]
theorem lineInduction {motive : List UInt8 → Prop} (octets : List UInt8)
    (unended : ∀ piece, lineEnd ∉ piece → motive piece)
    (line : ∀ piece rest, lineEnd ∉ piece → motive rest → motive (piece ++ lineEnd :: rest)) :
    motive octets := by
  generalize hlength : octets.length = length
  induction length using Nat.strongRecOn generalizing octets with
  | ind length ih =>
      obtain hend | ⟨piece, rest, hpiece, rfl⟩ := notMem_or_exists_first_lineEnd octets
      · exact unended octets hend
      -- After the first line end there are fewer octets, so the induction is on their number.
      · have hshorter : rest.length < length := by
          simp only [List.length_append, List.length_cons] at hlength
          omega
        exact line piece rest hpiece (ih rest.length hshorter rest rfl)

/-- No line has a line end in it. -/
theorem lineEnd_notMem_of_mem_wholeLines (h : piece ∈ wholeLines octets) : lineEnd ∉ piece := by
  replace h : piece ∈ linesUntil none octets := h
  induction octets using lineInduction with
  | unended octets hend =>
      by_cases hne : octets = []
      · rw [hne, linesUntil_nil] at h
        cases h
      · rw [linesUntil, wholeLines_of_notMem hend hne] at h
        exact List.mem_singleton.1 h ▸ hend
  | line front rest hfront ih =>
      rw [linesUntil_append_cons none hfront] at h
      rcases List.mem_cons.1 h with rfl | h
      · exact hfront
      · exact ih h

/-! ## What is heard -/

/-- How many octets of the current line there are after more octets, counted up to as many as can be
held. -/
def countAfter (count : Nat) (octets : List UInt8) : Nat :=
  octets.foldl (fun count octet => if octet = lineEnd then 0 else min (count + 1) heldAtMost) count

/-- The data that reads deliver in the middle of a line of which there are `count` octets, and the
fault that cuts the data off. A read that was interrupted is tried again, but not once the line is
too long to be held. -/
def heard (count : Nat) : List Read → List UInt8 × Option Host.Fault
  | [] => ([], none)
  | .failure fault :: rest =>
      if fault.kind = .interrupted ∧ count < heldAtMost then heard count rest
      else ([], some fault)
  | .data octets :: rest =>
      let later := heard (countAfter count octets) rest
      (octets ++ later.1, later.2)

variable {count : Nat} {reads : List Read}

/-- The count goes on from octets to the octets after them. -/
theorem countAfter_append (count : Nat) (front rest : List UInt8) :
    countAfter count (front ++ rest) = countAfter (countAfter count front) rest :=
  List.foldl_append

/-- After a line end, the count begins anew. -/
theorem countAfter_append_lineEnd (count : Nat) (octets : List UInt8) :
    countAfter count (octets ++ [lineEnd]) = 0 := by
  rw [countAfter_append]
  rfl

/-- Without a line end, every octet counts until no more can be held. -/
theorem countAfter_of_notMem (h : lineEnd ∉ octets) (hcount : count ≤ heldAtMost) :
    countAfter count octets = min (count + octets.length) heldAtMost := by
  induction octets generalizing count with
  | nil => exact (Nat.min_eq_left hcount).symm
  | cons octet octets ih =>
      obtain ⟨hne, hrest⟩ := not_or.1 (mt List.mem_cons.2 h)
      have hstep : countAfter count (octet :: octets) =
          countAfter (min (count + 1) heldAtMost) octets := by
        simp only [countAfter, List.foldl_cons, if_neg (Ne.symm hne)]
      rw [hstep, ih hrest (Nat.min_le_right _ _), List.length_cons]
      omega

/-- A piece of data can be heard in two parts. -/
theorem heard_append (count : Nat) (front octets : List UInt8) (reads : List Read) :
    heard count (.data (front ++ octets) :: reads) =
      (front ++ (heard (countAfter count front) (.data octets :: reads)).1,
        (heard (countAfter count front) (.data octets :: reads)).2) := by
  simp only [heard, countAfter_append, List.append_assoc]

/-- What is left of a piece is heard, even if that is nothing. -/
theorem heard_leave (count : Nat) (octets : List UInt8) (reads : List Read) :
    heard count (leave octets reads) = heard count (.data octets :: reads) := by
  cases octets with
  | nil => rfl
  | cons octet octets => rfl

/-- Reads without a fault deliver all their data. -/
theorem heard_data (count : Nat) (chunks : List (List UInt8)) :
    heard count (chunks.map .data) = (chunks.flatten, none) := by
  induction chunks generalizing count with
  | nil => rfl
  | cons chunk chunks ih => simp only [List.map_cons, heard, ih, List.flatten_cons]

/-! ## The buffer -/

/-- Pieces of data are heard like the data that they make up. -/
theorem heard_pieces (count : Nat) (pieces : List (List UInt8)) (reads : List Read) :
    heard count (pieces.map .data ++ reads) =
      heard count (.data pieces.flatten :: reads) := by
  induction pieces generalizing count with
  | nil => rfl
  | cons piece pieces ih =>
      rw [List.flatten_cons, heard_append, ← ih]
      rfl

/-- Cutting data up loses nothing of it, if the pieces are not empty and enough of them are
allowed. -/
theorem flatten_cut {bound size : Nat} (hsize : 0 < size) (hbound : octets.length ≤ bound) :
    (Read.cut bound size octets).flatten = octets := by
  induction bound generalizing octets with
  | zero => exact (List.eq_nil_of_length_eq_zero (Nat.le_zero.1 hbound)).symm
  | succ bound ih =>
      cases octets with
      | nil => rfl
      | cons octet octets =>
          have hdrop : ((octet :: octets).drop size).length ≤ bound := by
            simp only [List.length_drop, List.length_cons] at hbound ⊢
            omega
          show (octet :: octets).take size ++ (Read.cut bound size _).flatten = _
          rw [ih hdrop, List.take_append_drop]

/-- No piece is empty, if the pieces may have any octets. -/
theorem ne_nil_of_mem_cut {bound size : Nat} {piece : List UInt8} (hsize : 0 < size)
    (h : piece ∈ Read.cut bound size octets) : piece ≠ [] := by
  induction bound generalizing octets with
  | zero => cases h
  | succ bound ih =>
      cases octets with
      | nil => cases h
      | cons octet octets =>
          obtain rfl | h := List.mem_cons.1 h
          · simp [Nat.pos_iff_ne_zero.1 hsize]
          · exact ih h

/-- A read through a buffer gives at least one octet, unless it fails: that a read gives none is the
end of the file. -/
theorem ne_nil_of_mem_buffered {capacity : Nat} {reads : List Read} {piece : List UInt8}
    (h : .data piece ∈ Read.buffered capacity reads) : piece ≠ [] := by
  induction reads with
  | nil => cases h
  | cons read reads ih =>
      cases read with
      | failure fault =>
          obtain h | h := List.mem_cons.1 h
          · cases h
          · exact ih h
      | data octets =>
          cases octets with
          | nil => exact ih h
          | cons octet octets =>
              simp only [Read.buffered] at h
              split at h
              · cases h
              · rename_i hcapacity
                obtain h | h := List.mem_append.1 h
                · obtain ⟨part, hpart, heq⟩ := List.mem_map.1 h
                  cases heq
                  exact ne_nil_of_mem_cut (Nat.pos_of_ne_zero hcapacity) hpart
                · exact ih h

/-- A buffer of any capacity lets the same data through. -/
theorem heard_buffered {capacity : Nat} (hcapacity : 0 < capacity) (count : Nat)
    (reads : List Read) : heard count (Read.buffered capacity reads) = heard count reads := by
  induction reads generalizing count with
  | nil => rfl
  | cons read reads ih =>
      cases read with
      | failure fault => simp only [Read.buffered, heard, ih]
      | data octets =>
          cases octets with
          | nil => exact ih count
          | cons octet octets =>
              simp only [Read.buffered, if_neg (Nat.pos_iff_ne_zero.1 hcapacity)]
              rw [heard_pieces, flatten_cut hcapacity (Nat.le_refl _)]
              simp only [heard, ih]

end StaticMulticast.Configuration
