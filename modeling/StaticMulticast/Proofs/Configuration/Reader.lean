import StaticMulticast.Proofs.Configuration.Data
import StaticMulticast.Proofs.Configuration.Line

/-!
# The reader and the lines of the data

Wherever the reader is, what it will make of the reads that are left is determined by the octets it
holds and the data that is still heard: this is its `outcome`. A step leaves the outcome as it is
(`Reader.step_keeps`), so the reader finds the lines of the data and nothing else. It never holds
more octets than it may.
-/

namespace StaticMulticast.Configuration

open Host (Read)

/-! ## Pieces -/

/-- Where a line ends in a piece, its end is the first line end. -/
theorem take_of_lengthToEnd? {piece : List UInt8} {length : Nat}
    (h : lengthToEnd? piece = some length) :
    ∃ front, lineEnd ∉ front ∧ piece.take length = front ++ [lineEnd] := by
  obtain ⟨index, hindex, rfl⟩ := Option.map_eq_some_iff.1 h
  obtain ⟨hlt, hend, hbefore⟩ := List.findIdx?_eq_some_iff_getElem.1 hindex
  refine ⟨piece.take index, ?_, ?_⟩
  · intro hmem
    obtain ⟨position, hposition, heq⟩ := List.mem_take_iff_getElem.1 hmem
    exact hbefore position (by omega) (beq_iff_eq.2 heq)
  · rw [List.take_succ_eq_append_getElem hlt, beq_iff_eq.1 hend]

/-- A line ends nowhere in a piece that has no line end. -/
theorem notMem_of_lengthToEnd? {piece : List UInt8} (h : lengthToEnd? piece = none) :
    lineEnd ∉ piece := by
  have hall := List.findIdx?_eq_none_iff.1 (Option.map_eq_none_iff.1 h)
  intro hmem
  exact absurd (hall lineEnd hmem) (by simp)

/-! ## Texts to come -/

/-- The texts of the lines that octets already held and the data of the reads make up, and the fault
that ends them. -/
def textsAhead (held : List UInt8) (reads : List Read) :
    List (Except Rejection String) × Option Host.Fault :=
  let coming := heard (countAfter 0 held) reads
  ((linesUntil coming.2 (held ++ coming.1)).map fun octets => (Line.whole octets).text, coming.2)

variable {held : List UInt8} {reads : List Read}

/-- Octets may be taken from the reads to those that are held. -/
theorem textsAhead_take (held octets : List UInt8) (count : Nat) (reads : List Read) :
    textsAhead (held ++ octets.take count) (leave (octets.drop count) reads) =
      textsAhead held (.data octets :: reads) := by
  have htake := heard_append (countAfter 0 held) (octets.take count) (octets.drop count) reads
  rw [List.take_append_drop] at htake
  simp only [textsAhead, heard_leave, countAfter_append, htake, List.append_assoc]

/-- Nothing comes of the end of the file but a line of the octets that are held. -/
theorem textsAhead_nil (hend : lineEnd ∉ held) (hne : held ≠ []) :
    textsAhead held [] = ([(Line.whole held).text], none) := by
  simp only [textsAhead, heard, linesUntil, List.append_nil, wholeLines_of_notMem hend hne,
    List.map_cons, List.map_nil]

/-- Octets up to a line end make up a line, and what comes after it stands alone. -/
theorem textsAhead_append_lineEnd (hend : lineEnd ∉ held) (reads : List Read) :
    textsAhead (held ++ [lineEnd]) reads =
      ((Line.whole held).text :: (textsAhead [] reads).1, (textsAhead [] reads).2) := by
  have hcount : countAfter 0 [] = 0 := rfl
  simp only [textsAhead, countAfter_append_lineEnd, hcount, List.append_assoc,
    List.singleton_append, linesUntil_append_cons _ hend, List.map_cons, List.nil_append]

/-- A fault drops the octets that are held without a line end. -/
theorem textsAhead_failure (hend : lineEnd ∉ held) (fault : Host.Fault) (reads : List Read)
    (h : ¬ (fault.kind = .interrupted ∧ countAfter 0 held < heldAtMost)) :
    textsAhead held (.failure fault :: reads) = ([], some fault) := by
  simp only [textsAhead, heard, if_neg h, linesUntil, List.append_nil, endedLines_of_notMem hend,
    List.map_nil]

/-- Where a line that is too long does not end, it is the last one, unless a fault drops it. -/
theorem texts_of_long_end {octets : List UInt8} (hend : lineEnd ∉ octets)
    (hlong : longestLine + 1 < octets.length) (fault : Option Host.Fault) :
    (linesUntil fault octets).map (fun octets => (Line.whole octets).text) =
      if fault.isSome then [] else [.error .tooLong] := by
  cases fault with
  | some fault => simp [linesUntil, endedLines_of_notMem hend]
  | none =>
      have hne : octets ≠ [] := List.ne_nil_of_length_pos (by omega)
      simp [linesUntil, wholeLines_of_notMem hend hne, Line.text_of_long hend hlong]

/-- Where a line that is too long ends, the lines after it follow. -/
theorem texts_of_long_append {piece : List UInt8} (hpiece : lineEnd ∉ piece)
    (hlong : longestLine + 1 < piece.length) (fault : Option Host.Fault) (rest : List UInt8) :
    (linesUntil fault (piece ++ lineEnd :: rest)).map (fun octets => (Line.whole octets).text) =
      .error .tooLong :: (linesUntil fault rest).map fun octets => (Line.whole octets).text := by
  rw [linesUntil_append_cons fault hpiece, List.map_cons, Line.text_of_long hpiece hlong]

/-- Once the current line is too long, it does not matter which octets it begins with. -/
theorem texts_of_long_start {start other : List UInt8} (hstart : lineEnd ∉ start)
    (hother : lineEnd ∉ other) (hlong : longestLine + 1 < start.length)
    (hlong' : longestLine + 1 < other.length) (fault : Option Host.Fault) (octets : List UInt8) :
    (linesUntil fault (start ++ octets)).map (fun octets => (Line.whole octets).text) =
      (linesUntil fault (other ++ octets)).map fun octets => (Line.whole octets).text := by
  have hlonger : ∀ front piece : List UInt8, longestLine + 1 < front.length →
      longestLine + 1 < (front ++ piece).length := by
    intro front piece hlong
    rw [List.length_append]
    omega
  -- Either way the line is rejected unread, and what comes after it is the same.
  obtain hend | ⟨piece, rest, hpiece, rfl⟩ := notMem_or_exists_first_lineEnd octets
  · rw [texts_of_long_end (by simp [hstart, hend]) (hlonger _ _ hlong),
      texts_of_long_end (by simp [hother, hend]) (hlonger _ _ hlong')]
  · simp only [← List.append_assoc]
    rw [texts_of_long_append (by simp [hstart, hpiece]) (hlonger _ _ hlong),
      texts_of_long_append (by simp [hother, hpiece]) (hlonger _ _ hlong')]

/-- As many octets as can be held are too many for a line, even without a carriage return. -/
theorem longestLine_lt_of_length_eq (hlength : held.length = heldAtMost) :
    longestLine + 1 < held.length := by
  rw [hlength, heldAtMost]
  omega

/-- The rest of a line that is too long can be passed over. -/
theorem textsAhead_skip (hend : lineEnd ∉ held) (hlength : held.length = heldAtMost)
    {octets : List UInt8} (hoctets : lineEnd ∉ octets) (reads : List Read) :
    textsAhead held (.data octets :: reads) = textsAhead held reads := by
  have hcount : countAfter 0 held = heldAtMost := by
    rw [countAfter_of_notMem hend (Nat.zero_le _)]
    omega
  have hcount' : countAfter heldAtMost octets = heldAtMost := by
    rw [countAfter_of_notMem hoctets (Nat.le_refl _)]
    omega
  have hlong := longestLine_lt_of_length_eq hlength
  have hlong' : longestLine + 1 < (held ++ octets).length := by
    rw [List.length_append]
    omega
  have hmem : lineEnd ∉ held ++ octets := by simp [hend, hoctets]
  -- The line is too long with the octets or without them, so only where it ends counts.
  simp only [textsAhead, heard, hcount, hcount', ← List.append_assoc]
  rw [texts_of_long_start hmem hend hlong' hlong]

/-! ## Where the reader can be -/

/-- What is held fits the place. Only a line that has been collected may have a line end, which is
then its last octet. Otherwise, nothing more could be held of it or there is nothing more. -/
def Place.Fits (reads : List Read) : Place → Prop
  | .collecting held => lineEnd ∉ held ∧ held.length ≤ heldAtMost
  | .collected held =>
      (∃ front, lineEnd ∉ front ∧ held = front ++ [lineEnd] ∧ held.length ≤ heldAtMost) ∨
        (lineEnd ∉ held ∧ (held.length = heldAtMost ∨ (held.length < heldAtMost ∧ reads = [])))
  | .skipping held => lineEnd ∉ held ∧ held.length = heldAtMost

namespace Reader

/-- What is held fits the place that the reader has come to. -/
def Fits (reader : Reader) : Prop := reader.place.Fits reader.reads

/-- The texts of the lines read so far and of those to come, and the fault that ends them. -/
def outcome (reader : Reader) : List (Except Rejection String) × Option Host.Fault :=
  let ahead := textsAhead reader.place.held reader.reads
  (reader.done.reverse.map Line.text ++ ahead.1, ahead.2)

/-- The reader fits before the first octet. -/
theorem fits_start (reads : List Read) : (start reads).Fits :=
  ⟨List.not_mem_nil, Nat.zero_le _⟩

/-- No more is held than may be. -/
theorem Fits.length_held_le {reader : Reader} (h : reader.Fits) :
    reader.place.held.length ≤ heldAtMost := by
  obtain ⟨done, place, reads⟩ := reader
  cases place with
  | collecting held => exact h.2
  | collected held =>
      obtain ⟨_, -, -, hle⟩ | ⟨-, heq | ⟨hlt, -⟩⟩ := h
      · exact hle
      · exact Nat.le_of_eq heq
      · exact Nat.le_of_lt hlt
  | skipping held => exact Nat.le_of_eq h.2

/-- What a step comes to fits the state before it: either it goes on to a state that fits and has
the same outcome, or it stops with the outcome. -/
def Keeps (reader : Reader) : Advance → Prop
  | .on later => later.Fits ∧ later.outcome = reader.outcome
  | .stop fault => reader.outcome = (reader.done.reverse.map Line.text, fault)

variable {done : List Line} {held : List UInt8} {reads : List Read}

/-- Octets that are collected stay in the outcome. -/
theorem outcome_take (done : List Line) (held octets : List UInt8) (count : Nat)
    (reads : List Read) {place : Place} (hplace : place.held = held ++ octets.take count) :
    outcome ⟨done, place, leave (octets.drop count) reads⟩ =
      outcome ⟨done, .collecting held, .data octets :: reads⟩ := by
  have hheld : (Place.collecting held).held = held := rfl
  simp only [outcome, hplace, textsAhead_take, hheld]

/-- Collecting at a fault keeps the outcome. -/
theorem collect_failure_keeps (hend : lineEnd ∉ held) (hlength : held.length ≤ heldAtMost)
    (hroom : heldAtMost - held.length ≠ 0) (fault : Host.Fault) :
    Keeps ⟨done, .collecting held, .failure fault :: reads⟩
      (collect ⟨done, .collecting held, .failure fault :: reads⟩ held) := by
  have hcount : countAfter 0 held = held.length := by
    rw [countAfter_of_notMem hend (Nat.zero_le _)]
    omega
  simp only [collect, if_neg hroom]
  split
  · rename_i hinterrupted
    have hheard : heard (countAfter 0 held) (.failure fault :: reads) =
        heard (countAfter 0 held) reads := if_pos ⟨hinterrupted, by omega⟩
    refine ⟨⟨hend, hlength⟩, ?_⟩
    simp only [outcome, Place.held, textsAhead, hheard]
  · rename_i hfault
    have hahead := textsAhead_failure hend fault reads fun h => hfault h.1
    simp only [Keeps, outcome, Place.held, hahead, List.append_nil]

/-- Collecting from a piece keeps the outcome. -/
theorem collect_data_keeps (hend : lineEnd ∉ held) (hroom : heldAtMost - held.length ≠ 0)
    (octets : List UInt8) :
    Keeps ⟨done, .collecting held, .data octets :: reads⟩
      (collect ⟨done, .collecting held, .data octets :: reads⟩ held) := by
  simp only [collect, if_neg hroom]
  have hpiece := List.length_take_le (heldAtMost - held.length) octets
  split
  · rename_i length hto
    obtain ⟨front, hfront, htake⟩ := take_of_lengthToEnd? hto
    have hle := (lengthToEnd?_pos hto).2
    -- The line ends within the room, so the same octets are taken of the whole data.
    have hsame : (octets.take (heldAtMost - held.length)).take length = octets.take length := by
      rw [List.take_take, Nat.min_eq_left (by omega)]
    refine ⟨.inl ⟨held ++ front, by simp [hend, hfront], ?_, ?_⟩, ?_⟩
    · rw [htake, List.append_assoc]
    · rw [List.length_append, List.length_take]
      omega
    · exact outcome_take done held octets length reads (congrArg _ hsame)
  · rename_i hto
    have hnone := notMem_of_lengthToEnd? hto
    have hsame : octets.take (octets.take (heldAtMost - held.length)).length =
        octets.take (heldAtMost - held.length) := by
      rw [List.length_take, ← List.take_eq_take_min]
    refine ⟨⟨by simp [hend, hnone], ?_⟩, ?_⟩
    · rw [List.length_append]
      omega
    · exact outcome_take done held octets _ reads (congrArg (held ++ ·) hsame.symm)

/-- Collecting keeps the outcome. -/
theorem collect_keeps (hend : lineEnd ∉ held) (hlength : held.length ≤ heldAtMost) :
    Keeps ⟨done, .collecting held, reads⟩ (collect ⟨done, .collecting held, reads⟩ held) := by
  by_cases hroom : heldAtMost - held.length = 0
  · simp only [collect, if_pos hroom]
    exact ⟨.inr ⟨hend, .inl (by omega)⟩, rfl⟩
  cases reads with
  | nil =>
      simp only [collect, if_neg hroom]
      exact ⟨.inr ⟨hend, .inr ⟨by omega, rfl⟩⟩, rfl⟩
  | cons read reads =>
      cases read with
      | failure fault => exact collect_failure_keeps hend hlength hroom fault
      | data octets => exact collect_data_keeps hend hroom octets

/-- Deciding about a line keeps the outcome. -/
theorem settle_keeps (h : (Place.collected held).Fits reads) :
    Keeps ⟨done, .collected held, reads⟩ (settle ⟨done, .collected held, reads⟩ held) := by
  obtain ⟨front, hfront, rfl, hlength⟩ | ⟨hend, hlength⟩ := h
  · have hempty : (front ++ [lineEnd]).isEmpty = false := by simp
    have hlast : (front ++ [lineEnd]).getLast? = some lineEnd := List.getLast?_concat
    simp only [settle, hempty, hlast, decide_true, Bool.or_true, if_true, Bool.false_eq_true,
      if_false]
    refine ⟨⟨List.not_mem_nil, Nat.zero_le _⟩, ?_⟩
    simp only [outcome, Place.held, Place.start, textsAhead_append_lineEnd hfront,
      List.reverse_cons, List.map_append, List.map_cons, List.map_nil,
      Line.text_append_lineEnd hfront, List.append_assoc, List.singleton_append]
  -- Without a line end there are as many octets as can be held, or they are the last of the file.
  · have hlast : held.getLast? ≠ some lineEnd := fun h => hend (List.mem_of_getLast? h)
    obtain hfull | ⟨hlt, rfl⟩ := hlength
    · have hempty : held.isEmpty = false := by
        cases held with
        | nil => cases hfull
        | cons octet held => rfl
      have hnone : (held.length < heldAtMost || held.getLast? = some lineEnd) = false := by
        simp [hfull, hlast]
      simp only [settle, hempty, hnone, Bool.false_eq_true, if_false]
      exact ⟨⟨hend, hfull⟩, rfl⟩
    · cases held with
      | nil => simp [settle, Keeps, outcome, Place.held, textsAhead, heard, linesUntil_nil]
      | cons octet held =>
          have hahead := textsAhead_nil hend (List.cons_ne_nil _ _)
          simp only [settle, List.isEmpty_cons, Bool.false_eq_true, if_false, hlt, decide_true,
            Bool.true_or, if_true]
          refine ⟨⟨List.not_mem_nil, Nat.zero_le _⟩, ?_⟩
          simp only [outcome, Place.held, Place.start, hahead]
          simp [textsAhead, heard, linesUntil_nil]

/-- Passing over a piece keeps the outcome. -/
theorem skip_data_keeps (hend : lineEnd ∉ held) (hlength : held.length = heldAtMost)
    (octets : List UInt8) :
    Keeps ⟨done, .skipping held, .data octets :: reads⟩
      (skip ⟨done, .skipping held, .data octets :: reads⟩) := by
  simp only [skip]
  split
  · rename_i length hto
    obtain ⟨front, hfront, htake⟩ := take_of_lengthToEnd? hto
    -- The line that ends here is the held one with what was passed over: it is too long.
    have hline : lineEnd ∉ held ++ front := by simp [hend, hfront]
    have hlong := longestLine_lt_of_length_eq hlength
    have hlonger : longestLine + 1 < (held ++ front).length := by
      rw [List.length_append]
      omega
    refine ⟨⟨List.not_mem_nil, Nat.zero_le _⟩, ?_⟩
    simp only [outcome, Place.held, Place.start]
    rw [← textsAhead_take held octets length reads, htake, ← List.append_assoc,
      textsAhead_append_lineEnd hline, Line.text_of_long hline hlonger]
    simp [Line.text]
  · rename_i hto
    have hskip := textsAhead_skip hend hlength (notMem_of_lengthToEnd? hto) reads
    refine ⟨⟨hend, hlength⟩, ?_⟩
    simp only [outcome, Place.held, hskip]

/-- Passing over octets keeps the outcome. -/
theorem skip_keeps (hend : lineEnd ∉ held) (hlength : held.length = heldAtMost) :
    Keeps ⟨done, .skipping held, reads⟩ (skip ⟨done, .skipping held, reads⟩) := by
  cases reads with
  | nil =>
      have hlong := longestLine_lt_of_length_eq hlength
      have hne : held ≠ [] := List.ne_nil_of_length_pos (by omega)
      refine ⟨⟨List.not_mem_nil, Nat.zero_le _⟩, ?_⟩
      simp only [outcome, Place.held, Place.start, textsAhead_nil hend hne,
        Line.text_of_long hend hlong]
      simp [textsAhead, heard, linesUntil_nil, Line.text]
  | cons read reads =>
      cases read with
      | failure fault =>
          -- An interruption ends the reading here: only while octets can be held is it tried again.
          have hcount : countAfter 0 held = heldAtMost := by
            rw [countAfter_of_notMem hend (Nat.zero_le _)]
            omega
          have hahead := textsAhead_failure hend fault reads fun h => absurd h.2 (by omega)
          simp only [skip, Keeps, outcome, Place.held, hahead, List.append_nil]
      | data octets => exact skip_data_keeps hend hlength octets

/-- A step keeps the outcome. -/
theorem step_keeps {reader : Reader} (h : reader.Fits) : reader.Keeps reader.step := by
  obtain ⟨done, place, reads⟩ := reader
  cases place with
  | collecting held => exact collect_keeps h.1 h.2
  | collected held => exact settle_keeps h
  | skipping held => exact skip_keeps h.1 h.2

/-- The reader finds the texts of the lines to come. -/
theorem run_texts {reader : Reader} (h : reader.Fits) :
    (reader.run.1.map Line.text, reader.run.2) = reader.outcome := by
  induction reader using Reader.run.induct with
  | case1 reader fault hstep =>
      have hkeeps := step_keeps h
      rw [hstep] at hkeeps
      rw [Reader.run, hstep]
      exact hkeeps.symm
  | case2 reader later hstep ih =>
      have hkeeps := step_keeps h
      rw [hstep] at hkeeps
      rw [Reader.run, hstep]
      exact (ih hkeeps.1).trans hkeeps.2

end Reader

/-! ## Files -/

/-- The lines of a file are those of the data that is heard of it, up to their texts. -/
theorem readLines_texts {capacity : Nat} (hcapacity : 0 < capacity) (reads : List Read) :
    ((readLines capacity reads).1.map Line.text, (readLines capacity reads).2) =
      ((linesUntil (heard 0 reads).2 (heard 0 reads).1).map fun octets =>
        (Line.whole octets).text, (heard 0 reads).2) := by
  have hbuffered := heard_buffered hcapacity 0 reads
  have hrun := Reader.run_texts (Reader.fits_start (Read.buffered capacity reads))
  have hcount : countAfter 0 [] = 0 := rfl
  rw [readLines, hrun]
  simp only [Reader.outcome, Reader.start, Place.start, Place.held, List.reverse_nil,
    List.map_nil, List.nil_append, textsAhead, hcount, hbuffered]

end StaticMulticast.Configuration
