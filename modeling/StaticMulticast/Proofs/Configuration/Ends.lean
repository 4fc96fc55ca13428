import Mathlib.Data.List.DropRight
import Mathlib.Data.List.SplitBy
import StaticMulticast.Proofs.Configuration.Data
import StaticMulticast.Proofs.Configuration.Line

/-!
# Where lines end

Data falls into a part that stops at its last line end, and a rest in which no line ends. The lines
of the data are those of the part, and the rest. Lines can be taken with the line ends that they
have, so that data is nothing but its lines (`flatten_linesWithEnd`), and some of its lines are data
with those lines (`linesWithEnd_flatten_of_sublist`).
-/

namespace StaticMulticast.Configuration

/-- No line is unfinished in the data. -/
def Closed (octets : List UInt8) : Prop :=
  octets = [] ∨ octets.getLast? = some lineEnd

/-- The data up to its last line end, and with it. -/
def ended (octets : List UInt8) : List UInt8 :=
  octets.rdropWhile (· != lineEnd)

/-- The data after its last line end. -/
def unended (octets : List UInt8) : List UInt8 :=
  octets.rtakeWhile (· != lineEnd)

/-- The lines of data, each with the line end that it has. -/
def linesWithEnd (octets : List UInt8) : List (List UInt8) :=
  octets.splitBy fun octet _ => octet != lineEnd

variable {octets front piece : List UInt8}

/-! ## The last line end -/

/-- The two parts make up the data. -/
theorem ended_append_unended (octets : List UInt8) : ended octets ++ unended octets = octets :=
  List.rdropWhile_append_rtakeWhile

/-- No line ends in the rest. -/
theorem lineEnd_notMem_unended (octets : List UInt8) : lineEnd ∉ unended octets := by
  intro hmem
  have htest := List.mem_rtakeWhile_imp hmem
  simp at htest

/-- No line is unfinished in the part that stops at the last line end. -/
theorem closed_ended (octets : List UInt8) : Closed (ended octets) := by
  by_cases hne : ended octets = []
  · exact .inl hne
  · have htest := List.rdropWhile_last_not (· != lineEnd) octets hne
    rw [Closed, List.getLast?_eq_some_getLast hne]
    rw [bne_iff_ne, not_not] at htest
    exact .inr (congrArg some htest)

/-- Of the parts with which data begins, none in which no line is unfinished is longer. -/
theorem prefix_ended (hfront : front <+: octets) (hclosed : Closed front) :
    front <+: ended octets := by
  have hended : ended octets <+: octets := List.rdropWhile_prefix _ _
  obtain h | ⟨more, rfl⟩ := List.prefix_or_prefix_of_prefix hfront hended
  · exact h
  -- More than the part would stop at a line end in the rest.
  · have hmore : more <+: unended octets := by
      refine (List.prefix_append_right_inj (ended octets)).1 ?_
      rwa [ended_append_unended]
    suffices hnil : more = [] by simp [hnil]
    by_contra hne
    have hlast : (ended octets ++ more).getLast? = some (more.getLast hne) := by
      rw [List.getLast?_append_of_ne_nil _ hne, List.getLast?_eq_some_getLast hne]
    obtain hnil | hend := hclosed
    · exact hne (List.append_eq_nil_iff.1 hnil).2
    · have heq : more.getLast hne = lineEnd := Option.some.inj (hlast.symm.trans hend)
      exact lineEnd_notMem_unended octets (hmore.subset (heq ▸ List.getLast_mem hne))

/-- The data up to its last line end does not depend on what follows without one. -/
theorem ended_append (hfront : Closed front) (hend : lineEnd ∉ piece) :
    ended (front ++ piece) = front := by
  have hdropped : ∀ octet ∈ piece.reverse, (octet != lineEnd) = true := fun octet hmem =>
    bne_iff_ne.2 fun heq => hend (heq ▸ List.mem_reverse.1 hmem)
  have hkept : ended front = front := by
    refine List.rdropWhile_eq_self_iff.2 fun hne => ?_
    obtain hnil | hlast := hfront
    · exact absurd hnil hne
    · rw [List.getLast?_eq_some_getLast hne, Option.some.injEq] at hlast
      simp [hlast]
  rw [ended, List.rdropWhile, List.reverse_append, List.dropWhile_append_of_pos hdropped]
  exact hkept

/-- What follows without a line end is the rest. -/
theorem unended_append (hfront : Closed front) (hend : lineEnd ∉ piece) :
    unended (front ++ piece) = piece := by
  have happend := ended_append_unended (front ++ piece)
  rw [ended_append hfront hend] at happend
  exact List.append_cancel_left happend

/-- As many octets of the current line count as there are in the rest, up to as many as can be
held. -/
theorem countAfter_zero (octets : List UInt8) :
    countAfter 0 octets = min (unended octets).length heldAtMost := by
  have hended : countAfter 0 (ended octets) = 0 := by
    obtain hnil | hend := closed_ended octets
    · rw [hnil]
      rfl
    · obtain ⟨start, hstart⟩ := List.getLast?_eq_some_iff.1 hend
      rw [hstart, countAfter_append_lineEnd]
  conv => lhs; rw [← ended_append_unended octets]
  rw [countAfter_append, hended, countAfter_of_notMem (lineEnd_notMem_unended octets)
    (Nat.zero_le _), Nat.zero_add]

/-! ## Lines of the two parts -/

/-- Data after which lines go on has a line end, or is none. -/
theorem Closed.eq_nil_of_notMem (h : Closed octets) (hend : lineEnd ∉ octets) : octets = [] :=
  h.resolve_right fun hlast => hend (List.mem_of_getLast? hlast)

/-- No line is unfinished after the first line end either. -/
theorem Closed.of_append_cons {rest : List UInt8} (h : Closed (piece ++ lineEnd :: rest)) :
    Closed rest := by
  by_cases hne : rest = []
  · exact .inl hne
  · refine .inr ?_
    obtain hnil | hlast := h
    · simp at hnil
    · rwa [List.getLast?_append_of_ne_nil _ (List.cons_ne_nil _ _),
        List.getLast?_cons_of_ne_nil hne] at hlast

/-- After data in which no line is unfinished, the lines are those of what follows. -/
theorem linesUntil_append (fault : Option Host.Fault) (h : Closed front) (rest : List UInt8) :
    linesUntil fault (front ++ rest) = wholeLines front ++ linesUntil fault rest := by
  induction front using lineInduction with
  | unended piece hpiece =>
      rw [h.eq_nil_of_notMem hpiece]
      rfl
  | line piece later hpiece ih =>
      have hfirst : wholeLines (piece ++ lineEnd :: later) = piece :: wholeLines later :=
        linesUntil_append_cons none hpiece later
      rw [List.append_assoc, List.cons_append, linesUntil_append_cons fault hpiece,
        ih h.of_append_cons, hfirst, List.cons_append]

/-- The lines that a fault leaves are those up to the last line end. -/
theorem endedLines_eq (octets : List UInt8) : endedLines octets = wholeLines (ended octets) := by
  have happend := linesUntil_append (some .missing) (closed_ended octets) (unended octets)
  rw [ended_append_unended] at happend
  rw [linesUntil, linesUntil, endedLines_of_notMem (lineEnd_notMem_unended octets),
    List.append_nil] at happend
  exact happend

/-! ## Lines with their ends -/

/-- Data is nothing but its lines. -/
theorem flatten_linesWithEnd (octets : List UInt8) : (linesWithEnd octets).flatten = octets :=
  List.flatten_splitBy _ octets

/-- Octets of which only the last can be a line end belong to one line. -/
theorem isChain_of_notMem_dropLast (h : lineEnd ∉ octets.dropLast) :
    octets.IsChain fun octet _ => octet != lineEnd := by
  refine List.isChain_iff_getElem.2 fun index hindex => ?_
  have hbefore : index < octets.dropLast.length := by
    rw [List.length_dropLast]
    omega
  have hmem : octets[index] ∈ octets.dropLast := by
    rw [← List.getElem_dropLast hbefore]
    exact List.getElem_mem hbefore
  exact bne_iff_ne.2 fun heq => h (heq ▸ hmem)

/-- Data without a line end is one line, if it is any. -/
theorem linesWithEnd_of_notMem (h : lineEnd ∉ piece) (hne : piece ≠ []) :
    linesWithEnd piece = [piece] :=
  List.splitBy_of_isChain hne
    (isChain_of_notMem_dropLast fun hmem => h (List.dropLast_subset piece hmem))

/-- The first line ends with the first line end. -/
theorem linesWithEnd_append_cons (h : lineEnd ∉ piece) (octets : List UInt8) :
    linesWithEnd (piece ++ lineEnd :: octets) = (piece ++ [lineEnd]) :: linesWithEnd octets := by
  have hflatten : ((piece ++ [lineEnd]) :: linesWithEnd octets).flatten =
      piece ++ lineEnd :: octets := by
    simp [flatten_linesWithEnd]
  rw [← hflatten]
  refine List.splitBy_flatten ?_ ?_ (List.isChain_cons.2 ⟨fun next hnext => ?_, ?_⟩)
  · simp [linesWithEnd]
  · refine List.forall_mem_cons.2 ⟨isChain_of_notMem_dropLast ?_, fun line hline => ?_⟩
    · rwa [List.dropLast_concat]
    · exact List.isChain_of_mem_splitBy hline
  · refine ⟨by simp, List.ne_nil_of_mem_splitBy (List.mem_of_mem_head? hnext), ?_⟩
    simp
  · exact List.isChain_getLast_head_splitBy (fun octet _ => octet != lineEnd) octets

/-- Without their ends, the lines of data are its lines. -/
theorem wholeLines_eq (octets : List UInt8) :
    wholeLines octets = (linesWithEnd octets).map (Line.before lineEnd) := by
  induction octets using lineInduction with
  | unended piece hpiece =>
      by_cases hne : piece = []
      · rw [hne]
        rfl
      · rw [wholeLines_of_notMem hpiece hne, linesWithEnd_of_notMem hpiece hne,
          List.map_singleton, Line.before_of_notMem hpiece]
  | line piece rest hpiece ih =>
      have hfirst : wholeLines (piece ++ lineEnd :: rest) = piece :: wholeLines rest :=
        linesUntil_append_cons none hpiece rest
      rw [hfirst, linesWithEnd_append_cons hpiece, List.map_cons, Line.before_append, ih]

/-- Some of the lines of data are the lines of what they make up. -/
theorem linesWithEnd_flatten_of_sublist {lines : List (List UInt8)}
    (h : lines.Sublist (linesWithEnd octets)) : linesWithEnd lines.flatten = lines := by
  have hnext := List.isChain_getLast_head_splitBy (fun octet _ => octet != lineEnd) octets
  refine List.splitBy_flatten (fun hmem => ?_) (fun line hline => ?_) ?_
  · exact List.nil_notMem_splitBy _ octets (h.subset hmem)
  · exact List.isChain_of_mem_splitBy (h.subset hline)
  -- That a line has an end if another follows does not depend on which one follows.
  · let Follows (first second : List UInt8) : Prop :=
      ∃ hfirst, ∃ _ : second ≠ [], (first.getLast hfirst != lineEnd) = false
    have : Trans Follows Follows Follows :=
      ⟨fun ⟨hfirst, _, hend⟩ ⟨_, hthird, _⟩ => ⟨hfirst, hthird, hend⟩⟩
    exact List.IsChain.sublist (R := Follows) hnext h

end StaticMulticast.Configuration
