import StaticMulticast.Configuration.Pass
import StaticMulticast.Proofs.Text.Utf8

/-!
# The text of a line

What ends a line leaves no trace in its text, and neither does the way in which the reader found out
that a line is too long. A pass sees nothing of its lines but their texts.
-/

namespace StaticMulticast.Configuration

namespace Line

variable {octets : List UInt8} {last : UInt8}

/-! ## What ends a line -/

/-- An octet at the end is left out. -/
theorem before_append (last : UInt8) (octets : List UInt8) :
    before last (octets ++ [last]) = octets := by
  simp [before]

/-- Where an octet does not stand at all, nothing is left out. -/
theorem before_of_notMem (h : last ∉ octets) : before last octets = octets :=
  if_neg fun hlast => h (List.mem_of_getLast? hlast)

/-- At most one octet is left out. -/
theorem length_le_before (last : UInt8) (octets : List UInt8) :
    octets.length ≤ (before last octets).length + 1 := by
  unfold before
  split
  · rw [List.length_dropLast]
    omega
  · omega

/-! ## Texts -/

/-- The end of a line is no part of its text. -/
theorem text_append_lineEnd (h : lineEnd ∉ octets) :
    (whole (octets ++ [lineEnd])).text = (whole octets).text := by
  simp only [text, content, before_append, before_of_notMem h]

/-- A line without its end is too long if more octets of it are left than a line may have, even with
a carriage return among them. -/
theorem text_of_long (hend : lineEnd ∉ octets) (h : longestLine + 1 < octets.length) :
    (whole octets).text = .error .tooLong := by
  have hlength := length_le_before carriageReturn octets
  simp only [text, content, before_of_notMem hend]
  exact if_pos (by omega)

end Line

/-! ## Passes over texts -/

variable {State : Type}

/-- A pass over lines with the same texts is the same. -/
theorem Pass.run_congr_text {collaborators : Collaborators State} {settings : Settings}
    {lines others : List Line} (h : lines.map Line.text = others.map Line.text) (number : Nat)
    (state : State) :
    run collaborators settings number lines state =
      run collaborators settings number others state := by
  induction lines generalizing others number state with
  | nil =>
      rw [List.map_eq_nil_iff.1 h.symm]
  | cons line lines ih =>
      obtain ⟨other, others, rfl, htext, hrest⟩ := List.map_eq_cons_iff.1 h.symm
      have hhandle : handle collaborators settings number line state =
          handle collaborators settings number other state := by
        simp only [handle, Line.operation, htext]
      simp only [run, hhandle, ih hrest.symm]

end StaticMulticast.Configuration
