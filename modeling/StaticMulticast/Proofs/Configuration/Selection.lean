import StaticMulticast.Proofs.Configuration.Pass

/-!
# Lines that are left out

Where a failed operation has no effect, a line that is not applied only shows in what is reported.
So any such lines can be left out of a pass, and what becomes of the others is the same
(`Pass.run_selected`). The lines to keep are given by their numbers.
-/

namespace StaticMulticast.Configuration

/-! ## Selections by number -/

section Selected

variable {Element Other : Type}

/-- Of elements that are numbered one after the other, those whose numbers are kept. -/
def selected (keeps : Nat → Bool) (number : Nat) : List Element → List Element
  | [] => []
  | first :: rest =>
      if keeps number then first :: selected keeps (number + 1) rest
      else selected keeps (number + 1) rest

variable {keeps : Nat → Bool} {number : Nat} {elements : List Element}

/-- A selection keeps the order. -/
theorem selected_sublist (keeps : Nat → Bool) (number : Nat) (elements : List Element) :
    (selected keeps number elements).Sublist elements := by
  induction elements generalizing number with
  | nil => exact .slnil
  | cons first rest ih =>
      rw [selected]
      split
      · exact (ih _).cons_cons first
      · exact (ih _).cons first

/-- What is selected depends on the numbers alone. -/
theorem map_selected (keeps : Nat → Bool) (number : Nat) (elements : List Element)
    (change : Element → Other) :
    (selected keeps number elements).map change = selected keeps number (elements.map change) := by
  induction elements generalizing number with
  | nil => rfl
  | cons first rest ih =>
      rw [selected, List.map_cons, selected]
      split
      · rw [List.map_cons, ih]
      · exact ih _

/-- What is selected and what is left out are all there is. -/
theorem perm_selected (keeps : Nat → Bool) (number : Nat) (elements : List Element) :
    (selected keeps number elements ++ selected (fun number => !keeps number) number elements).Perm
      elements := by
  induction elements generalizing number with
  | nil => exact .refl []
  | cons first rest ih =>
      rw [selected, selected]
      cases keeps number with
      | true => exact (ih _).cons first
      | false => exact List.perm_middle.trans ((ih _).cons first)

/-- An element can be selected by whether it passes a test. -/
theorem selected_test (test : Element → Bool) (keeps : Nat → Bool) (number : Nat)
    (elements : List Element)
    (hkeeps : ∀ index (h : index < elements.length),
      keeps (number + index) = test elements[index]) :
    selected keeps number elements = elements.filter test := by
  induction elements generalizing number with
  | nil => rfl
  | cons first rest ih =>
      have hfirst : keeps number = test first := hkeeps 0 (Nat.zero_lt_succ _)
      have hrest : selected keeps (number + 1) rest = rest.filter test := by
        refine ih (number + 1) fun index h => ?_
        have hnext : keeps (number + (index + 1)) = test rest[index] :=
          hkeeps (index + 1) (Nat.succ_lt_succ h)
        rwa [Nat.add_assoc, Nat.add_comm 1 index]
      rw [selected, List.filter_cons, hfirst, hrest]

end Selected

/-! ## Summaries -/

/-- The counts of some lines and of others together. -/
instance : Add Summary where
  add some others :=
    ⟨some.lines + others.lines, some.applied + others.applied, some.rejected + others.rejected,
      some.failed + others.failed⟩

/-- The counts of lines are those of the lines that are selected and those of the lines that are
left out. -/
theorem Summary.ofResults_selected (keeps : Nat → Bool) (number : Nat)
    (results : List LineResult) :
    ofResults results = ofResults (selected keeps number results) +
      ofResults (selected (fun number => !keeps number) number results) := by
  have hperm := (perm_selected keeps number results).symm
  simp only [ofResults, hperm.length_eq, hperm.countP_eq, List.length_append, List.countP_append]
  rfl

/-! ## Passes -/

variable {State : Type}

/-- No operation that fails has an effect. -/
def Collaborators.AllOrNothing (collaborators : Collaborators State) : Prop :=
  ∀ state operation reason, (collaborators.perform state operation).value = .error reason →
    (collaborators.perform state operation).state = state

namespace Pass

variable {collaborators : Collaborators State} {settings : Settings}

/-- Where no operation that fails has an effect, no line has one that is not applied. -/
theorem handle_state_of_ne_applied (hall : collaborators.AllOrNothing) {number : Nat} {line : Line}
    {state : State} (h : (handle collaborators settings number line state).value ≠ .applied) :
    (handle collaborators settings number line state).state = state := by
  simp only [handle] at h ⊢
  split at h
  · rfl
  · rfl
  · split at h
    · exact absurd rfl h
    · rename_i reason hreason
      exact hall _ _ _ hreason

/-- The number of a line only shows in what is reported. -/
theorem handle_number (collaborators : Collaborators State) (settings : Settings)
    (number other : Nat) (line : Line) (state : State) :
    (handle collaborators settings number line state).value =
        (handle collaborators settings other line state).value ∧
      (handle collaborators settings number line state).state =
        (handle collaborators settings other line state).state := by
  simp only [handle]
  split
  · exact ⟨rfl, rfl⟩
  · exact ⟨rfl, rfl⟩
  · split <;> exact ⟨rfl, rfl⟩

/-- If none of the lines that are left out is applied, the others come to what they come to in the
whole file, and leave the same state. -/
theorem run_selected (hall : collaborators.AllOrNothing) (keeps : Nat → Bool) (number other : Nat)
    (lines : List Line) (state : State)
    (h : .applied ∉ selected (fun number => !keeps number) number
      (run collaborators settings number lines state).value) :
    (run collaborators settings other (selected keeps number lines) state).value =
        selected keeps number (run collaborators settings number lines state).value ∧
      (run collaborators settings other (selected keeps number lines) state).state =
        (run collaborators settings number lines state).state := by
  induction lines generalizing number other state with
  | nil => exact ⟨rfl, rfl⟩
  | cons line rest ih =>
      simp only [run, selected] at h ⊢
      obtain ⟨hvalue, hstate⟩ := handle_number collaborators settings other number line state
      cases hkeeps : keeps number with
      | true =>
          simp only [hkeeps, Bool.not_true, Bool.false_eq_true, if_false] at h
          obtain ⟨hresults, hfinal⟩ := ih (number + 1) (other + 1) _ h
          simp only [if_true, run, hvalue, hstate, hresults, hfinal, and_self]
      | false =>
          simp only [hkeeps, Bool.not_false, if_true, List.mem_cons, not_or] at h
          -- The line that is left out is not applied, so the next one finds the same state.
          have hsame := handle_state_of_ne_applied hall (Ne.symm h.1)
          simp only [Bool.false_eq_true, if_false]
          rw [hsame] at h ⊢
          exact ih (number + 1) other state h.2

end Pass

end StaticMulticast.Configuration
