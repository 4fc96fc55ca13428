import StaticMulticast.Configuration.Pass

/-!
# What a pass keeps

A pass changes the state only through the operations of its lines. So what each operation keeps, a
pass over any lines keeps, wherever a fault ends it. What is reported comes from the pass itself and
from those whom it calls. The state that a file leaves depends on the host only through that file.
-/

namespace StaticMulticast.Configuration

/-- Some line asks for the operation. -/
def Operation.AskedFor (settings : Settings) (lookup : Lookup) (operation : Operation) : Prop :=
  ∃ line : Line, (line.operation settings lookup).result = .ok (some operation)

namespace Pass

variable {State : Type} {collaborators : Collaborators State} {settings : Settings}

/-- The state that a line leaves is the one that its operation leaves, if it asks for any. -/
theorem handle_state (collaborators : Collaborators State) (settings : Settings) (number : Nat)
    (line : Line) (state : State) :
    (handle collaborators settings number line state).state =
      match (line.operation settings (collaborators.lookup state)).result with
      | .ok (some operation) => (collaborators.perform state operation).state
      | _ => state := by
  simp only [handle]
  cases (line.operation settings (collaborators.lookup state)).result with
  | error reason => rfl
  | ok asked =>
      cases asked with
      | none => rfl
      | some operation =>
          simp only
          split <;> rfl

section Keeps

variable {keeps : State → Prop}
  (hperform : ∀ state operation, keeps state →
    operation.AskedFor settings (collaborators.lookup state) →
      keeps (collaborators.perform state operation).state)
include hperform

/-- What every operation of a line keeps, handling a line keeps. -/
theorem handle_keeps (number : Nat) (line : Line) {state : State} (h : keeps state) :
    keeps (handle collaborators settings number line state).state := by
  rw [handle_state]
  split
  · rename_i operation hasked
    exact hperform state operation h ⟨line, hasked⟩
  · exact h

/-- What every operation of a line keeps, handling lines keeps. -/
theorem run_keeps (number : Nat) (lines : List Line) {state : State} (h : keeps state) :
    keeps (run collaborators settings number lines state).state := by
  induction lines generalizing number state with
  | nil => exact h
  | cons line rest ih => exact ih (number + 1) (handle_keeps hperform number line h)

/-- What every operation of a line keeps, a pass over data keeps. -/
theorem parse_keeps (capacity : Nat) (reads : List Host.Read) {state : State} (h : keeps state) :
    keeps (parse collaborators settings capacity reads state).state :=
  run_keeps hperform 1 _ h

/-- What every operation of a line and what is run afterwards keep, a pass over a file keeps, also
if there is no such file. -/
theorem load_keeps
    (hafterwards : ∀ state, keeps state → keeps (collaborators.afterwards state).state)
    (environment : Host.Environment) (path : String) {state : State} (h : keeps state) :
    keeps (load collaborators settings environment path state).state := by
  unfold load
  cases environment.openFile path with
  | error fault =>
      simp only
      split <;> exact h
  | ok reads =>
      have hparsed : keeps (parse collaborators settings fileCapacity reads state).state :=
        parse_keeps hperform fileCapacity reads h
      simp only
      split
      · exact hparsed
      · exact hafterwards _ hparsed

end Keeps

/-! ## What is reported -/

section Reports

variable {holds : StaticMulticast.Event → Prop}
  (hconfiguration : ∀ event, holds (.configuration event))
  (hperform : ∀ state operation, ∀ event ∈ (collaborators.perform state operation).events,
    holds event)
include hconfiguration hperform

/-- What is true of all that a pass and those whom it calls report is true of all that is reported
of a line. -/
theorem handle_events (number : Nat) (line : Line) (state : State) :
    ∀ event ∈ (handle collaborators settings number line state).events, holds event := by
  have hnotes : ∀ notes, ∀ event ∈ noteEvents number notes, holds event := by
    intro notes event hevent
    obtain ⟨note, -, rfl⟩ := List.mem_map.1 hevent
    exact hconfiguration _
  have hdrop : ∀ fault, ∀ event ∈ [dropEvent number fault], holds event :=
    fun fault => List.forall_mem_singleton.2 (hconfiguration _)
  simp only [handle]
  split
  · exact List.forall_mem_append.2 ⟨hnotes _, hdrop _⟩
  · exact hnotes _
  · split
    · exact List.forall_mem_append.2 ⟨hnotes _, hperform _ _⟩
    · exact List.forall_mem_append.2
        ⟨List.forall_mem_append.2 ⟨hnotes _, hperform _ _⟩, hdrop _⟩

/-- It is true of all that is reported of lines. -/
theorem run_events (number : Nat) (lines : List Line) (state : State) :
    ∀ event ∈ (run collaborators settings number lines state).events, holds event := by
  induction lines generalizing number state with
  | nil => exact List.forall_mem_nil _
  | cons line rest ih =>
      exact List.forall_mem_append.2
        ⟨handle_events hconfiguration hperform number line state, ih _ _⟩

/-- It is true of all that is reported of a file, if it is true of what is run afterwards. -/
theorem load_events
    (hafterwards : ∀ state, ∀ event ∈ (collaborators.afterwards state).events, holds event)
    (environment : Host.Environment) (path : String) (state : State) :
    ∀ event ∈ (load collaborators settings environment path state).events, holds event := by
  unfold load
  cases environment.openFile path with
  | error fault =>
      simp only
      split
      · exact List.forall_mem_cons.2
          ⟨hconfiguration _, List.forall_mem_singleton.2 (hconfiguration _)⟩
      · exact List.forall_mem_cons.2
          ⟨hconfiguration _, List.forall_mem_singleton.2 (hconfiguration _)⟩
  | ok reads =>
      have hlines : ∀ event ∈ (parse collaborators settings fileCapacity reads state).events,
          holds event := run_events hconfiguration hperform 1 _ state
      simp only
      split
      · exact hlines
      · refine List.forall_mem_append.2 ⟨List.forall_mem_append.2 ⟨hlines, ?_⟩, ?_⟩
        · exact List.forall_mem_cons.2 ⟨hconfiguration _, hafterwards _⟩
        · split
          · exact List.forall_mem_nil _
          · exact List.forall_mem_singleton.2 (hconfiguration _)

end Reports

/-! ## What the state depends on -/

variable {others : Collaborators State}

/-- Collaborators that agree on lookups and operations handle a line alike. -/
theorem handle_congr (hlookup : collaborators.lookup = others.lookup)
    (hperform : collaborators.perform = others.perform) (number : Nat) (line : Line)
    (state : State) :
    handle collaborators settings number line state = handle others settings number line state := by
  simp only [handle, hlookup, hperform]

/-- Collaborators that agree on lookups and operations handle lines alike. -/
theorem run_congr (hlookup : collaborators.lookup = others.lookup)
    (hperform : collaborators.perform = others.perform) (number : Nat) (lines : List Line)
    (state : State) :
    run collaborators settings number lines state = run others settings number lines state := by
  induction lines generalizing number state with
  | nil => rfl
  | cons line rest ih => simp only [run, handle_congr hlookup hperform, ih]

/-- Collaborators that agree on lookups and operations make the same pass over data. -/
theorem parse_congr (hlookup : collaborators.lookup = others.lookup)
    (hperform : collaborators.perform = others.perform) (capacity : Nat)
    (reads : List Host.Read) (state : State) :
    parse collaborators settings capacity reads state =
      parse others settings capacity reads state := by
  simp only [parse, run_congr hlookup hperform]

/-- What is run after the last line does not change the state that a file leaves, if it leaves the
state alone itself. -/
theorem load_state (hafterwards : ∀ state, (collaborators.afterwards state).state = state)
    (environment : Host.Environment) (path : String) (state : State) :
    (load collaborators settings environment path state).state =
      match environment.openFile path with
      | .error _ => state
      | .ok reads => (parse collaborators settings fileCapacity reads state).state := by
  unfold load
  cases environment.openFile path with
  | error fault =>
      simp only
      split <;> rfl
  | ok reads =>
      simp only
      split
      · rfl
      · exact hafterwards _

/-- The state that a file leaves depends on the host only through that file. -/
theorem load_state_congr (hlookup : collaborators.lookup = others.lookup)
    (hperform : collaborators.perform = others.perform)
    (hafterwards : ∀ state, (collaborators.afterwards state).state = state)
    (hothers : ∀ state, (others.afterwards state).state = state)
    {environment other : Host.Environment} {path : String}
    (hfile : environment.openFile path = other.openFile path) (state : State) :
    (load collaborators settings environment path state).state =
      (load others settings other path state).state := by
  rw [load_state hafterwards, load_state hothers, hfile]
  cases other.openFile path with
  | error fault => rfl
  | ok reads => exact congrArg Outcome.state (parse_congr hlookup hperform fileCapacity reads state)

end Pass

end StaticMulticast.Configuration
