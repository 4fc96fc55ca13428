import StaticMulticast.Proofs.Configuration.Pass

/-!
# Turns

A pass is taken apart line by line: a turn has the remarks on one line, and either the call that is
made for it or why none is. That turns cover lines says without the loop over the lines that each
has one turn, in order, in the state that the calls before it leave (`Pass.Covers`), and there is
only one way to cover them (`Pass.Covers.eq_turns`). The loop does it (`Pass.run_covers`). To see
the calls from outside, a recorder is put between the pass and its collaborators, which writes down
each call with its answer. It finds the calls of the turns and no others (`Pass.run_recorded`).
-/

namespace StaticMulticast.Configuration

/-! ## Turns -/

/-- A call that is made for a line, and the answer to it. -/
structure Answered where
  operation : Operation
  answer : Except Failure Unit

namespace Answered

/-- The operation was carried out. -/
def isDone (call : Answered) : Bool := call.answer matches .ok _

/-- The operation failed. -/
def isRefused (call : Answered) : Bool := call.answer matches .error _

end Answered

/-- What comes of a line: there is nothing to do for it, it is rejected, or a call is made for it,
of which those who are called make their own report. -/
inductive Course where
  | idle
  | rejected (reason : Rejection)
  | called (call : Answered) (reported : List StaticMulticast.Event)

/-- What a pass does about one line. -/
structure Turn where
  number : Nat
  line : Line
  notes : List Note
  course : Course

namespace Turn

/-- The call that is made. -/
def call? (turn : Turn) : Option Answered :=
  match turn.course with
  | .called call _ => some call
  | _ => none

/-- What those report who are called. -/
def reported (turn : Turn) : List StaticMulticast.Event :=
  match turn.course with
  | .called _ reported => reported
  | _ => []

/-- What becomes of the line. -/
def result (turn : Turn) : LineResult :=
  match turn.course with
  | .idle => .idle
  | .rejected reason => .dropped (.rejected reason)
  | .called ⟨_, .ok _⟩ _ => .applied
  | .called ⟨_, .error reason⟩ _ => .dropped (.failed reason)

/-- What the line asks for. -/
def asked (turn : Turn) : Except Rejection (Option Operation) :=
  match turn.course with
  | .idle => .ok none
  | .rejected reason => .error reason
  | .called call _ => .ok (some call.operation)

/-- The event of the line being dropped, if it is. -/
def dropEvents (turn : Turn) : List StaticMulticast.Event :=
  match turn.result with
  | .dropped fault => [Pass.dropEvent turn.number fault]
  | _ => []

/-- All that is reported in the turn. -/
def events (turn : Turn) : List StaticMulticast.Event :=
  Pass.noteEvents turn.number turn.notes ++ turn.reported ++ turn.dropEvents

/-- The records that the pass itself writes in the turn, without those of others. -/
def records (turn : Turn) : List Log.Record :=
  (Pass.noteEvents turn.number turn.notes ++ turn.dropEvents).map StaticMulticast.Event.record

end Turn

namespace Pass

variable {State : Type} {collaborators : Collaborators State} {settings : Settings}

/-- The turn of the line of the given number. -/
def turn (collaborators : Collaborators State) (settings : Settings) (number : Nat) (line : Line)
    (state : State) : Turn :=
  let asked := line.operation settings (collaborators.lookup state)
  let course := match asked.result with
    | .error reason => .rejected reason
    | .ok none => .idle
    | .ok (some operation) =>
        let performed := collaborators.perform state operation
        .called ⟨operation, performed.value⟩ performed.events
  ⟨number, line, asked.notes, course⟩

/-- The turns of lines of which the first has the given number. -/
def turns (collaborators : Collaborators State) (settings : Settings) (number : Nat) :
    List Line → State → List Turn
  | [], _ => []
  | line :: rest, state =>
      turn collaborators settings number line state ::
        turns collaborators settings (number + 1) rest
          (handle collaborators settings number line state).state

/-- Handling a line is its turn. -/
theorem handle_turn (collaborators : Collaborators State) (settings : Settings) (number : Nat)
    (line : Line) (state : State) :
    (handle collaborators settings number line state).value =
        (turn collaborators settings number line state).result ∧
      (handle collaborators settings number line state).events =
        (turn collaborators settings number line state).events := by
  simp only [handle, turn, Turn.events, Turn.dropEvents, Turn.result, Turn.reported]
  cases (line.operation settings (collaborators.lookup state)).result with
  | error reason => exact ⟨rfl, by rw [List.append_nil]⟩
  | ok asked =>
      cases asked with
      | none => exact ⟨rfl, by rw [List.append_nil, List.append_nil]⟩
      | some operation =>
          simp only
          cases (collaborators.perform state operation).value with
          | ok _ => exact ⟨rfl, by rw [List.append_nil]⟩
          | error reason => exact ⟨rfl, rfl⟩

/-- Handling lines is their turns. -/
theorem run_turns (collaborators : Collaborators State) (settings : Settings) (number : Nat)
    (lines : List Line) (state : State) :
    (run collaborators settings number lines state).value =
        (turns collaborators settings number lines state).map Turn.result ∧
      (run collaborators settings number lines state).events =
        (turns collaborators settings number lines state).flatMap Turn.events := by
  induction lines generalizing number state with
  | nil => exact ⟨rfl, rfl⟩
  | cons line rest ih =>
      obtain ⟨hvalue, hevents⟩ := handle_turn collaborators settings number line state
      obtain ⟨hvalues, hall⟩ :=
        ih (number + 1) (handle collaborators settings number line state).state
      simp only [run, turns, List.map_cons, List.flatMap_cons, hvalue, hevents, hvalues, hall,
        and_self]

/-- There is a turn for each line, in their order. -/
theorem map_line_turns (number : Nat) (lines : List Line) (state : State) :
    (turns collaborators settings number lines state).map Turn.line = lines := by
  induction lines generalizing number state with
  | nil => rfl
  | cons line rest ih => simp only [turns, turn, List.map_cons, ih]

/-- The turns have the numbers of the lines. -/
theorem map_number_turns (number : Nat) (lines : List Line) (state : State) :
    (turns collaborators settings number lines state).map Turn.number =
      List.range' number lines.length := by
  induction lines generalizing number state with
  | nil => rfl
  | cons line rest ih =>
      simp only [turns, turn, List.map_cons, ih, List.length_cons, List.range'_succ]

/-- Each turn is taken in a state in which all holds that the operations of lines keep. -/
theorem exists_turn_of_mem {keeps : State → Prop}
    (hperform : ∀ state operation, keeps state →
      operation.AskedFor settings (collaborators.lookup state) →
        keeps (collaborators.perform state operation).state)
    {number : Nat} {lines : List Line} {state : State} (h : keeps state) {taken : Turn}
    (hmem : taken ∈ turns collaborators settings number lines state) :
    ∃ position line current, line ∈ lines ∧ keeps current ∧
      taken = turn collaborators settings position line current := by
  induction lines generalizing number state with
  | nil => cases hmem
  | cons line rest ih =>
      rcases List.mem_cons.1 hmem with rfl | hmem
      · exact ⟨number, line, state, List.mem_cons_self, h, rfl⟩
      · obtain ⟨position, other, current, hother, hcurrent, heq⟩ :=
          ih (handle_keeps hperform number line h) hmem
        exact ⟨position, other, current, List.mem_cons_of_mem _ hother, hcurrent, heq⟩

/-- The call of a turn is what the line asks for, with the answer of those who carry it out. -/
theorem answered_of_call? {number : Nat} {line : Line} {state : State} {call : Answered}
    (h : (turn collaborators settings number line state).call? = some call) :
    (line.operation settings (collaborators.lookup state)).result = .ok (some call.operation) ∧
      (collaborators.perform state call.operation).value = call.answer := by
  simp only [turn, Turn.call?] at h
  cases hresult : (line.operation settings (collaborators.lookup state)).result with
  | error reason => simp [hresult] at h
  | ok asked =>
      cases asked with
      | none => simp [hresult] at h
      | some operation =>
          simp only [hresult, Option.some.injEq] at h
          subst h
          exact ⟨rfl, rfl⟩

/-- What the line of a turn asks for is read off the line. -/
theorem asked_turn (number : Nat) (line : Line) (state : State) :
    (turn collaborators settings number line state).asked =
      (line.operation settings (collaborators.lookup state)).result := by
  simp only [turn, Turn.asked]
  cases (line.operation settings (collaborators.lookup state)).result with
  | error reason => rfl
  | ok asked => cases asked <;> rfl

/-- Over fixed interfaces, what a line asks for does not depend on what became of others. -/
theorem map_asked_turns {registry : Lookup}
    (hlookup : ∀ state, collaborators.lookup state = registry) (number : Nat) (lines : List Line)
    (state : State) :
    (turns collaborators settings number lines state).map Turn.asked =
      lines.map fun line => (line.operation settings registry).result := by
  induction lines generalizing number state with
  | nil => rfl
  | cons line rest ih => simp only [turns, List.map_cons, asked_turn, hlookup, ih]

end Pass

/-! ## Covering lines -/

/-- The state that calls leave which are made one after the other. -/
def Collaborators.afterCalls {State : Type} (collaborators : Collaborators State) (start : State)
    (calls : List Answered) : State :=
  calls.foldl (fun current call => (collaborators.perform current call.operation).state) start

namespace Pass

variable {State Value : Type} {collaborators : Collaborators State} {settings : Settings}

/-- The turns cover the lines, of which the first has the given number: there is one turn for each
line, in their order and with their numbers, taken in the state that the calls of the turns before
it leave. All calls have been made and all that the turns report has been reported, and nothing
else. -/
structure Covers (collaborators : Collaborators State) (settings : Settings) (number : Nat)
    (lines : List Line) (start : State) (taken : List Turn)
    (outcome : Outcome State StaticMulticast.Event Value) : Prop where
  map_line : taken.map Turn.line = lines
  map_number : taken.map Turn.number = List.range' number lines.length
  each : ∀ before now after, taken = before ++ now :: after →
    now = turn collaborators settings now.number now.line
      (collaborators.afterCalls start (before.filterMap Turn.call?))
  state_eq : outcome.state = collaborators.afterCalls start (taken.filterMap Turn.call?)
  events_eq : outcome.events = taken.flatMap Turn.events

/-- The state that a line leaves is the one that the call of its turn leaves, if there is one. -/
theorem handle_state_turn (number : Nat) (line : Line) (state : State) :
    (handle collaborators settings number line state).state =
      collaborators.afterCalls state
        (turn collaborators settings number line state).call?.toList := by
  rw [handle_state]
  simp only [turn, Turn.call?]
  cases (line.operation settings (collaborators.lookup state)).result with
  | error reason => rfl
  | ok asked => cases asked <;> rfl

/-- After the call of a turn come the calls of those that follow. -/
theorem afterCalls_cons (now : Turn) (later : List Turn) (start : State) :
    collaborators.afterCalls start ((now :: later).filterMap Turn.call?) =
      collaborators.afterCalls (collaborators.afterCalls start now.call?.toList)
        (later.filterMap Turn.call?) := by
  cases hcall : now.call? <;>
    simp only [Collaborators.afterCalls, List.filterMap_cons, hcall, Option.toList_none,
      Option.toList_some, List.foldl_cons, List.foldl_nil]

/-- There is only one way to cover lines. -/
theorem Covers.eq_turns {number : Nat} {lines : List Line} {start : State} {taken : List Turn}
    {outcome : Outcome State StaticMulticast.Event Value}
    (h : Covers collaborators settings number lines start taken outcome) :
    taken = turns collaborators settings number lines start := by
  obtain ⟨hlines, hnumbers, heach, -, -⟩ := h
  induction lines generalizing number start taken with
  | nil => exact List.map_eq_nil_iff.1 hlines
  | cons line rest ih =>
      cases taken with
      | nil => cases hlines
      | cons now later =>
          rw [List.length_cons, List.range'_succ] at hnumbers
          obtain ⟨rfl, hrest⟩ := List.cons.inj hlines
          obtain ⟨rfl, hfollowing⟩ := List.cons.inj hnumbers
          have hnow : now = turn collaborators settings now.number now.line start :=
            heach [] now later rfl
          -- The turns that follow cover the rest from the state that the call of the first leaves.
          have hlater : later = turns collaborators settings (now.number + 1) rest
              (collaborators.afterCalls start now.call?.toList) := by
            refine ih hrest hfollowing fun before next after heq => ?_
            rw [← afterCalls_cons]
            exact heach (now :: before) next after (by rw [heq, List.cons_append])
          rw [turns, ← hnow, handle_state_turn, ← hnow, ← hlater]

/-- The turns of lines cover them: this is what handling lines comes to. -/
theorem run_covers (collaborators : Collaborators State) (settings : Settings) (number : Nat)
    (lines : List Line) (state : State) :
    Covers collaborators settings number lines state
      (turns collaborators settings number lines state)
      (run collaborators settings number lines state) := by
  refine ⟨map_line_turns number lines state, map_number_turns number lines state, ?_, ?_,
    (run_turns collaborators settings number lines state).2⟩
  · induction lines generalizing number state with
    | nil => exact fun before now after heq => by simp [turns] at heq
    | cons line rest ih =>
        intro before now after heq
        cases before with
        | nil =>
            obtain ⟨rfl, -⟩ := List.cons.inj heq
            rfl
        | cons first before =>
            obtain ⟨rfl, hlater⟩ := List.cons.inj heq
            rw [afterCalls_cons, ← handle_state_turn]
            exact ih _ _ before now after hlater
  · induction lines generalizing number state with
    | nil => rfl
    | cons line rest ih =>
        rw [turns, afterCalls_cons, ← handle_state_turn]
        exact ih _ _

end Pass

/-! ## The recorder -/

/-- The collaborators with a recorder before them, which writes down each call with its answer. -/
def Collaborators.recorded {State : Type} (collaborators : Collaborators State) :
    Collaborators (State × List Answered) where
  lookup current := collaborators.lookup current.1
  perform current operation :=
    let performed := collaborators.perform current.1 operation
    ⟨performed.value, (performed.state, current.2 ++ [⟨operation, performed.value⟩]),
      performed.events⟩
  afterwards current :=
    let ran := collaborators.afterwards current.1
    ⟨ran.value, (ran.state, current.2), ran.events⟩

namespace Pass

variable {State : Type} {collaborators : Collaborators State} {settings : Settings}

/-- The recorder changes nothing about a line, and writes down the call of its turn. -/
theorem handle_recorded (number : Nat) (line : Line) (state : State) (calls : List Answered) :
    handle collaborators.recorded settings number line (state, calls) =
      let handled := handle collaborators settings number line state
      let made := (turn collaborators settings number line state).call?.toList
      ⟨handled.value, (handled.state, calls ++ made), handled.events⟩ := by
  simp only [handle, turn, Turn.call?, Collaborators.recorded]
  cases (line.operation settings (collaborators.lookup state)).result with
  | error reason => simp only [Option.toList_none, List.append_nil]
  | ok asked =>
      cases asked with
      | none => simp only [Option.toList_none, List.append_nil]
      | some operation =>
          simp only [Option.toList_some]
          cases (collaborators.perform state operation).value <;> rfl

/-- The recorder changes nothing about lines, and writes down the calls of their turns. -/
theorem run_recorded (number : Nat) (lines : List Line) (state : State) (calls : List Answered) :
    run collaborators.recorded settings number lines (state, calls) =
      let ran := run collaborators settings number lines state
      let made := (turns collaborators settings number lines state).filterMap Turn.call?
      ⟨ran.value, (ran.state, calls ++ made), ran.events⟩ := by
  induction lines generalizing number state calls with
  | nil => simp only [run, turns, List.filterMap_nil, List.append_nil]
  | cons line rest ih =>
      simp only [run, turns, handle_recorded, ih, List.append_assoc]
      cases hcall : (turn collaborators settings number line state).call? <;> simp [hcall]

/-- The recorder changes nothing about a pass, and writes down the calls of its turns. -/
theorem parse_recorded (collaborators : Collaborators State) (settings : Settings) (capacity : Nat)
    (reads : List Host.Read) (state : State) (calls : List Answered) :
    parse collaborators.recorded settings capacity reads (state, calls) =
      let plain := parse collaborators settings capacity reads state
      let made := (turns collaborators settings 1 (readLines capacity reads).1 state).filterMap
        Turn.call?
      ⟨plain.value, (plain.state, calls ++ made), plain.events⟩ := by
  simp only [parse, run_recorded]

end Pass

end StaticMulticast.Configuration
