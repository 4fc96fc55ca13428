import StaticMulticast.Proofs.Configuration.Calls
import StaticMulticast.Proofs.Configuration.Ends
import StaticMulticast.Proofs.Configuration.Selection
import StaticMulticast.Tables

/-!
# Files that follow each other

Nothing but the tables and the number of the line is carried from one line to the next. So a pass
over two files, of which the first leaves no line unfinished, is a pass over the first and then one
over the second, in which only the line numbers are higher (`Tables.parse_concatenated`).
-/

namespace StaticMulticast

open StaticMulticast.Configuration

/-! ## Line numbers in events -/

/-- The event with the number of its line raised, if it is about a line. -/
def Configuration.Event.raise (count : Nat) : Configuration.Event → Configuration.Event
  | .noted line note => .noted (line + count) note
  | .dropped line fault => .dropped (line + count) fault
  | .absent path => .absent path
  | .inaccessible path fault => .inaccessible path fault
  | .waiting => .waiting
  | .parsed path summary => .parsed path summary
  | .hookFailed reason => .hookFailed reason

/-- The event with the number of its line raised, if it is about a line of the configuration. -/
def Event.raise (count : Nat) : Event → Event
  | .configuration event => .configuration (event.raise count)
  | .interfaces event => .interfaces event
  | .routes event => .routes event
  | .groups event => .groups event
  | .script event => .script event
  | .daemon event => .daemon event

namespace Configuration

/-- The counts of lines and of those that follow. -/
theorem Summary.ofResults_append (first second : List LineResult) :
    ofResults (first ++ second) = ofResults first + ofResults second := by
  simp only [ofResults, List.length_append, List.countP_append]
  rfl

/-- Data in which no line is unfinished has a line for each line end. -/
theorem Closed.length_wholeLines {octets : List UInt8} (h : Closed octets) :
    (wholeLines octets).length = octets.count lineEnd := by
  induction octets using lineInduction with
  | unended piece hpiece =>
      rw [h.eq_nil_of_notMem hpiece]
      rfl
  | line piece rest hpiece ih =>
      have hfirst : wholeLines (piece ++ lineEnd :: rest) = piece :: wholeLines rest :=
        linesUntil_append_cons none hpiece rest
      rw [hfirst, List.length_cons, ih h.of_append_cons, List.count_append,
        List.count_eq_zero_of_not_mem hpiece, List.count_cons_self, Nat.zero_add]

variable {State : Type}

/-- What those report who are called has no numbers of lines in it. -/
def Collaborators.Unnumbered (collaborators : Collaborators State) : Prop :=
  ∀ state operation count,
    (collaborators.perform state operation).events.map (StaticMulticast.Event.raise count) =
      (collaborators.perform state operation).events

namespace Pass

variable {collaborators : Collaborators State} {settings : Settings}

/-- Lines and those that follow are handled one after the other. -/
theorem run_append (number : Nat) (first second : List Line) (state : State) :
    run collaborators settings number (first ++ second) state =
      let front := run collaborators settings number first state
      let back := run collaborators settings (number + first.length) second front.state
      ⟨front.value ++ back.value, back.state, front.events ++ back.events⟩ := by
  induction first generalizing number state with
  | nil => rfl
  | cons line rest ih =>
      simp only [List.cons_append, run, ih, List.length_cons, List.append_assoc]
      rw [Nat.add_right_comm, Nat.add_assoc]

/-- So are their turns taken. -/
theorem turns_append (number : Nat) (first second : List Line) (state : State) :
    turns collaborators settings number (first ++ second) state =
      turns collaborators settings number first state ++
        turns collaborators settings (number + first.length) second
          (run collaborators settings number first state).state := by
  induction first generalizing number state with
  | nil => rfl
  | cons line rest ih =>
      simp only [List.cons_append, turns, run, ih, List.length_cons]
      rw [Nat.add_right_comm, Nat.add_assoc]

/-- A pass handles the first lines of the data, and then the others. -/
theorem parse_front_rest (collaborators : Collaborators State) (settings : Settings)
    {capacity : Nat} (hcapacity : 0 < capacity) {chunks front rest : List (List UInt8)}
    (h : wholeLines chunks.flatten = front ++ rest) (state : State) :
    let before := run collaborators settings 1 (front.map .whole) state
    let after := run collaborators settings (1 + front.length) (rest.map .whole) before.state
    (parse collaborators settings capacity (chunks.map .data) state).value =
        .ok (.ofResults (before.value ++ after.value)) ∧
      (parse collaborators settings capacity (chunks.map .data) state).state = after.state := by
  simp only [parse_data hcapacity, h, List.map_append, run_append, List.length_map, and_self]

/-- In a line of a higher number, only the numbers in the events are higher. -/
theorem handle_raise (h : collaborators.Unnumbered) (number count : Nat) (line : Line)
    (state : State) :
    handle collaborators settings (number + count) line state =
      let plain := handle collaborators settings number line state
      { plain with events := plain.events.map (.raise count) } := by
  have hnotes : ∀ notes, (noteEvents number notes).map (StaticMulticast.Event.raise count) =
      noteEvents (number + count) notes := by
    intro notes
    rw [noteEvents, List.map_map]
    rfl
  have hdrop : ∀ fault, StaticMulticast.Event.raise count (dropEvent number fault) =
      dropEvent (number + count) fault := fun _ => rfl
  simp only [handle]
  cases (line.operation settings (collaborators.lookup state)).result with
  | error reason => simp only [List.map_append, hnotes, List.map_singleton, hdrop]
  | ok asked =>
      cases asked with
      | none => simp only [hnotes]
      | some operation =>
          simp only
          cases (collaborators.perform state operation).value with
          | ok done => simp only [List.map_append, hnotes, h state operation count]
          | error reason =>
              simp only [List.map_append, hnotes, h state operation count, List.map_singleton,
                hdrop]

/-- In lines of higher numbers, only the numbers in the events are higher. -/
theorem run_raise (h : collaborators.Unnumbered) (number count : Nat) (lines : List Line)
    (state : State) :
    run collaborators settings (number + count) lines state =
      let plain := run collaborators settings number lines state
      { plain with events := plain.events.map (.raise count) } := by
  induction lines generalizing number state with
  | nil => rfl
  | cons line rest ih =>
      simp only [run, handle_raise h, List.map_append]
      rw [Nat.add_right_comm, ih]

/-- A pass over two files that follow each other is a pass over each of them. -/
theorem parse_append (h : collaborators.Unnumbered) {capacity other another : Nat}
    (hcapacity : 0 < capacity) (hother : 0 < other) (hanother : 0 < another)
    {first second whole : List (List UInt8)} (hclosed : Closed first.flatten)
    (hwhole : whole.flatten = first.flatten ++ second.flatten) (state : State) :
    let front := parse collaborators settings other (first.map .data) state
    let back := parse collaborators settings another (second.map .data) front.state
    let all := parse collaborators settings capacity (whole.map .data) state
    let count := first.flatten.count lineEnd
    all.state = back.state ∧
      all.events = front.events ++ back.events.map (StaticMulticast.Event.raise count) ∧
      ∃ earlier later, front.value = .ok earlier ∧ back.value = .ok later ∧
        all.value = .ok (earlier + later) ∧ earlier.lines = count := by
  intro front back all count
  have hlines : (wholeLines whole.flatten).map Line.whole =
      (wholeLines first.flatten).map Line.whole ++ (wholeLines second.flatten).map Line.whole := by
    rw [hwhole, ← List.map_append]
    exact congrArg (List.map Line.whole) (linesUntil_append none hclosed second.flatten)
  have hcount : ((wholeLines first.flatten).map Line.whole).length = count := by
    rw [List.length_map, hclosed.length_wholeLines]
  -- All three passes are runs over lines, and the third is the other two with the numbers raised.
  let ran := run collaborators settings 1 ((wholeLines first.flatten).map .whole) state
  let later := run collaborators settings 1 ((wholeLines second.flatten).map .whole) ran.state
  have hran : run collaborators settings 1 ((wholeLines whole.flatten).map .whole) state =
      ⟨ran.value ++ later.value, later.state,
        ran.events ++ later.events.map (StaticMulticast.Event.raise count)⟩ := by
    rw [hlines]
    simp only [run_append, hcount, run_raise h 1 count, ran, later]
  have hfront : front = { ran with value := .ok (.ofResults ran.value) } :=
    parse_data hother first state
  have hback : back = { later with value := .ok (.ofResults later.value) } := by
    rw [show back = parse collaborators settings another (second.map .data) front.state from rfl,
      hfront]
    exact parse_data hanother second ran.state
  have hall : all = ⟨.ok (.ofResults (ran.value ++ later.value)), later.state,
      ran.events ++ later.events.map (StaticMulticast.Event.raise count)⟩ := by
    rw [show all = _ from parse_data hcapacity whole state, hran]
  rw [hall, hback, hfront]
  refine ⟨rfl, rfl, .ofResults ran.value, .ofResults later.value, rfl, rfl, ?_, ?_⟩
  · exact congrArg Except.ok (Summary.ofResults_append _ _)
  · have hvalue := (run_turns collaborators settings 1 ((wholeLines first.flatten).map .whole)
      state).1
    show ran.value.length = count
    rw [show ran.value = _ from hvalue, List.length_map, ← List.length_map Turn.line,
      map_line_turns, hcount]

end Pass

end Configuration

namespace Tables

open Configuration.Pass

/-- The tables report nothing with the number of a line in it. -/
theorem unnumbered (afterwards : Tables → Outcome Tables Event (Except Failure Unit)) :
    (collaborators afterwards).recorded.Unnumbered := by
  intro state operation count
  cases operation with
  | enable | disable | join | addV4 | addV6 =>
      exact List.map_map

/-- A pass over two files that follow each other, of which the first leaves no line unfinished, is a
pass over the first and then one over the second. The tables and the calls are the same, the counts
add up, and the same is reported, only that the lines of the second file have higher numbers. -/
theorem parse_concatenated (afterwards : Tables → Outcome Tables Event (Except Failure Unit))
    (settings : Settings) {capacity other another : Nat} (hcapacity : 0 < capacity)
    (hother : 0 < other) (hanother : 0 < another) {first second whole : List (List UInt8)}
    (hclosed : Closed first.flatten) (hwhole : whole.flatten = first.flatten ++ second.flatten)
    (tables : Tables) :
    let collaborators := (collaborators afterwards).recorded
    let front := parse collaborators settings other (first.map .data) (tables, [])
    let back := parse collaborators settings another (second.map .data) (front.state.1, [])
    let all := parse collaborators settings capacity (whole.map .data) (tables, [])
    let count := first.flatten.count lineEnd
    all.state = (back.state.1, front.state.2 ++ back.state.2) ∧
      all.events = front.events ++ back.events.map (.raise count) ∧
      ∃ earlier later, front.value = .ok earlier ∧ back.value = .ok later ∧
        all.value = .ok (earlier + later) ∧ earlier.lines = count := by
  intro recorder front back all count
  -- What was called before has no influence on the second pass.
  have hback : parse recorder settings another (second.map .data) front.state =
      { back with state := (back.state.1, front.state.2 ++ back.state.2) } := by
    have hlater := parse_recorded (collaborators afterwards) settings another (second.map .data)
      front.state.1
    rw [show back = _ from hlater []]
    exact hlater front.state.2
  obtain ⟨hstate, hevents, earlier, later, hfront, hlater, hall, hlines⟩ :=
    parse_append (unnumbered afterwards) hcapacity hother hanother hclosed hwhole (tables, [])
  rw [show parse recorder settings another (second.map .data) front.state = _ from hback]
    at hstate hevents hlater
  exact ⟨hstate, hevents, earlier, later, hfront, hlater, hall, hlines⟩

/-- The first file is one line that is too long. The second comes in the same chunk as its end. -/
theorem parse_concatenated_after_overlong :
    let long := List.replicate 600 0x61
    let lines := "phyint lo\nfoo\n".toUTF8.toList
    let collaborators := (collaborators nothingAfterwards).recorded
    let tables := initial ((Registry.empty true).insert "lo" 1)
    let front := parse collaborators {} 8192 ([long ++ [lineEnd]].map .data) (tables, [])
    let back := parse collaborators {} 8192 ([lines].map .data) (front.state.1, [])
    let all := parse collaborators {} 8192 ([long, lineEnd :: lines].map .data) (tables, [])
    all.value = .ok ⟨3, 1, 2, 0⟩ ∧ all.state = (back.state.1, front.state.2 ++ back.state.2) ∧
      all.events = front.events ++ back.events.map (.raise 1) := by
  intro long lines recorder tables front back all
  have hclosed : Closed [long ++ [lineEnd]].flatten := .inr (by simp)
  have hwhole : [long, lineEnd :: lines].flatten = [long ++ [lineEnd]].flatten ++ [lines].flatten :=
    by simp
  have hcapacity : 0 < 8192 := by decide
  obtain ⟨hstate, hevents, -⟩ := parse_concatenated nothingAfterwards {} hcapacity hcapacity
    hcapacity hclosed hwhole tables
  have hcount : [long ++ [lineEnd]].flatten.count lineEnd = 1 := by
    rw [List.flatten_singleton, List.count_append, List.count_replicate]
    rfl
  rw [hcount] at hevents
  refine ⟨?_, hstate, hevents⟩
  simp only [all]
  rw [parse_data (by decide)]
  decide +kernel

end Tables

end StaticMulticast
