import StaticMulticast.Proofs.Configuration.Chunks
import StaticMulticast.Proofs.Configuration.Ends
import StaticMulticast.Proofs.Configuration.Selection
import StaticMulticast.Proofs.Interface.Reset
import StaticMulticast.Proofs.Tables.Operation

/-!
# Lines that are not applied

An operation on the tables that fails leaves all of them as they were. So a line that is rejected,
fails or asks for nothing cannot change what a later line comes to, and a file without such lines
leaves the same tables (`Tables.unapplied_lines_leave_no_trace`).
-/

namespace StaticMulticast

open StaticMulticast.Configuration

/-! ## Operations that fail -/

/-- A group that could not be joined changes nothing. -/
theorem Group.Table.join_state_of_error {table : Group.Table} {membership : Membership}
    {reason : Failure} (h : (table.join membership).value = .error reason) :
    (table.join membership).state = table := by
  obtain ⟨_, -, heq⟩ | ⟨-, heq⟩ := table.join_cases membership
  · rw [heq]
  · rw [heq] at h
    cases h

/-- An IPv4 route that could not be added changes nothing. -/
theorem Route.Table.addV4_state_of_error {table : Route.Table} {route : Route.V4}
    {reason : Failure} (h : (table.addV4 route).value = .error reason) :
    (table.addV4 route).state = table := by
  obtain ⟨_, -, heq⟩ | ⟨-, heq⟩ := table.addV4_cases route
  · rw [heq]
  · rw [heq] at h
    cases h

/-- An IPv6 route that could not be added changes nothing. -/
theorem Route.Table.addV6_state_of_error {table : Route.Table} {route : Route.V6}
    {reason : Failure} (h : (table.addV6 route).value = .error reason) :
    (table.addV6 route).state = table := by
  obtain ⟨_, -, heq⟩ | ⟨-, heq⟩ := table.addV6_cases route
  · rw [heq]
  · rw [heq] at h
    cases h

/-- No operation on the tables that fails has an effect on any of them. -/
theorem Tables.allOrNothing (afterwards : Tables → Outcome Tables Event (Except Failure Unit)) :
    (collaborators afterwards).AllOrNothing := by
  intro tables operation reason h
  cases operation with
  | enable name threshold =>
      exact congrArg (fun registry => { tables with registry }) (Registry.enable_error h).1
  | disable name =>
      exact congrArg (fun registry => { tables with registry }) (Registry.disable_error h).1
  | join membership =>
      exact congrArg (fun groups => { tables with groups }) (Group.Table.join_state_of_error h)
  | addV4 route =>
      exact congrArg (fun routes => { tables with routes }) (Route.Table.addV4_state_of_error h)
  | addV6 route =>
      exact congrArg (fun routes => { tables with routes }) (Route.Table.addV6_state_of_error h)

/-! ## Files without lines that are not applied -/

namespace Configuration

/-- Leaving lines out of data with their ends leaves the other lines. -/
theorem wholeLines_selected (keeps : Nat → Bool) (number : Nat) (data : List UInt8) :
    wholeLines (selected keeps number (linesWithEnd data)).flatten =
      selected keeps number (wholeLines data) := by
  rw [wholeLines_eq, linesWithEnd_flatten_of_sublist (selected_sublist keeps number _),
    map_selected, ← wholeLines_eq]

/-- What becomes of the lines that come in the given reads, one by one. -/
def Pass.results {State : Type} (collaborators : Collaborators State) (settings : Settings)
    (capacity : Nat) (reads : List Host.Read) (state : State) : List LineResult :=
  (run collaborators settings 1 (readLines capacity reads).1 state).value

variable {State : Type} {collaborators : Collaborators State} {settings : Settings}

/-- The summary of a pass over chunks of data counts what becomes of the lines. -/
theorem Pass.parse_value {capacity : Nat} (hcapacity : 0 < capacity) (chunks : List (List UInt8))
    (state : State) :
    (parse collaborators settings capacity (chunks.map .data) state).value =
      .ok (.ofResults (results collaborators settings capacity (chunks.map .data) state)) := by
  rw [parse_data hcapacity, results, run_readLines hcapacity, heard_data]
  rfl

/-- If lines that are not applied are left out of a file, the other lines come to the same, and the
state that they leave is the same. -/
theorem Pass.parse_selected (hall : collaborators.AllOrNothing) {capacity other : Nat}
    (hcapacity : 0 < capacity) (hother : 0 < other) {chunks pieces : List (List UInt8)}
    {keeps : Nat → Bool} {state : State}
    (hpieces : pieces.flatten = (selected keeps 1 (linesWithEnd chunks.flatten)).flatten)
    (h : .applied ∉ selected (fun number => !keeps number) 1
      (results collaborators settings capacity (chunks.map .data) state)) :
    (parse collaborators settings other (pieces.map .data) state).state =
        (parse collaborators settings capacity (chunks.map .data) state).state ∧
      results collaborators settings other (pieces.map .data) state =
        selected keeps 1 (results collaborators settings capacity (chunks.map .data) state) := by
  have hlines : (wholeLines pieces.flatten).map Line.whole =
      selected keeps 1 ((wholeLines chunks.flatten).map Line.whole) := by
    rw [hpieces, wholeLines_selected, map_selected]
  simp only [results, run_readLines hcapacity, run_readLines hother, heard_data, linesUntil,
    parse_data hcapacity, parse_data hother, hlines] at h ⊢
  exact (run_selected hall keeps 1 1 _ state h).symm

/-- The results of lines can be told apart by whether the lines are applied. -/
theorem selected_applied (results : List LineResult) :
    selected (fun number => results[number - 1]? = some .applied) 1 results =
        List.replicate (results.count .applied) .applied ∧
      .applied ∉ selected (fun number => !(results[number - 1]? = some .applied)) 1 results := by
  constructor
  · rw [selected_test (· = .applied), List.filter_eq]
    intro index h
    simp [h]
  · rw [selected_test fun result => !decide (result = .applied)]
    · simp
    · intro index h
      simp [h]

/-- Lines that are all applied are counted as that. -/
theorem Summary.ofResults_replicate_applied (count : Nat) :
    ofResults (List.replicate count .applied) = ⟨count, count, 0, 0⟩ := by
  simp [ofResults, List.countP_replicate]

end Configuration

namespace Tables

open Configuration.Pass

/-- A line that is not applied leaves the tables as they are, whatever they are and whatever the
reason. So any lines that are not applied can be left out of a file: the tables come out the same,
every other line comes to the same, and the summary lacks the counts of the lines left out and
nothing else. With all of them left out, every line is applied. -/
theorem unapplied_lines_leave_no_trace
    (afterwards : Tables → Outcome Tables Event (Except Failure Unit)) (settings : Settings)
    {capacity other : Nat} (hcapacity : 0 < capacity) (hother : 0 < other)
    (chunks pieces : List (List UInt8)) (tables : Tables) :
    let collaborators := Tables.collaborators afterwards
    let whole := parse collaborators settings capacity (chunks.map .data) tables
    let part := parse collaborators settings other (pieces.map .data) tables
    let all := results collaborators settings capacity (chunks.map .data) tables
    let left := results collaborators settings other (pieces.map .data) tables
    (∀ number line current,
      (handle collaborators settings number line current).value ≠ .applied →
        (handle collaborators settings number line current).state = current) ∧
    (∀ keeps : Nat → Bool,
      pieces.flatten = (selected keeps 1 (linesWithEnd chunks.flatten)).flatten →
      .applied ∉ selected (fun number => !keeps number) 1 all →
        part.state = whole.state ∧ left = selected keeps 1 all ∧
        ∃ summary, part.value = .ok summary ∧
          whole.value =
            .ok (summary + .ofResults (selected (fun number => !keeps number) 1 all))) ∧
    (pieces.flatten = (selected (fun number => all[number - 1]? = some .applied) 1
        (linesWithEnd chunks.flatten)).flatten →
      part.state = whole.state ∧ (∀ result ∈ left, result = .applied) ∧
      part.value = .ok ⟨all.count .applied, all.count .applied, 0, 0⟩) := by
  intro collaborators whole part all left
  have hall := allOrNothing afterwards
  have hwhole : whole.value = .ok (.ofResults all) := parse_value hcapacity chunks tables
  have hpart : part.value = .ok (.ofResults left) := parse_value hother pieces tables
  refine ⟨fun number line current => handle_state_of_ne_applied hall, ?_, ?_⟩
  · intro keeps hpieces hkeeps
    obtain ⟨hstate, hleft⟩ := parse_selected hall hcapacity hother hpieces hkeeps
    refine ⟨hstate, hleft, .ofResults left, hpart, ?_⟩
    rw [hwhole, Summary.ofResults_selected keeps 1 all, show left = _ from hleft]
  · intro hpieces
    obtain ⟨happlied, hothers⟩ := selected_applied all
    obtain ⟨hstate, hleft⟩ := parse_selected hall hcapacity hother hpieces hothers
    rw [happlied] at hleft
    refine ⟨hstate, ?_, ?_⟩
    · rw [show left = _ from hleft]
      exact fun result => List.eq_of_mem_replicate
    · rw [hpart, show left = _ from hleft, Summary.ofResults_replicate_applied]

/-- Between two lines that are applied, one that names an unknown interface is left out. -/
theorem unapplied_lines_leave_no_trace_unknown_interface :
    let file := "phyint lo\nphyint eth7\nphyint lo disable".toUTF8.toList
    let kept := "phyint lo\nphyint lo disable".toUTF8.toList
    let tables := initial (.known true [("lo", 1)])
    kept = (selected (· != 2) 1 (linesWithEnd file)).flatten ∧
      (parse (collaborators nothingAfterwards) {} 5 [.data kept] tables).state =
        (parse (collaborators nothingAfterwards) {} 8192 [.data file] tables).state := by
  intro file kept tables
  have hkept : kept = (selected (· != 2) 1 (linesWithEnd file)).flatten := by decide +kernel
  have hresults : .applied ∉ selected (fun number => !(number != 2)) 1
      (results (collaborators nothingAfterwards) {} 8192 ([file].map .data) tables) := by
    rw [results, run_readLines (by decide), heard_data]
    decide +kernel
  have hflatten : [kept].flatten = (selected (· != 2) 1 (linesWithEnd [file].flatten)).flatten := by
    simpa using hkept
  exact ⟨hkept, ((unapplied_lines_leave_no_trace nothingAfterwards {} (by decide) (by decide)
    [file] [kept] tables).2.1 (· != 2) hflatten hresults).1⟩

end Tables

end StaticMulticast
