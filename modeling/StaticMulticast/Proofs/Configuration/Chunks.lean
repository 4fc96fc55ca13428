import Mathlib.Logic.Relation
import StaticMulticast.Configuration.Rehearsal
import StaticMulticast.Proofs.Configuration.Reader
import StaticMulticast.Proofs.Configuration.Rejection
import StaticMulticast.Proofs.Configuration.Turn

/-!
# Passes over data in chunks

A pass over a file handles the lines of its data, and neither the capacity of the buffer nor the
chunks in which the data comes make a difference (`Pass.parse_chunks`). Which of the lines are
rejected as octets is told by their length and their encoding alone.
-/

namespace StaticMulticast.Configuration

open Host (Read)

/-! ## Lines as octets -/

namespace Line

variable {settings : Settings} {lookup : Lookup} {octets : List UInt8}

/-- A line is rejected for its length exactly if it is too long without what ends it. -/
theorem operation_tooLong_iff (hend : lineEnd ∉ octets) :
    ((whole octets).operation settings lookup).result = .error .tooLong ↔
      longestLine < (before carriageReturn octets).length := by
  have hblames := Operation.blames_ofLine settings lookup
  simp only [operation, text, content, before_of_notMem hend]
  by_cases hlong : longestLine < (before carriageReturn octets).length
  · simp [hlong]
  · simp only [hlong, iff_false, if_false]
    cases hdecode : Text.Utf8.decode? (before carriageReturn octets) with
    | none => simp
    | some characters => exact fun h => (hblames _ _ h).1 rfl

/-- A line that is not too long is rejected for its encoding exactly if it is no UTF-8. -/
theorem operation_notUtf8_iff (hend : lineEnd ∉ octets) :
    ((whole octets).operation settings lookup).result = .error .notUtf8 ↔
      (before carriageReturn octets).length ≤ longestLine ∧
        ¬ (before carriageReturn octets).toByteArray.IsValidUTF8 := by
  have hblames := Operation.blames_ofLine settings lookup
  simp only [operation, text, content, before_of_notMem hend]
  by_cases hlong : longestLine < (before carriageReturn octets).length
  · simp [hlong, Nat.not_le.2 hlong]
  · simp only [if_neg hlong, Nat.not_lt.1 hlong, true_and, ← Text.Utf8.decode?_eq_none_iff]
    cases hdecode : Text.Utf8.decode? (before carriageReturn octets) with
    | none => simp
    | some characters => simpa using fun h => (hblames _ _ h).2 rfl

/-- A line that is neither too long nor ill-encoded is read as the text that its octets encode. -/
theorem operation_of_text (hend : lineEnd ∉ octets)
    (hlength : (before carriageReturn octets).length ≤ longestLine) {text : String}
    (htext : (before carriageReturn octets).toByteArray = text.toUTF8) :
    (whole octets).operation settings lookup = Operation.ofLine settings lookup text := by
  simp only [operation, Line.text, content, before_of_notMem hend, if_neg (Nat.not_lt.2 hlength),
    Text.Utf8.decode?_of_text htext, String.ofList_toList]

end Line

/-! ## The buffer of a line -/

namespace Reader

/-- The reader comes from one state to another by its steps. -/
def Reaches : Reader → Reader → Prop :=
  Relation.ReflTransGen fun reader later => reader.step = .on later

/-- Wherever the reader comes to, what is held fits. -/
theorem Fits.of_reaches {reader later : Reader} (h : reader.Fits)
    (hreaches : reader.Reaches later) : later.Fits := by
  induction hreaches with
  | refl => exact h
  | tail _ hstep ih =>
      have hkeeps := step_keeps ih
      rw [hstep] at hkeeps
      exact hkeeps.1

/-- Wherever the reader comes to, no more than 514 octets are held. -/
theorem length_held_le {reads : List Read} {later : Reader} (h : (start reads).Reaches later) :
    later.place.held.length ≤ 514 :=
  ((fits_start reads).of_reaches h).length_held_le

end Reader

/-! ## Passes -/

namespace Pass

variable {State : Type} {collaborators : Collaborators State} {settings : Settings}

/-- A line counts as rejected for a reason exactly if that is the reason why it asks for nothing. -/
theorem handle_rejected_iff {number : Nat} {line : Line} {state : State} {reason : Rejection} :
    (handle collaborators settings number line state).value = .dropped (.rejected reason) ↔
      (line.operation settings (collaborators.lookup state)).result = .error reason := by
  simp only [handle]
  split
  · rename_i other hother
    simp [hother]
  · rename_i hnone
    simp [hnone]
  · rename_i operation hoperation
    split <;> simp [hoperation]

/-- A pass over what is read is a pass over the lines of the data that is heard. -/
theorem run_readLines {capacity : Nat} (hcapacity : 0 < capacity) (reads : List Read)
    (number : Nat) (state : State) :
    run collaborators settings number (readLines capacity reads).1 state =
      run collaborators settings number
        ((linesUntil (heard 0 reads).2 (heard 0 reads).1).map .whole) state := by
  -- The reader's lines need not be those of the data, as they have their ends, but they read alike.
  refine run_congr_text ?_ number state
  rw [(Prod.mk.inj (readLines_texts hcapacity reads)).1, List.map_map]
  rfl

/-- A pass over data that a fault cuts off is a pass over the lines that are ended, and fails. -/
theorem parse_of_fault {capacity : Nat} (hcapacity : 0 < capacity) {reads : List Read}
    {data : List UInt8} {fault : Host.Fault} (h : heard 0 reads = (data, some fault))
    (state : State) :
    parse collaborators settings capacity reads state =
      let handled := run collaborators settings 1 ((endedLines data).map .whole) state
      { handled with value := .error (.io fault) } := by
  have hfault := (Prod.mk.inj (readLines_texts hcapacity reads)).2
  simp only [parse, run_readLines hcapacity, hfault, h, linesUntil]

/-- A pass over data that comes to its end is a pass over its lines, numbered from one. -/
theorem parse_of_end {capacity : Nat} (hcapacity : 0 < capacity) {reads : List Read}
    {data : List UInt8} (h : heard 0 reads = (data, none)) (state : State) :
    parse collaborators settings capacity reads state =
      let handled := run collaborators settings 1 ((wholeLines data).map .whole) state
      { handled with value := .ok (.ofResults handled.value) } := by
  have hfault := (Prod.mk.inj (readLines_texts hcapacity reads)).2
  simp only [parse, run_readLines hcapacity, hfault, h, linesUntil]

/-- A pass over chunks of data is a pass over the lines of the data. -/
theorem parse_data {capacity : Nat} (hcapacity : 0 < capacity) (chunks : List (List UInt8))
    (state : State) :
    parse collaborators settings capacity (chunks.map .data) state =
      let handled := run collaborators settings 1 ((wholeLines chunks.flatten).map .whole) state
      { handled with value := .ok (.ofResults handled.value) } :=
  parse_of_end hcapacity (heard_data 0 chunks) state

/-- The turns of the lines of the data cover a pass over data that comes to its end, and what
becomes of the lines is counted. -/
theorem parse_covers (collaborators : Collaborators State) (settings : Settings) {capacity : Nat}
    (hcapacity : 0 < capacity) {reads : List Read} {data : List UInt8}
    (h : heard 0 reads = (data, none)) (state : State) :
    let lines := (wholeLines data).map .whole
    let taken := turns collaborators settings 1 lines state
    let parsed := parse collaborators settings capacity reads state
    Covers collaborators settings 1 lines state taken parsed ∧
      parsed.value = .ok (.ofResults (taken.map Turn.result)) := by
  intro lines taken parsed
  have hparsed : parsed = _ := parse_of_end hcapacity h state
  obtain ⟨hlines, hnumbers, heach, hstate, hevents⟩ :=
    run_covers collaborators settings 1 lines state
  rw [hparsed]
  refine ⟨⟨hlines, hnumbers, heach, hstate, hevents⟩, ?_⟩
  exact congrArg (fun results => Except.ok (Summary.ofResults results))
    (run_turns collaborators settings 1 lines state).1

/-- In the turn of a line, the line is rejected if it is left with more than 512 octets without its
end. One of the others that is no UTF-8 is rejected for that, and the text that any other encodes is
what an operation is read from. -/
theorem turn_whole (collaborators : Collaborators State) (settings : Settings) (number : Nat)
    {octets : List UInt8} (hend : lineEnd ∉ octets) (state : State) :
    let line := Line.before carriageReturn octets
    let now := turn collaborators settings number (.whole octets) state
    (now.result = .dropped (.rejected .tooLong) ↔ 512 < line.length) ∧
      (now.result = .dropped (.rejected .notUtf8) ↔
        line.length ≤ 512 ∧ ¬ line.toByteArray.IsValidUTF8) ∧
      ∀ text : String, line.length ≤ 512 → line.toByteArray = text.toUTF8 →
        let asked := Operation.ofLine settings (collaborators.lookup state) text
        now.asked = asked.result ∧ now.notes = asked.notes := by
  intro line now
  have hresult : now.result =
      (handle collaborators settings number (.whole octets) state).value :=
    (handle_turn collaborators settings number (.whole octets) state).1.symm
  rw [hresult]
  refine ⟨?_, ?_, fun text hlength htext => ?_⟩
  · exact handle_rejected_iff.trans (Line.operation_tooLong_iff hend)
  · exact handle_rejected_iff.trans (Line.operation_notUtf8_iff hend)
  · rw [← Line.operation_of_text hend hlength htext]
    exact ⟨asked_turn .., rfl⟩

/-- Whatever the capacity of the buffer and however the data is cut into chunks, a pass handles the
lines of the data, each once, in order and numbered from one: turns of these lines cover it, and its
summary, the calls that it makes and what it reports are those of the turns. A line that is left
with more than 512 octets without its end is rejected for that, one of the others that is no UTF-8
is rejected for that, and the text that any other encodes is what an operation is read from. At no
time more than 514 octets of a line are held. -/
theorem parse_chunks (collaborators : Collaborators State) (settings : Settings) {capacity : Nat}
    (hcapacity : 0 < capacity) (chunks : List (List UInt8)) (state : State) :
    let reads := chunks.map Read.data
    let parsed := parse collaborators settings capacity reads state
    (∃ taken : List Turn,
      Covers collaborators settings 1 ((wholeLines chunks.flatten).map .whole) state taken parsed ∧
      parsed.value = .ok (.ofResults (taken.map Turn.result)) ∧
      parse collaborators.recorded settings capacity reads (state, []) =
        ⟨parsed.value, (parsed.state, taken.filterMap Turn.call?), parsed.events⟩ ∧
      ∀ before now after, taken = before ++ now :: after →
        ∃ octets ∈ wholeLines chunks.flatten, now.line = .whole octets ∧
          let current := collaborators.afterCalls state (before.filterMap Turn.call?)
          let line := Line.before carriageReturn octets
          (now.result = .dropped (.rejected .tooLong) ↔ 512 < line.length) ∧
          (now.result = .dropped (.rejected .notUtf8) ↔
            line.length ≤ 512 ∧ ¬ line.toByteArray.IsValidUTF8) ∧
          ∀ text : String, line.length ≤ 512 → line.toByteArray = text.toUTF8 →
            let asked := Operation.ofLine settings (collaborators.lookup current) text
            now.asked = asked.result ∧ now.notes = asked.notes) ∧
    (∀ (other : Nat) (others : List (List UInt8)), 0 < other → others.flatten = chunks.flatten →
      parse collaborators settings other (others.map .data) state = parsed) ∧
    (∀ octets, .data octets ∈ Read.buffered capacity reads → octets ≠ []) ∧
    ∀ reader, (Reader.start (Read.buffered capacity reads)).Reaches reader →
      reader.place.held.length ≤ 514 := by
  intro reads parsed
  have hdata : heard 0 reads = (chunks.flatten, none) := heard_data 0 chunks
  obtain ⟨hcovers, hvalue⟩ := parse_covers collaborators settings hcapacity hdata state
  refine ⟨⟨_, hcovers, hvalue, ?_, ?_⟩, fun other others hother hothers => ?_,
    fun octets => ne_nil_of_mem_buffered, fun reader => Reader.length_held_le⟩
  · simp only [parsed, reads, parse_data hcapacity, run_recorded, List.nil_append]
  · intro before now after heq
    have hmem : now.line ∈ (wholeLines chunks.flatten).map Line.whole := by
      rw [← hcovers.map_line, heq]
      exact List.mem_map_of_mem (List.mem_append_right before List.mem_cons_self)
    obtain ⟨octets, hoctets, hline⟩ := List.mem_map.1 hmem
    have hnow := hcovers.each before now after heq
    rw [← hline] at hnow
    refine ⟨octets, hoctets, hline.symm, ?_⟩
    have hwhole := turn_whole collaborators settings now.number
      (lineEnd_notMem_of_mem_wholeLines hoctets)
      (collaborators.afterCalls state (before.filterMap Turn.call?))
    rwa [← hnow] at hwhole
  · rw [parse_data hother, hothers]
    exact (parse_data hcapacity chunks state).symm

/-- A chunk that ends between the two octets that end a line, and a buffer of three octets: the line
makes one call, and the line that follows, which no line end ends, is rejected. -/
theorem parse_chunks_cut_in_end :
    let rehearsal := Rehearsal.collaborators ⟨[("lo", ⟨none, none, 1⟩)], []⟩
    let chunks := ["mgroup from lo group 225.1.2.3\r".toUTF8.toList, "\nfoo".toUTF8.toList]
    let parsed := parse rehearsal {} 3 (chunks.map .data) []
    parsed.value = .ok ⟨2, 1, 1, 0⟩ ∧
      parsed.state = [.operation (.join ⟨"lo", none, .v4 ⟨225, 1, 2, 3⟩⟩)] ∧
      parsed.events = [dropEvent 2 (.rejected (.unknownCommand "foo"))] := by
  intro rehearsal chunks parsed
  obtain ⟨⟨taken, hcovers, hvalue, -, -⟩, -⟩ :=
    parse_chunks rehearsal {} (show 0 < 3 by decide) chunks []
  rw [hvalue, hcovers.state_eq, hcovers.events_eq, hcovers.eq_turns]
  decide +kernel

end Pass

end StaticMulticast.Configuration
