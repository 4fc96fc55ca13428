import Mathlib.Data.List.Nodup
import StaticMulticast.Proofs.Configuration.Chunks

/-!
# The calls of a pass

A pass makes at most one call for each line, in the order of the lines. The counts of the summary
and what is written of lines without effect follow from the turns (`Pass.one_call_per_line`).
-/

namespace StaticMulticast.Configuration

/-! ## Counts -/

namespace Turn

/-- The operation that a line asks for, if it asks for one. -/
def askedOperation? : Except Rejection (Option Operation) → Option Operation
  | .ok asked => asked
  | .error _ => none

/-- What becomes of a line tells whether a call is made for it, and how the call ends. -/
theorem result_eq (turn : Turn) :
    (turn.result matches .applied) = turn.call?.any Answered.isDone ∧
      (turn.result matches .dropped (.failed _)) = turn.call?.any Answered.isRefused ∧
      (turn.result matches .dropped (.rejected _)) = (turn.asked matches .error _) := by
  obtain ⟨number, line, notes, course⟩ := turn
  cases course with
  | idle | rejected => exact ⟨rfl, rfl, rfl⟩
  | called call reported =>
      obtain ⟨operation, answer⟩ := call
      cases answer <;> exact ⟨rfl, rfl, rfl⟩

/-- A line fails by the answer to its call. -/
theorem exists_call_of_failed {turn : Turn} {reason : Failure}
    (h : turn.result = .dropped (.failed reason)) :
    ∃ call, turn.call? = some call ∧ call.answer = .error reason := by
  obtain ⟨number, line, notes, course⟩ := turn
  cases course with
  | idle => cases h
  | rejected reason => cases h
  | called call reported =>
      obtain ⟨operation, answer⟩ := call
      cases answer with
      | ok _ => cases h
      | error found =>
          cases h
          exact ⟨_, rfl, rfl⟩

/-- The operation of the call that is made for a line is the one that the line asks for. -/
theorem map_operation_call? (turn : Turn) :
    turn.call?.map Answered.operation = askedOperation? turn.asked := by
  obtain ⟨number, line, notes, course⟩ := turn
  cases course <;> rfl

/-- Lines can be counted by their calls. -/
theorem countP_result {test : LineResult → Bool} {check : Answered → Bool}
    (h : ∀ turn : Turn, test turn.result = turn.call?.any check) (turns : List Turn) :
    (turns.map result).countP test = (turns.filterMap call?).countP check := by
  rw [List.countP_map, List.countP_filterMap]
  refine List.countP_congr fun turn _ => ?_
  rw [Function.comp_apply, h turn]
  cases turn.call? <;> rfl

variable (turns : List Turn)

/-- The counts of a summary are those of the calls and of the lines that are rejected. -/
theorem summary_eq :
    Summary.ofResults (turns.map result) =
      ⟨turns.length, (turns.filterMap call?).countP Answered.isDone,
        turns.countP fun turn => turn.asked matches .error _,
        (turns.filterMap call?).countP Answered.isRefused⟩ := by
  simp only [Summary.ofResults, Summary.mk.injEq, List.length_map, true_and]
  refine ⟨countP_result (fun turn => turn.result_eq.1) turns, ?_,
    countP_result (fun turn => turn.result_eq.2.1) turns⟩
  rw [List.countP_map]
  exact List.countP_congr fun turn _ => iff_of_eq (congrArg (· = true) turn.result_eq.2.2)

/-- The calls have the operations that lines ask for, in the order of the lines. -/
theorem map_operation_calls :
    (turns.filterMap call?).map Answered.operation =
      (turns.map asked).filterMap askedOperation? := by
  rw [List.map_filterMap, List.filterMap_map]
  exact List.filterMap_congr fun turn _ => turn.map_operation_call?

/-- Every call succeeds or fails. -/
theorem applied_add_failed :
    (Summary.ofResults (turns.map result)).applied +
        (Summary.ofResults (turns.map result)).failed =
      (turns.filterMap call?).length := by
  rw [summary_eq, List.length_eq_countP_add_countP Answered.isDone]
  congr 1
  refine List.countP_congr fun call _ => ?_
  obtain ⟨operation, answer⟩ := call
  cases answer <;> simp [Answered.isDone, Answered.isRefused]

/-- If only lines of some kind fail, the lines that fail can be counted among these. -/
theorem failed_eq_countP_filter {turns : List Turn} {test : Turn → Bool}
    (h : ∀ turn ∈ turns, ∀ reason, turn.result = .dropped (.failed reason) → test turn = true) :
    (Summary.ofResults (turns.map result)).failed =
      (turns.filter test).countP fun turn => turn.result matches .dropped (.failed _) := by
  simp only [Summary.ofResults, List.countP_map, List.countP_filter]
  refine List.countP_congr fun turn hmem => ?_
  cases hresult : turn.result with
  | applied | idle => simp [hresult]
  | dropped fault =>
      cases fault with
      | rejected reason => simp [hresult]
      | failed reason => simp [hresult, h turn hmem reason hresult]

end Turn

/-- No line counts twice. -/
theorem Summary.counts_le (results : List LineResult) :
    (ofResults results).applied + (ofResults results).rejected + (ofResults results).failed ≤
      (ofResults results).lines := by
  simp only [ofResults]
  induction results with
  | nil => exact Nat.le_refl _
  | cons result rest ih =>
      simp only [List.countP_cons, List.length_cons]
      cases result with
      | applied | idle => simp; omega
      | dropped fault => cases fault <;> simp <;> omega

/-! ## What is written of lines -/

/-- The octets of a text. Texts are compared by these, as they are read off a literal without its
characters. -/
def textOctets (text : String) : List UInt8 :=
  text.toByteArray.data.toList

/-- The octets of texts that follow each other. -/
theorem textOctets_append (front rest : String) :
    textOctets (front ++ rest) = textOctets front ++ textOctets rest := by
  simp only [textOctets, String.toByteArray_append, ByteArray.data_append, Array.toList_append]

/-- The text begins in one of the given ways. -/
def Opens (openings : List String) (text : String) : Prop :=
  ∃ opening ∈ openings, textOctets opening <+: textOctets text

instance (openings : List String) (text : String) : Decidable (Opens openings text) :=
  inferInstanceAs (Decidable (∃ opening ∈ openings, _))

/-- What follows does not change how a text begins. -/
theorem Opens.append {openings : List String} {front : String} (h : Opens openings front)
    (rest : String) : Opens openings (front ++ rest) := by
  obtain ⟨opening, hmem, hprefix⟩ := h
  refine ⟨opening, hmem, ?_⟩
  rw [textOctets_append]
  exact List.prefix_append_of_prefix hprefix

/-- How remarks begin. -/
def noteOpenings : List String :=
  ["TTL", "ignoring", "Ignored", "IPv6", "Invalid outbound", "Same"]

/-- How the reasons begin why a line has no effect. -/
def faultOpenings : List String :=
  ["Unknown", "Missing", "Too", "Line", "Invalid IPv", "Invalid source", "GROUP", "Invalid prefix",
    "Invalid inbound", "No valid", "I/O", "Resource", "Invalid argument", "Table", "Script",
    "Error"]

/-- Remarks begin in their own ways. -/
theorem Note.opens_message (note : Note) : Opens noteOpenings note.message := by
  unfold Note.message
  cases note with
  | thresholdOutOfRange number current =>
      exact .append (.append (.append (.append (by decide) _) _) _) _
  | thresholdUnreadable text | unknownKeyword text => exact .append (by decide) _
  | ipv6Disabled | sourceIgnored => decide
  | invalidOutbound family name => exact .append (.append (.append (by decide) _) _) _
  | outboundIsInbound family name inbound =>
      exact .append (.append (.append (.append (.append (.append (by decide) _) _) _) _) _) _

/-- So do the reasons why lines are rejected. -/
theorem Rejection.opens_message (reason : Rejection) : Opens faultOpenings reason.message := by
  unfold Rejection.message
  cases reason with
  | invalidGroup family text | invalidSource family text =>
    cases family <;> exact .append (by decide) _
  | tooLong | tooManyOutbound | notUtf8 | rangeWithSource => decide
  | unknownCommand word => exact .append (.append (by decide) _) _
  | missing part command => exact .append (.append (.append (.append (by decide) _) _) _) _
  | missingSource family | noOutbound family => exact .append (.append (by decide) _) _
  | invalidLength group => exact .append (by decide) _
  | invalidInbound family name => exact .append (.append (.append (by decide) _) _) _

/-- And so do those why operations fail. -/
theorem Failure.opens_message (reason : Failure) : Opens faultOpenings reason.message := by
  unfold Failure.message
  cases reason with
  | tableFull table => exact .append (.append (by decide) _) _
  | _ => exact .append (by decide) _

/-- No remark reads like the reason why a line has no effect. -/
theorem Note.message_ne (note : Note) (fault : LineFault) : note.message ≠ fault.message := by
  have hfault : Opens faultOpenings fault.message := by
    cases fault with
    | rejected reason => exact reason.opens_message
    | failed reason => exact Failure.opens_message reason
  intro heq
  obtain ⟨first, hfirst, hnote⟩ := note.opens_message
  obtain ⟨second, hsecond, hreason⟩ := hfault
  rw [heq] at hnote
  -- Of two openings of one text, one begins with the other.
  have hapart : ∀ first ∈ noteOpenings, ∀ second ∈ faultOpenings,
      ¬ textOctets first <+: textOctets second ∧ ¬ textOctets second <+: textOctets first := by
    decide
  obtain ⟨hforth, hback⟩ := hapart first hfirst second hsecond
  exact (List.prefix_or_prefix_of_prefix hnote hreason).elim hforth hback

/-- The record of a message about a line has all that it is made of. -/
theorem lineRecord_inj {level other : Log.Level} {line number : Nat} {message text : String} :
    lineRecord level line message = lineRecord other number text ↔
      level = other ∧ line = number ∧ message = text := by
  refine ⟨fun heq => ?_, by rintro ⟨rfl, rfl, rfl⟩; rfl⟩
  simp only [lineRecord, Log.Record.mk.injEq, List.cons.injEq, Prod.mk.injEq, Option.some.injEq]
    at heq
  obtain ⟨hlevel, hmessage, ⟨⟨-, hline⟩, -⟩, -⟩ := heq
  subst hline
  exact ⟨hlevel, rfl, (String.append_right_inj _).1 hmessage⟩

namespace Turn

/-- The records of a turn are those of the remarks and that of the line being dropped. -/
theorem mem_records {turn : Turn} {record : Log.Record} :
    record ∈ turn.records ↔
      (∃ note ∈ turn.notes, record = lineRecord note.level turn.number note.message) ∨
        ∃ fault, turn.result = .dropped fault ∧
          record = lineRecord .warning turn.number fault.message := by
  simp only [records, Pass.noteEvents, dropEvents, List.map_append, List.map_map, List.mem_append,
    List.mem_map]
  refine or_congr ⟨?_, ?_⟩ ?_
  · rintro ⟨note, hnote, rfl⟩
    exact ⟨note, hnote, rfl⟩
  · rintro ⟨note, hnote, rfl⟩
    exact ⟨note, hnote, rfl⟩
  · cases turn.result with
    | applied | idle => simp
    | dropped fault =>
        simp [Pass.dropEvent, StaticMulticast.Event.record, Event.record, eq_comm]

/-- A record with the reason why a line has no effect is from the turn of that line, which is
dropped for this reason. -/
theorem dropped_of_mem_records {turn : Turn} {level : Log.Level} {number : Nat} {fault : LineFault}
    (h : lineRecord level number fault.message ∈ turn.records) :
    turn.number = number ∧
      ∃ reason, turn.result = .dropped reason ∧ reason.message = fault.message := by
  obtain ⟨note, -, heq⟩ | ⟨reason, hresult, heq⟩ := mem_records.1 h
  · exact absurd (lineRecord_inj.1 heq).2.2.symm (note.message_ne fault)
  · obtain ⟨-, hnumber, hmessage⟩ := lineRecord_inj.1 heq
    exact ⟨hnumber.symm, reason, hresult, hmessage.symm⟩

/-- A turn in which the line is dropped has one record with the reason. -/
theorem count_records {turn : Turn} {fault : LineFault} (h : turn.result = .dropped fault) :
    turn.records.count (lineRecord .warning turn.number fault.message) = 1 := by
  have hnotes : lineRecord .warning turn.number fault.message ∉
      (Pass.noteEvents turn.number turn.notes).map StaticMulticast.Event.record := by
    simp only [Pass.noteEvents, List.map_map, List.mem_map, not_exists, not_and]
    intro note _ heq
    exact note.message_ne fault (lineRecord_inj.1 heq).2.2
  rw [records, List.map_append, List.count_append, List.count_eq_zero_of_not_mem hnotes, dropEvents,
    h, Nat.zero_add]
  exact List.count_singleton_self

/-- In turns of different numbers, what one turn writes about its line is not in the others. -/
theorem count_flatMap_records {turns : List Turn} (hnodup : (turns.map number).Nodup) {turn : Turn}
    (hmem : turn ∈ turns) (level : Log.Level) (fault : LineFault) :
    (turns.flatMap records).count (lineRecord level turn.number fault.message) =
      turn.records.count (lineRecord level turn.number fault.message) := by
  obtain ⟨before, after, rfl⟩ := List.append_of_mem hmem
  -- Turns before and after have other numbers, and write about lines of these numbers only.
  have hothers : ∀ others : List Turn, turn.number ∉ others.map number →
      (others.flatMap records).count (lineRecord level turn.number fault.message) = 0 := by
    intro others hnumber
    refine List.count_eq_zero_of_not_mem fun hrecord => ?_
    obtain ⟨other, hother, hrecord⟩ := List.mem_flatMap.1 hrecord
    exact hnumber ((dropped_of_mem_records hrecord).1 ▸ List.mem_map_of_mem hother)
  rw [List.map_append, List.map_cons, List.nodup_append, List.nodup_cons] at hnodup
  obtain ⟨-, ⟨hafter, -⟩, hdisjoint⟩ := hnodup
  have hbefore : turn.number ∉ before.map number := fun hmem =>
    hdisjoint _ hmem _ List.mem_cons_self rfl
  rw [List.flatMap_append, List.flatMap_cons, List.count_append, List.count_append,
    hothers before hbefore, hothers after hafter, Nat.zero_add, Nat.add_zero]

end Turn

namespace Pass

variable {State : Type} (collaborators : Collaborators State) (settings : Settings)

/-- The value of a pass counts its turns, unless the reading failed. -/
theorem parse_value_turns (capacity : Nat) (reads : List Host.Read) (state : State) :
    let taken := turns collaborators settings 1 (readLines capacity reads).1 state
    let plain := parse collaborators settings capacity reads state
    ((readLines capacity reads).2 = none →
        plain.value = .ok (.ofResults (taken.map Turn.result))) ∧
      ∀ fault, (readLines capacity reads).2 = some fault → plain.value = .error (.io fault) := by
  obtain ⟨hvalue, -⟩ := run_turns collaborators settings 1 (readLines capacity reads).1 state
  refine ⟨fun hfault => ?_, fun fault hfault => ?_⟩
  · simp only [parse, hfault, hvalue]
  · simp only [parse, hfault]

/-- In the turns of lines, a line that is dropped has one record with the reason, and no other line
has any. -/
theorem count_records_turns (lines : List Line) (state : State) (turn : Turn)
    (hmem : turn ∈ turns collaborators settings 1 lines state) :
    let written := (turns collaborators settings 1 lines state).flatMap Turn.records
    (∀ fault, turn.result = .dropped fault →
        written.count (lineRecord .warning turn.number fault.message) = 1) ∧
      ((∀ fault, turn.result ≠ .dropped fault) → ∀ (level : Log.Level) (fault : LineFault),
        lineRecord level turn.number fault.message ∉ written) := by
  have hnodup : ((turns collaborators settings 1 lines state).map Turn.number).Nodup := by
    rw [map_number_turns]
    exact List.nodup_range'
  constructor
  · intro fault hresult
    rw [Turn.count_flatMap_records hnodup hmem]
    exact Turn.count_records hresult
  · intro hresult level fault
    rw [← List.count_eq_zero, Turn.count_flatMap_records hnodup hmem, List.count_eq_zero]
    intro hrecord
    obtain ⟨-, reason, hdropped, -⟩ := Turn.dropped_of_mem_records hrecord
    exact hresult reason hdropped

/-- Over fixed interfaces, the operations of the calls and all counts but the one of the calls that
fail are read off the lines. -/
theorem calls_of_fixed {registry : Lookup}
    (hlookup : ∀ state, collaborators.lookup state = registry) (lines : List Line) (state : State) :
    let taken := turns collaborators settings 1 lines state
    let asked := lines.map fun line => (line.operation settings registry).result
    let summary := Summary.ofResults (taken.map Turn.result)
    (taken.filterMap Turn.call?).map Answered.operation = asked.filterMap Turn.askedOperation? ∧
      summary.lines = lines.length ∧
      summary.rejected = asked.countP (fun asked => asked matches .error _) ∧
      summary.applied + summary.failed = (asked.filterMap Turn.askedOperation?).length := by
  intro taken asked summary
  have hasked : taken.map Turn.asked = asked := map_asked_turns hlookup 1 lines state
  have hoperations :
      (taken.filterMap Turn.call?).map Answered.operation =
        asked.filterMap Turn.askedOperation? := by
    rw [Turn.map_operation_calls, hasked]
  have hsummary := Turn.summary_eq taken
  refine ⟨hoperations, ?_, ?_, ?_⟩
  · rw [show summary = _ from hsummary, ← List.length_map Turn.line, map_line_turns]
  · rw [show summary = _ from hsummary, ← hasked, List.countP_map]
    rfl
  · rw [Turn.applied_add_failed, ← hoperations, List.length_map]

/-- For each line a pass makes one call or none, in the order of the lines. The summary counts the
calls that succeed and the calls that fail, besides the lines that are rejected. A line that is
rejected or whose call fails has one warning with the reason, and no other line has any. Over fixed
interfaces the calls that are made are the same whichever of them fail. -/
theorem one_call_per_line (capacity : Nat) (reads : List Host.Read) (state : State) :
    let lines := (readLines capacity reads).1
    let taken := turns collaborators settings 1 lines state
    let plain := parse collaborators settings capacity reads state
    let watched := parse collaborators.recorded settings capacity reads (state, [])
    let calls := watched.state.2
    let applied := calls.countP Answered.isDone
    let failed := calls.countP Answered.isRefused
    let rejected := taken.countP fun turn => turn.asked matches .error _
    let written := taken.flatMap Turn.records
    (watched.value = plain.value ∧ watched.state.1 = plain.state ∧
      watched.events = plain.events) ∧
    (taken.map Turn.line = lines ∧ taken.map Turn.number = List.range' 1 lines.length ∧
      calls = taken.filterMap Turn.call? ∧ plain.events = taken.flatMap Turn.events) ∧
    (((readLines capacity reads).2 = none →
        plain.value = .ok ⟨lines.length, applied, rejected, failed⟩) ∧
      (∀ fault, (readLines capacity reads).2 = some fault → plain.value = .error (.io fault)) ∧
      applied + rejected + failed ≤ lines.length) ∧
    (∀ turn ∈ taken,
      (∀ fault, turn.result = .dropped fault →
        written.count (lineRecord .warning turn.number fault.message) = 1) ∧
      ((∀ fault, turn.result ≠ .dropped fault) → ∀ (level : Log.Level) (fault : LineFault),
        lineRecord level turn.number fault.message ∉ written)) ∧
    (∀ registry : Lookup, (∀ current, collaborators.lookup current = registry) →
      ∀ (Other : Type) (others : Collaborators Other) (start : Other),
        (∀ current, others.lookup current = registry) →
        let again := parse others.recorded settings capacity reads (start, [])
        let shared := fun summary : Summary =>
          (summary.lines, summary.rejected, summary.applied + summary.failed)
        again.state.2.map Answered.operation = calls.map Answered.operation ∧
          again.value.map shared = plain.value.map shared) := by
  intro lines taken plain watched calls applied failed rejected written
  have hwatched := parse_recorded collaborators settings capacity reads state []
  have hcalls : calls = taken.filterMap Turn.call? := by
    simp only [calls, watched, hwatched, List.nil_append, taken, lines]
  have hlines : taken.map Turn.line = lines := map_line_turns 1 lines state
  obtain ⟨hread, hbroken⟩ := parse_value_turns collaborators settings capacity reads state
  have hsummary : Summary.ofResults (taken.map Turn.result) =
      ⟨lines.length, applied, rejected, failed⟩ := by
    rw [Turn.summary_eq, ← hcalls, ← hlines, List.length_map]
  refine ⟨?_, ⟨hlines, map_number_turns 1 lines state, hcalls,
    (run_turns collaborators settings 1 lines state).2⟩, ⟨?_, hbroken, ?_⟩,
    count_records_turns collaborators settings lines state, ?_⟩
  · simp only [watched, hwatched, plain, and_self]
  · rw [← hsummary]
    exact hread
  · have hle := Summary.counts_le (taken.map Turn.result)
    rwa [hsummary] at hle
  · intro registry hlookup Other others start hothers again shared
    have hagain := parse_recorded others settings capacity reads start []
    obtain ⟨hmade, hlength, hrejected, hsum⟩ :=
      calls_of_fixed collaborators settings hlookup lines state
    obtain ⟨hmade', hlength', hrejected', hsum'⟩ :=
      calls_of_fixed others settings hothers lines start
    obtain ⟨hread', hbroken'⟩ := parse_value_turns others settings capacity reads start
    refine ⟨?_, ?_⟩
    · rw [hcalls, hmade, ← hmade']
      simp only [again, hagain, List.nil_append, lines]
    · have hvalue : again.value = (parse others settings capacity reads start).value := by
        simp only [again, hagain]
      rw [hvalue]
      cases hfault : (readLines capacity reads).2 with
      | some fault => rw [hbroken' fault hfault, hbroken fault hfault]
      | none =>
          rw [hread' hfault, hread hfault]
          simp only [Except.map, shared, hlength, hlength', hrejected, hrejected', hsum, hsum',
            lines]

/-- Of two rehearsals of the same lines, the second refuses the first call. It goes on to the same
calls, and the line with the refused call counts as failed and not as applied. -/
theorem one_call_per_line_one_refused :
    let interfaces := [("lo", ⟨none, none, 1⟩)]
    let steady := Rehearsal.collaborators ⟨interfaces, []⟩
    let moody := Rehearsal.collaborators ⟨interfaces, [(0, .other "busy")]⟩
    let reads := ["phyint lo\nfoo\n\nmgroup from lo group 225.1.2.3\n".toUTF8.toList].map .data
    (parse steady {} 8192 reads []).value = .ok ⟨4, 2, 1, 0⟩ ∧
      (parse moody {} 8192 reads []).value = .ok ⟨4, 1, 1, 1⟩ ∧
      (parse moody.recorded {} 8192 reads ([], [])).state.2.map Answered.operation =
        (parse steady.recorded {} 8192 reads ([], [])).state.2.map Answered.operation := by
  intro interfaces steady moody reads
  refine ⟨?_, ?_, ?_⟩
  · rw [parse_data (by decide)]
    decide +kernel
  · rw [parse_data (by decide)]
    decide +kernel
  · exact ((one_call_per_line steady {} 8192 reads []).2.2.2.2 (interfaces.lookup ·)
      (fun _ => rfl) _ moody [] fun _ => rfl).1

end Pass

end StaticMulticast.Configuration
