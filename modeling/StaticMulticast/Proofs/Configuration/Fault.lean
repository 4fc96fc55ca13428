import StaticMulticast.Proofs.Configuration.Chunks
import StaticMulticast.Proofs.Configuration.Ends
import StaticMulticast.Proofs.Configuration.Pass

/-!
# Faults in the middle of a file

A read that fails while a file is read is tried again, or it ends the pass. What the pass has done
by then is what a pass does over the data up to the last line end before the fault, wherever in a
line and through whatever buffer the fault strikes (`Pass.load_fault_or_end`). What is due after the
last line is carried out once for a file that comes to its end, and never for another.
-/

namespace StaticMulticast.Configuration

open Host (Read)

/-- The data of the reads. -/
def delivered (reads : List Read) : List UInt8 :=
  reads.flatMap fun
    | .data octets => octets
    | .failure _ => []

/-- A read that fails after the given data is tried again: it was interrupted, and of the line that
it goes on with fewer octets have come than can be held. -/
def Retried (octets : List UInt8) (fault : Host.Fault) : Prop :=
  fault.kind = .interrupted ∧ (unended octets).length < heldAtMost

/-- Every read that fails is tried again, where the given data has come before the reads. -/
def Endure (octets : List UInt8) : List Read → Prop
  | [] => True
  | .data piece :: rest => Endure (octets ++ piece) rest
  | .failure fault :: rest => Retried octets fault ∧ Endure octets rest

/-- A fault cuts the reads off after the given data: it is that of the first read that fails and is
not tried again. -/
def CutOff (reads : List Read) (data : List UInt8) (fault : Host.Fault) : Prop :=
  ∃ before after, reads = before ++ .failure fault :: after ∧ Endure [] before ∧
    delivered before = data ∧ ¬ Retried data fault

variable {octets data : List UInt8} {fault : Host.Fault} {reads before : List Read}

/-! ## What is heard of reads that fail -/

/-- A read is tried again exactly if it was interrupted and the count leaves room for an octet. -/
theorem retried_iff :
    Retried octets fault ↔ fault.kind = .interrupted ∧ countAfter 0 octets < heldAtMost := by
  rw [Retried, countAfter_zero]
  exact and_congr_right fun _ => by omega

/-- All data is heard of reads that endure, and then what comes after them. -/
theorem Endure.heard_append (h : Endure octets before) (after : List Read) :
    heard (countAfter 0 octets) (before ++ after) =
      let later := heard (countAfter 0 (octets ++ delivered before)) after
      (delivered before ++ later.1, later.2) := by
  induction before generalizing octets with
  | nil => simp [delivered]
  | cons read before ih =>
      cases read with
      | data piece =>
          have hlater := ih h
          rw [countAfter_append, List.append_assoc] at hlater
          simp only [List.cons_append, heard, hlater, delivered, List.flatMap_cons,
            List.append_assoc]
      | failure fault =>
          rw [List.cons_append, heard, if_pos (retried_iff.1 h.1)]
          exact ih h.2

/-- Where every read that fails is tried again, all data is heard. -/
theorem Endure.heard_eq (h : Endure [] reads) : heard 0 reads = (delivered reads, none) := by
  have happend := h.heard_append []
  simp only [List.append_nil, heard] at happend
  exact happend

/-- A fault that cuts the reads off cuts off what is heard. -/
theorem CutOff.heard_eq (h : CutOff reads data fault) : heard 0 reads = (data, some fault) := by
  obtain ⟨before, after, rfl, hbefore, rfl, hfault⟩ := h
  have happend := hbefore.heard_append (.failure fault :: after)
  simp only [List.nil_append, heard, if_neg (mt retried_iff.2 hfault), List.append_nil] at happend
  exact happend

/-- Either every read that fails is tried again, or one of them is the first that is not. -/
theorem endure_or_exists_fault (octets : List UInt8) (reads : List Read) :
    Endure octets reads ∨ ∃ before fault after, reads = before ++ .failure fault :: after ∧
      Endure octets before ∧ ¬ Retried (octets ++ delivered before) fault := by
  induction reads generalizing octets with
  | nil => exact .inl trivial
  | cons read rest ih =>
      cases read with
      | data piece =>
          refine (ih (octets ++ piece)).imp_right ?_
          rintro ⟨before, fault, after, rfl, hbefore, hfault⟩
          refine ⟨.data piece :: before, fault, after, rfl, hbefore, ?_⟩
          rwa [delivered, List.flatMap_cons, ← List.append_assoc]
      | failure first =>
          by_cases hfirst : Retried octets first
          · refine (ih octets).imp (fun hrest => ⟨hfirst, hrest⟩) ?_
            rintro ⟨before, fault, after, rfl, hbefore, hfault⟩
            exact ⟨.failure first :: before, fault, after, rfl, ⟨hfirst, hbefore⟩, hfault⟩
          · refine .inr ⟨[], first, rest, rfl, trivial, ?_⟩
            rwa [delivered, List.flatMap_nil, List.append_nil]

/-- Reads that no fault cuts off endure. -/
theorem endure_of_not_cutOff (h : ∀ data fault, ¬ CutOff reads data fault) : Endure [] reads := by
  obtain hendure | ⟨before, fault, after, heq, hbefore, hfault⟩ := endure_or_exists_fault [] reads
  · exact hendure
  · exact absurd ⟨before, after, heq, hbefore, rfl, hfault⟩ (h (delivered before) fault)

/-! ## Passes -/

namespace Pass

variable {State : Type} {collaborators : Collaborators State} {settings : Settings}

/-- A pass that a fault ends has done what a pass does over the data up to the last line end. -/
theorem parse_of_cutOff {capacity other : Nat} (hcapacity : 0 < capacity) (hother : 0 < other)
    (h : CutOff reads data fault) {chunks : List (List UInt8)}
    (hchunks : chunks.flatten = ended data) (state : State) :
    parse collaborators settings capacity reads state =
      { parse collaborators settings other (chunks.map .data) state with
        value := .error (.io fault) } := by
  rw [parse_of_fault hcapacity h.heard_eq, parse_data hother, hchunks, endedLines_eq]

/-- What is reported of something that was due after the last line. -/
def failureEvents : Except Failure Unit → List StaticMulticast.Event
  | .ok _ => []
  | .error reason => [.configuration (.hookFailed reason)]

/-- What is due after the last line makes no difference to the lines. -/
theorem parse_afterwards
    (afterwards : State → Outcome State StaticMulticast.Event (Except Failure Unit))
    (capacity : Nat) (reads : List Read) (state : State) :
    parse { collaborators with afterwards } settings capacity reads state =
      parse collaborators settings capacity reads state := by
  refine parse_congr ?_ ?_ capacity reads state
  · rfl
  · rfl

/-- Whatever is due after the last line of a file, it is not carried out if the pass fails. -/
theorem load_of_error {environment : Host.Environment} {path : String} {state : State}
    {reason : Failure} (hopen : environment.openFile path = .ok reads)
    (h : (parse collaborators settings fileCapacity reads state).value = .error reason)
    (afterwards : State → Outcome State StaticMulticast.Event (Except Failure Unit)) :
    load { collaborators with afterwards } settings environment path state =
      { parse collaborators settings fileCapacity reads state with value := .error reason } := by
  simp only [load, hopen, parse_afterwards, h]

/-- Whatever is due after the last line of a file, it is carried out once and after the lines if the
pass does not fail, and whether it fails itself only shows in what is reported. -/
theorem load_of_ok {environment : Host.Environment} {path : String} {state : State}
    {summary : Summary} (hopen : environment.openFile path = .ok reads)
    (h : (parse collaborators settings fileCapacity reads state).value = .ok summary)
    (afterwards : State → Outcome State StaticMulticast.Event (Except Failure Unit)) :
    let parsed := parse collaborators settings fileCapacity reads state
    let ran := afterwards parsed.state
    load { collaborators with afterwards } settings environment path state =
      ⟨.ok (.parsed summary), ran.state,
        parsed.events ++ .configuration (.parsed path summary) :: ran.events ++
          failureEvents ran.value⟩ := by
  simp only [load, hopen, parse_afterwards, h]
  cases (afterwards (parse collaborators settings fileCapacity reads state).state).value with
  | ok _ => rfl
  | error reason => rfl

/-- A fault that cuts the reads of a file off ends the pass over it. What was done by then is what a
pass without faults does over the longest part of the data that is empty or ends with a line end:
each of its lines has had its turn, but nothing was done of the line that the fault interrupts, and
nothing of what is due after the last line. For a file that no fault cuts off, all lines of the data
have their turns, what is due after the last line is carried out once, in the state that the lines
leave, and the summary is the same whether that succeeds or fails. -/
theorem load_fault_or_end (collaborators : Collaborators State) (settings : Settings)
    (reads : List Read) (state : State) :
    (∀ data fault, CutOff reads data fault →
      (ended data <+: data ∧ Closed (ended data) ∧
        ∀ front, front <+: data → Closed front → front <+: ended data) ∧
      ∀ (capacity other : Nat) (chunks : List (List UInt8)), 0 < capacity → 0 < other →
        chunks.flatten = ended data →
        let whole := parse collaborators settings other (chunks.map .data) state
        (∃ taken : List Turn,
          Covers collaborators settings 1 ((wholeLines (ended data)).map .whole) state taken whole ∧
          whole.value = .ok (.ofResults (taken.map Turn.result))) ∧
        parse collaborators settings capacity reads state =
          { whole with value := .error (.io fault) } ∧
        ∀ environment path afterwards, environment.openFile path = .ok reads →
          load { collaborators with afterwards } settings environment path state =
            { whole with value := .error (.io fault) }) ∧
    ((∀ data fault, ¬ CutOff reads data fault) →
      let parsed := parse collaborators settings fileCapacity reads state
      ∃ (taken : List Turn) (summary : Summary),
        Covers collaborators settings 1 ((wholeLines (delivered reads)).map .whole) state taken
          parsed ∧
        summary = .ofResults (taken.map Turn.result) ∧ parsed.value = .ok summary ∧
        (∀ capacity, 0 < capacity →
          parse collaborators settings capacity reads state = parsed) ∧
        ∀ environment path afterwards, environment.openFile path = .ok reads →
          let ran := afterwards parsed.state
          load { collaborators with afterwards } settings environment path state =
            ⟨.ok (.parsed summary), ran.state,
              parsed.events ++ .configuration (.parsed path summary) :: ran.events ++
                failureEvents ran.value⟩) := by
  have hfile : 0 < fileCapacity := by decide
  constructor
  · intro data fault h
    refine ⟨⟨List.rdropWhile_prefix _ _, closed_ended data, fun _ => prefix_ended⟩, ?_⟩
    intro capacity other chunks hcapacity hother hchunks
    have hparse : ∀ capacity, 0 < capacity →
        parse collaborators settings capacity reads state =
          { parse collaborators settings other (chunks.map .data) state with
            value := .error (.io fault) } :=
      fun _ hcapacity => parse_of_cutOff hcapacity hother h hchunks state
    have hwhole : heard 0 (chunks.map .data) = (ended data, none) := by
      rw [heard_data, hchunks]
    refine ⟨⟨_, parse_covers collaborators settings hother hwhole state⟩,
      hparse capacity hcapacity, ?_⟩
    intro environment path afterwards hopen
    have herror := congrArg Outcome.value (hparse fileCapacity hfile)
    rw [load_of_error hopen herror, hparse fileCapacity hfile]
  · intro h
    have hheard := (endure_of_not_cutOff h).heard_eq
    obtain ⟨hcovers, hvalue⟩ := parse_covers collaborators settings hfile hheard state
    refine ⟨_, _, hcovers, rfl, hvalue, fun capacity hcapacity => ?_, ?_⟩
    · rw [parse_of_end hcapacity hheard, parse_of_end hfile hheard]
    · intro environment path afterwards hopen
      exact load_of_ok hopen hvalue afterwards

/-- An interruption is tried again in the middle of a line, and ends the pass once as many octets of
a line have come as can be held. The line before has had its turn. -/
theorem load_fault_at_full_line :
    CutOff
        [.data [0x61, 0x0A, 0x62], .failure (.system 4), .data (List.replicate 513 0x63),
          .failure (.system 4), .data [0x0A]]
        ([0x61, 0x0A, 0x62] ++ List.replicate 513 0x63) (.system 4) ∧
      parse (Rehearsal.collaborators ⟨[], []⟩) {} 7
          [.data [0x61, 0x0A, 0x62], .failure (.system 4), .data (List.replicate 513 0x63),
            .failure (.system 4), .data [0x0A]] [] =
        ⟨.error (.io (.system 4)), [], [dropEvent 1 (.rejected (.unknownCommand "a"))]⟩ := by
  have hclosed : Closed [0x61, 0x0A] := .inr rfl
  have hend : lineEnd ∉ 0x62 :: List.replicate 513 0x63 := by
    rw [List.mem_cons, List.mem_replicate]
    decide
  have hcut : CutOff
      [.data [0x61, 0x0A, 0x62], .failure (.system 4), .data (List.replicate 513 0x63),
        .failure (.system 4), .data [0x0A]]
      ([0x61, 0x0A, 0x62] ++ List.replicate 513 0x63) (.system 4) := by
    refine ⟨[.data [0x61, 0x0A, 0x62], .failure (.system 4), .data (List.replicate 513 0x63)],
      [.data [0x0A]], rfl, ?_, ?_, fun h => ?_⟩
    · exact ⟨⟨rfl, by decide⟩, trivial⟩
    · simp only [delivered, List.flatMap_cons, List.flatMap_nil, List.append_nil, List.nil_append]
    · have hroom : (0x62 :: List.replicate 513 (0x63 : UInt8)).length < heldAtMost :=
        unended_append hclosed hend ▸ h.2
      rw [List.length_cons, List.length_replicate] at hroom
      exact absurd hroom (by decide)
  have hended : [[0x61, 0x0A]].flatten =
      ended ([0x61, 0x0A, 0x62] ++ List.replicate 513 0x63) :=
    (ended_append hclosed hend).symm
  obtain ⟨⟨taken, hcovers, -⟩, hparse, -⟩ :=
    ((load_fault_or_end (Rehearsal.collaborators ⟨[], []⟩) {} _ []).1 _ _ hcut).2 7 1
      [[0x61, 0x0A]] (by decide) (by decide) hended
  refine ⟨hcut, hparse.trans ?_⟩
  rw [hcovers.state_eq, hcovers.events_eq, hcovers.eq_turns, ← hended, Outcome.mk.injEq]
  decide +kernel

end Pass

end StaticMulticast.Configuration
