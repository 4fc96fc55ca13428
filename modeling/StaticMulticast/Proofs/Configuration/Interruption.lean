import StaticMulticast.Proofs.Configuration.Fault

/-!
# Interruptions

An interrupted read gives no data, so a pass could go on as if it had not been. While a line is
collected it does. Where an interruption finds as many octets of a line as can be held, the rest of
the line is being passed over, and the pass ends there. So interruptions leave a pass as it is
exactly if each is tried again (`Pass.parse_interrupted`).
-/

namespace StaticMulticast.Configuration

open Host (Read)

/-- The reads deliver the chunks one by one, with any number of interruptions between them. -/
inductive Interrupted : List (List UInt8) → List Read → Prop
  | nil : Interrupted [] []
  | data (octets) {chunks reads} :
      Interrupted chunks reads → Interrupted (octets :: chunks) (.data octets :: reads)
  | failure (fault) {chunks reads} :
      fault.kind = .interrupted → Interrupted chunks reads →
      Interrupted chunks (.failure fault :: reads)

namespace Interrupted

variable {chunks : List (List UInt8)} {reads before : List Read} {data : List UInt8}
  {fault : Host.Fault}

/-- Interruptions take nothing from the data. -/
theorem delivered_eq (h : Interrupted chunks reads) : delivered reads = chunks.flatten := by
  induction h with
  | nil => rfl
  | data octets _ ih => rw [List.flatten_cons, ← ih, delivered, List.flatMap_cons, delivered]
  | failure _ _ _ ih => rw [← ih, delivered, List.flatMap_cons, List.nil_append, delivered]

/-- A fault among the reads is an interruption. -/
theorem kind_eq (h : Interrupted chunks reads) (hmem : .failure fault ∈ reads) :
    fault.kind = .interrupted := by
  induction h with
  | nil => cases hmem
  | data octets _ ih => exact ih (List.mem_of_ne_of_mem Read.noConfusion hmem)
  | failure _ hkind _ ih =>
      cases hmem with
      | head => exact hkind
      | tail _ hlater => exact ih hlater

/-- An interruption cuts the reads off only where as much of a line has come as can be held. -/
theorem heldAtMost_le_of_cutOff (h : Interrupted chunks reads) (hcut : CutOff reads data fault) :
    data <+: chunks.flatten ∧ heldAtMost ≤ (unended data).length := by
  obtain ⟨before, after, rfl, -, rfl, hfault⟩ := hcut
  constructor
  · rw [← h.delivered_eq, delivered, delivered, List.flatMap_append]
    exact List.prefix_append _ _
  · refine Nat.not_lt.1 fun hlt => hfault ⟨h.kind_eq ?_, hlt⟩
    exact List.mem_append_right _ List.mem_cons_self

end Interrupted

namespace Pass

variable {State : Type}

/-- Interruptions make no difference to a pass, to what it has carried out and to what it reports,
exactly if each of them comes when there is still room for an octet of the line that it strikes.
Otherwise the first that comes later ends the pass, after the lines that are ended by then. -/
theorem parse_interrupted (collaborators : Collaborators State) (settings : Settings)
    {capacity other : Nat} (hcapacity : 0 < capacity) (hother : 0 < other)
    {chunks : List (List UInt8)} {reads : List Read} (h : Interrupted chunks reads)
    (state : State) :
    (parse collaborators settings capacity reads state =
        parse collaborators settings other (chunks.map .data) state ↔ Endure [] reads) ∧
      (¬ Endure [] reads → ∃ data fault, CutOff reads data fault ∧ data <+: chunks.flatten ∧
        514 ≤ (unended data).length ∧
        parse collaborators settings capacity reads state =
          { parse collaborators settings other [.data (ended data)] state with
            value := .error (.io fault) }) := by
  have hwhole : parse collaborators settings other (chunks.map .data) state = _ :=
    parse_data hother chunks state
  have hcutOff : ∀ data fault, CutOff reads data fault →
      parse collaborators settings capacity reads state =
        { parse collaborators settings other [.data (ended data)] state with
          value := .error (.io fault) } :=
    fun data _ hcut =>
      have hchunks : [ended data].flatten = ended data := List.flatten_singleton
      parse_of_cutOff hcapacity hother hcut hchunks state
  have hexists : ¬ Endure [] reads → ∃ data fault, CutOff reads data fault := by
    intro hnot
    by_contra hnone
    exact hnot (endure_of_not_cutOff fun data fault hcut => hnone ⟨data, fault, hcut⟩)
  refine ⟨⟨fun heq => ?_, fun hendure => ?_⟩, fun hnot => ?_⟩
  · -- A pass without faults comes to a summary, and one that is cut off does not.
    by_contra hnot
    obtain ⟨data, fault, hcut⟩ := hexists hnot
    rw [hcutOff data fault hcut, hwhole] at heq
    cases congrArg Outcome.value heq
  · rw [parse_of_end hcapacity hendure.heard_eq, hwhole, h.delivered_eq]
  · obtain ⟨data, fault, hcut⟩ := hexists hnot
    obtain ⟨hdata, hlength⟩ := h.heldAtMost_le_of_cutOff hcut
    exact ⟨data, fault, hcut, hdata, hlength, hcutOff data fault hcut⟩

/-- An interruption in the middle of a line, and one before a line end that still finds room. -/
theorem parse_interrupted_in_line :
    parse (Rehearsal.collaborators ⟨[], []⟩) {} 7
        [.failure (.system 4), .data (List.replicate 513 0x61), .failure (.system 4),
          .failure (.system 4), .data [0x0A, 0x62]] [] =
      parse (Rehearsal.collaborators ⟨[], []⟩) {} 1
        [.data (List.replicate 513 0x61), .data [0x0A, 0x62]] [] := by
  have hinterrupted : Interrupted [List.replicate 513 0x61, [0x0A, 0x62]]
      [.failure (.system 4), .data (List.replicate 513 0x61), .failure (.system 4),
        .failure (.system 4), .data [0x0A, 0x62]] :=
    .failure _ rfl (.data _ (.failure _ rfl (.failure _ rfl (.data _ .nil))))
  have hend : lineEnd ∉ List.replicate 513 0x61 := by
    rw [List.mem_replicate]
    decide
  have hroom : (unended (List.replicate 513 0x61)).length < heldAtMost := by
    rw [← List.nil_append (List.replicate 513 0x61), unended_append (.inl rfl) hend,
      List.length_replicate]
    decide
  exact (parse_interrupted _ _ (by decide) (by decide) hinterrupted []).1.2
    ⟨⟨rfl, by decide⟩, ⟨rfl, hroom⟩, ⟨rfl, hroom⟩, trivial⟩

/-- An interruption of an overlong line, before its line end, costs a pass its summary. -/
theorem parse_interrupted_while_skipping :
    Interrupted [List.replicate 514 0x61, [0x0A]]
        [.data (List.replicate 514 0x61), .failure (.system 4), .data [0x0A]] ∧
      (parse (Rehearsal.collaborators ⟨[], []⟩) {} 7
        [.data (List.replicate 514 0x61), .data [0x0A]] []).value =
          .ok { lines := 1, applied := 0, rejected := 1, failed := 0 } ∧
      (parse (Rehearsal.collaborators ⟨[], []⟩) {} 7
        [.data (List.replicate 514 0x61), .failure (.system 4), .data [0x0A]] []).value =
          .error (.io (.system 4)) := by
  have hend : lineEnd ∉ List.replicate 514 0x61 := by
    rw [List.mem_replicate]
    decide
  have hcut : CutOff [.data (List.replicate 514 0x61), .failure (.system 4), .data [0x0A]]
      (List.replicate 514 0x61) (.system 4) := by
    refine ⟨[.data (List.replicate 514 0x61)], [.data [0x0A]], rfl, trivial, ?_, fun h => ?_⟩
    · simp only [delivered, List.flatMap_cons, List.flatMap_nil, List.append_nil]
    · have hroom := h.2
      rw [← List.nil_append (List.replicate 514 0x61), unended_append (.inl rfl) hend,
        List.length_replicate] at hroom
      exact absurd hroom (by decide)
  refine ⟨.data _ (.failure _ rfl (.data _ .nil)), ?_, ?_⟩
  · have hwhole : parse (Rehearsal.collaborators ⟨[], []⟩) {} 7
        ([List.replicate 514 0x61, [0x0A]].map .data) [] = _ := parse_data (by decide) _ []
    have hlines : wholeLines [List.replicate 514 0x61, [0x0A]].flatten =
        [List.replicate 514 0x61] :=
      linesUntil_append_cons none hend []
    rw [hlines] at hwhole
    have hlong : (handle (Rehearsal.collaborators ⟨[], []⟩) {} 1
        (.whole (List.replicate 514 0x61)) []).value = .dropped (.rejected .tooLong) := by
      refine handle_rejected_iff.2 ((Line.operation_tooLong_iff hend).2 ?_)
      rw [Line.before_of_notMem (by rw [List.mem_replicate]; decide), List.length_replicate]
      decide
    refine (congrArg Outcome.value hwhole).trans ?_
    simp only [List.map_cons, List.map_nil, run, hlong]
    rfl
  · have hended : ([[]] : List (List UInt8)).flatten = ended (List.replicate 514 0x61) :=
      (ended_append (.inl rfl) hend).symm
    exact congrArg Outcome.value (parse_of_cutOff (by decide) Nat.one_pos hcut hended [])

end Pass

end StaticMulticast.Configuration
