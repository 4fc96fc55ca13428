import StaticMulticast.Proofs.Configuration.Calls
import StaticMulticast.Proofs.Configuration.Naming
import StaticMulticast.Proofs.Interface.Slots
import StaticMulticast.Proofs.Tables.Soundness

/-!
# Sessions over the tables

In a session, passes over files, operations on the interfaces and clearings follow each other in any
order. All of them keep the registry consistent, so the slots that interfaces hold are slots of the
kernel. A line can only ask for routes over such slots, and the route table never refuses one
(`Tables.routes_never_fail`).
-/

namespace StaticMulticast

open StaticMulticast.Configuration
open Address (Family)

/-! ## Slots that are held -/

/-- A slot that a line can learn of is a slot of the table. -/
theorem Registry.Consistent.slot_lt_of_forwarding? {registry : Registry} (h : registry.Consistent)
    {name : String} {forwarding : Forwarding} {family : Family} {slot : Nat}
    (hfound : registry.forwarding? name = some forwarding)
    (hslot : forwarding.slot family = some slot) : slot < slotCount := by
  obtain ⟨interface, hfind, rfl⟩ := Option.map_eq_some_iff.1 hfound
  refine h.slot_lt (mem_and_name_of_find? hfind).1 ?_
  cases family with
  | inet => exact .inl hslot
  | inet6 => exact .inr hslot

/-- The slots of a route over interfaces that hold them are not refused. -/
theorem Route.refusedSlot?_eq_none {registry : Registry} (h : registry.Consistent)
    {family : Family} {kind : String} {inbound : Nat} {outbound : List Exit}
    (hinbound : Operation.HoldsSlot registry.forwarding? family inbound)
    (houtbound : Operation.ValidOutbound registry.forwarding? family outbound) :
    refusedSlot? kind inbound outbound = none := by
  refine refusedSlot?_eq_none_iff.2 ⟨?_, fun exit hexit => ?_⟩
  · obtain ⟨name, forwarding, -, hfound, hslot⟩ := hinbound
    exact h.slot_lt_of_forwarding? hfound hslot
  · obtain ⟨name, forwarding, -, hfound, hslot, -⟩ := houtbound.leadsTo exit hexit
    exact h.slot_lt_of_forwarding? hfound hslot

namespace Tables

variable {tables : Tables} {settings : Settings}

/-- The registry is consistent. -/
def Consistent (tables : Tables) : Prop :=
  tables.registry.Consistent

/-- An operation keeps the tables consistent. -/
theorem Consistent.perform (h : tables.Consistent) (operation : Operation) :
    (tables.perform operation).state.Consistent := by
  cases operation with
  | enable name threshold => exact Registry.Consistent.enable h name threshold
  | disable name => exact Registry.Consistent.disable h name
  | join | addV4 | addV6 => exact h

/-! ## How operations fail -/

/-- The failures that an operation of a line can end in. A route can end in none. -/
def MayFail : Operation → Failure → Prop
  | .enable name _, reason => reason = Registry.unknown name ∨ reason = .tableFull "vif"
  | .disable name, reason => reason = Registry.unknown name
  | .join membership, reason => reason = .alreadyExists (Group.describe membership)
  | .addV4 _, _ => False
  | .addV6 _, _ => False

/-- An operation that a line asks for ends in no other failure. -/
theorem Consistent.mayFail_of_perform (h : tables.Consistent) {operation : Operation}
    (hasked : operation.AskedFor settings tables.registry.forwarding?) {reason : Failure}
    (hfailed : (tables.perform operation).value = .error reason) : MayFail operation reason := by
  have hvalid := hasked.valid
  cases operation with
  | enable name threshold =>
      have hvalue : (tables.registry.enable name threshold).value = .error reason := hfailed
      obtain ⟨-, heq⟩ | ⟨_, -, -, heq⟩ | ⟨_, _, _, -, -, heq⟩ :=
        tables.registry.enable_cases name threshold
      · rw [heq] at hvalue
        cases hvalue
        exact .inl rfl
      · rw [heq] at hvalue
        cases hvalue
        exact .inr rfl
      · rw [heq] at hvalue
        cases hvalue
  | disable name =>
      have hvalue : (tables.registry.disable name).value = .error reason := hfailed
      obtain ⟨-, heq⟩ | ⟨_, -, heq⟩ := tables.registry.disable_cases name
      · rw [heq] at hvalue
        cases hvalue
        rfl
      · rw [heq] at hvalue
        cases hvalue
  | join membership =>
      have hvalue : (tables.groups.join membership).value = .error reason := hfailed
      obtain ⟨_, -, heq⟩ | ⟨-, heq⟩ := tables.groups.join_cases membership
      · rw [heq] at hvalue
        cases hvalue
        rfl
      · rw [heq] at hvalue
        cases hvalue
  | addV4 route =>
      have hvalue : (tables.routes.addV4 route).value = .error reason := hfailed
      obtain ⟨hinbound, -, -, -, houtbound⟩ := hvalid
      obtain ⟨_, hslot, -⟩ | ⟨-, heq⟩ := tables.routes.addV4_cases route
      · rw [Route.refusedSlot?_eq_none h hinbound houtbound] at hslot
        cases hslot
      · rw [heq] at hvalue
        cases hvalue
  | addV6 route =>
      have hvalue : (tables.routes.addV6 route).value = .error reason := hfailed
      obtain ⟨-, hinbound, -, houtbound⟩ := hvalid
      obtain ⟨_, hslot, -⟩ | ⟨-, heq⟩ := tables.routes.addV6_cases route
      · rw [Route.refusedSlot?_eq_none h hinbound houtbound] at hslot
        cases hslot
      · rw [heq] at hvalue
        cases hvalue

/-! ## Sessions -/

/-- Something that is done to the tables in a session. -/
inductive Change where
  | parse (settings : Settings) (capacity : Nat) (reads : List Host.Read)
  | interfaces (action : Registry.Action)
  | clearRoutes
  | clearGroups

/-- The tables after a change. -/
def change (tables : Tables) : Change → Tables
  | .parse settings capacity reads =>
      (Pass.parse (collaborators nothingAfterwards) settings capacity reads tables).state
  | .interfaces action => { tables with registry := (tables.registry.act action).1 }
  | .clearRoutes => { tables with routes := tables.routes.clear.state }
  | .clearGroups => { tables with groups := tables.groups.clear.state }

/-- The tables after a session. -/
def during (tables : Tables) (session : List Change) : Tables :=
  session.foldl change tables

/-- A change keeps the tables consistent. -/
theorem Consistent.change (h : tables.Consistent) (made : Change) :
    (tables.change made).Consistent := by
  cases made with
  | parse settings capacity reads =>
      exact Pass.parse_keeps (fun _ operation h _ => h.perform operation) capacity reads h
  | interfaces action => exact h.act action
  | clearRoutes | clearGroups => exact h

/-- A session keeps the tables consistent. -/
theorem Consistent.during (h : tables.Consistent) (session : List Change) :
    (tables.during session).Consistent := by
  induction session generalizing tables with
  | nil => exact h
  | cons made rest ih => exact ih (h.change made)

/-- New tables over no interfaces are consistent. -/
theorem consistent_initial (ipv6 : Bool) : (initial (.empty ipv6)).Consistent :=
  Registry.consistent_empty ipv6

/-! ## Failed lines -/

/-- A line fails with an operation that can fail so. -/
theorem mayFail_of_turn (h : tables.Consistent) {number : Nat} {line : Line} {reason : Failure}
    (hfailed : (Pass.turn (collaborators nothingAfterwards) settings number line tables).result =
      .dropped (.failed reason)) :
    ∃ operation, line.command? = some operation.command ∧ MayFail operation reason := by
  obtain ⟨call, hcall, hanswer⟩ := Turn.exists_call_of_failed hfailed
  obtain ⟨hasked, hvalue⟩ := Pass.answered_of_call? hcall
  exact ⟨call.operation, Line.command?_of_operation hasked,
    h.mayFail_of_perform ⟨line, hasked⟩ (hvalue.trans hanswer)⟩

/-- An operation that can fail is one of an interface, which is not known or gets no slot, or of a
membership that is there already. -/
theorem command_of_mayFail {operation : Operation} {reason : Failure}
    (h : MayFail operation reason) :
    (operation.command = .interface ∧
        ((∃ name, reason = Registry.unknown name) ∨ reason = .tableFull "vif")) ∨
      (operation.command = .membership ∧
        ∃ membership, reason = .alreadyExists (Group.describe membership)) := by
  cases operation with
  | enable name threshold => exact .inl ⟨rfl, h.imp_left fun heq => ⟨name, heq⟩⟩
  | disable name => exact .inl ⟨rfl, .inl ⟨name, h⟩⟩
  | join membership => exact .inr ⟨rfl, membership, h⟩
  | addV4 | addV6 => exact h.elim

/-- An operation that can fail is none of a route. -/
theorem command_ne_route_of_mayFail {operation : Operation} {reason : Failure}
    (h : MayFail operation reason) : operation.command ≠ .route := by
  obtain ⟨hcommand, -⟩ | ⟨hcommand, -⟩ := command_of_mayFail h
  · rw [hcommand]
    decide
  · rw [hcommand]
    decide

/-- In no session does the route table refuse a route that a line asks for. So no line about a route
counts as failed, and other lines fail for three reasons only: an interface is not known, there is
no slot for it, or a membership is there already. -/
theorem routes_never_fail (ipv6 : Bool) (session : List Change) (settings : Settings)
    (capacity : Nat) (reads : List Host.Read) :
    let tables := (initial (.empty ipv6)).during session
    let collaborators := collaborators nothingAfterwards
    let taken := Pass.turns collaborators settings 1 (readLines capacity reads).1 tables
    let plain := Pass.parse collaborators settings capacity reads tables
    let calls := (Pass.parse collaborators.recorded settings capacity reads (tables, [])).state.2
    (∀ call ∈ calls, call.operation.command = .route → call.answer = .ok ()) ∧
    (∀ call ∈ calls, ∀ reason, call.answer = .error reason → MayFail call.operation reason) ∧
    (∀ turn ∈ taken, ∀ reason, turn.result = .dropped (.failed reason) →
      (turn.line.command? = some .interface ∧
        ((∃ name, reason = .missing ("interface " ++ name)) ∨ reason = .tableFull "vif")) ∨
      (turn.line.command? = some .membership ∧
        ∃ membership, reason = .alreadyExists (Group.describe membership))) ∧
    (∀ summary, plain.value = .ok summary →
      summary.failed = (taken.filter fun turn => turn.line.command? != some .route).countP
        fun turn => turn.result matches .dropped (.failed _)) := by
  intro tables collaborators taken plain calls
  have htables : tables.Consistent := (consistent_initial ipv6).during session
  -- Each turn is taken over tables that are consistent, whatever the turns before it did.
  have hturn : ∀ turn ∈ taken, ∃ number line current, Tables.Consistent current ∧
      turn = Pass.turn collaborators settings number line current := by
    intro turn hmem
    obtain ⟨number, line, current, -, hcurrent, heq⟩ :=
      Pass.exists_turn_of_mem (fun _ operation h _ => h.perform operation) htables hmem
    exact ⟨number, line, current, hcurrent, heq⟩
  have hcalls : ∀ call ∈ calls, ∀ reason, call.answer = .error reason →
      MayFail call.operation reason := by
    intro call hcall reason hreason
    simp only [calls, Pass.parse_recorded, List.nil_append] at hcall
    obtain ⟨turn, hmem, hcall⟩ := List.mem_filterMap.1 hcall
    obtain ⟨number, line, current, hcurrent, rfl⟩ := hturn turn hmem
    obtain ⟨hasked, hvalue⟩ := Pass.answered_of_call? hcall
    exact hcurrent.mayFail_of_perform ⟨line, hasked⟩ (hvalue.trans hreason)
  have hfailed : ∀ turn ∈ taken, ∀ reason, turn.result = .dropped (.failed reason) →
      ∃ operation, turn.line.command? = some operation.command ∧ MayFail operation reason := by
    intro turn hmem reason hreason
    obtain ⟨number, line, current, hcurrent, rfl⟩ := hturn turn hmem
    exact mayFail_of_turn hcurrent hreason
  refine ⟨?_, hcalls, ?_, ?_⟩
  · intro call hcall hroute
    cases hanswer : call.answer with
    | ok done => rfl
    | error reason =>
        exact absurd hroute (command_ne_route_of_mayFail (hcalls call hcall reason hanswer))
  · intro turn hmem reason hreason
    obtain ⟨operation, hcommand, hmayFail⟩ := hfailed turn hmem reason hreason
    rw [hcommand, Option.some.injEq, Option.some.injEq]
    exact command_of_mayFail hmayFail
  · intro summary hsummary
    obtain ⟨hread, hbroken⟩ := Pass.parse_value_turns collaborators settings capacity reads tables
    cases hfault : (readLines capacity reads).2 with
    | some fault => cases hsummary.symm.trans (hbroken fault hfault)
    | none =>
        obtain rfl := Except.ok.inj (hsummary.symm.trans (hread hfault))
        refine Turn.failed_eq_countP_filter fun turn hmem reason hreason => ?_
        obtain ⟨operation, hcommand, hmayFail⟩ := hfailed turn hmem reason hreason
        rw [hcommand, bne_iff_ne, ne_eq, Option.some.injEq]
        exact command_ne_route_of_mayFail hmayFail

/-- Beside a line that fails for an unknown interface, the one about a route does not. -/
theorem routes_never_fail_beside_unknown :
    let session : List Change :=
      [.interfaces (.insert "eth0" 1), .interfaces (.insert "eth1" 2), .interfaces .enableAll]
    let tables := (initial (.empty true)).during session
    let reads :=
      ["phyint eth7\nmroute from eth0 group 225.1.2.3 to eth1\n".toUTF8.toList].map .data
    let calls := (Pass.parse (collaborators nothingAfterwards).recorded {} 8192 reads
      (tables, [])).state.2
    (Pass.parse (collaborators nothingAfterwards) {} 8192 reads tables).value = .ok ⟨2, 1, 0, 1⟩ ∧
      calls.map (fun call => call.operation.command) = [.interface, .route] ∧
      ∀ call ∈ calls, call.operation.command = .route → call.answer = .ok () := by
  intro session tables reads calls
  have hparsed := Pass.parse_recorded (collaborators nothingAfterwards) {} 8192 reads tables []
  have hcomputed : (Pass.parse (collaborators nothingAfterwards).recorded {} 8192 reads
      (tables, [])).value = .ok ⟨2, 1, 0, 1⟩ ∧
        calls.map (fun call => call.operation.command) = [.interface, .route] := by
    simp only [calls]
    rw [Pass.parse_data (by decide)]
    decide +kernel
  refine ⟨?_, hcomputed.2, (routes_never_fail true session {} 8192 reads).1⟩
  exact (congrArg Outcome.value hparsed).symm.trans hcomputed.1

end Tables

end StaticMulticast
