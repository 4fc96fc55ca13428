import StaticMulticast.Proofs.Configuration.Chunks
import StaticMulticast.Proofs.Configuration.Validity

/-!
# What lines name

A line that asks for an operation makes a statement of the command that it begins with, and the
operation is one of that command. The slots of a route are those that the interfaces hold which its
line names.
-/

namespace StaticMulticast

open Address (Family)

namespace Route

/-- The family of a route. -/
def family : Route → Family
  | .v4 _ => .inet
  | .v6 _ => .inet6

/-- The slot that packets come in by. -/
def inbound : Route → Nat
  | .v4 route => route.inbound
  | .v6 route => route.inbound

/-- The ways out. -/
def outbound : Route → List Exit
  | .v4 route => route.outbound
  | .v6 route => route.outbound

/-- The operation that adds a route. -/
def operation : Route → Configuration.Operation
  | .v4 route => .addV4 route
  | .v6 route => .addV6 route

/-- Different routes are added by different operations. -/
theorem operation_injective : Function.Injective operation := by
  rintro (first | first) (second | second) h <;> cases h <;> rfl

end Route

namespace Configuration

/-! ## Commands -/

/-- The command that makes a statement. -/
def Statement.command : Statement → Command
  | .interface .. => .interface
  | .membership .. => .membership
  | .route .. => .route

/-- The command of the lines that ask for an operation. -/
def Operation.command : Operation → Command
  | .enable .. | .disable _ => .interface
  | .join _ => .membership
  | .addV4 _ | .addV6 _ => .route

/-- The command that a line begins with. -/
def Line.command? (line : Line) : Option Command :=
  match line.text with
  | .ok text => (words text).head?.bind Command.ofWord?
  | .error _ => none

/-- The statement that a line makes, if it makes any. -/
def Line.statement? (settings : Settings) (line : Line) : Option Statement :=
  match line.text with
  | .ok text => (Statement.read settings text).result.toOption.join
  | .error _ => none

variable {settings : Settings} {lookup : Lookup}

/-- What a line of a command says makes a statement of the command. -/
theorem Statement.command_of_ofContent {command : Command} {content : Content}
    {statement : Statement} (h : ofContent command content = .ok statement) :
    statement.command = command := by
  have hverdict := verdict_ofContent command content
  rw [h] at hverdict
  cases hverdict.of_ok.2 <;> rfl

/-- A line makes statements of the command that its first word spells. -/
theorem Statement.command_of_read {line : String} {statement : Statement}
    (h : (read settings line).result = .ok (some statement)) :
    (words line).head?.bind Command.ofWord? = some statement.command := by
  have hofWords : ∀ command named words,
      (ofWords settings command named words).result = .ok (some statement) →
        statement.command = command := by
    intro command named words h
    obtain ⟨_, hstatement, heq⟩ := map_eq_ok_iff.1 h
    cases heq
    exact command_of_ofContent hstatement
  unfold read at h
  split at h
  · cases h
  · rename_i word rest hwords
    rw [hwords, List.head?_cons, Option.bind_some]
    split at h
    · cases h
    · cases h
    · rename_i hcommand
      rw [hofWords _ _ _ h, hcommand]
    · rename_i hcommand _ _
      rw [hofWords _ _ _ h, hcommand]

/-- A statement becomes an operation of its command, if it becomes any. -/
theorem Operation.command_of_ofStatement {statement : Statement} {operation : Operation}
    (h : (ofStatement settings lookup statement).result = .ok (some operation)) :
    operation.command = statement.command := by
  cases becomes_of_ofStatement h <;> rfl

/-- A line asks for an operation exactly if it makes a statement that becomes the operation. -/
theorem Line.operation_eq_ok_iff {line : Line} {operation : Operation} :
    (line.operation settings lookup).result = .ok (some operation) ↔
      ∃ statement, line.statement? settings = some statement ∧
        (Operation.ofStatement settings lookup statement).result = .ok (some operation) := by
  unfold Line.operation statement?
  cases line.text with
  | error reason => simp
  | ok text =>
      simp only [Operation.ofLine_eq_ok_iff]
      refine exists_congr fun statement => and_congr_left fun _ => ?_
      cases (Statement.read settings text).result with
      | error reason => simp [Except.toOption]
      | ok statement => simp [Except.toOption]

/-- The lines that are read from data make the statements of the data's lines. -/
theorem map_statement?_readLines (settings : Settings) {capacity : Nat} (hcapacity : 0 < capacity)
    (chunks : List (List UInt8)) :
    (readLines capacity (chunks.map .data)).1.map (Line.statement? settings) =
      (wholeLines chunks.flatten).map fun octets => (Line.whole octets).statement? settings := by
  -- A statement is read from the text of the line alone.
  let ofText : Except Rejection String → Option Statement := fun text => match text with
    | .ok text => (Statement.read settings text).result.toOption.join
    | .error _ => none
  have htexts := (Prod.mk.inj (readLines_texts hcapacity (chunks.map .data))).1
  rw [heard_data] at htexts
  have hstatements := congrArg (List.map ofText) htexts
  rw [List.map_map, List.map_map] at hstatements
  exact hstatements

/-- A line asks for operations of the command that it begins with. -/
theorem Line.command?_of_operation {line : Line} {operation : Operation}
    (h : (line.operation settings lookup).result = .ok (some operation)) :
    line.command? = some operation.command := by
  unfold Line.operation at h
  unfold command?
  cases htext : line.text with
  | error reason =>
      rw [htext] at h
      cases h
  | ok text =>
      rw [htext] at h
      obtain ⟨statement, hread, hstatement⟩ := Operation.ofLine_eq_ok_iff.1 h
      rw [Operation.command_of_ofStatement hstatement]
      exact Statement.command_of_read hread

/-! ## Slots -/

/-- The slots of a route are held by the interfaces that a line names: the one to come in by, and
those to go out by. -/
structure Names (lookup : Lookup) (inbound : String) (outbound : List String) (route : Route) :
    Prop where
  inbound : Holds lookup route.family inbound route.inbound
  outbound : ∀ exit ∈ route.outbound, ∃ name ∈ outbound, Holds lookup route.family name exit.slot

namespace Operation

/-- Each way out is held by the interface of one of the names. -/
theorem holds_of_mem_exits {family : Family} {names : List String} {exit : Route.Exit}
    (h : exit ∈ exits lookup family names) :
    ∃ name ∈ names, Holds lookup family name exit.slot := by
  obtain ⟨name, hname, hexit⟩ := List.mem_filterMap.1 ((sublist_distinct _).subset h)
  exact ⟨name, hname, holds_iff_exit?.2 ⟨exit, hexit, rfl⟩⟩

/-- A statement that becomes a route names the interfaces that hold its slots. -/
theorem names_of_ofStatement {statement : Statement} {route : Route}
    (h : (ofStatement settings lookup statement).result = .ok (some route.operation)) :
    ∃ inbound source group outbound, statement = .route inbound source group outbound ∧
      Names lookup inbound outbound route := by
  cases route with
  | v4 route =>
      cases becomes_of_ofStatement h with
      | addV4 hslot => exact ⟨_, _, _, _, rfl, hslot, fun _ => holds_of_mem_exits⟩
  | v6 route =>
      cases becomes_of_ofStatement h with
      | addV6 _ hslot => exact ⟨_, _, _, _, rfl, hslot, fun _ => holds_of_mem_exits⟩

end Operation

end Configuration

end StaticMulticast
