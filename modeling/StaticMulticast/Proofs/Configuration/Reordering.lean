import StaticMulticast.Proofs.Configuration.Calls
import StaticMulticast.Proofs.Configuration.Selection

/-!
# Lines in another order

Lines whose operations can be exchanged pair by pair can come in any order (`Pass.run_perm`). What
becomes of them is the same but for the order, and the states that they leave are alike. Which
states are alike is left open here: they only have to be so much alike that every operation comes
to the same in both.
-/

namespace StaticMulticast.Configuration

/-- Results in another order count the same. -/
theorem Summary.ofResults_perm {results others : List LineResult} (h : results.Perm others) :
    ofResults results = ofResults others := by
  simp only [ofResults, h.length_eq, h.countP_eq]

/-- What becomes of a line whose call is answered so. -/
def LineResult.ofAnswer : Except Failure Unit → LineResult
  | .ok _ => .applied
  | .error reason => .dropped (.failed reason)

/-- The operation that a line asks for, if it asks for one. -/
def Line.asked? (settings : Settings) (lookup : Lookup) (line : Line) : Option Operation :=
  (line.operation settings lookup).result.toOption.join

/-- That is what the line comes to. -/
theorem Line.asked?_eq_some_iff {settings : Settings} {lookup : Lookup} {line : Line}
    {operation : Operation} :
    line.asked? settings lookup = some operation ↔
      (line.operation settings lookup).result = .ok (some operation) := by
  unfold asked?
  cases (line.operation settings lookup).result with
  | error reason => simp [Except.toOption]
  | ok asked => simp [Except.toOption]

variable {State : Type}

namespace Collaborators

/-- In states that are alike, the operation comes to the same and leaves states that are alike. -/
def Steady (collaborators : Collaborators State) (alike : State → State → Prop)
    (operation : Operation) : Prop :=
  ∀ state other, alike state other →
    (collaborators.perform state operation).value = (collaborators.perform other operation).value ∧
      alike (collaborators.perform state operation).state
        (collaborators.perform other operation).state

/-- The operations can follow each other in either order: the answers are the same but for the
order, and the states are alike. -/
def Interchange (collaborators : Collaborators State) (alike : State → State → Prop)
    (first second : Operation) : Prop :=
  ∀ state, alike state state →
    let there := collaborators.perform state first
    let further := collaborators.perform there.state second
    let back := collaborators.perform state second
    let again := collaborators.perform back.state first
    [there.value, further.value].Perm [back.value, again.value] ∧ alike further.state again.state

/-- Operations that can be exchanged can be exchanged back. -/
theorem Interchange.symm {collaborators : Collaborators State} {alike : State → State → Prop}
    (hsymm : ∀ state other, alike state other → alike other state) {first second : Operation}
    (h : collaborators.Interchange alike first second) :
    collaborators.Interchange alike second first :=
  fun state hstate => ⟨(h state hstate).1.symm, hsymm _ _ (h state hstate).2⟩

end Collaborators

namespace Pass

variable {collaborators : Collaborators State} {settings : Settings} {lookup : Lookup}

/-- A line that asks for nothing comes to the same in every state with the given interfaces, and
leaves it alone. -/
theorem exists_handle_of_asked?_eq_none {line : Line} (h : line.asked? settings lookup = none) :
    ∃ result, ∀ number state, collaborators.lookup state = lookup →
      (handle collaborators settings number line state).value = result ∧
        (handle collaborators settings number line state).state = state := by
  unfold Line.asked? at h
  cases hresult : (line.operation settings lookup).result with
  | error reason =>
      refine ⟨.dropped (.rejected reason), fun number state hlookup => ?_⟩
      simp only [handle, hlookup, hresult, and_self]
  | ok asked =>
      cases asked with
      | none =>
          refine ⟨.idle, fun number state hlookup => ?_⟩
          simp only [handle, hlookup, hresult, and_self]
      | some operation =>
          rw [hresult] at h
          cases h

/-- A line that asks for an operation comes to what the operation comes to. -/
theorem handle_of_asked?_eq_some {line : Line} {operation : Operation}
    (h : line.asked? settings lookup = some operation) (number : Nat) {state : State}
    (hlookup : collaborators.lookup state = lookup) :
    (handle collaborators settings number line state).value =
        .ofAnswer (collaborators.perform state operation).value ∧
      (handle collaborators settings number line state).state =
        (collaborators.perform state operation).state := by
  simp only [handle, hlookup, Line.asked?_eq_some_iff.1 h]
  cases (collaborators.perform state operation).value <;> exact ⟨rfl, rfl⟩

/-- The call that is made for a line is that of the operation it asks for. -/
theorem call?_turn (number : Nat) (line : Line) {state : State}
    (hlookup : collaborators.lookup state = lookup) :
    (turn collaborators settings number line state).call? =
      (line.asked? settings lookup).map fun operation =>
        ⟨operation, (collaborators.perform state operation).value⟩ := by
  simp only [turn, Turn.call?, Line.asked?, hlookup]
  cases (line.operation settings lookup).result with
  | error reason => rfl
  | ok asked => cases asked <;> rfl

section Alike

variable {alike : State → State → Prop}
  (hlookup : ∀ state other, alike state other →
    collaborators.lookup state = lookup ∧ collaborators.lookup other = lookup)
include hlookup

/-- A line with a steady operation, if any, comes to the same in states that are alike. -/
theorem handle_alike {line : Line}
    (hsteady : ∀ operation ∈ line.asked? settings lookup, collaborators.Steady alike operation)
    (number other : Nat) {state later : State} (h : alike state later) :
    (handle collaborators settings number line state).value =
        (handle collaborators settings other line later).value ∧
      alike (handle collaborators settings number line state).state
        (handle collaborators settings other line later).state := by
  obtain ⟨hstate, hlater⟩ := hlookup state later h
  cases hasked : line.asked? settings lookup with
  | none =>
      obtain ⟨result, hidle⟩ := exists_handle_of_asked?_eq_none hasked
      obtain ⟨hvalue, hsame⟩ := hidle number state hstate
      obtain ⟨hresult, hlast⟩ := hidle other later hlater
      rw [hvalue, hresult, hsame, hlast]
      exact ⟨rfl, h⟩
  | some operation =>
      obtain ⟨hvalue, hsame⟩ := handle_of_asked?_eq_some hasked number hstate
      obtain ⟨hresult, hlast⟩ := handle_of_asked?_eq_some hasked other hlater
      obtain ⟨hanswer, hafter⟩ := hsteady operation hasked state later h
      rw [hvalue, hresult, hsame, hlast, hanswer]
      exact ⟨rfl, hafter⟩

/-- Lines with steady operations come to the same in states that are alike. -/
theorem run_alike {lines : List Line}
    (hsteady : ∀ line ∈ lines, ∀ operation ∈ line.asked? settings lookup,
      collaborators.Steady alike operation)
    (number other : Nat) {state later : State} (h : alike state later) :
    (run collaborators settings number lines state).value =
        (run collaborators settings other lines later).value ∧
      alike (run collaborators settings number lines state).state
        (run collaborators settings other lines later).state := by
  induction lines generalizing number other state later with
  | nil => exact ⟨rfl, h⟩
  | cons line rest ih =>
      obtain ⟨hfirst, hrest⟩ := List.forall_mem_cons.1 hsteady
      obtain ⟨hvalue, hafter⟩ := handle_alike hlookup hfirst number other h
      obtain ⟨hvalues, hfinal⟩ := ih hrest (number + 1) (other + 1) hafter
      simp only [run, hvalue, hvalues, true_and]
      exact hfinal

/-- A line that asks for nothing can be exchanged with any other. -/
theorem run_interchange_of_idle {idle line : Line} (hidle : idle.asked? settings lookup = none)
    (hsteady : ∀ operation ∈ line.asked? settings lookup, collaborators.Steady alike operation)
    (number other : Nat) {state : State} (h : alike state state) :
    (run collaborators settings number [idle, line] state).value.Perm
        (run collaborators settings other [line, idle] state).value ∧
      alike (run collaborators settings number [idle, line] state).state
        (run collaborators settings other [line, idle] state).state := by
  obtain ⟨result, hidle⟩ := exists_handle_of_asked?_eq_none hidle
  obtain ⟨hfirst, hsame⟩ := hidle number state (hlookup state state h).1
  obtain ⟨hvalue, hafter⟩ := handle_alike hlookup hsteady (number + 1) other h
  obtain ⟨hlast, hfinal⟩ := hidle (other + 1) _ (hlookup _ _ hafter).2
  simp only [run, hfirst, hsame, hvalue, hlast, hfinal]
  exact ⟨.swap _ _ _, hafter⟩

variable (hsymm : ∀ state other, alike state other → alike other state)
include hsymm

/-- Two lines can be exchanged if their operations can. -/
theorem run_interchange {first second : Line}
    (hfirst : ∀ operation ∈ first.asked? settings lookup, collaborators.Steady alike operation)
    (hsecond : ∀ operation ∈ second.asked? settings lookup, collaborators.Steady alike operation)
    (hpair : ∀ one ∈ first.asked? settings lookup, ∀ another ∈ second.asked? settings lookup,
      collaborators.Interchange alike one another)
    (number other : Nat) {state : State} (h : alike state state) :
    (run collaborators settings number [first, second] state).value.Perm
        (run collaborators settings other [second, first] state).value ∧
      alike (run collaborators settings number [first, second] state).state
        (run collaborators settings other [second, first] state).state := by
  cases hone : first.asked? settings lookup with
  | none => exact run_interchange_of_idle hlookup hone hsecond number other h
  | some one =>
      cases hanother : second.asked? settings lookup with
      | none =>
          obtain ⟨hvalues, hstates⟩ :=
            run_interchange_of_idle hlookup hanother hfirst other number h
          exact ⟨hvalues.symm, hsymm _ _ hstates⟩
      | some another =>
          obtain ⟨hanswers, hstates⟩ := hpair one hone another hanother state h
          have hstate := (hlookup state state h).1
          -- Each operation leaves a state with the same interfaces for the other line.
          have hthere := (hlookup _ _ (hfirst one hone state state h).2).1
          have hback := (hlookup _ _ (hsecond another hanother state state h).2).1
          obtain ⟨hvalue, hsame⟩ := handle_of_asked?_eq_some hone number hstate
          obtain ⟨hfurther, hfinal⟩ := handle_of_asked?_eq_some hanother (number + 1) hthere
          obtain ⟨hresult, hlast⟩ := handle_of_asked?_eq_some hanother other hstate
          obtain ⟨hagain, hend⟩ := handle_of_asked?_eq_some hone (other + 1) hback
          simp only [run, hvalue, hsame, hfurther, hfinal, hresult, hlast, hagain, hend]
          exact ⟨hanswers.map LineResult.ofAnswer, hstates⟩

/-- Lines whose operations can be exchanged pair by pair can come in any order. What becomes of them
is the same but for the order, and the states that they leave are alike. -/
theorem run_perm
    (htrans : ∀ state other last, alike state other → alike other last → alike state last)
    {lines others : List Line} (hperm : lines.Perm others)
    (hsteady : ∀ line ∈ lines, ∀ operation ∈ line.asked? settings lookup,
      collaborators.Steady alike operation)
    (hpairs : lines.Pairwise fun first second => ∀ one ∈ first.asked? settings lookup,
      ∀ another ∈ second.asked? settings lookup, collaborators.Interchange alike one another)
    (number other : Nat) {state later : State} (h : alike state later) :
    (run collaborators settings number lines state).value.Perm
        (run collaborators settings other others later).value ∧
      alike (run collaborators settings number lines state).state
        (run collaborators settings other others later).state := by
  induction hperm generalizing number other state later with
  | nil => exact ⟨.nil, h⟩
  | cons line _ ih =>
      obtain ⟨hfirst, hrest⟩ := List.forall_mem_cons.1 hsteady
      obtain ⟨hvalue, hafter⟩ := handle_alike hlookup hfirst number other h
      obtain ⟨hvalues, hfinal⟩ :=
        ih hrest (List.pairwise_cons.1 hpairs).2 (number + 1) (other + 1) hafter
      simp only [run, hvalue]
      exact ⟨hvalues.cons _, hfinal⟩
  | swap first second rest =>
      obtain ⟨hsecond, hthose⟩ := List.forall_mem_cons.1 hsteady
      obtain ⟨hfirst, hrest⟩ := List.forall_mem_cons.1 hthose
      have hpair := (List.pairwise_cons.1 hpairs).1 first List.mem_cons_self
      have hself := htrans _ _ _ h (hsymm _ _ h)
      -- The two are exchanged in the one state, and then handled in the other.
      obtain ⟨hexchanged, hthere⟩ :=
        run_interchange hlookup hsymm hsecond hfirst hpair number other hself
      have htwo : ∀ line ∈ [first, second], ∀ operation ∈ line.asked? settings lookup,
          collaborators.Steady alike operation := by
        simpa using ⟨hfirst, hsecond⟩
      obtain ⟨hsame, hback⟩ := run_alike hlookup htwo other other h
      obtain ⟨hvalues, hfinal⟩ := run_alike hlookup hrest (number + 1 + 1) (other + 1 + 1)
        (htrans _ _ _ hthere hback)
      rw [hsame] at hexchanged
      exact ⟨hexchanged.append (.of_eq hvalues), hfinal⟩
  | trans hfirst _ ih ihlater =>
      have hself := htrans _ _ _ h (hsymm _ _ h)
      obtain ⟨hvalues, hstates⟩ := ih hsteady hpairs number other hself
      have hback := hfirst.pairwise_iff (fun hpair one hone another hanother =>
        (hpair another hanother one hone).symm hsymm) |>.1 hpairs
      obtain ⟨hothers, hfinal⟩ := ihlater (fun line hline => hsteady line (hfirst.mem_iff.2 hline))
        hback other other h
      exact ⟨hvalues.trans hothers, htrans _ _ _ hstates hfinal⟩

end Alike

end Pass

end StaticMulticast.Configuration
