import StaticMulticast.Configuration.Rejection

/-!
# Objections in order of precedence

More than one objection can apply to a line, and the line is rejected for one of them. A `Verdict`
says for which: the first that applies, in a list of objections in order of precedence. If none
applies, the verdict is a value that is granted. Steps that are taken one after the other raise
their objections one after the other (`Verdict.bind`).
-/

namespace StaticMulticast.Configuration

/-- A reason to reject a line, and when it applies. -/
structure Objection where
  applies : Prop
  reason : Rejection

namespace Objection

/-- None of the objections applies. -/
def AllPass (objections : List Objection) : Prop :=
  ∀ objection ∈ objections, ¬ objection.applies

/-- The reason is that of the first objection that applies. -/
inductive First : List Objection → Rejection → Prop where
  | here {objection : Objection} {rest : List Objection} (happlies : objection.applies) :
      First (objection :: rest) objection.reason
  | there {objection : Objection} {rest : List Objection} {reason : Rejection}
      (hpasses : ¬ objection.applies) (hrest : First rest reason) :
      First (objection :: rest) reason

variable {front back objections : List Objection} {reason other : Rejection}

/-- There is one first objection. -/
theorem First.unique (h : First objections reason) (hother : First objections other) :
    reason = other := by
  induction h with
  | here happlies =>
      cases hother with
      | here => rfl
      | there hpasses => exact absurd happlies hpasses
  | there hpasses _ ih =>
      cases hother with
      | here happlies => exact absurd happlies hpasses
      | there _ hrest => exact ih hrest

/-- There is a first objection only if some objection applies. -/
theorem First.not_allPass (h : First objections reason) : ¬ AllPass objections := by
  induction h with
  | here happlies => exact fun hpass => hpass _ List.mem_cons_self happlies
  | there _ _ ih => exact fun hpass => ih (List.forall_mem_cons.1 hpass).2

/-- The first objection is the first also of more objections. -/
theorem First.append (h : First front reason) : First (front ++ back) reason := by
  induction h with
  | here happlies => exact .here happlies
  | there hpasses _ ih => exact .there hpasses ih

/-- Objections that do not apply may come before the first. -/
theorem First.of_allPass (hfront : AllPass front) (h : First back reason) :
    First (front ++ back) reason := by
  induction front with
  | nil => exact h
  | cons objection rest ih =>
      obtain ⟨hpasses, hrest⟩ := List.forall_mem_cons.1 hfront
      exact .there hpasses (ih hrest)

end Objection

open Objection (AllPass First)

variable {Value Other : Type}

/-- The result is a rejection for the first objection that applies, or if none does, a value that is
granted. -/
inductive Verdict (objections : List Objection) (grants : Value → Prop) :
    Except Rejection Value → Prop where
  | rejected {reason : Rejection} (h : First objections reason) :
      Verdict objections grants (.error reason)
  | granted {value : Value} (hpass : AllPass objections) (h : grants value) :
      Verdict objections grants (.ok value)

namespace Verdict

variable {front back objections : List Objection} {knows grants : Value → Prop}
  {result other : Except Rejection Value} {applies : Prop} {reason : Rejection}

/-- A value that is the verdict is granted, and no objection applies. -/
theorem of_ok {value : Value} (h : Verdict objections grants (.ok value)) :
    AllPass objections ∧ grants value := by
  cases h with
  | granted hpass h => exact ⟨hpass, h⟩

/-- There is one verdict, if at most one value is granted. -/
theorem unique (hgrants : ∀ first second, grants first → grants second → first = second)
    (h : Verdict objections grants result) (hother : Verdict objections grants other) :
    result = other := by
  cases h with
  | rejected h =>
      cases hother with
      | rejected hother => rw [h.unique hother]
      | granted hpass => exact absurd hpass h.not_allPass
  | granted hpass h =>
      cases hother with
      | rejected hother => exact absurd hpass hother.not_allPass
      | granted _ hother => rw [hgrants _ _ h hother]

/-- Without objections, a value that is granted is the verdict. -/
theorem ok {value : Value} (h : grants value) : Verdict [] grants (.ok value) :=
  .granted (List.forall_mem_nil _) h

/-- An objection that does not apply can be raised before others. -/
theorem pass (happlies : ¬ applies) (h : Verdict objections grants result) :
    Verdict (⟨applies, reason⟩ :: objections) grants result := by
  cases h with
  | rejected h => exact .rejected (.there happlies h)
  | granted hpass h => exact .granted (List.forall_mem_cons.2 ⟨happlies, hpass⟩) h

/-- A test comes before the objections that are raised once it is passed. -/
theorem test [Decidable applies] (h : ¬ applies → Verdict objections grants result) :
    Verdict (⟨applies, reason⟩ :: objections) grants
      (if applies then .error reason else result) := by
  by_cases happlies : applies
  · rw [if_pos happlies]
    exact .rejected (.here happlies)
  · rw [if_neg happlies]
    exact (h happlies).pass happlies

/-- A step with one objection fails exactly if that applies. -/
theorem step (hok : ∀ value, result = .ok value → ¬ applies ∧ grants value)
    (herror : ∀ failure, result = .error failure → applies ∧ failure = reason) :
    Verdict [⟨applies, reason⟩] grants result := by
  cases result with
  | error failure =>
      obtain ⟨happlies, rfl⟩ := herror failure rfl
      exact .rejected (.here happlies)
  | ok value =>
      obtain ⟨happlies, hgrants⟩ := hok value rfl
      exact (ok hgrants).pass happlies

/-- Two steps raise their objections one after the other. -/
theorem bind {accepts : Other → Prop} {next : Value → Except Rejection Other}
    (h : Verdict front knows result)
    (hnext : ∀ value, knows value → Verdict back accepts (next value)) :
    Verdict (front ++ back) accepts (result >>= next) := by
  cases h with
  | rejected h => exact .rejected h.append
  | granted hpass h =>
      rename_i value
      have hlater := hnext value h
      show Verdict (front ++ back) accepts (next value)
      generalize next value = later at hlater ⊢
      cases hlater with
      | rejected hlater => exact .rejected (hlater.of_allPass hpass)
      | granted hback haccepts =>
          exact .granted (List.forall_mem_append.2 ⟨hpass, hback⟩) haccepts

/-- What is granted is granted also for less. -/
theorem imp (h : Verdict objections knows result) (himp : ∀ value, knows value → grants value) :
    Verdict objections grants result := by
  cases h with
  | rejected h => exact .rejected h
  | granted hpass h => exact .granted hpass (himp _ h)

/-- What is made of a value raises no objection. -/
theorem map {accepts : Other → Prop} {change : Value → Other} (h : Verdict objections grants result)
    (hchange : ∀ value, grants value → accepts (change value)) :
    Verdict objections accepts (result.map change) := by
  cases h with
  | rejected h => exact .rejected h
  | granted hpass h => exact .granted hpass (hchange _ h)

/-- A last step that only makes something of a value raises no objection. -/
theorem bind_pure {accepts : Other → Prop} {change : Value → Other}
    (h : Verdict objections grants result)
    (hchange : ∀ value, grants value → accepts (change value)) :
    Verdict objections accepts (result >>= fun value => Pure.pure (change value)) := by
  cases h with
  | rejected h => exact .rejected h
  | granted hpass h => exact .granted hpass (hchange _ h)

end Verdict

end StaticMulticast.Configuration
