/-!
# Computations that succeed

A computation in steps succeeds exactly if each step does.
-/

namespace StaticMulticast

variable {Reason Value Other : Type}

/-- Two steps succeed exactly if the first does, and the second does with its value. -/
theorem bind_eq_ok_iff {first : Except Reason Value} {second : Value → Except Reason Other}
    {result : Other} :
    (first >>= second) = .ok result ↔ ∃ value, first = .ok value ∧ second value = .ok result := by
  cases first with
  | error reason =>
      constructor
      · exact fun h => nomatch h
      · rintro ⟨_, hvalue, -⟩
        cases hvalue
  | ok value =>
      constructor
      · exact fun h => ⟨value, rfl, h⟩
      · rintro ⟨_, hvalue, h⟩
        cases hvalue
        exact h

/-- What is made of a value is there exactly if the value is. -/
theorem map_eq_ok_iff {first : Except Reason Value} {change : Value → Other} {result : Other} :
    first.map change = .ok result ↔ ∃ value, first = .ok value ∧ change value = result := by
  cases first with
  | error reason =>
      constructor
      · exact fun h => nomatch h
      · rintro ⟨_, hvalue, -⟩
        cases hvalue
  | ok value =>
      constructor
      · exact fun h => ⟨value, rfl, Except.ok.inj h⟩
      · rintro ⟨_, hvalue, rfl⟩
        cases hvalue
        rfl

/-- What is made of different values is different, if the change keeps them apart. -/
theorem map_eq_map_iff {first second : Except Reason Value} {change : Value → Other}
    (hchange : ∀ value other, change value = change other → value = other) :
    first.map change = second.map change ↔ first = second := by
  refine ⟨fun h => ?_, congrArg _⟩
  cases first with
  | error reason =>
      cases second with
      | error other => rw [Except.error.inj h]
      | ok other => cases h
  | ok value =>
      cases second with
      | error other => cases h
      | ok other => rw [hchange value other (Except.ok.inj h)]

/-- A value that has to pass a test is there exactly if it was there before and passes. -/
theorem test_eq_ok_iff {found result : Value} {test : Value → Bool} {reason : Reason} :
    (if test found then .ok found else .error reason : Except Reason Value) = .ok result ↔
      found = result ∧ test result = true := by
  by_cases htest : test found = true
  · rw [if_pos htest, Except.ok.injEq]
    exact ⟨fun heq => ⟨heq, heq ▸ htest⟩, And.left⟩
  · rw [if_neg htest]
    refine ⟨fun h => (nomatch h), ?_⟩
    rintro ⟨rfl, h⟩
    exact absurd h htest

end StaticMulticast
