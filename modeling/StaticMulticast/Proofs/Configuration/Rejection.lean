import StaticMulticast.Proofs.Configuration.Meaning
import StaticMulticast.Proofs.Configuration.Resolution

/-!
# Why a text is rejected

The rejections of a line as octets and of a line as text are different ones: no text is rejected for
its length or for its encoding. So these two rejections tell of the octets alone.
-/

namespace StaticMulticast.Configuration

/-- The reason is none that the octets of a line give. -/
def Rejection.OfText (reason : Rejection) : Prop :=
  reason ≠ .tooLong ∧ reason ≠ .notUtf8

/-- The reading fails for other reasons than the octets of a line. -/
def BlamesText {Value : Type} (read : Except Rejection Value) : Prop :=
  ∀ reason, read = .error reason → reason.OfText

namespace BlamesText

variable {Value Other : Type}

/-- A reading that succeeds blames nothing. -/
theorem ok (value : Value) : BlamesText (.ok value : Except Rejection Value) :=
  fun _ h => nomatch h

/-- A reading that fails for one reason blames the text if the reason does. -/
theorem error {reason : Rejection} (hreason : reason.OfText) :
    BlamesText (.error reason : Except Rejection Value) := by
  intro other h
  cases h
  exact hreason

/-- What is made of a value is not to blame. -/
theorem map {read : Except Rejection Value} (hread : BlamesText read) (change : Value → Other) :
    BlamesText (read.map change) := by
  cases read with
  | error reason => exact error (hread reason rfl)
  | ok value => exact ok _

end BlamesText

/-- The reason of a first objection is that of one of them. -/
theorem Objection.First.exists_mem {objections : List Objection} {reason : Rejection}
    (h : First objections reason) : ∃ objection ∈ objections, objection.reason = reason := by
  induction h with
  | here => exact ⟨_, List.mem_cons_self, rfl⟩
  | there _ _ ih =>
      obtain ⟨objection, hmem, heq⟩ := ih
      exact ⟨objection, List.mem_cons_of_mem _ hmem, heq⟩

/-- A verdict blames the text if all objections do. -/
theorem Verdict.blamesText {Value : Type} {objections : List Objection} {grants : Value → Prop}
    {result : Except Rejection Value} (h : Verdict objections grants result)
    (hobjections : ∀ objection ∈ objections, objection.reason.OfText) : BlamesText result := by
  cases h with
  | rejected h =>
      obtain ⟨objection, hmem, rfl⟩ := h.exists_mem
      exact .error (hobjections objection hmem)
  | granted => exact .ok _

/-- A line is rejected as a text when it is read. -/
theorem Statement.blames_read (settings : Settings) (line : String) :
    BlamesText (read settings line).result := by
  have hmeans := means_read settings line
  generalize (read settings line).result = result, words line = words at hmeans ⊢
  cases hmeans with
  | blank => exact .ok none
  | unknownCommand => exact .error ⟨by simp, by simp⟩
  | unnamed => exact .error ⟨by simp, by simp⟩
  | said _ _ _ hverdict =>
      exact (hverdict.blamesText (by simp [objections, Rejection.OfText])).map some

namespace Operation

/-- An IPv4 source is objected to as a text. -/
theorem ofText_sourceObjectionsV4 (source : Option String) :
    ∀ objection ∈ sourceObjectionsV4 source, objection.reason.OfText := by
  cases source <;> simp [sourceObjectionsV4, Rejection.OfText]

/-- An IPv6 source is objected to as a text. -/
theorem ofText_sourceObjectionsV6 (source : Option String) :
    ∀ objection ∈ sourceObjectionsV6 source, objection.reason.OfText := by
  cases source <;> simp [sourceObjectionsV6, Rejection.OfText]

/-- A statement is rejected as a text. -/
theorem blames_ofStatement (settings : Settings) (lookup : Lookup) (statement : Statement) :
    BlamesText (ofStatement settings lookup statement).result := by
  have hinbound : ∀ family name, (inboundObjection lookup family name).reason.OfText :=
    fun _ _ => ⟨by simp [inboundObjection], by simp [inboundObjection]⟩
  have houtbound : ∀ family names, ∀ objection ∈ [outboundObjection lookup family names],
      objection.reason.OfText := by
    simp [outboundObjection, Rejection.OfText]
  have hresolves := resolves_ofStatement settings lookup statement
  generalize (ofStatement settings lookup statement).result = result at hresolves ⊢
  cases hresolves with
  | enable | disable | membershipIgnored | routeIgnored => exact .ok _
  | membershipV4 _ hverdict =>
      exact hverdict.blamesText (List.forall_mem_append.2 ⟨ofText_sourceObjectionsV4 _,
        by simp [groupObjectionV4, Rejection.OfText]⟩)
  | membershipV6 _ _ _ hverdict =>
      exact hverdict.blamesText (by simp [groupObjectionV6, Rejection.OfText])
  | routeV4 _ hverdict =>
      refine hverdict.blamesText (List.forall_mem_append.2 ⟨?_, houtbound _ _⟩)
      refine List.forall_mem_append.2
        ⟨List.forall_mem_cons.2 ⟨hinbound _ _, ofText_sourceObjectionsV4 _⟩, ?_⟩
      simp [rangeObjections, groupObjectionV4, Rejection.OfText]
  | routeV6 _ _ hverdict =>
      refine hverdict.blamesText (List.forall_mem_append.2 ⟨?_, houtbound _ _⟩)
      refine List.forall_mem_append.2
        ⟨List.forall_mem_cons.2 ⟨hinbound _ _, ofText_sourceObjectionsV6 _⟩, ?_⟩
      simp [groupObjectionV6, Rejection.OfText]

/-- A line is rejected as a text. -/
theorem blames_ofLine (settings : Settings) (lookup : Lookup) (line : String) :
    BlamesText (ofLine settings lookup line).result := by
  have hread := Statement.blames_read settings line
  simp only [ofLine]
  split
  · rename_i reason hreason
    exact .error (hread reason hreason)
  · exact .ok none
  · exact blames_ofStatement settings lookup _

end Operation

end StaticMulticast.Configuration
