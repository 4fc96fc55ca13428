import StaticMulticast.Configuration.Event
import StaticMulticast.Proofs.Address.Reading
import StaticMulticast.Proofs.Configuration.Meaning

/-!
# Numbers on a line

The numbers of a line are its prefix lengths and thresholds. Both are read from texts of any length,
and a number is taken for exactly the number that its text denotes or not taken at all
(`Statement.numbers_read_exactly`). A threshold that is not taken leaves the line as it was before,
with a remark that tells numbers from other texts.
-/

namespace StaticMulticast.Configuration

open Text.Decimal (Denotes DenotesSigned signed64)

variable {text : String} {threshold other : UInt8} {level otherLevel : Log.Level}

/-! ## Texts of thresholds -/

namespace ThresholdReading

/-- A text sets a threshold exactly if it denotes a number from 1 to 255. -/
theorem exists_ofText_eq_set_iff {number : Int} :
    (∃ threshold, ofText text = .set threshold ∧ (threshold.toNat : Int) = number) ↔
      DenotesSigned text.toList number ∧ 1 ≤ number ∧ number ≤ 255 := by
  constructor
  · rintro ⟨threshold, hset, rfl⟩
    obtain ⟨hdenotes, hone⟩ := ofText_eq_set_iff.1 hset
    have hlow : 1 ≤ threshold.toNat := UInt8.le_iff_toNat_le.1 hone
    have hhigh := threshold.toNat_lt
    exact ⟨(Text.Decimal.denotesSigned_natCast_iff hlow).2 hdenotes, by omega, by omega⟩
  · rintro ⟨hdenotes, hlow, hhigh⟩
    obtain ⟨magnitude, rfl⟩ := Int.eq_ofNat_of_zero_le (Int.le_trans (by decide) hlow)
    -- The number fits an octet, so it is the same as a threshold.
    have htoNat : (UInt8.ofNat magnitude).toNat = magnitude :=
      UInt8.toNat_ofNat_of_lt' (by simp only [UInt8.size]; omega)
    refine ⟨UInt8.ofNat magnitude, ofText_eq_set_iff.2 ⟨?_, ?_⟩, by rw [htoNat]⟩
    · rw [htoNat]
      exact (Text.Decimal.denotesSigned_natCast_iff (by omega)).1 hdenotes
    · rw [UInt8.le_iff_toNat_le, htoNat]
      exact Int.ofNat_le.1 hlow

/-- A number is out of range exactly if it is denoted, in the signed range, and no threshold. -/
theorem ofText_eq_outOfRange_iff {number : Int} :
    ofText text = .outOfRange number ↔
      (DenotesSigned text.toList number ∧ signed64.Contains number) ∧
        ¬ (1 ≤ number ∧ number ≤ 255) := by
  rw [← Text.Decimal.signed64?_eq_some_iff]
  unfold ofText
  split
  · rename_i hnone
    simp [hnone]
  · rename_i found hfound
    rw [hfound, Option.some.injEq]
    split
    · rename_i hrange
      simp only [Bool.and_eq_true, decide_eq_true_eq] at hrange
      exact iff_of_false (fun h => nomatch h) fun ⟨heq, hout⟩ => hout (heq ▸ hrange)
    · rename_i hrange
      simp only [Bool.and_eq_true, decide_eq_true_eq] at hrange
      rw [outOfRange.injEq]
      exact ⟨fun heq => ⟨heq, heq ▸ hrange⟩, And.left⟩

/-- A text is unreadable exactly if it denotes no number of the signed range. -/
theorem ofText_eq_unreadable_iff :
    ofText text = .unreadable ↔
      ¬ ∃ number, DenotesSigned text.toList number ∧ signed64.Contains number := by
  simp only [← Text.Decimal.signed64?_eq_some_iff, ← Option.isSome_iff_exists]
  unfold ofText
  cases Text.Decimal.signed64? text.toList with
  | none => simp
  | some number =>
      dsimp only
      split <;> simp

-- One more than the number of unsigned 64-bit numbers, and one more than that of octets.
example : ofText "0018446744073709551617" = .unreadable ∧ ofText "257" = .outOfRange 257 := by
  decide

end ThresholdReading

/-! ## Threshold clauses -/

namespace Clause

variable {clause : Clause}

/-- The clause sets the threshold of a line, and there is no remark on it. -/
def Sets (clause : Clause) (threshold : UInt8) : Prop :=
  ∀ content : Content,
    content.apply clause = { content with threshold } ∧ Note.ofClause? content clause = none

/-- The clause leaves a line as it is, and there is one remark on it, recorded at the level. -/
def IsIgnored (clause : Clause) (level : Log.Level) : Prop :=
  ∀ content : Content, content.apply clause = content ∧
    ∃ note, Note.ofClause? content clause = some note ∧
      ∀ line, (Event.noted line note).record.level = level

/-- A clause sets one threshold. -/
theorem Sets.unique (h : clause.Sets threshold) (hother : clause.Sets other) :
    threshold = other := by
  have hsame := (h (.initial {} none)).1.symm.trans (hother (.initial {} none)).1
  exact congrArg Content.threshold hsame

/-- A clause that sets a threshold is not ignored. -/
theorem Sets.not_isIgnored (h : clause.Sets threshold) : ¬ clause.IsIgnored level := by
  intro hignored
  obtain ⟨-, note, hnote, -⟩ := hignored (.initial {} none)
  rw [(h (.initial {} none)).2] at hnote
  cases hnote

/-- A clause is ignored with a record of one level. -/
theorem IsIgnored.unique (h : clause.IsIgnored level) (hother : clause.IsIgnored otherLevel) :
    level = otherLevel := by
  obtain ⟨-, note, hnote, hlevel⟩ := h (.initial {} none)
  obtain ⟨-, found, hfound, hotherLevel⟩ := hother (.initial {} none)
  obtain rfl : note = found := Option.some.inj (hnote.symm.trans hfound)
  exact (hlevel 0).symm.trans (hotherLevel 0)

/-- What a threshold clause does, by how its text is read. -/
theorem sets_or_isIgnored (text : String) :
    match ThresholdReading.ofText text with
    | .set threshold => (valued .threshold (some text)).Sets threshold
    | .outOfRange _ => (valued .threshold (some text)).IsIgnored .warning
    | .unreadable => (valued .threshold (some text)).IsIgnored .debug := by
  cases hreading : ThresholdReading.ofText text with
  | set threshold =>
      intro content
      simp only [Content.apply, Note.ofClause?, hreading, and_self]
  | outOfRange | unreadable =>
      intro content
      simp only [Content.apply, Note.ofClause?, hreading]
      exact ⟨trivial, _, rfl, fun _ => rfl⟩

/-- A clause sets the threshold as which its text is read. -/
theorem sets_iff :
    (valued .threshold (some text)).Sets threshold ↔
      ThresholdReading.ofText text = .set threshold := by
  have heffect := sets_or_isIgnored text
  cases hreading : ThresholdReading.ofText text with
  | set found =>
      rw [hreading] at heffect
      rw [ThresholdReading.set.injEq]
      exact ⟨heffect.unique, fun heq => heq ▸ heffect⟩
  | outOfRange number | unreadable =>
      rw [hreading] at heffect
      exact iff_of_false (fun h => h.not_isIgnored heffect) (fun h => nomatch h)

/-- A clause is ignored with a warning if its text is read as a number out of range, and with a
debug record if it is unreadable. -/
theorem isIgnored_iff :
    (valued .threshold (some text)).IsIgnored level ↔
      (level = .warning ∧ ∃ number, ThresholdReading.ofText text = .outOfRange number) ∨
        (level = .debug ∧ ThresholdReading.ofText text = .unreadable) := by
  have heffect := sets_or_isIgnored text
  constructor
  · intro h
    cases hreading : ThresholdReading.ofText text with
    | set threshold =>
        rw [hreading] at heffect
        exact absurd h heffect.not_isIgnored
    | outOfRange number =>
        rw [hreading] at heffect
        exact .inl ⟨h.unique heffect, number, rfl⟩
    | unreadable =>
        rw [hreading] at heffect
        exact .inr ⟨h.unique heffect, rfl⟩
  · rintro (⟨rfl, number, hreading⟩ | ⟨rfl, hreading⟩)
    · rwa [hreading] at heffect
    · rwa [hreading] at heffect

end Clause

/-! ## Lines -/

namespace Statement

variable {settings : Settings} {line : String} {command : Command} {named : Option String}
  {rest : List String} {clause : Clause} {before after : List Clause}

/-- What is read of a line from some place on: the remarks on what stands before, what that says,
and the clauses that follow. -/
def readOn (command : Command) (notes : List Note) (content : Content) (clauses : List Clause) :
    Reading (Option Statement) :=
  ⟨notes ++ Note.ofClauses content clauses,
    (ofContent command (content.applyAll clauses)).map some⟩

/-- A clause is read, and then the clauses that follow it. -/
theorem readOn_cons (notes : List Note) (content : Content) (clause : Clause)
    (clauses : List Clause) :
    readOn command notes content (clause :: clauses) =
      readOn command (notes ++ (Note.ofClause? content clause).toList) (content.apply clause)
        clauses := by
  simp only [readOn, Note.ofClauses, Content.applyAll, List.foldl_cons, List.append_assoc]

/-- Clauses are read, and then the clauses that follow them. -/
theorem readOn_append (notes : List Note) (content : Content) (before after : List Clause) :
    readOn command notes content (before ++ after) =
      readOn command (notes ++ Note.ofClauses content before) (content.applyAll before) after := by
  induction before generalizing notes content with
  | nil => simp only [List.nil_append, Note.ofClauses, Content.applyAll, List.foldl_nil,
      List.append_nil]
  | cons clause before ih =>
      rw [List.cons_append, readOn_cons, ih]
      simp only [Note.ofClauses, Content.applyAll, List.foldl_cons, List.append_assoc]

/-- A line is read up to a place, and then on from there. -/
theorem read_eq_readOn (hopens : Opens (words line) command named rest)
    (hreads : Clause.Reads rest (before ++ after)) :
    read settings line =
      readOn command (Note.ofClauses (.initial settings named) before)
        ((Content.initial settings named).applyAll before) after := by
  have hstart : read settings line =
      readOn command [] (.initial settings named) (before ++ after) := by
    rw [read_of_opens hopens, ← hreads.read_eq]
    rfl
  rw [hstart, readOn_append, List.nil_append]

/-- A clause that sets a threshold sets it for what follows. -/
theorem readOn_of_sets (h : clause.Sets threshold) (notes : List Note) (content : Content) :
    readOn command notes content (clause :: after) =
      readOn command notes { content with threshold } after := by
  obtain ⟨happly, hnone⟩ := h content
  rw [readOn_cons, happly, hnone, Option.toList_none, List.append_nil]

/-- A clause that is ignored adds a remark and nothing else. -/
theorem exists_readOn_of_isIgnored (h : clause.IsIgnored level) (notes : List Note)
    (content : Content) :
    ∃ note, (∀ number, (Event.noted number note).record.level = level) ∧
      readOn command notes content (clause :: after) =
        readOn command (notes ++ [note]) content after := by
  obtain ⟨happly, note, hnote, hlevel⟩ := h content
  refine ⟨note, hlevel, ?_⟩
  rw [readOn_cons, happly, hnote, Option.toList_some]

/-- A number is taken for exactly what its text denotes, however long the text is, or not taken at
all. A prefix length is read if it is denoted without a minus sign and is at most 32. A threshold is
set if it is denoted and is from 1 to 255. Any other value of a threshold clause is ignored, with a
warning if it denotes a number of the signed 64-bit range, and with a debug record if it does not.
Where such a clause stands on a line, the rest of the line is read with the threshold that is set,
or as it would be read without the clause but for one more remark. -/
theorem numbers_read_exactly (text : String) :
    (∀ number : Nat,
      (∃ length, Address.readLengthV4 text = .ok length ∧ length.toNat = number) ↔
        Denotes text.toList number ∧ number ≤ 32) ∧
    (∀ number : Int,
      (∃ threshold, (Clause.valued .threshold (some text)).Sets threshold ∧
          (threshold.toNat : Int) = number) ↔
        DenotesSigned text.toList number ∧ 1 ≤ number ∧ number ≤ 255) ∧
    ((Clause.valued .threshold (some text)).IsIgnored .warning ↔
      ∃ number, DenotesSigned text.toList number ∧
        (-0x8000000000000000 ≤ number ∧ number ≤ 0x7FFFFFFFFFFFFFFF) ∧
        ¬ (1 ≤ number ∧ number ≤ 255)) ∧
    ((Clause.valued .threshold (some text)).IsIgnored .debug ↔
      ¬ ∃ number, DenotesSigned text.toList number ∧
        -0x8000000000000000 ≤ number ∧ number ≤ 0x7FFFFFFFFFFFFFFF) ∧
    ∀ {settings : Settings} {line : String} {command : Command} {named : Option String}
        {rest : List String} {before after : List Clause},
      Opens (words line) command named rest →
      Clause.Reads rest (before ++ .valued .threshold (some text) :: after) →
      let notes := Note.ofClauses (.initial settings named) before
      let content := (Content.initial settings named).applyAll before
      (∀ threshold, (Clause.valued .threshold (some text)).Sets threshold →
        read settings line = readOn command notes { content with threshold } after) ∧
      ∀ level, (Clause.valued .threshold (some text)).IsIgnored level →
        ∃ note, (∀ number, (Event.noted number note).record.level = level) ∧
          read settings line = readOn command (notes ++ [note]) content after := by
  refine ⟨fun number => ?_, fun number => ?_, ?_, ?_, ?_⟩
  · exact Address.exists_readLengthV4_iff
  · simp only [Clause.sets_iff, ThresholdReading.exists_ofText_eq_set_iff]
  · simp only [Clause.isIgnored_iff, ThresholdReading.ofText_eq_outOfRange_iff,
      Text.Decimal.signed64_contains_iff, true_and, reduceCtorEq, false_and, or_false, and_assoc]
  · simp only [Clause.isIgnored_iff, ThresholdReading.ofText_eq_unreadable_iff,
      Text.Decimal.signed64_contains_iff, true_and, reduceCtorEq, false_and, false_or]
  · intro settings line command named rest before after hopens hreads notes content
    have hread : read settings line =
        readOn command notes content (.valued .threshold (some text) :: after) :=
      read_eq_readOn hopens hreads
    exact ⟨fun threshold h => hread ▸ readOn_of_sets h notes content,
      fun level h => hread ▸ exists_readOn_of_isIgnored h notes content⟩

/-- A threshold with leading zeros, after one that would be 1 if it were cut to an octet. -/
theorem numbers_read_exactly_after_out_of_range :
    Opens (words "phyint eth0 ttl-threshold 257 ttl-threshold +0064 disable") .interface
        (some "eth0") ["ttl-threshold", "257", "ttl-threshold", "+0064", "disable"] ∧
      Clause.Reads ["ttl-threshold", "257", "ttl-threshold", "+0064", "disable"]
        ([.valued .threshold (some "257")] ++
          .valued .threshold (some "+0064") :: [.activation false]) ∧
      (Clause.valued .threshold (some "+0064")).Sets 64 ∧
      read {} "phyint eth0 ttl-threshold 257 ttl-threshold +0064 disable" =
        ⟨[.thresholdOutOfRange 257 1], .ok (some (.interface "eth0" false 64))⟩ := by
  have hline : words "phyint eth0 ttl-threshold 257 ttl-threshold +0064 disable" =
      ["phyint", "eth0", "ttl-threshold", "257", "ttl-threshold", "+0064", "disable"] :=
    words_of_spaced rfl (by decide)
  have hopens : Opens (words "phyint eth0 ttl-threshold 257 ttl-threshold +0064 disable")
      .interface (some "eth0") ["ttl-threshold", "257", "ttl-threshold", "+0064", "disable"] :=
    hline ▸ .interface _ _
  have hreads : Clause.Reads ["ttl-threshold", "257", "ttl-threshold", "+0064", "disable"]
      ([.valued .threshold (some "257")] ++
        .valued .threshold (some "+0064") :: [.activation false]) := Clause.reads_read _
  obtain ⟨-, hsets, -, -, hlines⟩ := numbers_read_exactly "+0064"
  have hdenotes : DenotesSigned "+0064".toList 64 :=
    .inl ⟨64, ⟨"0064".toList, .inr rfl, by decide, List.all_eq_true.1 rfl, rfl⟩, rfl⟩
  obtain ⟨threshold, hthreshold, hvalue⟩ := (hsets 64).2 ⟨hdenotes, by decide, by decide⟩
  obtain rfl : threshold = 64 := UInt8.toNat_inj.1 (Int.ofNat.inj hvalue)
  exact ⟨hopens, hreads, hthreshold, (hlines hopens hreads).1 64 hthreshold⟩

end Statement

end StaticMulticast.Configuration
