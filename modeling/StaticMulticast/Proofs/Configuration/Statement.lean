import StaticMulticast.Configuration.Statement
import StaticMulticast.Proofs.Configuration.Precedence
import StaticMulticast.Proofs.Configuration.Word
import StaticMulticast.Proofs.Except
import StaticMulticast.Proofs.Text.Decimal

/-!
# Which statements are made

The content of a line makes a statement unless an objection applies (`Statement.verdict_ofContent`).
A line makes a statement only if each text of the statement is a token and its numbers keep within
their bounds, and every such statement is made by some line (`Statement.exists_line_iff`).
-/

namespace StaticMulticast.Configuration

variable {settings : Settings}

/-- The thresholds that a line can give to an interface: those that can be written, and the one that
stands where none is written. -/
def Settings.Allows (settings : Settings) (threshold : UInt8) : Prop :=
  1 ≤ threshold ∨ threshold = settings.threshold

/-! ## Clauses -/

/-- The texts of a clause are tokens. -/
def Clause.OfTokens : Clause → Prop
  | .valued _ value => ∀ text ∈ value, IsToken text
  | .outbound names => ∀ name ∈ names, IsToken name
  | .activation _ => True
  | .unknown _ => True

/-- The clauses of tokens have tokens as their texts. -/
theorem Clause.ofTokens_of_mem_read {words : List String} (h : ∀ word ∈ words, IsToken word) :
    ∀ clause ∈ Clause.read words, clause.OfTokens := by
  induction words using Clause.read.induct with
  | case1 => exact fun _ hnone => nomatch hnone
  | case2 word rest hkeyword ih =>
      rw [Clause.read, hkeyword]
      exact List.forall_mem_cons.2 ⟨trivial, ih (List.forall_mem_cons.1 h).2⟩
  | case3 word rest enable hkeyword ih =>
      rw [Clause.read, hkeyword]
      exact List.forall_mem_cons.2 ⟨trivial, ih (List.forall_mem_cons.1 h).2⟩
  | case4 word rest hkeyword =>
      rw [Clause.read, hkeyword]
      exact List.forall_mem_singleton.2 (List.forall_mem_cons.1 h).2
  | case5 word field hkeyword =>
      rw [Clause.read, hkeyword]
      exact List.forall_mem_singleton.2 fun _ hnone => nomatch hnone
  | case6 word field hkeyword value rest ih =>
      obtain ⟨-, hvalue, hrest⟩ : _ ∧ _ ∧ _ := by simpa using h
      rw [Clause.read, hkeyword]
      refine List.forall_mem_cons.2 ⟨fun text htext => ?_, ih hrest⟩
      exact Option.some.inj htext ▸ hvalue

/-- The text is a number from 1 to 255, and this is the threshold. -/
def DenotesThreshold (text : String) (threshold : UInt8) : Prop :=
  Text.Decimal.Denotes text.toList threshold.toNat ∧ 1 ≤ threshold

/-- A threshold is read exactly from the texts that denote it. -/
theorem ThresholdReading.ofText_eq_set_iff {text : String} {threshold : UInt8} :
    ofText text = .set threshold ↔ DenotesThreshold text threshold := by
  have hsigned : (1 ≤ threshold ∧
        Text.Decimal.signed64? text.toList = some (threshold.toNat : Int)) ↔
      DenotesThreshold text threshold := by
    rw [DenotesThreshold, and_comm]
    refine and_congr_left fun hone => ?_
    rw [Text.Decimal.signed64?_eq_some_iff,
      Text.Decimal.denotesSigned_natCast_iff (UInt8.le_iff_toNat_le.1 hone)]
    have hlt := threshold.toNat_lt
    exact and_iff_left (Text.Decimal.signed64_contains_iff.2 (by omega))
  rw [← hsigned]
  unfold ofText
  constructor
  · intro h
    split at h
    · cases h
    · rename_i number hnumber
      split at h
      · rename_i hrange
        simp only [Bool.and_eq_true, decide_eq_true_eq] at hrange
        cases h
        -- The number fits an octet, so it is the same as a threshold.
        have htoNat : (UInt8.ofNat number.toNat).toNat = number.toNat :=
          UInt8.toNat_ofNat_of_lt' (by simp only [UInt8.size]; omega)
        refine ⟨?_, ?_⟩
        · rw [UInt8.le_iff_toNat_le, htoNat]
          show 1 ≤ _
          omega
        · rw [htoNat, hnumber, Option.some.injEq]
          omega
      · cases h
  · rintro ⟨hone, hread⟩
    have hlow : 1 ≤ threshold.toNat := UInt8.le_iff_toNat_le.1 hone
    have hhigh := threshold.toNat_lt
    have hrange : (1 ≤ (threshold.toNat : Int) && (threshold.toNat : Int) ≤ 255) = true := by
      simp only [Bool.and_eq_true, decide_eq_true_eq]
      omega
    simp only [hread, hrange, if_true, Int.toNat_natCast, UInt8.ofNat_toNat]

/-- A number from 1 to 255 that was written is read as that threshold. -/
theorem ThresholdReading.ofText_toString {threshold : UInt8} (h : 1 ≤ threshold) :
    ThresholdReading.ofText (toString threshold.toNat) = .set threshold := by
  rw [ofText_eq_set_iff, DenotesThreshold, Nat.toString_eq_repr, Nat.toList_repr]
  exact ⟨Text.Decimal.denotes_toDigits threshold.toNat, h⟩

/-! ## Content -/

/-- The texts of what a line says are tokens, and its threshold is one that a line can give. -/
structure Content.OfTokens (settings : Settings) (content : Content) : Prop where
  inbound : ∀ text ∈ content.inbound, IsToken text
  source : ∀ text ∈ content.source, IsToken text
  group : ∀ text ∈ content.group, IsToken text
  outbound : ∀ name ∈ content.outbound, IsToken name
  threshold : settings.Allows content.threshold

namespace Content.OfTokens

variable {content : Content}

/-- Before its first clause, a line may have named a token. -/
theorem initial {named : Option String} (h : ∀ name ∈ named, IsToken name) :
    OfTokens settings (.initial settings named) where
  inbound := h
  source := fun _ hnone => nomatch hnone
  group := fun _ hnone => nomatch hnone
  outbound := fun _ hnone => nomatch hnone
  threshold := .inr rfl

/-- A clause of tokens says nothing else. -/
theorem apply (h : OfTokens settings content) {clause : Clause} (hclause : clause.OfTokens) :
    OfTokens settings (content.apply clause) := by
  cases clause with
  | valued field value =>
      cases field with
      | inbound => exact { h with inbound := hclause }
      | source => exact { h with source := hclause }
      | group => exact { h with group := hclause }
      | threshold =>
          cases value with
          | none => exact h
          | some text =>
              simp only [Content.apply]
              split
              · rename_i threshold hset
                exact { h with threshold := .inl (ThresholdReading.ofText_eq_set_iff.1 hset).2 }
              · exact h
  | outbound names =>
      refine { h with outbound := fun name hname => ?_ }
      rcases List.mem_append.1 hname with hname | hname
      · exact h.outbound name hname
      · exact hclause name hname
  | activation enable => exact { h with }
  | unknown word => exact h

/-- Clauses of tokens say nothing else. -/
theorem applyAll (h : OfTokens settings content) {clauses : List Clause}
    (hclauses : ∀ clause ∈ clauses, clause.OfTokens) :
    OfTokens settings (content.applyAll clauses) := by
  induction clauses generalizing content with
  | nil => exact h
  | cons clause clauses ih =>
      obtain ⟨hclause, hrest⟩ := List.forall_mem_cons.1 hclauses
      exact ih (h.apply hclause) hrest

end Content.OfTokens

/-! ## Statements -/

namespace Statement

/-- The statements that lines make. -/
def Valid (settings : Settings) : Statement → Prop
  | .interface name _ threshold => IsToken name ∧ settings.Allows threshold
  | .membership name source group =>
      IsToken name ∧ (∀ text ∈ source, IsToken text) ∧ IsToken group
  | .route inbound source group outbound =>
      IsToken inbound ∧ (∀ text ∈ source, IsToken text) ∧ IsToken group ∧
        (∀ name ∈ outbound, IsToken name) ∧ 0 < outbound.length ∧ outbound.length ≤ mostOutbound

/-! ### What a command makes -/

/-- What can be objected to a line with the command that says the content. -/
def objections (command : Command) (content : Content) : List Objection :=
  [⟨32 < content.outbound.length, .tooManyOutbound⟩,
    ⟨command = .route ∧ content.outbound = [], .missing .outbound command⟩,
    ⟨content.inbound = none,
      .missing (if command = .interface then .interfaceName else .inbound) command⟩,
    ⟨command ≠ .interface ∧ content.group = none, .missing .group command⟩]

/-- What a command makes of the content that is said. -/
inductive Makes : Command → Content → Statement → Prop where
  | interface {content : Content} {name : String} (hname : content.inbound = some name) :
      Makes .interface content (.interface name content.enable content.threshold)
  | membership {content : Content} {interface group : String}
      (hinterface : content.inbound = some interface) (hgroup : content.group = some group) :
      Makes .membership content (.membership interface content.source group)
  | route {content : Content} {inbound group : String}
      (hinbound : content.inbound = some inbound) (hgroup : content.group = some group) :
      Makes .route content (.route inbound content.source group content.outbound)

/-- A part that is needed is objected to exactly if it is missing. -/
theorem verdict_required (command : Command) (part : Part) (value : Option String) :
    Verdict [⟨value = none, .missing part command⟩] (value = some ·)
      (required command part value) := by
  cases value with
  | none => exact .rejected (.here rfl)
  | some text =>
      have hok : Verdict [] (some text = some ·) (.ok text) := .ok rfl
      exact hok.pass (by simp)

/-- The objections to what a line says are raised in their order. -/
theorem verdict_ofContent (command : Command) (content : Content) :
    Verdict (objections command content) (Makes command content) (ofContent command content) := by
  have hgroup : ∀ command, Verdict [⟨content.group = none, .missing .group command⟩]
      (content.group = some ·) (required command .group content.group) :=
    fun command => verdict_required command .group content.group
  have hinbound : ∀ command, Verdict [⟨content.inbound = none, .missing .inbound command⟩]
      (content.inbound = some ·) (required command .inbound content.inbound) :=
    fun command => verdict_required command .inbound content.inbound
  unfold ofContent
  refine .test fun _ => ?_
  cases command with
  | interface =>
      refine .pass (by simp) ?_
      refine (verdict_required .interface .interfaceName content.inbound).bind fun name hname => ?_
      exact .pass (by simp) (.ok (.interface hname))
  | membership =>
      simp only [ne_eq, reduceCtorEq, not_false_eq_true, true_and, false_and, if_false]
      refine .pass not_false ?_
      refine (hinbound .membership).bind fun interface hinterface => ?_
      exact (hgroup .membership).bind fun group hgroup => .ok (.membership hinterface hgroup)
  | route =>
      simp only [ne_eq, reduceCtorEq, not_false_eq_true, true_and, if_false, List.isEmpty_iff]
      refine .test fun _ => ?_
      refine (hinbound .route).bind fun inbound hinbound => ?_
      exact (hgroup .route).bind fun group hgroup => .ok (.route hinbound hgroup)

/-! ### Statements that lines make -/

/-- What a line of tokens says makes a valid statement, if it makes any. -/
theorem valid_of_ofContent {command : Command} {content : Content} {statement : Statement}
    (hcontent : content.OfTokens settings) (h : ofContent command content = .ok statement) :
    statement.Valid settings := by
  have hverdict := verdict_ofContent command content
  rw [h] at hverdict
  obtain ⟨hpass, hmakes⟩ := hverdict.of_ok
  cases hmakes with
  | interface hname => exact ⟨hcontent.inbound _ hname, hcontent.threshold⟩
  | membership hinterface hgroup =>
      exact ⟨hcontent.inbound _ hinterface, hcontent.source, hcontent.group _ hgroup⟩
  | route hinbound hgroup =>
      have hmost : ¬ 32 < content.outbound.length := hpass _ List.mem_cons_self
      have hempty : ¬ (Command.route = .route ∧ content.outbound = []) :=
        hpass _ (List.mem_cons_of_mem _ List.mem_cons_self)
      exact ⟨hcontent.inbound _ hinbound, hcontent.source, hcontent.group _ hgroup,
        hcontent.outbound, List.length_pos_iff.2 fun hnone => hempty ⟨rfl, hnone⟩,
        Nat.not_lt.1 hmost⟩

/-- Words after a command make a valid statement, if they make any. -/
theorem valid_of_ofWords {command : Command} {named : Option String} {words : List String}
    {statement : Statement} (hnamed : ∀ name ∈ named, IsToken name)
    (hwords : ∀ word ∈ words, IsToken word)
    (h : (ofWords settings command named words).result = .ok (some statement)) :
    statement.Valid settings := by
  obtain ⟨_, hstatement, heq⟩ := map_eq_ok_iff.1 h
  cases heq
  exact valid_of_ofContent
    ((Content.OfTokens.initial hnamed).applyAll (Clause.ofTokens_of_mem_read hwords)) hstatement

/-- A line makes a valid statement, if it makes any. -/
theorem valid_of_read {line : String} {statement : Statement}
    (h : (read settings line).result = .ok (some statement)) : statement.Valid settings := by
  have htokens : ∀ word ∈ words line, IsToken word := fun _ => isToken_of_mem_words
  have hnone : ∀ name ∈ (none : Option String), IsToken name := fun _ hnone => nomatch hnone
  unfold read at h
  split at h
  · cases h
  · rename_i word rest heq
    rw [heq] at htokens
    have hrest := (List.forall_mem_cons.1 htokens).2
    split at h
    · cases h
    · cases h
    -- Only an interface command takes the next word as a name before there are clauses.
    · rename_i name rest _
      obtain ⟨hname, hrest⟩ := List.forall_mem_cons.1 hrest
      refine valid_of_ofWords (fun text htext => ?_) hrest h
      exact Option.some.inj htext ▸ hname
    · exact valid_of_ofWords hnone hrest h

/-! ## Lines that make statements -/

/-- The words that give a source, if there is one. -/
def sourceWords : Option String → List String
  | none => []
  | some text => ["source", text]

/-- The words of a line that makes a statement. -/
def toWords (settings : Settings) : Statement → List String
  | .interface name enable threshold =>
      "phyint" :: name :: (if enable then "enable" else "disable") ::
        if threshold = settings.threshold then [] else ["ttl-threshold", toString threshold.toNat]
  | .membership name source group =>
      "mgroup" :: "from" :: name :: (sourceWords source ++ ["group", group])
  | .route inbound source group outbound =>
      "mroute" :: "from" :: inbound :: (sourceWords source ++ "group" :: group :: "to" :: outbound)

/-- The words that give a source are tokens if the source is. -/
theorem isToken_of_mem_sourceWords {source : Option String} (h : ∀ text ∈ source, IsToken text) :
    ∀ word ∈ sourceWords source, IsToken word := by
  cases source with
  | none => exact fun _ hnone => nomatch hnone
  | some text => exact List.forall_mem_cons.2 ⟨by decide, List.forall_mem_singleton.2 (h text rfl)⟩

/-- The words of a valid statement are tokens. -/
theorem isToken_of_mem_toWords {statement : Statement} (h : statement.Valid settings) :
    ∀ word ∈ statement.toWords settings, IsToken word := by
  cases statement with
  | interface name enable threshold =>
      have hactivation : IsToken (if enable then "enable" else "disable") := by
        cases enable <;> decide
      refine List.forall_mem_cons.2 ⟨by decide, List.forall_mem_cons.2 ⟨h.1,
        List.forall_mem_cons.2 ⟨hactivation, ?_⟩⟩⟩
      split
      · exact fun _ hnone => nomatch hnone
      · exact List.forall_mem_cons.2 ⟨by decide, List.forall_mem_singleton.2 (.of_number _)⟩
  | membership name source group =>
      obtain ⟨hname, hsource, hgroup⟩ := h
      refine List.forall_mem_cons.2 ⟨by decide, List.forall_mem_cons.2 ⟨by decide,
        List.forall_mem_cons.2 ⟨hname, List.forall_mem_append.2
          ⟨isToken_of_mem_sourceWords hsource, ?_⟩⟩⟩⟩
      exact List.forall_mem_cons.2 ⟨by decide, List.forall_mem_singleton.2 hgroup⟩
  | route inbound source group outbound =>
      obtain ⟨hinbound, hsource, hgroup, houtbound, -⟩ := h
      refine List.forall_mem_cons.2 ⟨by decide, List.forall_mem_cons.2 ⟨by decide,
        List.forall_mem_cons.2 ⟨hinbound, List.forall_mem_append.2
          ⟨isToken_of_mem_sourceWords hsource, ?_⟩⟩⟩⟩
      exact List.forall_mem_cons.2 ⟨by decide, List.forall_mem_cons.2 ⟨hgroup,
        List.forall_mem_cons.2 ⟨by decide, houtbound⟩⟩⟩

/-- A written threshold is set. -/
theorem apply_written (content : Content) {threshold : UInt8} (h : 1 ≤ threshold) :
    content.apply (.valued .threshold (some (toString threshold.toNat))) =
      { content with threshold } := by
  simp only [Content.apply, ThresholdReading.ofText_toString h]

/-- A line of the words of a valid statement makes that statement. -/
theorem read_toWords {statement : Statement} (h : statement.Valid settings) :
    (read settings (spaced (statement.toWords settings))).result = .ok (some statement) := by
  unfold read
  rw [words_spaced (isToken_of_mem_toWords h)]
  cases statement with
  | interface name enable threshold =>
      -- The default threshold is left unsaid, as it need not be one that can be written.
      by_cases heq : threshold = settings.threshold
      · rw [toWords, if_pos heq, heq]
        cases enable <;> rfl
      · have hwritten := fun enable =>
          apply_written ⟨some name, none, none, [], enable, settings.threshold⟩
            (h.2.resolve_right heq)
        have hof := fun enable => congrArg (fun content =>
          ((ofContent .interface content).map some : Except Rejection (Option Statement)))
            (hwritten enable)
        rw [toWords, if_neg heq]
        cases enable with
        | true => exact hof true
        | false => exact hof false
  | membership name source group => cases source <;> rfl
  | route inbound source group outbound =>
      obtain ⟨-, -, -, -, hpos, hmost⟩ := h
      have hsome : outbound.isEmpty = false :=
        List.isEmpty_eq_false_iff.2 (List.length_pos_iff.1 hpos)
      have hof : ofContent .route
          ⟨some inbound, source, some group, outbound, settings.defaultEnable, settings.threshold⟩ =
            .ok (.route inbound source group outbound) := by
        simp only [ofContent, if_neg (Nat.not_lt.2 hmost), hsome]
        rfl
      cases source <;> exact congrArg (Except.map some) hof

/-- A statement is made by some line exactly if it is valid. -/
theorem exists_line_iff {statement : Statement} :
    (∃ line, (read settings line).result = .ok (some statement)) ↔ statement.Valid settings :=
  ⟨fun ⟨_, h⟩ => valid_of_read h, fun h => ⟨_, read_toWords h⟩⟩

end Statement

end StaticMulticast.Configuration
