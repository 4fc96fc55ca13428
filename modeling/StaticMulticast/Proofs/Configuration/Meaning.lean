import Mathlib.Data.List.Induction
import Mathlib.Tactic.SplitIfs
import StaticMulticast.Proofs.Configuration.Precedence
import StaticMulticast.Proofs.Configuration.Statement

/-!
# What a line means

A line is read in one pass that fills in a record. Its meaning is given here without one: the words
after the command make up clauses, of the clauses that say something of one kind the last counts,
and what they say together makes a statement, unless an objection applies. Reading gives exactly
what the words mean (`Statement.read_result_iff`).
-/

namespace StaticMulticast.Configuration

/-! ## Keywords -/

/-- How a keyword is spelled. -/
def Keyword.word : Keyword → String
  | .valued .inbound => "from"
  | .valued .source => "source"
  | .valued .group => "group"
  | .valued .threshold => "ttl-threshold"
  | .outbound => "to"
  | .activation true => "enable"
  | .activation false => "disable"

variable {settings : Settings} {word : String} {clauses : List Clause}

/-- A keyword is read from its word. -/
theorem Keyword.ofWord?_word (keyword : Keyword) : ofWord? keyword.word = some keyword := by
  rcases keyword with (_ | _ | _ | _) | _ | (_ | _) <;> rfl

/-- A keyword is read from no other word. -/
theorem Keyword.eq_word_of_ofWord? {keyword : Keyword} (h : ofWord? word = some keyword) :
    word = keyword.word := by
  unfold ofWord? at h
  split_ifs at h <;> cases h <;> assumption

/-- No keyword is read exactly from a word that spells none. -/
theorem Keyword.ofWord?_eq_none_iff :
    ofWord? word = none ↔ ∀ keyword : Keyword, word ≠ keyword.word := by
  constructor
  · rintro hnone keyword rfl
    rw [ofWord?_word] at hnone
    cases hnone
  · intro hword
    cases h : ofWord? word with
    | none => rfl
    | some keyword => exact absurd (eq_word_of_ofWord? h) (hword keyword)

/-! ## Clauses -/

namespace Clause

/-- The words make up the clauses, from the first to the last. A keyword with a value takes the next
word, whichever it is, and `to` takes all the words that are left. -/
inductive Reads : List String → List Clause → Prop where
  | done : Reads [] []
  | valued (field : Field) (value : String) {rest : List String} {clauses : List Clause}
      (hrest : Reads rest clauses) :
      Reads ((Keyword.valued field).word :: value :: rest) (.valued field (some value) :: clauses)
  | dangling (field : Field) : Reads [(Keyword.valued field).word] [.valued field none]
  | outbound (names : List String) : Reads (Keyword.outbound.word :: names) [.outbound names]
  | activation (enable : Bool) {rest : List String} {clauses : List Clause}
      (hrest : Reads rest clauses) :
      Reads ((Keyword.activation enable).word :: rest) (.activation enable :: clauses)
  | unknown {word : String} {rest : List String} {clauses : List Clause}
      (hword : ∀ keyword : Keyword, word ≠ keyword.word) (hrest : Reads rest clauses) :
      Reads (word :: rest) (.unknown word :: clauses)

/-- Words are read as the clauses that they make up. -/
theorem Reads.read_eq {words : List String} (h : Reads words clauses) : read words = clauses := by
  induction h with
  | done => rfl
  | valued field value _ ih =>
      rw [read, Keyword.ofWord?_word]
      exact congrArg (.valued field (some value) :: ·) ih
  | dangling field => rw [read, Keyword.ofWord?_word]
  | outbound names => rfl
  | activation enable _ ih => rw [read, Keyword.ofWord?_word, ih]
  | unknown hword _ ih => rw [read, Keyword.ofWord?_eq_none_iff.2 hword, ih]

/-- Words make up the clauses as which they are read. -/
theorem reads_read (words : List String) : Reads words (read words) := by
  induction words using read.induct with
  | case1 => exact .done
  | case2 word rest hkeyword ih =>
      rw [read, hkeyword]
      exact .unknown (Keyword.ofWord?_eq_none_iff.1 hkeyword) ih
  | case3 word rest enable hkeyword ih =>
      rw [read, hkeyword, Keyword.eq_word_of_ofWord? hkeyword]
      exact .activation enable ih
  | case4 word rest hkeyword =>
      rw [read, hkeyword, Keyword.eq_word_of_ofWord? hkeyword]
      exact .outbound rest
  | case5 word field hkeyword =>
      rw [read, hkeyword, Keyword.eq_word_of_ofWord? hkeyword]
      exact .dangling field
  | case6 word field hkeyword value rest ih =>
      rw [read, hkeyword, Keyword.eq_word_of_ofWord? hkeyword]
      exact .valued field value ih

/-- The names that a clause gives to send out by. -/
def names : Clause → List String
  | .outbound names => names
  | _ => []

/-- The last of the clauses that say something of a kind says this, or if none does, this is what
holds otherwise. -/
inductive Last {Value : Type} (gives : Clause → Value → Prop) (otherwise : Value) :
    List Clause → Value → Prop where
  | said (before : List Clause) {clause : Clause} {after : List Clause} {value : Value}
      (hgives : gives clause value) (hafter : ∀ later ∈ after, ∀ other, ¬ gives later other) :
      Last gives otherwise (before ++ clause :: after) value
  | unsaid {clauses : List Clause} (h : ∀ clause ∈ clauses, ∀ other, ¬ gives clause other) :
      Last gives otherwise clauses otherwise

/-- Where nothing is said last, what was said before counts. -/
theorem Last.concat {Value : Type} {gives : Clause → Value → Prop} {otherwise value : Value}
    (h : Last gives otherwise clauses value) {clause : Clause}
    (hclause : ∀ other, ¬ gives clause other) :
    Last gives otherwise (clauses ++ [clause]) value := by
  cases h with
  | said before hgives hafter =>
      rw [List.append_assoc, List.cons_append]
      exact .said before hgives
        (List.forall_mem_append.2 ⟨hafter, List.forall_mem_singleton.2 hclause⟩)
  | unsaid h => exact .unsaid (List.forall_mem_append.2 ⟨h, List.forall_mem_singleton.2 hclause⟩)

end Clause

/-! ## Content -/

namespace Content

open Clause (Last)

/-- The clauses of a line say this content, where `named` is the interface named before them. -/
structure SaidBy (settings : Settings) (named : Option String) (clauses : List Clause)
    (content : Content) : Prop where
  inbound : Last (fun clause value => clause = .valued .inbound value) named clauses content.inbound
  source : Last (fun clause value => clause = .valued .source value) none clauses content.source
  group : Last (fun clause value => clause = .valued .group value) none clauses content.group
  outbound : content.outbound = clauses.flatMap Clause.names
  enable : Last (fun clause value => clause = .activation value) settings.defaultEnable clauses
    content.enable
  threshold : Last
    (fun clause value =>
      ∃ text, clause = .valued .threshold (some text) ∧ DenotesThreshold text value)
    settings.threshold clauses content.threshold

section Part

variable {Value : Type} {gives : Clause → Value → Prop} {part : Content → Value} {content : Content}

/-- What clauses say of a part of the content they set it to, and where they say nothing of it they
leave it. -/
structure Governs (gives : Clause → Value → Prop) (part : Content → Value) : Prop where
  sets : ∀ (content : Content) {clause : Clause} {value : Value}, gives clause value →
    part (content.apply clause) = value
  leaves : ∀ (content : Content) {clause : Clause}, (∀ value, ¬ gives clause value) →
    part (content.apply clause) = part content

/-- A part of the content stays as it is while no clause says anything of it. -/
theorem Governs.applyAll_eq (hgoverns : Governs gives part)
    (h : ∀ clause ∈ clauses, ∀ value, ¬ gives clause value) :
    part (content.applyAll clauses) = part content := by
  induction clauses generalizing content with
  | nil => rfl
  | cons clause rest ih =>
      obtain ⟨hclause, hrest⟩ := List.forall_mem_cons.1 h
      exact (ih hrest).trans (hgoverns.leaves content hclause)

/-- A part of the content is in the end what is said of it last. -/
theorem Governs.last_iff (hgoverns : Governs gives part) (content : Content) {value : Value} :
    Last gives (part content) clauses value ↔ part (content.applyAll clauses) = value := by
  constructor
  · intro h
    cases h with
    | said before hclause hafter =>
        rw [applyAll, List.foldl_append, List.foldl_cons]
        exact (hgoverns.applyAll_eq hafter).trans (hgoverns.sets _ hclause)
    | unsaid h => exact hgoverns.applyAll_eq h
  -- Of more clauses than one the last decides, so the induction is from the end.
  · rintro rfl
    induction clauses using List.reverseRecOn with
    | nil => exact .unsaid (List.forall_mem_nil _)
    | append_singleton before clause ih =>
        have hstep : content.applyAll (before ++ [clause]) =
            (content.applyAll before).apply clause := by
          rw [applyAll, List.foldl_append]
          rfl
        rw [hstep]
        by_cases hclause : ∃ value, gives clause value
        · obtain ⟨value, hclause⟩ := hclause
          rw [hgoverns.sets _ hclause]
          exact .said before hclause (List.forall_mem_nil _)
        · have hsilent := not_exists.1 hclause
          rw [hgoverns.leaves _ hsilent]
          exact ih.concat hsilent

end Part

/-- All that is taken to send out by is kept. -/
theorem outbound_applyAll (content : Content) (clauses : List Clause) :
    (content.applyAll clauses).outbound = content.outbound ++ clauses.flatMap Clause.names := by
  induction clauses generalizing content with
  | nil => exact (List.append_nil _).symm
  | cons clause rest ih =>
      have hstep : (content.apply clause).outbound = content.outbound ++ clause.names := by
        rcases clause with ⟨_ | _ | _ | _, _ | text⟩ | names | enable | word <;>
          simp only [apply, Clause.names, List.append_nil]
        split <;> rfl
      rw [applyAll, List.foldl_cons, List.flatMap_cons, ← List.append_assoc, ← hstep]
      exact ih _

/-- A threshold clause leaves all but the threshold. -/
theorem exists_apply_threshold (content : Content) (value : Option String) :
    ∃ threshold, content.apply (.valued .threshold value) = { content with threshold } := by
  cases value with
  | none => exact ⟨content.threshold, rfl⟩
  | some text =>
      simp only [apply]
      split
      · exact ⟨_, rfl⟩
      · exact ⟨content.threshold, rfl⟩

/-- The text that is kept for a field. A threshold is kept as a number and not as a text. -/
def text (content : Content) : Field → Option String
  | .inbound => content.inbound
  | .source => content.source
  | .group => content.group
  | .threshold => none

/-- A text is governed by the clauses of its keyword. -/
theorem governs_text (field : Field) (hfield : field ≠ .threshold) :
    Governs (fun clause value => clause = .valued field value) (text · field) where
  sets := by
    rintro content _ value rfl
    cases field with
    | threshold => exact absurd rfl hfield
    | inbound | source | group => rfl
  leaves content clause h := by
    rcases clause with ⟨other, value⟩ | names | enable | word
    case valued =>
      have hne : other ≠ field := fun heq => h value (heq ▸ rfl)
      cases other with
      | threshold =>
          obtain ⟨threshold, heq⟩ := exists_apply_threshold content value
          rw [heq]
          cases field <;> rfl
      | inbound | source | group => cases field <;> first | rfl | exact absurd rfl hne
    all_goals cases field <;> rfl

/-- Whether the interface is enabled is governed by the clauses that enable or disable it. -/
theorem governs_enable : Governs (fun clause value => clause = .activation value) enable where
  sets content _ _ h := h ▸ rfl
  leaves content clause h := by
    rcases clause with ⟨_ | _ | _ | _, value⟩ | names | enable | word
    case valued.threshold =>
      obtain ⟨threshold, heq⟩ := exists_apply_threshold content value
      rw [heq]
    case activation => exact absurd rfl (h enable)
    all_goals rfl

/-- The threshold is governed by the clauses of its keyword that denote one. -/
theorem governs_threshold :
    Governs
      (fun clause value =>
        ∃ text, clause = .valued .threshold (some text) ∧ DenotesThreshold text value)
      threshold where
  sets := by
    rintro content _ value ⟨text, rfl, hdenotes⟩
    simp only [apply, ThresholdReading.ofText_eq_set_iff.2 hdenotes]
  leaves content clause h := by
    rcases clause with ⟨_ | _ | _ | _, _ | text⟩ | names | enable | word
    case valued.threshold.some =>
      simp only [apply]
      split
      · rename_i threshold hset
        exact absurd ⟨text, rfl, ThresholdReading.ofText_eq_set_iff.1 hset⟩ (h threshold)
      · rfl
    all_goals rfl

/-- What clauses say is what they fill in, from the first to the last. -/
theorem saidBy_iff {named : Option String} {content : Content} :
    SaidBy settings named clauses content ↔
      (initial settings named).applyAll clauses = content := by
  let start := initial settings named
  let filled := start.applyAll clauses
  have htext : ∀ field ≠ .threshold, ∀ value : Option String,
      Last (fun clause value => clause = .valued field value) (start.text field) clauses value ↔
        filled.text field = value :=
    fun field hfield _ => (governs_text field hfield).last_iff start
  have houtbound : filled.outbound = clauses.flatMap Clause.names := outbound_applyAll start clauses
  constructor
  · intro h
    have hinbound : filled.inbound = content.inbound := (htext .inbound (by decide) _).1 h.inbound
    have hsource : filled.source = content.source := (htext .source (by decide) _).1 h.source
    have hgroup : filled.group = content.group := (htext .group (by decide) _).1 h.group
    have henable : filled.enable = content.enable := (governs_enable.last_iff start).1 h.enable
    have hthreshold : filled.threshold = content.threshold :=
      (governs_threshold.last_iff start).1 h.threshold
    show (⟨filled.inbound, filled.source, filled.group, filled.outbound, filled.enable,
      filled.threshold⟩ : Content) = content
    rw [hinbound, hsource, hgroup, houtbound, ← h.outbound, henable, hthreshold]
  · rintro rfl
    exact {
      inbound := (htext .inbound (by decide) _).2 rfl
      source := (htext .source (by decide) _).2 rfl
      group := (htext .group (by decide) _).2 rfl
      outbound := houtbound
      enable := (governs_enable.last_iff start).2 rfl
      threshold := (governs_threshold.last_iff start).2 rfl }

end Content

/-! ## Statements -/

/-- A word that spells no command is read as none. -/
theorem Command.ofWord?_eq_none (h : word ∉ ["phyint", "mgroup", "ssmgroup", "mroute"]) :
    ofWord? word = none := by
  simp only [List.mem_cons, List.not_mem_nil, or_false, not_or] at h
  simp [ofWord?, h]

namespace Statement

/-- How a line opens: with a command, perhaps with the name of an interface, and then with words
that make up clauses. -/
inductive Opens : List String → Command → Option String → List String → Prop where
  | interface (name : String) (rest : List String) :
      Opens ("phyint" :: name :: rest) .interface (some name) rest
  | membership (rest : List String) : Opens ("mgroup" :: rest) .membership none rest
  | sourceMembership (rest : List String) : Opens ("ssmgroup" :: rest) .membership none rest
  | route (rest : List String) : Opens ("mroute" :: rest) .route none rest

/-- What the words of a line mean: nothing, a statement, or an error. -/
inductive Means (settings : Settings) :
    List String → Except Rejection (Option Statement) → Prop where
  | blank : Means settings [] (.ok none)
  | unknownCommand {word : String} (rest : List String)
      (hword : word ∉ ["phyint", "mgroup", "ssmgroup", "mroute"]) :
      Means settings (word :: rest) (.error (.unknownCommand word))
  | unnamed : Means settings ["phyint"] (.error (.missing .interfaceName .interface))
  | said {words rest : List String} {command : Command} {named : Option String}
      {clauses : List Clause} {content : Content} {result : Except Rejection Statement}
      (hopens : Opens words command named rest) (hreads : Clause.Reads rest clauses)
      (hsaid : Content.SaidBy settings named clauses content)
      (hverdict : Verdict (objections command content) (Makes command content) result) :
      Means settings words (result.map some)

variable {command : Command} {content : Content} {statement other : Statement}

/-- A command makes one statement of the content. -/
theorem Makes.unique (h : Makes command content statement) (hother : Makes command content other) :
    statement = other := by
  cases h with
  | interface hname =>
      cases hother with
      | interface hother => rw [Option.some.inj (hname.symm.trans hother)]
  | membership hinterface hgroup =>
      cases hother with
      | membership hother hothers =>
          rw [Option.some.inj (hinterface.symm.trans hother),
            Option.some.inj (hgroup.symm.trans hothers)]
  | route hinbound hgroup =>
      cases hother with
      | route hother hothers =>
          rw [Option.some.inj (hinbound.symm.trans hother),
            Option.some.inj (hgroup.symm.trans hothers)]

/-- What is read of the words after a command is what the line means. -/
theorem means_ofWords {words rest : List String} {named : Option String}
    (hopens : Opens words command named rest) :
    Means settings words (ofWords settings command named rest).result :=
  .said hopens (Clause.reads_read rest) (Content.saidBy_iff.2 rfl) (verdict_ofContent _ _)

/-- A line means what is read of it. -/
theorem means_read (settings : Settings) (line : String) :
    Means settings (words line) (read settings line).result := by
  unfold read
  generalize words line = words
  cases words with
  | nil => exact .blank
  | cons word rest =>
      by_cases hword : word ∈ ["phyint", "mgroup", "ssmgroup", "mroute"]
      · simp only [List.mem_cons, List.not_mem_nil, or_false] at hword
        rcases hword with rfl | rfl | rfl | rfl
        · cases rest with
          | nil => exact .unnamed
          | cons name rest => exact means_ofWords (.interface name rest)
        · exact means_ofWords (.membership rest)
        · exact means_ofWords (.sourceMembership rest)
        · exact means_ofWords (.route rest)
      · simp only [Command.ofWord?_eq_none hword]
        exact .unknownCommand rest hword

/-- A line is read by how it opens. -/
theorem read_of_opens {line : String} {named : Option String} {rest : List String}
    (hopens : Opens (words line) command named rest) :
    read settings line = ofWords settings command named rest := by
  unfold read
  generalize words line = opening at hopens ⊢
  cases hopens <;> rfl

/-- The result of reading a line is what its command makes of its clauses. -/
theorem read_result_of_opens {line : String} {named : Option String} {rest : List String}
    {clauses : List Clause} (hopens : Opens (words line) command named rest)
    (hreads : Clause.Reads rest clauses) :
    (read settings line).result =
      (ofContent command ((Content.initial settings named).applyAll clauses)).map some := by
  rw [read_of_opens hopens, ← hreads.read_eq]
  rfl

/-- What a line means is read of it. -/
theorem Means.read_eq {line : String} {result : Except Rejection (Option Statement)}
    (h : Means settings (words line) result) : (read settings line).result = result := by
  generalize hwords : words line = opening at h
  cases h with
  | blank => rw [read, hwords]
  | unknownCommand rest hword => simp only [read, hwords, Command.ofWord?_eq_none hword]
  | unnamed =>
      rw [read, hwords]
      rfl
  | said hopens hreads hsaid hverdict =>
      have hmade := (verdict_ofContent _ _).unique (fun _ _ => Makes.unique) hverdict
      rw [read_result_of_opens (hwords ▸ hopens) hreads, Content.saidBy_iff.1 hsaid, hmade]

/-- What is read of a line is exactly what its words mean. -/
theorem read_result_iff (settings : Settings) (line : String)
    (result : Except Rejection (Option Statement)) :
    (read settings line).result = result ↔ Means settings (words line) result :=
  ⟨fun h => h ▸ means_read settings line, Means.read_eq⟩

end Statement

end StaticMulticast.Configuration
