import Mathlib.Data.List.Pairwise
import StaticMulticast.Configuration.Operation
import StaticMulticast.Proofs.Configuration.Meaning

/-!
# Clauses that are left out or moved

A clause with its value ends where the next clause begins, whatever its value looks like. So clauses
can be left out or moved without a change to how the others are read. What they say is the same in
any order if no two of them say something of one kind (`Statement.read_permuted`). Nothing is lost
with a clause that the command has no use for, with one exception: the `from` of a line about an
interface names the interface anew (`Statement.read_without_foreign`).
-/

namespace StaticMulticast.Configuration

variable {settings : Settings}

/-! ## Words of clauses -/

namespace Clause

/-- The words that make up a clause. -/
def words : Clause → List String
  | .valued field value => (Keyword.valued field).word :: value.toList
  | .outbound names => Keyword.outbound.word :: names
  | .activation enable => [(Keyword.activation enable).word]
  | .unknown word => [word]

/-- The clause takes none of the words that follow it. -/
def Closed : Clause → Prop
  | .valued _ value => value ≠ none
  | .outbound _ => False
  | .activation _ => True
  | .unknown word => ∀ keyword : Keyword, word ≠ keyword.word

variable {clause : Clause} {clauses front : List Clause} {rest : List String}

/-- A closed clause is read, and then the words that follow it. -/
theorem Reads.words_append (hclosed : clause.Closed) (hrest : Reads rest clauses) :
    Reads (clause.words ++ rest) (clause :: clauses) := by
  cases clause with
  | valued field value =>
      cases value with
      | none => exact absurd rfl hclosed
      | some text => exact .valued field text hrest
  | outbound names => exact hclosed.elim
  | activation enable => exact .activation enable hrest
  | unknown word => exact .unknown hclosed hrest

/-- Closed clauses are read, and then the words that follow them. -/
theorem Reads.flatMap_words_append (hclosed : ∀ clause ∈ front, clause.Closed)
    (hrest : Reads rest clauses) : Reads (front.flatMap words ++ rest) (front ++ clauses) := by
  induction front with
  | nil => exact hrest
  | cons clause front ih =>
      obtain ⟨hclause, hfront⟩ := List.forall_mem_cons.1 hclosed
      rw [List.flatMap_cons, List.append_assoc, List.cons_append]
      exact (ih hfront).words_append hclause

/-- The words that are read are those of the clauses. -/
theorem Reads.eq_flatMap_words {all : List String} (h : Reads all clauses) :
    all = clauses.flatMap words := by
  induction h with
  | done => rfl
  | dangling field => rfl
  | outbound names => simp [words]
  | valued field value _ ih | activation enable _ ih | unknown _ _ ih => rw [ih]; rfl

/-- Of the clauses that are read, those before another one are closed, and those after it are read
also without what comes before them. -/
theorem Reads.before_and_after {all : List String} {before after : List Clause}
    (h : Reads all (before ++ clause :: after)) :
    (∀ earlier ∈ before, earlier.Closed) ∧ Reads (after.flatMap words) after := by
  induction before generalizing all with
  | nil =>
      refine ⟨List.forall_mem_nil _, ?_⟩
      rw [List.nil_append] at h
      cases h with
      | dangling | outbound => exact .done
      | valued _ _ hrest | activation _ hrest | unknown _ hrest =>
          rwa [hrest.eq_flatMap_words] at hrest
  | cons earlier before ih =>
      rw [List.cons_append] at h
      generalize hlater : before ++ clause :: after = later at h
      -- A clause that takes all words that are left is the last one.
      have hlast : later ≠ [] := by simp [← hlater]
      cases h with
      | dangling | outbound => exact absurd rfl hlast
      | valued _ _ hrest =>
          obtain ⟨hbefore, hafter⟩ := ih (hlater ▸ hrest)
          exact ⟨List.forall_mem_cons.2 ⟨Option.some_ne_none _, hbefore⟩, hafter⟩
      | activation _ hrest =>
          obtain ⟨hbefore, hafter⟩ := ih (hlater ▸ hrest)
          exact ⟨List.forall_mem_cons.2 ⟨trivial, hbefore⟩, hafter⟩
      | unknown hword hrest =>
          obtain ⟨hbefore, hafter⟩ := ih (hlater ▸ hrest)
          exact ⟨List.forall_mem_cons.2 ⟨hword, hbefore⟩, hafter⟩

end Clause

/-! ## Parts of the content -/

namespace Content

section Part

variable {Value : Type} {gives : Clause → Value → Prop} {part : Content → Value}
  {content other : Content} {clause first second : Clause} {clauses before after : List Clause}

/-- What clauses make of a part depends on nothing but the part. -/
theorem Governs.applyAll_congr (hgoverns : Governs gives part) (h : part content = part other)
    (clauses : List Clause) : part (content.applyAll clauses) = part (other.applyAll clauses) := by
  induction clauses generalizing content other with
  | nil => exact h
  | cons clause rest ih =>
      refine ih ?_
      by_cases hclause : ∃ value, gives clause value
      · obtain ⟨value, hclause⟩ := hclause
        rw [hgoverns.sets content hclause, hgoverns.sets other hclause]
      · have hsilent := not_exists.1 hclause
        rw [hgoverns.leaves content hsilent, hgoverns.leaves other hsilent, h]

/-- Clauses make the same of different parts exactly if they say something of it. -/
theorem Governs.applyAll_eq_iff (hgoverns : Governs gives part) :
    part (content.applyAll clauses) = part (other.applyAll clauses) ↔
      (∃ clause ∈ clauses, ∃ value, gives clause value) ∨ part content = part other := by
  by_cases hsaid : ∃ clause ∈ clauses, ∃ value, gives clause value
  · refine iff_of_true ?_ (.inl hsaid)
    obtain ⟨clause, hmem, value, hgives⟩ := hsaid
    obtain ⟨before, after, rfl⟩ := List.append_of_mem hmem
    simp only [applyAll, List.foldl_append, List.foldl_cons]
    exact hgoverns.applyAll_congr
      ((hgoverns.sets _ hgives).trans (hgoverns.sets _ hgives).symm) after
  · have hsilent : ∀ clause ∈ clauses, ∀ value, ¬ gives clause value :=
      fun clause hmem value hgives => hsaid ⟨clause, hmem, value, hgives⟩
    rw [or_iff_right hsaid, hgoverns.applyAll_eq hsilent, hgoverns.applyAll_eq hsilent]

/-- A clause that says nothing of a part can be left out. -/
theorem Governs.applyAll_without (hgoverns : Governs gives part)
    (hclause : ∀ value, ¬ gives clause value) (content : Content) (before after : List Clause) :
    part (content.applyAll (before ++ clause :: after)) =
      part (content.applyAll (before ++ after)) := by
  simp only [applyAll, List.foldl_append, List.foldl_cons]
  exact hgoverns.applyAll_congr (hgoverns.leaves _ hclause) after

/-- Of two clauses of which at most one says something of a part, either can come first. -/
theorem Governs.apply_comm (hgoverns : Governs gives part)
    (h : (∀ value, ¬ gives first value) ∨ ∀ value, ¬ gives second value) (content : Content) :
    part ((content.apply first).apply second) = part ((content.apply second).apply first) := by
  have hcomm : ∀ silent other : Clause, (∀ value, ¬ gives silent value) →
      part ((content.apply silent).apply other) = part ((content.apply other).apply silent) := by
    intro silent other hsilent
    rw [hgoverns.leaves (content.apply other) hsilent]
    exact hgoverns.applyAll_congr (hgoverns.leaves content hsilent) [other]
  rcases h with hfirst | hsecond
  · exact hcomm first second hfirst
  · exact (hcomm second first hsecond).symm

end Part

/-- Closed clauses name nothing to send out by. -/
theorem outbound_applyAll_of_closed {clauses : List Clause}
    (hclosed : ∀ clause ∈ clauses, clause.Closed) (content : Content) :
    (content.applyAll clauses).outbound = content.outbound := by
  have hnames : clauses.flatMap Clause.names = [] := by
    refine List.flatMap_eq_nil_iff.2 fun clause hclause => ?_
    have hclause := hclosed clause hclause
    cases clause with
    | outbound names => exact hclause.elim
    | valued | activation | unknown => rfl
  rw [outbound_applyAll, hnames, List.append_nil]

end Content

/-! ## Clauses in another order -/

namespace Clause

/-- The two clauses have different keywords, where `enable` and `disable` count as one. -/
def Apart : Clause → Clause → Prop
  | .valued field _, .valued other _ => field ≠ other
  | .activation _, .activation _ => False
  | _, _ => True

instance : Std.Symm Apart where
  symm first second h := by
    cases first <;> cases second <;> first | exact h | exact Ne.symm h

variable {first second : Clause}

/-- Of two clauses apart, at most one has the keyword of a field. -/
theorem Apart.ne_valued (h : first.Apart second) (field : Field) :
    (∀ value, first ≠ .valued field value) ∨ ∀ value, second ≠ .valued field value := by
  by_cases hfirst : ∃ value, first = .valued field value
  · obtain ⟨value, rfl⟩ := hfirst
    refine .inr fun other hsecond => ?_
    rw [hsecond] at h
    exact h rfl
  · exact .inl (not_exists.1 hfirst)

/-- Of two clauses apart, at most one enables or disables. -/
theorem Apart.ne_activation (h : first.Apart second) :
    (∀ enable, first ≠ .activation enable) ∨ ∀ enable, second ≠ .activation enable := by
  by_cases hfirst : ∃ enable, first = .activation enable
  · obtain ⟨enable, rfl⟩ := hfirst
    refine .inr fun other hsecond => ?_
    rw [hsecond] at h
    exact h
  · exact .inl (not_exists.1 hfirst)

end Clause

namespace Content

variable {first second : Clause} {clauses permuted : List Clause}

/-- Contents that agree on every part are the same. -/
theorem eq_of_parts {content other : Content}
    (htext : ∀ field ≠ .threshold, content.text field = other.text field)
    (houtbound : content.outbound = other.outbound) (henable : content.enable = other.enable)
    (hthreshold : content.threshold = other.threshold) : content = other := by
  have hinbound : content.inbound = other.inbound := htext .inbound (by decide)
  have hsource : content.source = other.source := htext .source (by decide)
  have hgroup : content.group = other.group := htext .group (by decide)
  cases content
  cases other
  rw [mk.injEq]
  exact ⟨hinbound, hsource, hgroup, houtbound, henable, hthreshold⟩

/-- Of two closed clauses apart, either can come first. -/
theorem apply_comm (hapart : first.Apart second) (hfirst : first.Closed) (hsecond : second.Closed)
    (content : Content) :
    (content.apply first).apply second = (content.apply second).apply first := by
  have htext : ∀ field ≠ .threshold, ((content.apply first).apply second).text field =
      ((content.apply second).apply first).text field :=
    fun field hfield => (governs_text field hfield).apply_comm (hapart.ne_valued field) content
  have houtbound : ∀ one other : Clause, one.Closed → other.Closed →
      ((content.apply one).apply other).outbound = content.outbound := by
    intro one other hone hother
    have hboth : ∀ clause ∈ [one, other], clause.Closed :=
      List.forall_mem_cons.2 ⟨hone, List.forall_mem_singleton.2 hother⟩
    exact outbound_applyAll_of_closed hboth content
  have hthreshold : (∀ value, ¬ ∃ text, first = .valued .threshold (some text) ∧
        DenotesThreshold text value) ∨
      ∀ value, ¬ ∃ text, second = .valued .threshold (some text) ∧ DenotesThreshold text value :=
    (hapart.ne_valued .threshold).imp (fun h _ ⟨_, heq, _⟩ => h _ heq)
      fun h _ ⟨_, heq, _⟩ => h _ heq
  refine eq_of_parts htext ?_ (governs_enable.apply_comm hapart.ne_activation content)
    (governs_threshold.apply_comm hthreshold content)
  rw [houtbound first second hfirst hsecond, houtbound second first hsecond hfirst]

/-- Closed clauses with different keywords say the same in any order. -/
theorem applyAll_perm (hperm : clauses.Perm permuted) (hclosed : ∀ clause ∈ clauses, clause.Closed)
    (hapart : clauses.Pairwise Clause.Apart) (content : Content) :
    content.applyAll clauses = content.applyAll permuted := by
  refine hperm.foldl_eq' (fun first hfirst second hsecond current => ?_) content
  by_cases heq : first = second
  · rw [heq]
  · exact apply_comm (hapart.forall hfirst hsecond heq) (hclosed _ hfirst) (hclosed _ hsecond) _

end Content

/-! ## Clauses without a use -/

/-- The command has no use for the keyword of the clause. -/
def Clause.ForeignTo (command : Command) : Clause → Prop
  | .valued .threshold _ => command ≠ .interface
  | .valued _ _ => command = .interface
  | .activation _ => command ≠ .interface
  | .outbound _ => False
  | .unknown _ => False

namespace Statement

open Clause (Last Reads)

variable {command : Command} {content other : Content} {clause : Clause}

/-- A command makes the same of contents that agree on all that it has a use for. -/
theorem ofContent_congr (hinbound : content.inbound = other.inbound)
    (houtbound : content.outbound = other.outbound)
    (hinterface : command = .interface →
      content.enable = other.enable ∧ content.threshold = other.threshold)
    (hgroup : command ≠ .interface → content.source = other.source ∧ content.group = other.group) :
    ofContent command content = ofContent command other := by
  cases command with
  | interface =>
      obtain ⟨henable, hthreshold⟩ := hinterface rfl
      simp only [ofContent, hinbound, houtbound, henable, hthreshold]
  | membership | route =>
      obtain ⟨hsource, hgroup⟩ := hgroup (by decide)
      simp only [ofContent, hinbound, houtbound, hsource, hgroup]

/-- A command about an interface tells two interfaces apart, unless it is rejected for what it names
to send out by. -/
theorem ofContent_interface_eq_iff (houtbound : content.outbound = other.outbound)
    (henable : content.enable = other.enable) (hthreshold : content.threshold = other.threshold) :
    ofContent .interface content = ofContent .interface other ↔
      32 < content.outbound.length ∨ content.inbound = other.inbound := by
  by_cases hmost : mostOutbound < content.outbound.length
  · rw [ofContent, ofContent, ← houtbound, if_pos hmost, if_pos hmost]
    exact iff_of_true rfl (.inl hmost)
  · have hother : ¬ 32 < content.outbound.length := hmost
    rw [ofContent, ofContent, ← houtbound, if_neg hmost, if_neg hmost, or_iff_right hother, henable,
      hthreshold]
    cases content.inbound <;> cases other.inbound <;>
      simp [required, pure, bind, Except.bind, Except.pure]

/-- A clause that names an interface makes no difference to a command about one exactly if the
command is rejected for what it names to send out by, if a later clause names an interface, or if
that is the one named before. -/
theorem ofContent_interface_apply_iff (hnone : content.outbound = []) (value : Option String)
    (after : List Clause) :
    ofContent .interface ((content.apply (.valued .inbound value)).applyAll after) =
        ofContent .interface (content.applyAll after) ↔
      32 < (after.flatMap Clause.names).length ∨ (∃ later, .valued .inbound later ∈ after) ∨
        content.inbound = value := by
  let renamed : Content := content.apply (.valued .inbound value)
  have henable : renamed.enable = content.enable := rfl
  have hthreshold : renamed.threshold = content.threshold := rfl
  have houtbound : (renamed.applyAll after).outbound = after.flatMap Clause.names := by
    rw [Content.outbound_applyAll]
    exact congrArg (· ++ _) hnone
  have hsame : (renamed.applyAll after).outbound = (content.applyAll after).outbound := by
    rw [houtbound, Content.outbound_applyAll, hnone, List.nil_append]
  have hinbound : (renamed.applyAll after).inbound = (content.applyAll after).inbound ↔
      (∃ later, .valued .inbound later ∈ after) ∨ content.inbound = value := by
    have hgoverns := Content.governs_text .inbound (by decide)
    refine hgoverns.applyAll_eq_iff.trans (or_congr ?_ eq_comm)
    constructor
    · rintro ⟨_, hmem, later, rfl⟩
      exact ⟨later, hmem⟩
    · rintro ⟨later, hmem⟩
      exact ⟨_, hmem, later, rfl⟩
  have hresult := ofContent_interface_eq_iff hsame
    (Content.governs_enable.applyAll_congr henable after)
    (Content.governs_threshold.applyAll_congr hthreshold after)
  rwa [houtbound, hinbound] at hresult

/-- A foreign clause can be left out, if it names no interface. -/
theorem ofContent_without (hforeign : clause.ForeignTo command)
    (hinbound : ∀ value, clause ≠ .valued .inbound value) (content : Content)
    (before after : List Clause) :
    ofContent command (content.applyAll (before ++ clause :: after)) =
      ofContent command (content.applyAll (before ++ after)) := by
  have houtbound : clause.names = [] := by
    cases clause with
    | outbound names => exact hforeign.elim
    | valued | activation | unknown => rfl
  refine ofContent_congr ?_ ?_ (fun hcommand => ⟨?_, ?_⟩) fun hcommand => ⟨?_, ?_⟩
  · exact (Content.governs_text .inbound (by decide)).applyAll_without hinbound content before after
  · simp [Content.outbound_applyAll, houtbound]
  · refine Content.governs_enable.applyAll_without ?_ content before after
    rintro enable rfl
    exact hforeign hcommand
  · refine Content.governs_threshold.applyAll_without ?_ content before after
    rintro threshold ⟨text, rfl, -⟩
    exact hforeign hcommand
  · refine (Content.governs_text .source (by decide)).applyAll_without ?_ content before after
    rintro value rfl
    exact hcommand hforeign
  · refine (Content.governs_text .group (by decide)).applyAll_without ?_ content before after
    rintro value rfl
    exact hcommand hforeign

/-! ## Lines -/

variable {line : String} {named : Option String} {rest : List String} {clauses : List Clause}

/-- A statement about an interface is about the one that is named last. -/
theorem names_interface_iff {name : String} {statement : Statement}
    (hopens : Opens (words line) .interface named rest) (hreads : Reads rest clauses)
    (hresult : (read settings line).result = .ok (some statement)) :
    (∃ enable threshold, statement = .interface name enable threshold) ↔
      Last (fun clause value => clause = .valued .inbound value) named clauses (some name) := by
  let content := (Content.initial settings named).applyAll clauses
  have hlast : Last (fun clause value => clause = .valued .inbound value) named clauses
      (some name) ↔ content.inbound = some name :=
    (Content.governs_text .inbound (by decide)).last_iff (Content.initial settings named)
  rw [read_result_of_opens hopens hreads] at hresult
  obtain ⟨made, hmade, heq⟩ := map_eq_ok_iff.1 hresult
  cases heq
  have hverdict := verdict_ofContent .interface content
  rw [hmade] at hverdict
  obtain ⟨-, hmakes⟩ := hverdict.of_ok
  cases hmakes with
  | interface hname => simp [hlast, hname]

/-- Among the clauses of the line is the one that is left out, and the shorter line is made up of
the words of the others. -/
structure LeftOut (line shorter : String) (command : Command) (named : Option String)
    (before : List Clause) (clause : Clause) (after : List Clause) : Prop where
  line : ∃ rest, Opens (words line) command named rest ∧ Reads rest (before ++ clause :: after)
  shorter : Opens (words shorter) command named ((before ++ after).flatMap Clause.words)

variable {shorter : String} {before after : List Clause}

/-- The clauses before the one that is left out are closed. -/
theorem LeftOut.closed (h : LeftOut line shorter command named before clause after) :
    ∀ earlier ∈ before, earlier.Closed := by
  obtain ⟨rest, -, hreads⟩ := h.line
  exact hreads.before_and_after.1

/-- The clauses of the shorter line are those of the line but for the one that is left out. -/
theorem LeftOut.same_iff (h : LeftOut line shorter command named before clause after) :
    (read settings line).result = (read settings shorter).result ↔
      ofContent command ((Content.initial settings named).applyAll (before ++ clause :: after)) =
        ofContent command ((Content.initial settings named).applyAll (before ++ after)) := by
  obtain ⟨rest, hopens, hreads⟩ := h.line
  obtain ⟨hbefore, hafter⟩ := hreads.before_and_after
  have hothers : Reads ((before ++ after).flatMap Clause.words) (before ++ after) := by
    rw [List.flatMap_append]
    exact hafter.flatMap_words_append hbefore
  rw [read_result_of_opens hopens hreads, read_result_of_opens h.shorter hothers]
  exact map_eq_map_iff fun _ _ => Option.some.inj

/-- A clause that the command of a line has no use for can be left out without a change to what is
read, unless it names an interface on a line about one. Leaving out such a name makes no difference
exactly if the line is rejected for what it names to send out by, if a later clause names an
interface, or if that is the one named before. For of all names on a line about an interface, the
one after the command included, the line is about the last. -/
theorem read_without_foreign (settings : Settings) :
    (∀ {line shorter : String} {command : Command} {named : Option String}
        {before after : List Clause} {clause : Clause},
      LeftOut line shorter command named before clause after → clause.ForeignTo command →
      ((read settings line).result = (read settings shorter).result ↔
        ∀ value, clause = .valued .inbound value →
          32 < (after.flatMap Clause.names).length ∨ (∃ later, .valued .inbound later ∈ after) ∨
            Last (fun said value => said = .valued .inbound value) named before value)) ∧
    ∀ {line first last : String} {rest : List String} {clauses : List Clause}
        {statement : Statement},
      Opens (words line) .interface (some first) rest → Reads rest clauses →
      (read settings line).result = .ok (some statement) →
      ((∃ enable threshold, statement = .interface last enable threshold) ↔
        Last (fun said value => said = .valued .inbound value) (some first) clauses
          (some last)) := by
  refine ⟨?_, names_interface_iff⟩
  intro line shorter command named before after clause h hforeign
  let start := Content.initial settings named
  rw [h.same_iff]
  -- Of what a command about an interface uses, only the name can come from a foreign clause.
  by_cases hname : ∃ value, clause = .valued .inbound value
  · obtain ⟨value, rfl⟩ := hname
    obtain rfl : command = .interface := hforeign
    have hbefore : Last (fun said value => said = .valued .inbound value) named before value ↔
        (start.applyAll before).inbound = value :=
      (Content.governs_text .inbound (by decide)).last_iff start
    have hnone : (start.applyAll before).outbound = [] :=
      Content.outbound_applyAll_of_closed h.closed start
    have happly := ofContent_interface_apply_iff hnone value after
    rw [← hbefore] at happly
    simpa [Content.applyAll, List.foldl_append, start] using happly
  · have hinbound := not_exists.1 hname
    exact iff_of_true (ofContent_without hforeign hinbound start before after)
      fun value heq => absurd heq (hinbound value)

/-- A keyword as the value of a foreign clause, after a clause with one as its value. -/
theorem read_without_foreign_keyword_as_value :
    LeftOut "mroute from enable ttl-threshold to group 239.1.1.1 to eth1"
        "mroute from enable group 239.1.1.1 to eth1" .route none
        [.valued .inbound (some "enable")] (.valued .threshold (some "to"))
        [.valued .group (some "239.1.1.1"), .outbound ["eth1"]] ∧
      (read {} "mroute from enable ttl-threshold to group 239.1.1.1 to eth1").result =
        (read {} "mroute from enable group 239.1.1.1 to eth1").result := by
  have hline : words "mroute from enable ttl-threshold to group 239.1.1.1 to eth1" =
      ["mroute", "from", "enable", "ttl-threshold", "to", "group", "239.1.1.1", "to", "eth1"] :=
    words_of_spaced rfl (by decide)
  have hshorter : words "mroute from enable group 239.1.1.1 to eth1" =
      ["mroute", "from", "enable", "group", "239.1.1.1", "to", "eth1"] :=
    words_of_spaced rfl (by decide)
  have hopens : Opens (words "mroute from enable ttl-threshold to group 239.1.1.1 to eth1") .route
      none ["from", "enable", "ttl-threshold", "to", "group", "239.1.1.1", "to", "eth1"] :=
    hline ▸ .route _
  have hleftOut : LeftOut "mroute from enable ttl-threshold to group 239.1.1.1 to eth1"
      "mroute from enable group 239.1.1.1 to eth1" .route none [.valued .inbound (some "enable")]
      (.valued .threshold (some "to")) [.valued .group (some "239.1.1.1"), .outbound ["eth1"]] :=
    ⟨⟨_, hopens, Clause.reads_read _⟩, hshorter ▸ .route _⟩
  have hforeign : Clause.ForeignTo .route (.valued .threshold (some "to")) :=
    (by decide : Command.route ≠ .interface)
  have hother (value : Option String) :
      Clause.valued .threshold (some "to") ≠ .valued .inbound value := by
    simp
  exact ⟨hleftOut, ((read_without_foreign {}).1 hleftOut hforeign).2
    fun value heq => absurd heq (hother value)⟩

/-- A clause that a line about an interface has no use for makes the line be about another one. -/
theorem read_with_foreign_name :
    LeftOut "phyint eth0 from eth1" "phyint eth0" .interface (some "eth0") []
        (.valued .inbound (some "eth1")) [] ∧
      Clause.ForeignTo .interface (.valued .inbound (some "eth1")) ∧
      (read {} "phyint eth0 from eth1").result = .ok (some (.interface "eth1" true 1)) ∧
      (read {} "phyint eth0").result = .ok (some (.interface "eth0" true 1)) := by
  have hline : words "phyint eth0 from eth1" = ["phyint", "eth0", "from", "eth1"] :=
    words_of_spaced rfl (by decide)
  have hshorter : words "phyint eth0" = ["phyint", "eth0"] :=
    words_of_spaced rfl (by decide)
  have hopens : Opens (words "phyint eth0 from eth1") .interface (some "eth0") ["from", "eth1"] :=
    hline ▸ .interface _ _
  have hleftOut : LeftOut "phyint eth0 from eth1" "phyint eth0" .interface (some "eth0") []
      (.valued .inbound (some "eth1")) [] :=
    ⟨⟨_, hopens, Clause.reads_read _⟩, hshorter ▸ .interface _ _⟩
  refine ⟨hleftOut, rfl, ?_, ?_⟩
  · rw [read, hline]
    rfl
  · rw [read, hshorter]
    rfl

/-! ## Lines in another order -/

/-- A line from which the same is read asks for the same. -/
theorem ofLine_result_congr {other : String}
    (h : (read settings line).result = (read settings other).result) (lookup : Lookup) :
    (Operation.ofLine settings lookup line).result =
      (Operation.ofLine settings lookup other).result := by
  simp only [Operation.ofLine, h]
  split <;> rfl

/-- Clauses with different keywords can be put into any order, whatever words follow them, `to` and
its names for instance: the same is read of the line, and the same operation or rejection comes of
it. The two commands that join groups do not differ at all. -/
theorem read_permuted (settings : Settings) :
    (∀ {line other : String} {command : Command} {named : Option String}
        {clauses permuted : List Clause} {rest : List String},
      Opens (words line) command named (clauses.flatMap Clause.words ++ rest) →
      Opens (words other) command named (permuted.flatMap Clause.words ++ rest) →
      (∀ clause ∈ clauses, clause.Closed) → clauses.Pairwise Clause.Apart →
      clauses.Perm permuted →
      (read settings line).result = (read settings other).result ∧
        ∀ lookup, (Operation.ofLine settings lookup line).result =
          (Operation.ofLine settings lookup other).result) ∧
    ∀ {line other : String} {rest : List String},
      words line = "mgroup" :: rest → words other = "ssmgroup" :: rest →
      read settings line = read settings other ∧
        ∀ lookup,
          Operation.ofLine settings lookup line = Operation.ofLine settings lookup other := by
  constructor
  · intro line other command named clauses permuted rest hline hother hclosed hapart hperm
    have hpermuted : ∀ clause ∈ permuted, clause.Closed :=
      fun clause hclause => hclosed clause (hperm.mem_iff.2 hclause)
    have hreads := Clause.reads_read rest
    have hresult : (read settings line).result = (read settings other).result := by
      rw [read_result_of_opens hline (hreads.flatMap_words_append hclosed),
        read_result_of_opens hother (hreads.flatMap_words_append hpermuted)]
      have hcontent := Content.applyAll_perm hperm hclosed hapart (.initial settings named)
      simp only [Content.applyAll, List.foldl_append] at hcontent ⊢
      rw [hcontent]
    exact ⟨hresult, ofLine_result_congr hresult⟩
  · intro line other rest hline hother
    have hread : read settings line = read settings other := by
      rw [read_of_opens (hline ▸ Opens.membership rest),
        read_of_opens (hother ▸ Opens.sourceMembership rest)]
    refine ⟨hread, fun lookup => ?_⟩
    simp only [Operation.ofLine, hread]

/-- Values that look like keywords, in two orders, and a line that joins by either command. -/
theorem read_permuted_keywords_as_values :
    (read {} "mroute from source source from group to to eth1 enable").result =
        (read {} "mroute group to from source source from to eth1 enable").result ∧
      read {} "mgroup from group group 239.1.1.1" =
        read {} "ssmgroup from group group 239.1.1.1" := by
  have hline : words "mroute from source source from group to to eth1 enable" =
      ["mroute", "from", "source", "source", "from", "group", "to", "to", "eth1", "enable"] :=
    words_of_spaced rfl (by decide)
  have hother : words "mroute group to from source source from to eth1 enable" =
      ["mroute", "group", "to", "from", "source", "source", "from", "to", "eth1", "enable"] :=
    words_of_spaced rfl (by decide)
  let clauses : List Clause :=
    [.valued .inbound (some "source"), .valued .source (some "from"), .valued .group (some "to")]
  let permuted : List Clause :=
    [.valued .group (some "to"), .valued .inbound (some "source"), .valued .source (some "from")]
  have hopens : Opens (words "mroute from source source from group to to eth1 enable") .route none
      (clauses.flatMap Clause.words ++ ["to", "eth1", "enable"]) := hline ▸ .route _
  have hopensOther : Opens (words "mroute group to from source source from to eth1 enable") .route
      none (permuted.flatMap Clause.words ++ ["to", "eth1", "enable"]) := hother ▸ .route _
  have hclosed : ∀ clause ∈ clauses, clause.Closed := by simp [clauses, Clause.Closed]
  have hapart : clauses.Pairwise Clause.Apart := by simp [clauses, Clause.Apart]
  have hperm : clauses.Perm permuted := by decide
  have hmembership : words "mgroup from group group 239.1.1.1" =
      ["mgroup", "from", "group", "group", "239.1.1.1"] :=
    words_of_spaced rfl (by decide)
  have hsourceMembership : words "ssmgroup from group group 239.1.1.1" =
      ["ssmgroup", "from", "group", "group", "239.1.1.1"] :=
    words_of_spaced rfl (by decide)
  exact ⟨((read_permuted {}).1 hopens hopensOther hclosed hapart hperm).1,
    ((read_permuted {}).2 hmembership hsourceMembership).1⟩

end Statement

end StaticMulticast.Configuration
