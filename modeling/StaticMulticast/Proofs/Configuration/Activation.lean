import StaticMulticast.Proofs.Configuration.Naming
import StaticMulticast.Proofs.Configuration.Reordering

/-!
# Lines that enable interfaces

An interface is enabled by a line that says so, whatever its name is like: right after the command,
a word is a name even if it is a keyword elsewhere. What else lines ask for does not depend on
whether interfaces are enabled by default (`Pass.run_state_of_statement?_eq`).
-/

namespace StaticMulticast.Configuration

/-! ## One line for an interface -/

/-- The line that enables an interface, without its end. -/
def activationText (name : String) : String :=
  "phyint " ++ name ++ " enable"

/-- The lines that enable interfaces. -/
def activationLines (names : List String) : List UInt8 :=
  names.flatMap fun name => (activationText name).toUTF8.toList ++ [lineEnd]

variable {settings others : Settings} {lookup : Lookup} {name : String}

/-- The words of the line are the command, the name and the keyword. -/
theorem words_activationText (h : IsToken name) :
    words (activationText name) = ["phyint", name, "enable"] := by
  have htokens : ∀ token ∈ ["phyint", name, "enable"], IsToken token :=
    List.forall_mem_cons.2 ⟨by decide, List.forall_mem_cons.2 ⟨h, by decide⟩⟩
  have hspaced : " " ++ activationText name = spaced ["phyint", name, "enable"] := by
    refine String.toList_inj.1 ?_
    simp [activationText, spaced]
  exact words_of_spaced hspaced htokens

/-- The line asks for the interface to be enabled with the threshold that is set for none. -/
theorem ofLine_activationText (h : IsToken name) :
    (Operation.ofLine settings lookup (activationText name)).result =
      .ok (some (.enable name settings.threshold)) := by
  have hread : (Statement.read settings (activationText name)).result =
      .ok (some (.interface name true settings.threshold)) := by
    rw [Statement.read, words_activationText h]
    rfl
  exact Operation.ofLine_eq_ok_iff.2 ⟨_, hread, rfl⟩

/-- No octet of the line is one that ends lines. -/
theorem notMem_activationText (h : IsToken name) {octet : UInt8}
    (hend : octet = lineEnd ∨ octet = carriageReturn) :
    octet ∉ (activationText name).toUTF8.toList := by
  have hnumber : octet.toNat = 0x0A ∨ octet.toNat = 0x0D :=
    hend.imp (congrArg UInt8.toNat) (congrArg UInt8.toNat)
  intro hmem
  obtain ⟨character, hcharacter, heq⟩ := Text.Utf8.exists_of_mem_toUTF8 (by omega) hmem
  have hnumbers : octet.toNat ∉ ("phyint " ++ " enable").toList.map Char.toNat := by
    rcases hnumber with hnumber | hnumber <;> (rw [hnumber]; decide)
  have hfixed : character ∉ ("phyint " ++ " enable").toList := by
    rw [← heq] at hnumbers
    exact fun hmem => hnumbers (List.mem_map_of_mem hmem)
  have hblank : Text.isBlank character = true := by
    rcases hnumber with hnumber | hnumber <;> simp [Text.isBlank, heq, hnumber]
  simp only [activationText, String.toList_append, List.mem_append] at hcharacter hfixed
  rcases hcharacter with (hcharacter | hcharacter) | hcharacter
  · exact hfixed (.inl hcharacter)
  · rw [h.no_blank character hcharacter] at hblank
    cases hblank
  · exact hfixed (.inr hcharacter)

/-- The line asks for the interface to be enabled, if it is short enough for a line. -/
theorem asked?_activation (h : IsToken name)
    (hlength : (activationText name).utf8ByteSize ≤ longestLine) :
    (Line.whole (activationText name).toUTF8.toList).asked? settings lookup =
      some (.enable name settings.threshold) := by
  have hreturn := Line.before_of_notMem (notMem_activationText h (.inr rfl))
  refine Line.asked?_eq_some_iff.2 ?_
  rw [Line.operation_of_text (notMem_activationText h (.inl rfl)), ofLine_activationText h]
  · rwa [hreturn, Text.Utf8.length_toUTF8]
  · rw [hreturn, Text.Utf8.toList_toUTF8]
    exact String.utf8Encode_toList

/-- Data that begins with lines for interfaces has these and its other lines. -/
theorem wholeLines_activationLines {names : List String} (h : ∀ name ∈ names, IsToken name)
    (octets : List UInt8) :
    wholeLines (activationLines names ++ octets) =
      names.map (fun name => (activationText name).toUTF8.toList) ++ wholeLines octets := by
  induction names with
  | nil => rfl
  | cons name rest ih =>
      obtain ⟨hname, hrest⟩ := List.forall_mem_cons.1 h
      have hline : activationLines (name :: rest) ++ octets =
          (activationText name).toUTF8.toList ++ lineEnd :: (activationLines rest ++ octets) := by
        simp [activationLines]
      have hfirst := linesUntil_append_cons none (notMem_activationText hname (.inl rfl))
        (activationLines rest ++ octets)
      rw [hline, List.map_cons, List.cons_append, ← ih hrest]
      exact hfirst

/-! ## Settings that make no difference -/

/-- What two lines say is the same, but for whether an interface is enabled and how. -/
structure Content.Alike (content other : Content) : Prop where
  inbound : content.inbound = other.inbound
  source : content.source = other.source
  group : content.group = other.group
  outbound : content.outbound = other.outbound

namespace Content.Alike

variable {content other : Content}

/-- One more clause is the same for both. -/
theorem apply (h : content.Alike other) (clause : Clause) :
    (content.apply clause).Alike (other.apply clause) := by
  obtain ⟨hinbound, hsource, hgroup, houtbound⟩ := h
  cases clause with
  | valued field value =>
      cases field with
      | inbound => exact ⟨rfl, hsource, hgroup, houtbound⟩
      | source => exact ⟨hinbound, rfl, hgroup, houtbound⟩
      | group => exact ⟨hinbound, hsource, rfl, houtbound⟩
      | threshold =>
          cases value with
          | none => exact ⟨hinbound, hsource, hgroup, houtbound⟩
          | some text =>
              simp only [Content.apply]
              split <;> exact ⟨hinbound, hsource, hgroup, houtbound⟩
  | outbound names => exact ⟨hinbound, hsource, hgroup, congrArg (· ++ names) houtbound⟩
  | activation enable => exact ⟨hinbound, hsource, hgroup, houtbound⟩
  | unknown word => exact ⟨hinbound, hsource, hgroup, houtbound⟩

/-- Any more clauses are the same for both. -/
theorem applyAll (h : content.Alike other) (clauses : List Clause) :
    (content.applyAll clauses).Alike (other.applyAll clauses) := by
  induction clauses generalizing content other with
  | nil => exact h
  | cons clause rest ih => exact ih (h.apply clause)

/-- Commands that are not about interfaces make the same of both. -/
theorem ofContent_eq (h : content.Alike other) {command : Command} (hne : command ≠ .interface) :
    Statement.ofContent command content = Statement.ofContent command other := by
  obtain ⟨hinbound, hsource, hgroup, houtbound⟩ := h
  cases command with
  | interface => exact absurd rfl hne
  | membership | route =>
      simp only [Statement.ofContent, hinbound, hsource, hgroup, houtbound]

end Content.Alike

/-- What the words after another command say does not depend on the settings. -/
theorem Statement.ofWords_result_eq {command : Command} (hne : command ≠ .interface)
    (settings others : Settings) (named : Option String) (words : List String) :
    (ofWords settings command named words).result =
      (ofWords others command named words).result := by
  have halike : (Content.initial settings named).Alike (Content.initial others named) :=
    ⟨rfl, rfl, rfl, rfl⟩
  exact congrArg (Except.map some) ((halike.applyAll (Clause.read words)).ofContent_eq hne)

/-- The statement of a line about no interface does not depend on the settings. -/
theorem Line.statement?_eq_of_command?_ne {line : Line} (h : line.command? ≠ some .interface)
    (settings others : Settings) : line.statement? settings = line.statement? others := by
  unfold Line.statement?
  unfold Line.command? at h
  cases htext : line.text with
  | error reason => rfl
  | ok text =>
      simp only [htext] at h
      simp only [Statement.read]
      cases hwords : words text with
      | nil => rfl
      | cons word rest =>
          rw [hwords, List.head?_cons, Option.bind_some] at h
          simp only
          cases hcommand : Command.ofWord? word with
          | none => rfl
          | some command =>
              have hne : command ≠ .interface := fun heq => h (hcommand.trans (congrArg some heq))
              cases command with
              | interface => exact absurd rfl hne
              | membership | route =>
                  exact congrArg (fun result => result.toOption.join)
                    (Statement.ofWords_result_eq hne settings others none rest)

/-- Of the settings, a statement is only concerned with whether IPv6 is available. -/
theorem Operation.ofStatement_eq (hipv6 : settings.ipv6 = others.ipv6) (statement : Statement) :
    ofStatement settings lookup statement = ofStatement others lookup statement := by
  cases statement with
  | interface | membership | route => simp only [ofStatement, hipv6]

/-- A line that makes the same statement asks for the same operation. -/
theorem Line.asked?_eq_of_statement?_eq {line : Line} (hipv6 : settings.ipv6 = others.ipv6)
    (h : line.statement? settings = line.statement? others) (lookup : Lookup) :
    line.asked? settings lookup = line.asked? others lookup := by
  refine Option.ext fun operation => ?_
  rw [asked?_eq_some_iff, asked?_eq_some_iff, operation_eq_ok_iff, operation_eq_ok_iff, h]
  simp only [Operation.ofStatement_eq hipv6]

/-! ## Passes -/

namespace Pass

variable {State : Type} {collaborators : Collaborators State}

/-- Lines leave the same state under settings in which they make the same statements, whatever their
numbers. -/
theorem run_state_of_statement?_eq (hipv6 : settings.ipv6 = others.ipv6) {lines : List Line}
    (h : ∀ line ∈ lines, line.statement? settings = line.statement? others)
    (number other : Nat) (state : State) :
    (run collaborators settings number lines state).state =
      (run collaborators others other lines state).state := by
  induction lines generalizing number other state with
  | nil => rfl
  | cons line rest ih =>
      obtain ⟨hline, hrest⟩ := List.forall_mem_cons.1 h
      have hasked := Line.asked?_eq_of_statement?_eq hipv6 hline (collaborators.lookup state)
      have hstate : (handle collaborators settings number line state).state =
          (handle collaborators others other line state).state := by
        cases hoperation : line.asked? settings (collaborators.lookup state) with
        | none =>
            obtain ⟨_, hidle⟩ := exists_handle_of_asked?_eq_none hoperation
            rw [hoperation] at hasked
            obtain ⟨_, hother⟩ := exists_handle_of_asked?_eq_none hasked.symm
            rw [(hidle number state rfl).2, (hother other state rfl).2]
        | some operation =>
            rw [hoperation] at hasked
            rw [(handle_of_asked?_eq_some hoperation number rfl).2,
              (handle_of_asked?_eq_some hasked.symm other rfl).2]
      simp only [run, hstate]
      exact ih hrest (number + 1) (other + 1) _

end Pass

end StaticMulticast.Configuration
