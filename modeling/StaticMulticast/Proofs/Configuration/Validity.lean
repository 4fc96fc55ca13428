import StaticMulticast.Proofs.Configuration.Resolution
import StaticMulticast.Proofs.Configuration.Statement
import StaticMulticast.Proofs.Configuration.Written

/-!
# Which operations lines ask for

A line asks for valid operations only, and every valid operation is asked for by some line
(`Operation.exists_line_iff_valid`). What a line asks for comes in two steps, so both directions go
through the statement in the middle: a valid statement becomes a valid operation or none, and to
every valid operation there is a valid statement, with the addresses written out.
-/

namespace StaticMulticast.Configuration.Operation

open Address (Family)

variable {settings : Settings} {lookup : Lookup}

/-- The operations that lines ask for. -/
def Valid (settings : Settings) (lookup : Lookup) : Operation → Prop
  | .enable name threshold =>
      IsToken name ∧ (1 ≤ threshold ∨ threshold = settings.threshold)
  | .disable name => IsToken name
  | .join ⟨name, source, group⟩ =>
      IsToken name ∧
        ((∃ address, group = .v4 address ∧ address.isMulticast = true ∧
            (source = none ∨ ∃ sender, source = some (.v4 sender))) ∨
          (settings.ipv6 = true ∧
            ∃ address, group = .v6 address ∧ address.isMulticast = true ∧ source = none))
  | .addV4 route =>
      HoldsSlot lookup .inet route.inbound ∧ route.group.isMulticast = true ∧ route.length ≤ 32 ∧
        (0 < route.length → route.source = .unspecified) ∧
        ValidOutbound lookup .inet route.outbound
  | .addV6 route =>
      settings.ipv6 = true ∧ HoldsSlot lookup .inet6 route.inbound ∧
        route.group.isMulticast = true ∧ ValidOutbound lookup .inet6 route.outbound

/-! ## What statements become -/

/-- A slot that the interface of a token holds is held. -/
theorem holdsSlot_of_holds {family : Family} {name : String} {slot : Nat}
    (h : Holds lookup family name slot) (hname : IsToken name) : HoldsSlot lookup family slot := by
  obtain ⟨forwarding, hlookup, hslot⟩ := Option.bind_eq_some_iff.1 h
  exact ⟨name, forwarding, hname, hlookup, hslot⟩

/-- A length in the text of a group is one of an address. -/
theorem HasLength.le {text : String} {length : UInt8} (h : HasLength text length) :
    length ≤ 32 := by
  unfold HasLength at h
  split at h
  · exact h.2
  · rw [h]
    decide

/-- A valid statement becomes a valid operation, if it becomes any. -/
theorem valid_of_ofStatement {statement : Statement} {operation : Operation}
    (hstatement : statement.Valid settings)
    (h : (ofStatement settings lookup statement).result = .ok (some operation)) :
    operation.Valid settings lookup := by
  cases becomes_of_ofStatement h with
  | enable => exact hstatement
  | disable => exact hstatement.1
  | joinV4 _ source haddress =>
      refine ⟨hstatement.1, .inl ⟨_, rfl, haddress.2, ?_⟩⟩
      cases givenV4 source with
      | none => exact .inl rfl
      | some sender => exact .inr ⟨sender, rfl⟩
  | joinV6 _ _ hipv6 haddress => exact ⟨hstatement.1, .inr ⟨hipv6, _, rfl, haddress.2, rfl⟩⟩
  | addV4 hslot haddress hlength hsource hsome =>
      obtain ⟨hinbound, -, -, houtbound, -, hmost⟩ := hstatement
      refine ⟨holdsSlot_of_holds hslot hinbound, haddress.2, hlength.le, fun hpos => ?_,
        validOutbound_exits houtbound hmost (List.isEmpty_eq_false_iff.2 hsome)⟩
      -- Without a slash the length is zero.
      refine hsource (not_not.1 fun hslash => ?_)
      rw [HasLength, if_neg hslash] at hlength
      subst hlength
      exact UInt8.lt_irrefl _ hpos
  | addV6 hipv6 hslot haddress hsome =>
      obtain ⟨hinbound, -, -, houtbound, -, hmost⟩ := hstatement
      exact ⟨hipv6, holdsSlot_of_holds hslot hinbound, haddress.2,
        validOutbound_exits houtbound hmost (List.isEmpty_eq_false_iff.2 hsome)⟩

/-! ## Statements for operations -/

/-- A slot that is held is one that packets can come in by. -/
theorem HoldsSlot.exists_name {family : Family} {slot : Nat} (h : HoldsSlot lookup family slot) :
    ∃ name, IsToken name ∧ inboundSlot lookup family name = .ok slot := by
  obtain ⟨name, forwarding, hname, hlookup, hslot⟩ := h
  have hexit : exit? lookup family name = some ⟨slot, forwarding.threshold⟩ :=
    exit?_eq_some_iff.2 ⟨forwarding, hlookup, hslot, rfl⟩
  exact ⟨name, hname, by rw [inboundSlot, hexit]⟩

/-- A membership in an IPv4 group is asked for with its addresses written out. -/
theorem joinV4_text (name : String) (sender : Option Address.V4) {group : Address.V4}
    (hmulticast : group.isMulticast = true) :
    joinV4 name (sender.map Address.V4.text) group.text =
      .ok (.join ⟨name, sender.map .v4, .v4 group⟩) := by
  have hgroup := Address.readGroupV4_eq_ok_iff.2 ⟨Address.V4.ofText?_text group, hmulticast⟩
  unfold joinV4
  cases sender with
  | none =>
      exact bind_eq_ok_iff.2 ⟨none, rfl, bind_eq_ok_iff.2 ⟨group, accept_eq_ok_iff.2 hgroup, rfl⟩⟩
  | some sender =>
      have hsender := Address.readV4_eq_ok_iff.2 (Address.V4.ofText?_text sender)
      exact bind_eq_ok_iff.2 ⟨some sender,
        map_eq_ok_iff.2 ⟨sender, accept_eq_ok_iff.2 hsender, rfl⟩,
        bind_eq_ok_iff.2 ⟨group, accept_eq_ok_iff.2 hgroup, rfl⟩⟩

/-- A membership in an IPv6 group is asked for with its address written out. -/
theorem joinV6_fullText (name : String) {group : Address.V6}
    (hmulticast : group.isMulticast = true) :
    joinV6 name group.fullText = .ok (.join ⟨name, none, .v6 group⟩) := by
  have hgroup := Address.readGroupV6_eq_ok_iff.2 ⟨Address.V6.ofText?_fullText group, hmulticast⟩
  exact bind_eq_ok_iff.2 ⟨group, accept_eq_ok_iff.2 hgroup, rfl⟩

/-- An IPv4 route is asked for with its addresses written out. -/
theorem entryV4_text {inbound : String} {slot : Nat} {source group : Address.V4} {length : UInt8}
    (hinbound : inboundSlot lookup .inet inbound = .ok slot)
    (hmulticast : group.isMulticast = true) (hlength : length ≤ 32)
    (hsource : 0 < length → source = .unspecified) :
    entryV4 lookup inbound (some source.text) (rangeWord group length) =
      .ok ⟨slot, source, group, length, []⟩ := by
  have hread := Address.readV4_eq_ok_iff.2 (Address.V4.ofText?_text source)
  exact bind_eq_ok_iff.2 ⟨slot, hinbound, bind_eq_ok_iff.2 ⟨source, accept_eq_ok_iff.2 hread,
    bind_eq_ok_iff.2 ⟨(group, length), groupRange_rangeWord hmulticast hlength hsource, rfl⟩⟩⟩

/-- An IPv6 route is asked for with its addresses written out. -/
theorem entryV6_fullText {inbound : String} {slot : Nat} (source : Address.V6)
    {group : Address.V6} (hinbound : inboundSlot lookup .inet6 inbound = .ok slot)
    (hmulticast : group.isMulticast = true) :
    entryV6 lookup inbound (some source.fullText) group.fullText =
      .ok ⟨slot, source, group, []⟩ := by
  have hread := Address.readV6_eq_ok_iff.2 (Address.V6.ofText?_fullText source)
  have hgroup := Address.readGroupV6_eq_ok_iff.2 ⟨Address.V6.ofText?_fullText group, hmulticast⟩
  exact bind_eq_ok_iff.2 ⟨slot, hinbound, bind_eq_ok_iff.2 ⟨source, accept_eq_ok_iff.2 hread,
    bind_eq_ok_iff.2 ⟨group, accept_eq_ok_iff.2 hgroup, rfl⟩⟩⟩

/-- The ways out that a route can have complete it, by as many tokens. -/
theorem ValidOutbound.exists_complete {family : Family} {outbound : List Route.Exit}
    (h : ValidOutbound lookup family outbound) (inbound : Nat) (inboundName : String)
    (build : List Route.Exit → Operation) :
    ∃ names : List String, (∀ name ∈ names, IsToken name) ∧ 1 ≤ names.length ∧
      names.length ≤ mostOutbound ∧
      (complete lookup family inbound inboundName names build).result =
        .ok (some (build outbound)) := by
  obtain ⟨names, hnames, hcount, hexits⟩ := h.exists_names
  refine ⟨names, hnames, hcount ▸ h.one_le, hcount ▸ h.le_most, ?_⟩
  have hsome : outbound.isEmpty = false :=
    List.isEmpty_eq_false_iff.2 (List.ne_nil_of_length_pos h.one_le)
  exact complete_eq_ok_iff.2 ⟨hexits ▸ hsome, by rw [hexits]⟩

/-- A valid membership is what some valid statement asks for. -/
theorem exists_statement_join {membership : Membership}
    (h : (Operation.join membership).Valid settings lookup) :
    ∃ statement : Statement, statement.Valid settings ∧
      (ofStatement settings lookup statement).result = .ok (some (.join membership)) := by
  obtain ⟨name, source, group⟩ := membership
  obtain ⟨hname, ⟨address, rfl, hmulticast, hsource⟩ | ⟨hipv6, address, rfl, hmulticast, rfl⟩⟩ := h
  -- A source of an IPv4 group is an IPv4 address too, if there is one.
  · obtain ⟨sender, rfl⟩ : ∃ sender : Option Address.V4, source = sender.map .v4 := by
      obtain rfl | ⟨sender, rfl⟩ := hsource
      · exact ⟨none, rfl⟩
      · exact ⟨some sender, rfl⟩
    have hsender : ∀ text ∈ sender.map Address.V4.text, IsToken text := by
      intro text htext
      obtain ⟨address, -, rfl⟩ := Option.map_eq_some_iff.1 htext
      exact isToken_text address
    refine ⟨.membership name (sender.map Address.V4.text) address.text,
      ⟨hname, hsender, isToken_text address⟩, ?_⟩
    simp only [ofStatement, Address.V4.family_text, joinV4_text name sender hmulticast]
    rfl
  · have hnone : ∀ text ∈ (none : Option String), IsToken text :=
      fun text hmem => absurd hmem (Option.not_mem_none text)
    refine ⟨.membership name none address.fullText,
      ⟨hname, hnone, isToken_fullText address⟩, ?_⟩
    simp only [ofStatement, family_fullText, if_pos hipv6, joinV6_fullText name hmulticast]
    rfl

/-- A valid IPv4 route is what some valid statement asks for. -/
theorem exists_statement_addV4 {route : Route.V4}
    (h : (Operation.addV4 route).Valid settings lookup) :
    ∃ statement : Statement, statement.Valid settings ∧
      (ofStatement settings lookup statement).result = .ok (some (.addV4 route)) := by
  obtain ⟨hholds, hmulticast, hlength, hsource, houtbound⟩ := h
  obtain ⟨inbound, hinbound, hslot⟩ := hholds.exists_name
  obtain ⟨names, hnames, hone, hmost, hcomplete⟩ :=
    houtbound.exists_complete route.inbound inbound fun outbound => .addV4 { route with outbound }
  have hentry := entryV4_text hslot hmulticast hlength hsource
  have htoken : ∀ text ∈ some route.source.text, IsToken text :=
    fun text htext => Option.some.inj htext ▸ isToken_text route.source
  refine ⟨.route inbound (some route.source.text) (rangeWord route.group route.length) names,
    ⟨hinbound, htoken, isToken_rangeWord _ _, hnames, hone, hmost⟩, ?_⟩
  simp only [ofStatement, family_rangeWord, hentry]
  exact hcomplete

/-- A valid IPv6 route is what some valid statement asks for. -/
theorem exists_statement_addV6 {route : Route.V6}
    (h : (Operation.addV6 route).Valid settings lookup) :
    ∃ statement : Statement, statement.Valid settings ∧
      (ofStatement settings lookup statement).result = .ok (some (.addV6 route)) := by
  obtain ⟨hipv6, hholds, hmulticast, houtbound⟩ := h
  obtain ⟨inbound, hinbound, hslot⟩ := hholds.exists_name
  obtain ⟨names, hnames, hone, hmost, hcomplete⟩ :=
    houtbound.exists_complete route.inbound inbound fun outbound => .addV6 { route with outbound }
  have hentry := entryV6_fullText route.source hslot hmulticast
  have htoken : ∀ text ∈ some route.source.fullText, IsToken text :=
    fun text htext => Option.some.inj htext ▸ isToken_fullText route.source
  refine ⟨.route inbound (some route.source.fullText) route.group.fullText names,
    ⟨hinbound, htoken, isToken_fullText _, hnames, hone, hmost⟩, ?_⟩
  simp only [ofStatement, family_fullText, if_pos hipv6, hentry]
  exact hcomplete

/-- A valid operation is what some valid statement becomes. -/
theorem exists_statement_of_valid {operation : Operation} (h : operation.Valid settings lookup) :
    ∃ statement : Statement, statement.Valid settings ∧
      (ofStatement settings lookup statement).result = .ok (some operation) := by
  cases operation with
  | enable name threshold => exact ⟨.interface name true threshold, h, rfl⟩
  | disable name => exact ⟨.interface name false settings.threshold, ⟨h, .inr rfl⟩, rfl⟩
  | join membership => exact exists_statement_join h
  | addV4 route => exact exists_statement_addV4 h
  | addV6 route => exact exists_statement_addV6 h

/-! ## Lines -/

/-- A line asks for an operation exactly if it makes a statement that becomes the operation. -/
theorem ofLine_eq_ok_iff {line : String} {operation : Operation} :
    (ofLine settings lookup line).result = .ok (some operation) ↔
      ∃ statement, (Statement.read settings line).result = .ok (some statement) ∧
        (ofStatement settings lookup statement).result = .ok (some operation) := by
  simp only [ofLine]
  split
  · rename_i reason hreason
    simp [hreason]
  · rename_i hnone
    simp [hnone]
  · rename_i statement hstatement
    simp [hstatement]

/-- An operation is asked for by some line exactly if it is valid. -/
theorem exists_line_iff_valid (settings : Settings) (lookup : Lookup) (operation : Operation) :
    (∃ line, (ofLine settings lookup line).result = .ok (some operation)) ↔
      operation.Valid settings lookup := by
  constructor
  · rintro ⟨line, hline⟩
    obtain ⟨statement, hread, hstatement⟩ := ofLine_eq_ok_iff.1 hline
    exact valid_of_ofStatement (Statement.valid_of_read hread) hstatement
  · intro hvalid
    obtain ⟨statement, hstatement, hoperation⟩ := exists_statement_of_valid hvalid
    obtain ⟨line, hline⟩ := Statement.exists_line_iff.2 hstatement
    exact ⟨line, ofLine_eq_ok_iff.2 ⟨statement, hline, hoperation⟩⟩

end StaticMulticast.Configuration.Operation
