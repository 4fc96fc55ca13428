import StaticMulticast.Proofs.Address.Characters
import StaticMulticast.Proofs.Address.Reading
import StaticMulticast.Proofs.Configuration.Exits
import StaticMulticast.Proofs.Configuration.Precedence

/-!
# What a statement asks for

For each kind of statement and each family there are a list of objections, in order of precedence,
and the operation that is granted if none applies (`Operation.Resolves`). The result for a statement
is exactly what these say (`Operation.ofStatement_result_iff`), whatever else is wrong with it. So
what an operation owes to the statement that became it is read off the case that granted it
(`Operation.becomes_of_ofStatement`).
-/

namespace StaticMulticast.Configuration.Operation

open Address (Family V4 V6 readV4 readV6 readGroupV4 readGroupV6 readLengthV4 splitLength
  DenotesLength)

/-! ## Parts of a statement -/

/-- The text denotes the address of an IPv4 group. -/
def DenotesGroupV4 (text : String) (address : V4) : Prop :=
  V4.ofText? text = some address ∧ address.isMulticast = true

/-- The text denotes the address of an IPv6 group. -/
def DenotesGroupV6 (text : String) (address : V6) : Prop :=
  V6.ofText? text = some address ∧ address.isMulticast = true

/-- The source that a text gives, if it does. -/
def givenV4 (source : Option String) : Option V4 :=
  source.bind V4.ofText?

/-- The source of an IPv4 route. Without a text, that is any source. -/
def routeSourceV4 (source : Option String) : V4 :=
  (givenV4 source).getD .unspecified

/-- The part of a text before its first slash. -/
def frontPart (text : String) : String :=
  String.ofList (text.toList.takeWhile (· != '/'))

/-- The part of a text after its first slash. -/
def lengthPart (text : String) : String :=
  String.ofList (text.toList.dropWhile (· != '/')).tail

/-- The prefix length in the text of a group. It is zero if there is none. -/
def HasLength (text : String) (length : UInt8) : Prop :=
  if '/' ∈ text.toList then DenotesLength (lengthPart text) length else length = 0

/-! ## Objections -/

/-- The interface that packets come in by must have a slot. -/
def inboundObjection (lookup : Lookup) (family : Family) (name : String) : Objection :=
  ⟨¬ ∃ slot, Holds lookup family name slot, .invalidInbound family name⟩

/-- A source that is given must be an IPv4 address. -/
def sourceObjectionsV4 (source : Option String) : List Objection :=
  source.toList.map fun text => ⟨V4.ofText? text = none, .invalidSource .inet text⟩

/-- A source must be given, and be an IPv6 address. -/
def sourceObjectionsV6 (source : Option String) : List Objection :=
  ⟨source = none, .missingSource .inet6⟩ ::
    source.toList.map fun text => ⟨V6.ofText? text = none, .invalidSource .inet6 text⟩

/-- A group must be that of IPv4. -/
def groupObjectionV4 (text : String) : Objection :=
  ⟨¬ ∃ address, DenotesGroupV4 text address, .invalidGroup .inet text⟩

/-- A group must be that of IPv6, and has no prefix length. -/
def groupObjectionV6 (text : String) : Objection :=
  ⟨'/' ∈ text.toList ∨ ¬ ∃ address, DenotesGroupV6 text address, .invalidGroup .inet6 text⟩

/-- A range can be given only for any source, with a length that can be read. -/
def rangeObjections (source : V4) (text : String) : List Objection :=
  [⟨'/' ∈ text.toList ∧ source ≠ .unspecified, .rangeWithSource⟩,
    ⟨'/' ∈ text.toList ∧ ¬ ∃ length, DenotesLength (lengthPart text) length, .invalidLength text⟩,
    groupObjectionV4 (frontPart text)]

/-- Some interface to send out by must have a slot. -/
def outboundObjection (lookup : Lookup) (family : Family) (names : List String) : Objection :=
  ⟨∀ name ∈ names, ¬ ∃ slot, Holds lookup family name slot, .noOutbound family⟩

/-! ## What is granted -/

/-- A statement about an IPv4 group asks for a membership, from the source if one is given. -/
def JoinsV4 (interface : String) (source : Option String) (group : String)
    (granted : Option Operation) : Prop :=
  ∃ address, DenotesGroupV4 group address ∧
    granted = some (.join ⟨interface, (givenV4 source).map .v4, .v4 address⟩)

/-- A statement about an IPv6 group asks for a membership without a source. -/
def JoinsV6 (interface group : String) (granted : Option Operation) : Prop :=
  ∃ address, DenotesGroupV6 group address ∧ granted = some (.join ⟨interface, none, .v6 address⟩)

/-- A statement about an IPv4 route asks for a route from the slot of its interface. -/
def RoutesV4 (lookup : Lookup) (inbound : String) (source : Option String) (group : String)
    (outbound : List String) (granted : Option Operation) : Prop :=
  ∃ slot address length, Holds lookup .inet inbound slot ∧
    DenotesGroupV4 (frontPart group) address ∧ HasLength group length ∧
    granted = some (.addV4
      ⟨slot, routeSourceV4 source, address, length, exits lookup .inet outbound⟩)

/-- A statement about an IPv6 route asks for a route from the slot of its interface. -/
def RoutesV6 (lookup : Lookup) (inbound : String) (source : Option String) (group : String)
    (outbound : List String) (granted : Option Operation) : Prop :=
  ∃ slot sender address, Holds lookup .inet6 inbound slot ∧
    source.bind V6.ofText? = some sender ∧ DenotesGroupV6 group address ∧
    granted = some (.addV6 ⟨slot, sender, address, exits lookup .inet6 outbound⟩)

/-! ## Resolution -/

/-- What comes of a statement: a rejection for the first of the objections that applies, or what is
granted. -/
inductive Resolves (settings : Settings) (lookup : Lookup) :
    Statement → Except Rejection (Option Operation) → Prop where
  | enable (name : String) (threshold : UInt8) :
      Resolves settings lookup (.interface name true threshold)
        (.ok (some (.enable name threshold)))
  | disable (name : String) (threshold : UInt8) :
      Resolves settings lookup (.interface name false threshold) (.ok (some (.disable name)))
  | membershipIgnored (interface : String) (source : Option String) {group : String}
      (hcolon : ':' ∈ group.toList) (hipv6 : settings.ipv6 = false) :
      Resolves settings lookup (.membership interface source group) (.ok none)
  | membershipV4 {interface group : String} {source : Option String}
      {result : Except Rejection (Option Operation)} (hcolon : ':' ∉ group.toList)
      (hverdict : Verdict (sourceObjectionsV4 source ++ [groupObjectionV4 group])
        (JoinsV4 interface source group) result) :
      Resolves settings lookup (.membership interface source group) result
  | membershipV6 {interface group : String} (source : Option String)
      {result : Except Rejection (Option Operation)} (hcolon : ':' ∈ group.toList)
      (hipv6 : settings.ipv6 = true)
      (hverdict : Verdict [groupObjectionV6 group] (JoinsV6 interface group) result) :
      Resolves settings lookup (.membership interface source group) result
  | routeIgnored (inbound : String) (source : Option String) {group : String}
      (outbound : List String) (hcolon : ':' ∈ group.toList) (hipv6 : settings.ipv6 = false) :
      Resolves settings lookup (.route inbound source group outbound) (.ok none)
  | routeV4 {inbound group : String} {source : Option String} {outbound : List String}
      {result : Except Rejection (Option Operation)} (hcolon : ':' ∉ group.toList)
      (hverdict : Verdict
        (inboundObjection lookup .inet inbound :: sourceObjectionsV4 source ++
          rangeObjections (routeSourceV4 source) group ++ [outboundObjection lookup .inet outbound])
        (RoutesV4 lookup inbound source group outbound) result) :
      Resolves settings lookup (.route inbound source group outbound) result
  | routeV6 {inbound group : String} {source : Option String} {outbound : List String}
      {result : Except Rejection (Option Operation)} (hcolon : ':' ∈ group.toList)
      (hipv6 : settings.ipv6 = true)
      (hverdict : Verdict
        (inboundObjection lookup .inet6 inbound :: sourceObjectionsV6 source ++
          [groupObjectionV6 group] ++ [outboundObjection lookup .inet6 outbound])
        (RoutesV6 lookup inbound source group outbound) result) :
      Resolves settings lookup (.route inbound source group outbound) result

variable {settings : Settings} {lookup : Lookup} {family : Family} {name text : String}

/-! ## One operation is granted -/

/-- A text denotes one length. -/
theorem HasLength.unique {length other : UInt8} (h : HasLength text length)
    (hother : HasLength text other) : length = other := by
  unfold HasLength at h hother
  split at h
  · rename_i hslash
    rw [if_pos hslash] at hother
    have hread := Address.readLengthV4_eq_ok_iff.2 h
    rw [Address.readLengthV4_eq_ok_iff.2 hother] at hread
    exact (Except.ok.inj hread).symm
  · rename_i hslash
    rw [if_neg hslash] at hother
    rw [h, hother]

/-- One membership is asked for of an IPv4 group. -/
theorem JoinsV4.unique {interface group : String} {source : Option String}
    {first second : Option Operation} (h : JoinsV4 interface source group first)
    (hother : JoinsV4 interface source group second) : first = second := by
  obtain ⟨address, ⟨haddress, -⟩, rfl⟩ := h
  obtain ⟨same, ⟨hsame, -⟩, rfl⟩ := hother
  rw [Option.some.inj (haddress.symm.trans hsame)]

/-- One membership is asked for of an IPv6 group. -/
theorem JoinsV6.unique {interface group : String} {first second : Option Operation}
    (h : JoinsV6 interface group first) (hother : JoinsV6 interface group second) :
    first = second := by
  obtain ⟨address, ⟨haddress, -⟩, rfl⟩ := h
  obtain ⟨same, ⟨hsame, -⟩, rfl⟩ := hother
  rw [Option.some.inj (haddress.symm.trans hsame)]

/-- One IPv4 route is asked for. -/
theorem RoutesV4.unique {inbound group : String} {source : Option String} {outbound : List String}
    {first second : Option Operation} (h : RoutesV4 lookup inbound source group outbound first)
    (hother : RoutesV4 lookup inbound source group outbound second) : first = second := by
  obtain ⟨slot, address, length, hslot, ⟨haddress, -⟩, hlength, rfl⟩ := h
  obtain ⟨sameSlot, sameAddress, sameLength, hsameSlot, ⟨hsameAddress, -⟩, hsameLength, rfl⟩ :=
    hother
  rw [hslot.unique hsameSlot, Option.some.inj (haddress.symm.trans hsameAddress),
    hlength.unique hsameLength]

/-- One IPv6 route is asked for. -/
theorem RoutesV6.unique {inbound group : String} {source : Option String} {outbound : List String}
    {first second : Option Operation} (h : RoutesV6 lookup inbound source group outbound first)
    (hother : RoutesV6 lookup inbound source group outbound second) : first = second := by
  obtain ⟨slot, sender, address, hslot, hsender, ⟨haddress, -⟩, rfl⟩ := h
  obtain ⟨sameSlot, sameSender, sameAddress, hsameSlot, hsameSender, ⟨hsameAddress, -⟩, rfl⟩ :=
    hother
  rw [hslot.unique hsameSlot, Option.some.inj (haddress.symm.trans hsameAddress),
    Option.some.inj (hsender.symm.trans hsameSender)]

/-! ## Reading the parts -/

/-- A value that is accepted is objected to exactly if it cannot be read. -/
theorem verdict_accept {Reason Value : Type} {read : Except Reason Value} {knows : Value → Prop}
    {applies : Prop} {reason : Rejection} (hread : ∀ value, read = .ok value ↔ knows value)
    (happlies : applies ↔ ¬ ∃ value, knows value) :
    Verdict [⟨applies, reason⟩] knows (accept reason read) := by
  cases read with
  | error failure =>
      refine .rejected (.here (happlies.2 ?_))
      rintro ⟨value, hvalue⟩
      cases (hread value).2 hvalue
  | ok value =>
      have hknows := (hread value).1 rfl
      exact (Verdict.ok hknows).pass fun h => happlies.1 h ⟨value, hknows⟩

/-- An IPv4 source is objected to exactly if its text denotes no address. -/
theorem verdict_readV4 (text : String) :
    Verdict [⟨V4.ofText? text = none, .invalidSource .inet text⟩] (V4.ofText? text = some ·)
      (accept (.invalidSource .inet text) (readV4 text)) := by
  refine verdict_accept (fun _ => Address.readV4_eq_ok_iff) ?_
  rw [Option.eq_none_iff_forall_ne_some, not_exists]

/-- An IPv6 source is objected to exactly if its text denotes no address. -/
theorem verdict_readV6 (text : String) :
    Verdict [⟨V6.ofText? text = none, .invalidSource .inet6 text⟩] (V6.ofText? text = some ·)
      (accept (.invalidSource .inet6 text) (readV6 text)) := by
  refine verdict_accept (fun _ => Address.readV6_eq_ok_iff) ?_
  rw [Option.eq_none_iff_forall_ne_some, not_exists]

/-- An IPv4 group is objected to exactly if its text denotes none. -/
theorem verdict_readGroupV4 (text : String) :
    Verdict [groupObjectionV4 text] (DenotesGroupV4 text)
      (accept (.invalidGroup .inet text) (readGroupV4 text)) :=
  verdict_accept (fun _ => Address.readGroupV4_eq_ok_iff) Iff.rfl

/-- An IPv6 group is objected to exactly if its text denotes none, as one with a slash does not. -/
theorem verdict_readGroupV6 (text : String) :
    Verdict [groupObjectionV6 text] (DenotesGroupV6 text)
      (accept (.invalidGroup .inet6 text) (readGroupV6 text)) := by
  refine verdict_accept (fun _ => Address.readGroupV6_eq_ok_iff) (or_iff_right_of_imp ?_)
  rintro hslash ⟨address, haddress, -⟩
  rw [V6.ofText?_of_slash hslash] at haddress
  cases haddress

/-- An inbound interface is objected to exactly if it has no slot. -/
theorem verdict_inboundSlot (lookup : Lookup) (family : Family) (name : String) :
    Verdict [inboundObjection lookup family name] (Holds lookup family name)
      (inboundSlot lookup family name) := by
  unfold inboundSlot
  split
  · rename_i exit hexit
    have hslot : Holds lookup family name exit.slot := holds_iff_exit?.2 ⟨exit, hexit, rfl⟩
    exact (Verdict.ok hslot).pass (not_not_intro ⟨exit.slot, hslot⟩)
  · rename_i hexit
    exact .rejected (.here (exit?_eq_none_iff.1 hexit))

/-- A route is objected to in the end exactly if no name to send out by has a slot. -/
theorem verdict_complete (lookup : Lookup) (family : Family) (inbound : Nat) (inboundName : String)
    (names : List String) (build : List Route.Exit → Operation) :
    Verdict [outboundObjection lookup family names] (· = some (build (exits lookup family names)))
      (complete lookup family inbound inboundName names build).result := by
  obtain ⟨hnone, hresult⟩ | ⟨hsome, hresult⟩ :=
    complete_cases lookup family inbound inboundName names build
  · rw [hresult]
    exact .rejected (.here (exits_eq_nil_iff.1 hnone))
  · have hok : Verdict [] (· = some (build (exits lookup family names)))
        (.ok (some (build (exits lookup family names)))) := .ok rfl
    rw [hresult]
    exact hok.pass (mt exits_eq_nil_iff.2 hsome)

/-! ## Ranges -/

/-- A text without a slash is its own front. -/
theorem frontPart_of_notMem (h : '/' ∉ text.toList) : frontPart text = text := by
  have htake : text.toList.takeWhile (· != '/') = text.toList := by
    rw [List.takeWhile_eq_self_iff]
    exact fun character hmem => bne_iff_ne.2 (ne_of_mem_of_not_mem hmem h)
  rw [frontPart, htake, String.ofList_toList]

/-- A text with a slash is taken apart at the first. -/
theorem splitLength_of_mem (h : '/' ∈ text.toList) :
    splitLength text = (frontPart text, some (lengthPart text)) := by
  simp only [splitLength, frontPart, lengthPart]
  split
  · rename_i hnone
    rw [List.dropWhile_eq_nil_iff] at hnone
    exact absurd (hnone '/' h) (by decide)
  · rename_i hsome
    rw [hsome, List.tail_cons]

/-- What is wrong with a range is objected to in this order: that there is a length although there
is a source, the length, the group. -/
theorem verdict_groupRange (source : V4) (text : String) :
    Verdict (rangeObjections source text)
      (fun range => DenotesGroupV4 (frontPart text) range.1 ∧ HasLength text range.2)
      (groupRange source text) := by
  have hgroup : ∀ length, HasLength text length →
      Verdict [groupObjectionV4 (frontPart text)]
        (fun range => DenotesGroupV4 (frontPart text) range.1 ∧ HasLength text range.2)
        (accept (.invalidGroup .inet (frontPart text)) (readGroupV4 (frontPart text)) >>=
          fun address => pure (address, length)) :=
    fun length hlength => (verdict_readGroupV4 _).bind_pure fun address haddress =>
      ⟨haddress, hlength⟩
  unfold groupRange
  by_cases hslash : '/' ∈ text.toList
  · rw [splitLength_of_mem hslash]
    by_cases hany : source = .unspecified
    · have hhas : ∀ length, HasLength text length ↔ DenotesLength (lengthPart text) length :=
        fun length => iff_of_eq (if_pos hslash)
      have hread : Verdict
          [⟨'/' ∈ text.toList ∧ ¬ ∃ length, DenotesLength (lengthPart text) length,
            .invalidLength text⟩]
          (HasLength text) (accept (.invalidLength text) (readLengthV4 (lengthPart text))) := by
        refine verdict_accept (fun length => ?_) ?_
        · rw [hhas, Address.readLengthV4_eq_ok_iff]
        · simp only [hhas, and_iff_right hslash]
      refine .pass (fun h => h.2 hany) ?_
      simp only [if_pos hany]
      exact hread.bind hgroup
    · simp only [if_neg hany]
      exact .rejected (.here ⟨hslash, hany⟩)
  · have hzero : HasLength text 0 := by
      rw [HasLength, if_neg hslash]
    rw [Address.splitLength_of_notMem hslash]
    refine .pass (fun h => hslash h.1) (.pass (fun h => hslash h.1) ?_)
    have hrange := hgroup 0 hzero
    rw [frontPart_of_notMem hslash] at hrange ⊢
    exact hrange

/-! ## Statements -/

/-- What is wrong with a membership of an IPv4 group is objected to in this order: the source, the
group. -/
theorem verdict_membershipV4 {interface group : String} {source : Option String}
    (hcolon : ':' ∉ group.toList) :
    Verdict (sourceObjectionsV4 source ++ [groupObjectionV4 group])
      (JoinsV4 interface source group)
      (ofStatement settings lookup (.membership interface source group)).result := by
  have hgroup : ∀ sender : Option V4, Verdict [groupObjectionV4 group]
      (fun joined : Operation => ∃ address, DenotesGroupV4 group address ∧
        joined = .join ⟨interface, sender.map .v4, .v4 address⟩)
      (accept (.invalidGroup .inet group) (readGroupV4 group) >>= fun address =>
        pure (.join ⟨interface, sender.map .v4, .v4 address⟩)) :=
    fun sender => (verdict_readGroupV4 group).bind_pure fun address haddress =>
      ⟨address, haddress, rfl⟩
  have hjoin : Verdict (sourceObjectionsV4 source ++ [groupObjectionV4 group])
      (fun joined : Operation => ∃ address, DenotesGroupV4 group address ∧
        joined = .join ⟨interface, (givenV4 source).map .v4, .v4 address⟩)
      (joinV4 interface source group) := by
    unfold joinV4
    cases source with
    | none => exact hgroup none
    | some text =>
        have hsource : Verdict (sourceObjectionsV4 (some text)) (· = givenV4 (some text))
            ((accept (.invalidSource .inet text) (readV4 text)).map some) :=
          (verdict_readV4 text).map fun sender hsender => hsender.symm
        exact hsource.bind fun sender hsender => hsender ▸ hgroup sender
  simp only [ofStatement, Family.ofText, if_neg hcolon]
  exact hjoin.map fun _ ⟨address, haddress, heq⟩ => ⟨address, haddress, congrArg some heq⟩

/-- What is wrong with a membership of an IPv6 group is that the group is none. -/
theorem verdict_membershipV6 {interface group : String} {source : Option String}
    (hcolon : ':' ∈ group.toList) (hipv6 : settings.ipv6 = true) :
    Verdict [groupObjectionV6 group] (JoinsV6 interface group)
      (ofStatement settings lookup (.membership interface source group)).result := by
  have hjoin : Verdict [groupObjectionV6 group]
      (fun joined : Operation => ∃ address, DenotesGroupV6 group address ∧
        joined = .join ⟨interface, none, .v6 address⟩) (joinV6 interface group) :=
    (verdict_readGroupV6 group).bind_pure fun address haddress => ⟨address, haddress, rfl⟩
  simp only [ofStatement, Family.ofText, if_pos hcolon, if_pos hipv6]
  exact hjoin.map fun _ ⟨address, haddress, heq⟩ => ⟨address, haddress, congrArg some heq⟩

/-- What is wrong with an IPv4 route is objected to in this order, before its ways out are looked
for: the interface that packets come in by, the source, the range. -/
theorem verdict_entryV4 (lookup : Lookup) (inbound : String) (source : Option String)
    (group : String) :
    Verdict
      (inboundObjection lookup .inet inbound :: sourceObjectionsV4 source ++
        rangeObjections (routeSourceV4 source) group)
      (fun route => ∃ slot address length, Holds lookup .inet inbound slot ∧
        DenotesGroupV4 (frontPart group) address ∧ HasLength group length ∧
        route = ⟨slot, routeSourceV4 source, address, length, []⟩)
      (entryV4 lookup inbound source group) := by
  have hrange : ∀ slot, Holds lookup .inet inbound slot → ∀ sender,
      sender = routeSourceV4 source →
      Verdict (rangeObjections (routeSourceV4 source) group)
        (fun route : Route.V4 => ∃ slot address length, Holds lookup .inet inbound slot ∧
          DenotesGroupV4 (frontPart group) address ∧ HasLength group length ∧
          route = ⟨slot, routeSourceV4 source, address, length, []⟩)
        (groupRange sender group >>= fun range => pure ⟨slot, sender, range.1, range.2, []⟩) := by
    rintro slot hslot sender rfl
    exact (verdict_groupRange (routeSourceV4 source) group).bind_pure fun range hrange =>
      ⟨slot, range.1, range.2, hslot, hrange.1, hrange.2, rfl⟩
  unfold entryV4
  refine (verdict_inboundSlot lookup .inet inbound).bind fun slot hslot => ?_
  cases source with
  | none => exact hrange slot hslot .unspecified rfl
  | some text =>
      have hsource : Verdict (sourceObjectionsV4 (some text)) (· = routeSourceV4 (some text))
          (accept (.invalidSource .inet text) (readV4 text)) := by
        refine (verdict_readV4 text).imp fun sender hsender => ?_
        rw [routeSourceV4, givenV4, Option.bind_some, hsender, Option.getD_some]
      exact hsource.bind (hrange slot hslot)

/-- What is wrong with an IPv6 route is objected to in this order, before its ways out are looked
for: the interface that packets come in by, the source, the group. -/
theorem verdict_entryV6 (lookup : Lookup) (inbound : String) (source : Option String)
    (group : String) :
    Verdict
      (inboundObjection lookup .inet6 inbound :: sourceObjectionsV6 source ++
        [groupObjectionV6 group])
      (fun route => ∃ slot sender address, Holds lookup .inet6 inbound slot ∧
        source.bind V6.ofText? = some sender ∧ DenotesGroupV6 group address ∧
        route = ⟨slot, sender, address, []⟩)
      (entryV6 lookup inbound source group) := by
  unfold entryV6
  refine (verdict_inboundSlot lookup .inet6 inbound).bind fun slot hslot => ?_
  cases source with
  | none => exact .rejected (.here rfl)
  | some text =>
      have hsource : Verdict (sourceObjectionsV6 (some text)) (V6.ofText? text = some ·)
          (accept (.invalidSource .inet6 text) (readV6 text)) :=
        (verdict_readV6 text).pass (by simp)
      exact hsource.bind fun sender hsender =>
        (verdict_readGroupV6 group).bind_pure fun address haddress =>
          ⟨slot, sender, address, hslot, hsender, haddress, rfl⟩

/-- What is wrong with an IPv4 route is objected to in the order of its steps. -/
theorem verdict_routeV4 {inbound group : String} {source : Option String} {outbound : List String}
    (hcolon : ':' ∉ group.toList) :
    Verdict
      (inboundObjection lookup .inet inbound :: sourceObjectionsV4 source ++
        rangeObjections (routeSourceV4 source) group ++ [outboundObjection lookup .inet outbound])
      (RoutesV4 lookup inbound source group outbound)
      (ofStatement settings lookup (.route inbound source group outbound)).result := by
  have hentry := verdict_entryV4 lookup inbound source group
  have hresult : (ofStatement settings lookup (.route inbound source group outbound)).result =
      entryV4 lookup inbound source group >>= fun route =>
        (complete lookup .inet route.inbound inbound outbound fun exits =>
          .addV4 { route with outbound := exits }).result := by
    simp only [ofStatement, Family.ofText, if_neg hcolon]
    cases entryV4 lookup inbound source group <;> rfl
  rw [hresult]
  refine hentry.bind fun route hroute => ?_
  obtain ⟨slot, address, length, hslot, haddress, hlength, rfl⟩ := hroute
  refine (verdict_complete ..).imp fun granted hgranted => ?_
  exact ⟨slot, address, length, hslot, haddress, hlength, hgranted⟩

/-- What is wrong with an IPv6 route is objected to in the order of its steps. -/
theorem verdict_routeV6 {inbound group : String} {source : Option String} {outbound : List String}
    (hcolon : ':' ∈ group.toList) (hipv6 : settings.ipv6 = true) :
    Verdict
      (inboundObjection lookup .inet6 inbound :: sourceObjectionsV6 source ++
        [groupObjectionV6 group] ++ [outboundObjection lookup .inet6 outbound])
      (RoutesV6 lookup inbound source group outbound)
      (ofStatement settings lookup (.route inbound source group outbound)).result := by
  have hentry := verdict_entryV6 lookup inbound source group
  have hresult : (ofStatement settings lookup (.route inbound source group outbound)).result =
      entryV6 lookup inbound source group >>= fun route =>
        (complete lookup .inet6 route.inbound inbound outbound fun exits =>
          .addV6 { route with outbound := exits }).result := by
    simp only [ofStatement, Family.ofText, if_pos hcolon, if_pos hipv6]
    cases entryV6 lookup inbound source group <;> rfl
  rw [hresult]
  refine hentry.bind fun route hroute => ?_
  obtain ⟨slot, sender, address, hslot, hsender, haddress, rfl⟩ := hroute
  refine (verdict_complete ..).imp fun granted hgranted => ?_
  exact ⟨slot, sender, address, hslot, hsender, haddress, hgranted⟩

/-! ## All statements -/

/-- A statement about IPv6 is ignored while that is not available. -/
theorem result_ignored {statement : Statement} {group : String} (hcolon : ':' ∈ group.toList)
    (hipv6 : settings.ipv6 = false)
    (hstatement : (∃ interface source, statement = .membership interface source group) ∨
      ∃ inbound source outbound, statement = .route inbound source group outbound) :
    (ofStatement settings lookup statement).result = .ok none := by
  obtain ⟨interface, source, rfl⟩ | ⟨inbound, source, outbound, rfl⟩ := hstatement <;>
    simp [ofStatement, Family.ofText, hcolon, hipv6, ignored]

/-- The result for a statement is what comes of it. -/
theorem resolves_ofStatement (settings : Settings) (lookup : Lookup) (statement : Statement) :
    Resolves settings lookup statement (ofStatement settings lookup statement).result := by
  cases statement with
  | interface name enable threshold =>
      cases enable with
      | true => exact .enable name threshold
      | false => exact .disable name threshold
  | membership interface source group =>
      by_cases hcolon : ':' ∈ group.toList
      · cases hipv6 : settings.ipv6 with
        | false =>
            rw [result_ignored hcolon hipv6 (.inl ⟨interface, source, rfl⟩)]
            exact .membershipIgnored interface source hcolon hipv6
        | true => exact .membershipV6 source hcolon hipv6 (verdict_membershipV6 hcolon hipv6)
      · exact .membershipV4 hcolon (verdict_membershipV4 hcolon)
  | route inbound source group outbound =>
      by_cases hcolon : ':' ∈ group.toList
      · cases hipv6 : settings.ipv6 with
        | false =>
            rw [result_ignored hcolon hipv6 (.inr ⟨inbound, source, outbound, rfl⟩)]
            exact .routeIgnored inbound source outbound hcolon hipv6
        | true => exact .routeV6 hcolon hipv6 (verdict_routeV6 hcolon hipv6)
      · exact .routeV4 hcolon (verdict_routeV4 hcolon)

/-- What comes of a statement is the result for it. -/
theorem Resolves.result_eq {statement : Statement} {result : Except Rejection (Option Operation)}
    (h : Resolves settings lookup statement result) :
    (ofStatement settings lookup statement).result = result := by
  cases h with
  | enable name threshold => rfl
  | disable name threshold => rfl
  | membershipIgnored interface source hcolon hipv6 =>
      exact result_ignored hcolon hipv6 (.inl ⟨interface, source, rfl⟩)
  | membershipV4 hcolon hverdict =>
      exact (verdict_membershipV4 hcolon).unique (fun _ _ => JoinsV4.unique) hverdict
  | membershipV6 source hcolon hipv6 hverdict =>
      exact (verdict_membershipV6 hcolon hipv6).unique (fun _ _ => JoinsV6.unique) hverdict
  | routeIgnored inbound source outbound hcolon hipv6 =>
      exact result_ignored hcolon hipv6 (.inr ⟨inbound, source, outbound, rfl⟩)
  | routeV4 hcolon hverdict =>
      exact (verdict_routeV4 hcolon).unique (fun _ _ => RoutesV4.unique) hverdict
  | routeV6 hcolon hipv6 hverdict =>
      exact (verdict_routeV6 hcolon hipv6).unique (fun _ _ => RoutesV6.unique) hverdict

/-- The result for a statement is exactly what comes of it. -/
theorem ofStatement_result_iff (settings : Settings) (lookup : Lookup) (statement : Statement)
    (result : Except Rejection (Option Operation)) :
    (ofStatement settings lookup statement).result = result ↔
      Resolves settings lookup statement result :=
  ⟨fun h => h ▸ resolves_ofStatement settings lookup statement, Resolves.result_eq⟩

/-! ## Statements that become operations -/

/-- How a statement becomes an operation, where no objection applies. -/
inductive Becomes (settings : Settings) (lookup : Lookup) : Statement → Operation → Prop where
  | enable (name : String) (threshold : UInt8) :
      Becomes settings lookup (.interface name true threshold) (.enable name threshold)
  | disable (name : String) (threshold : UInt8) :
      Becomes settings lookup (.interface name false threshold) (.disable name)
  | joinV4 (interface : String) (source : Option String) {group : String} {address : V4}
      (haddress : DenotesGroupV4 group address) :
      Becomes settings lookup (.membership interface source group)
        (.join ⟨interface, (givenV4 source).map .v4, .v4 address⟩)
  | joinV6 (interface : String) (source : Option String) {group : String} {address : V6}
      (hipv6 : settings.ipv6 = true) (haddress : DenotesGroupV6 group address) :
      Becomes settings lookup (.membership interface source group)
        (.join ⟨interface, none, .v6 address⟩)
  | addV4 {inbound group : String} {source : Option String} {outbound : List String} {slot : Nat}
      {address : V4} {length : UInt8} (hslot : Holds lookup .inet inbound slot)
      (haddress : DenotesGroupV4 (frontPart group) address) (hlength : HasLength group length)
      (hsource : '/' ∈ group.toList → routeSourceV4 source = .unspecified)
      (hsome : exits lookup .inet outbound ≠ []) :
      Becomes settings lookup (.route inbound source group outbound)
        (.addV4 ⟨slot, routeSourceV4 source, address, length, exits lookup .inet outbound⟩)
  | addV6 {inbound group : String} {source : Option String} {outbound : List String} {slot : Nat}
      {sender address : V6} (hipv6 : settings.ipv6 = true)
      (hslot : Holds lookup .inet6 inbound slot) (haddress : DenotesGroupV6 group address)
      (hsome : exits lookup .inet6 outbound ≠ []) :
      Becomes settings lookup (.route inbound source group outbound)
        (.addV6 ⟨slot, sender, address, exits lookup .inet6 outbound⟩)

/-- A statement that has an operation as its result becomes that. -/
theorem becomes_of_ofStatement {statement : Statement} {operation : Operation}
    (h : (ofStatement settings lookup statement).result = .ok (some operation)) :
    Becomes settings lookup statement operation := by
  have hresolves := resolves_ofStatement settings lookup statement
  rw [h] at hresolves
  cases hresolves with
  | enable name threshold => exact .enable name threshold
  | disable name threshold => exact .disable name threshold
  | membershipV4 _ hverdict =>
      obtain ⟨-, address, haddress, heq⟩ := hverdict.of_ok
      cases heq
      exact .joinV4 _ _ haddress
  | membershipV6 source _ hipv6 hverdict =>
      obtain ⟨-, address, haddress, heq⟩ := hverdict.of_ok
      cases heq
      exact .joinV6 _ source hipv6 haddress
  | routeV4 _ hverdict =>
      obtain ⟨hpass, slot, address, length, hslot, haddress, hlength, heq⟩ := hverdict.of_ok
      cases heq
      have hrange := hpass _ (List.mem_append_left _ (List.mem_append_right _ List.mem_cons_self))
      have hsome := hpass _ (List.mem_append_right _ List.mem_cons_self)
      exact .addV4 hslot haddress hlength
        (fun hslash => not_not.1 fun hsource => hrange ⟨hslash, hsource⟩)
        (mt exits_eq_nil_iff.1 hsome)
  | routeV6 _ hipv6 hverdict =>
      obtain ⟨hpass, slot, sender, address, hslot, -, haddress, heq⟩ := hverdict.of_ok
      cases heq
      have hsome := hpass _ (List.mem_append_right _ List.mem_cons_self)
      exact .addV6 hipv6 hslot haddress (mt exits_eq_nil_iff.1 hsome)

end StaticMulticast.Configuration.Operation
