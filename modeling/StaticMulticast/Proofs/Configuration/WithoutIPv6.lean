import StaticMulticast.Proofs.Configuration.Exits
import StaticMulticast.Proofs.Configuration.Pass
import StaticMulticast.Proofs.Except
import StaticMulticast.Proofs.Interface.WithoutIPv6

/-!
# Lines without IPv6

Without IPv6 there is nothing to do for a line about an IPv6 group, and every other line comes to
the same as with IPv6, whatever IPv6 slots the interfaces hold. So the two readings of a line differ
at most by an operation that uses IPv6 (`Operation.Narrows`).
-/

namespace StaticMulticast.Configuration

open Address (Family readGroupV4 readGroupV6)

/-- The settings without IPv6. -/
def Settings.withoutIPv6 (settings : Settings) : Settings :=
  { settings with ipv6 := false }

/-- What is known of the interfaces, without their IPv6 slots. -/
def Lookup.withoutIPv6 (lookup : Lookup) : Lookup :=
  fun name => (lookup name).map Forwarding.withoutIPv6

namespace Operation

/-- The operation is about an IPv6 group. -/
def usesIPv6 : Operation → Bool
  | .join membership => membership.family = .inet6
  | .addV6 _ => true
  | .enable .. | .disable _ | .addV4 _ => false

/-- What a line comes to with IPv6 and without: it is the same and without use of IPv6, or else
nothing is left to do without IPv6, and what there was to do used it. -/
def Narrows (result without : Except Rejection (Option Operation)) : Prop :=
  (without = result ∧ ∀ operation, result = .ok (some operation) → operation.usesIPv6 = false) ∨
    (without = .ok none ∧ ∀ operation, result = .ok (some operation) → operation.usesIPv6 = true)

variable (settings : Settings) (lookup : Lookup)

/-! ## IPv4 slots -/

/-- A name leads to the same IPv4 slot. -/
theorem exit?_withoutIPv6 (name : String) :
    exit? lookup.withoutIPv6 .inet name = exit? lookup .inet name := by
  simp only [exit?, Lookup.withoutIPv6]
  cases lookup name <;> rfl

/-- Names lead to the same ways out. -/
theorem exits_withoutIPv6 (names : List String) :
    exits lookup.withoutIPv6 .inet names = exits lookup .inet names := by
  simp only [exits, funext (exit?_withoutIPv6 lookup)]

/-- An IPv4 route comes in by the same slot. -/
theorem entryV4_withoutIPv6 (inbound : String) (source : Option String) (group : String) :
    entryV4 lookup.withoutIPv6 inbound source group = entryV4 lookup inbound source group := by
  simp only [entryV4, inboundSlot, exit?_withoutIPv6]

/-- An IPv4 route is completed by the same ways out. -/
theorem complete_withoutIPv6 (inbound : Nat) (inboundName : String) (names : List String)
    (build : List Route.Exit → Operation) :
    (complete lookup.withoutIPv6 .inet inbound inboundName names build).result =
      (complete lookup .inet inbound inboundName names build).result := by
  simp only [complete, exits_withoutIPv6]

/-! ## Use of IPv6 -/

/-- A membership in an IPv4 group is without use of IPv6. -/
theorem usesIPv6_of_joinV4 {interface group : String} {source : Option String}
    {operation : Operation} (h : joinV4 interface source group = .ok operation) :
    operation.usesIPv6 = false := by
  unfold joinV4 at h
  cases source
  all_goals
    obtain ⟨sender, -, h⟩ := bind_eq_ok_iff.1 h
    obtain ⟨address, -, h⟩ := bind_eq_ok_iff.1 h
    cases h
    rfl

/-- A membership in an IPv6 group uses IPv6. -/
theorem usesIPv6_of_joinV6 {interface group : String} {operation : Operation}
    (h : joinV6 interface group = .ok operation) : operation.usesIPv6 = true := by
  obtain ⟨address, -, h⟩ := bind_eq_ok_iff.1 h
  cases h
  rfl

/-- A completed route uses IPv6 if it is an IPv6 route. -/
theorem usesIPv6_of_complete {lookup : Lookup} {family : Family} {inbound : Nat}
    {inboundName : String} {names : List String} {build : List Route.Exit → Operation}
    {operation : Operation} {used : Bool} (hbuild : ∀ outbound, (build outbound).usesIPv6 = used)
    (h : (complete lookup family inbound inboundName names build).result = .ok (some operation)) :
    operation.usesIPv6 = used := by
  obtain ⟨-, rfl⟩ := complete_eq_ok_iff.1 h
  exact hbuild _

/-! ## Statements and lines -/

/-- A statement comes to the same without IPv6, or there is nothing left to do. -/
theorem narrows_ofStatement (statement : Statement) :
    Narrows (ofStatement settings lookup statement).result
      (ofStatement settings.withoutIPv6 lookup.withoutIPv6 statement).result := by
  cases statement with
  | interface name enable threshold =>
      refine .inl ⟨by cases enable <;> rfl, fun operation h => ?_⟩
      cases enable <;> cases h <;> rfl
  | membership interface source group =>
      simp only [ofStatement]
      cases Family.ofText group with
      | inet =>
          refine .inl ⟨rfl, fun operation h => ?_⟩
          obtain ⟨joined, hjoined, heq⟩ := map_eq_ok_iff.1 h
          cases heq
          exact usesIPv6_of_joinV4 hjoined
      | inet6 =>
          refine .inr ⟨rfl, fun operation h => ?_⟩
          simp only at h
          split at h
          · obtain ⟨joined, hjoined, heq⟩ := map_eq_ok_iff.1 h
            cases heq
            exact usesIPv6_of_joinV6 hjoined
          · cases h
  | route inbound source group outbound =>
      simp only [ofStatement]
      cases Family.ofText group with
      | inet =>
          simp only [entryV4_withoutIPv6]
          cases entryV4 lookup inbound source group with
          | error reason => exact .inl ⟨rfl, fun operation h => nomatch h⟩
          | ok route =>
              exact .inl ⟨complete_withoutIPv6 lookup _ _ _ _,
                fun operation h => usesIPv6_of_complete (fun _ => rfl) h⟩
      | inet6 =>
          refine .inr ⟨rfl, fun operation h => ?_⟩
          simp only at h
          split at h
          · split at h
            · cases h
            · exact usesIPv6_of_complete (fun _ => rfl) h
          · cases h

/-- A line comes to the same without IPv6, or there is nothing left to do. -/
theorem narrows_ofLine (line : String) :
    Narrows (ofLine settings lookup line).result
      (ofLine settings.withoutIPv6 lookup.withoutIPv6 line).result := by
  have hread : Statement.read settings.withoutIPv6 line = Statement.read settings line := rfl
  simp only [ofLine, hread]
  cases (Statement.read settings line).result with
  | error reason => exact .inl ⟨rfl, fun operation h => nomatch h⟩
  | ok statement =>
      cases statement with
      | none => exact .inl ⟨rfl, fun operation h => nomatch h⟩
      | some statement => exact narrows_ofStatement settings lookup statement

end Operation

/-- A line of octets comes to the same without IPv6, or there is nothing left to do. -/
theorem Line.narrows_operation (settings : Settings) (lookup : Lookup) (line : Line) :
    Operation.Narrows (line.operation settings lookup).result
      (line.operation settings.withoutIPv6 lookup.withoutIPv6).result := by
  simp only [operation]
  cases line.text with
  | error reason => exact .inl ⟨rfl, fun operation h => nomatch h⟩
  | ok text => exact Operation.narrows_ofLine settings lookup text

end StaticMulticast.Configuration
