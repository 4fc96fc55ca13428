import Mathlib.Data.List.Induction
import Mathlib.Data.Set.Card
import StaticMulticast.Proofs.Configuration.Naming
import StaticMulticast.Proofs.Tables.Order

/-!
# Histories of the route table

A route table starts empty. Then routes of both families are added and all routes are removed, any
number of times in any order. Of each key the table has the route that was added last since all were
removed, where a route with a slot that the kernel does not have is never added
(`Route.table_of_history`). The routes are listed in the order of their keys, so two histories that
come to the same routes come to the same table.

The key of an IPv4 route has the length that was written for its group, and two lengths are written
for a single group, 0 and 32. Routes with these two lengths are the only ones that stand side by
side for one network (`Route.Table.NetworksApart`).
-/

namespace StaticMulticast.Route

open Std

/-! ## Routes of either family -/

/-- The routes are of one family, for packets from one source to one group, and in IPv4 with one
length. -/
def SameKey : Route → Route → Prop
  | .v4 first, .v4 second =>
      first.source = second.source ∧ first.group = second.group ∧ first.length = second.length
  | .v6 first, .v6 second => first.source = second.source ∧ first.group = second.group
  | _, _ => False

instance : DecidableRel SameKey
  | .v4 _, .v4 _ => inferInstanceAs (Decidable (_ ∧ _ ∧ _))
  | .v6 _, .v6 _ => inferInstanceAs (Decidable (_ ∧ _))
  | .v4 _, .v6 _ => inferInstanceAs (Decidable False)
  | .v6 _, .v4 _ => inferInstanceAs (Decidable False)

/-- The key of an IPv4 route has its source, its group and its length. -/
theorem V4.key_eq_iff {first second : V4} :
    first.key = second.key ↔ SameKey (.v4 first) (.v4 second) := by
  rw [V4.key, V4.key, V4.Key.mk.injEq, SameKey]

/-- The key of an IPv6 route has its source and its group. -/
theorem V6.key_eq_iff {first second : V6} :
    first.key = second.key ↔ SameKey (.v6 first) (.v6 second) := by
  rw [V6.key, V6.key, V6.Key.mk.injEq, SameKey]

/-- Two routes can be asked in either order whether they have one key. -/
theorem SameKey.symm {first second : Route} (h : first.SameKey second) : second.SameKey first := by
  cases first <;> cases second
  · exact ⟨h.1.symm, h.2.1.symm, h.2.2.symm⟩
  · exact h
  · exact h
  · exact ⟨h.1.symm, h.2.symm⟩

/-- The slots that a route names. The first is the one that packets come in by. -/
def slots : Route → List Nat
  | .v4 route => route.inbound :: route.outbound.map Exit.slot
  | .v6 route => route.inbound :: route.outbound.map Exit.slot

/-- The kernel has all slots that the route names. -/
def Fits (route : Route) : Prop :=
  ∀ slot ∈ route.slots, slot < 32

instance (route : Route) : Decidable route.Fits :=
  inferInstanceAs (Decidable (∀ slot ∈ route.slots, slot < 32))

/-- Why a route is refused. -/
def refusal? : Route → Option Failure
  | .v4 route => refusedSlot? "vif" route.inbound route.outbound
  | .v6 route => refusedSlot? "mif" route.inbound route.outbound

/-- A route is refused exactly if the kernel has not all of its slots. -/
theorem refusal?_eq_none_iff {route : Route} : route.refusal? = none ↔ route.Fits := by
  cases route with
  | v4 route | v6 route =>
      rw [refusal?, refusedSlot?_eq_none_iff, Fits, slots, List.forall_mem_cons,
        List.forall_mem_map]
      rfl

/-- A route is refused as invalid. -/
theorem invalid_of_refusal? {route : Route} {reason : Failure} (h : route.refusal? = some reason) :
    ∃ what, reason = .invalid what := by
  cases route with
  | v4 route | v6 route => exact invalid_of_refusedSlot? h

namespace Table

/-- The routes of both families, as they are listed. -/
def routes (table : Table) : List Route :=
  table.v4.map .v4 ++ table.v6.map .v6

/-- The IPv4 routes are listed among those of both families. -/
@[simp] theorem mem_routes_v4 {table : Table} {route : V4} :
    .v4 route ∈ table.routes ↔ route ∈ table.v4 := by
  simp [routes]

/-- So are the IPv6 routes. -/
@[simp] theorem mem_routes_v6 {table : Table} {route : V6} :
    .v6 route ∈ table.routes ↔ route ∈ table.v6 := by
  simp [routes]

/-- Adds a route of either family. -/
def add (table : Table) : Route → Outcome Table Event (Except Failure Unit)
  | .v4 route => table.addV4 route
  | .v6 route => table.addV6 route

/-- The table with a route of either family in its place. -/
def put (table : Table) : Route → Table
  | .v4 route => { table with v4 := Ordered.insert V4.key route table.v4 }
  | .v6 route => { table with v6 := Ordered.insert V6.key route table.v6 }

/-- A route whose slots the kernel has not all is refused by every table. Any other is put in its
place. -/
theorem add_cases (route : Route) :
    (¬ route.Fits ∧ ∃ what, ∀ table : Table,
      (table.add route).value = .error (.invalid what) ∧ (table.add route).state = table) ∨
    (route.Fits ∧ ∀ table : Table,
      (table.add route).value = .ok () ∧ (table.add route).state = table.put route) := by
  cases hrefusal : route.refusal? with
  | some reason =>
      obtain ⟨what, rfl⟩ := invalid_of_refusal? hrefusal
      have hfits : ¬ route.Fits := fun hfits => by simp [refusal?_eq_none_iff.2 hfits] at hrefusal
      refine .inl ⟨hfits, what, fun table => ?_⟩
      cases route <;> rw [refusal?] at hrefusal <;> simp [add, addV4, addV6, hrefusal]
  | none =>
      refine .inr ⟨refusal?_eq_none_iff.1 hrefusal, fun table => ?_⟩
      cases route <;> rw [refusal?] at hrefusal <;> simp [add, addV4, addV6, put, hrefusal]

/-! ## Sorted tables -/

/-- The routes of each family are in the order of their keys, each key once. -/
structure Sorted (table : Table) : Prop where
  v4 : Ordered.Ascending V4.key table.v4
  v6 : Ordered.Ascending V6.key table.v6

variable {table other : Table} {route : Route}

/-- A table without routes is sorted. -/
theorem sorted_empty : empty.Sorted :=
  ⟨.nil, .nil⟩

/-- Putting a route in its place keeps a table sorted. -/
theorem Sorted.put (h : table.Sorted) (route : Route) : (table.put route).Sorted := by
  cases route with
  | v4 route => exact ⟨Ordered.ascending_insert h.v4 route, h.v6⟩
  | v6 route => exact ⟨h.v4, Ordered.ascending_insert h.v6 route⟩

/-- After a route is put in its place, the others are those that were there under other keys. -/
theorem Sorted.mem_put_iff (h : table.Sorted) (added : Route) :
    route ∈ (table.put added).routes ↔
      route = added ∨ route ∈ table.routes ∧ ¬ route.SameKey added := by
  cases added with
  | v4 added =>
      cases route with
      | v4 route => simp [routes, Table.put, ← V4.key_eq_iff, Ordered.mem_insert_iff h.v4]
      | v6 route => simp [routes, Table.put, SameKey]
  | v6 added =>
      cases route with
      | v4 route => simp [routes, Table.put, SameKey]
      | v6 route => simp [routes, Table.put, ← V6.key_eq_iff, Ordered.mem_insert_iff h.v6]

/-- No two routes have one key. -/
theorem Sorted.eq_of_sameKey (h : table.Sorted) {first second : Route}
    (hfirst : first ∈ table.routes) (hsecond : second ∈ table.routes)
    (hsame : first.SameKey second) : first = second := by
  cases first with
  | v4 first =>
      cases second with
      | v4 second =>
          rw [mem_routes_v4] at hfirst hsecond
          rw [List.inj_on_of_nodup_map h.v4.nodup_keys hfirst hsecond (V4.key_eq_iff.2 hsame)]
      | v6 second => exact hsame.elim
  | v6 first =>
      cases second with
      | v4 second => exact hsame.elim
      | v6 second =>
          rw [mem_routes_v6] at hfirst hsecond
          rw [List.inj_on_of_nodup_map h.v6.nodup_keys hfirst hsecond (V6.key_eq_iff.2 hsame)]

/-- There is one sorted table of the same routes. -/
theorem Sorted.eq_of_mem_iff (h : table.Sorted) (hother : other.Sorted)
    (hmem : ∀ route, route ∈ table.routes ↔ route ∈ other.routes) : table = other := by
  have hv4 : table.v4 = other.v4 :=
    h.v4.eq_of_mem_iff hother.v4 fun route => by simpa using hmem (.v4 route)
  have hv6 : table.v6 = other.v6 :=
    h.v6.eq_of_mem_iff hother.v6 fun route => by simpa using hmem (.v6 route)
  cases table
  cases other
  rw [Table.mk.injEq]
  exact ⟨hv4, hv6⟩

end Table

/-! ## The order of keys -/

/-- One IPv4 route comes before another in the order of the numbers that make up their keys. -/
def V4.Precedes (first second : V4) : Prop :=
  first.source.toNat < second.source.toNat ∨
    first.source = second.source ∧
      (first.group.toNat < second.group.toNat ∨
        first.group = second.group ∧ first.length.toNat < second.length.toNat)

/-- One IPv6 route comes before another in the order of the numbers that make up their keys. -/
def V6.Precedes (first second : V6) : Prop :=
  first.source.toNat < second.source.toNat ∨
    first.source = second.source ∧ first.group.toNat < second.group.toNat

/-- IPv4 routes are in the order of their keys as numbers. -/
theorem V4.compare_key_eq_lt_iff {first second : V4} :
    compare first.key second.key = .lt ↔ first.Precedes second := by
  have hsource : compare first.source second.source = .lt ↔
      first.source.toNat < second.source.toNat := Nat.compare_eq_lt
  have hgroup : compare first.group second.group = .lt ↔
      first.group.toNat < second.group.toNat := Nat.compare_eq_lt
  show ((compare first.source second.source).then ((compare first.group second.group).then
    (compare first.length.toNat second.length.toNat))) = .lt ↔ _
  rw [Ordering.then_eq_lt, Ordering.then_eq_lt, hsource, hgroup, Nat.compare_eq_lt,
    LawfulEqOrd.compare_eq_iff_eq, LawfulEqOrd.compare_eq_iff_eq, V4.Precedes]

/-- IPv6 routes are in the order of their keys as numbers. -/
theorem V6.compare_key_eq_lt_iff {first second : V6} :
    compare first.key second.key = .lt ↔ first.Precedes second := by
  have hsource : compare first.source second.source = .lt ↔
      first.source.toNat < second.source.toNat := Nat.compare_eq_lt
  have hgroup : compare first.group second.group = .lt ↔
      first.group.toNat < second.group.toNat := Nat.compare_eq_lt
  show ((compare first.source second.source).then (compare first.group second.group)) = .lt ↔ _
  rw [Ordering.then_eq_lt, hsource, hgroup, LawfulEqOrd.compare_eq_iff_eq, V6.Precedes]

/-! ## Histories -/

/-- Something that is done to a route table. -/
inductive Action where
  | add (route : Route)
  | clear

/-- The table that an action leaves, whether it succeeds or fails. -/
def Table.act (table : Table) : Action → Table
  | .add route => (table.add route).state
  | .clear => table.clear.state

/-- The table after some actions. -/
def Table.after (table : Table) (history : List Action) : Table :=
  history.foldl act table

/-- After the action, the route is not in the table unless it was added by the action: all routes
are removed, or one with its key is added. -/
def Action.Displaces (route : Route) : Action → Prop
  | .add other => other.Fits ∧ other.SameKey route
  | .clear => True

/-- The route was the last with its key to be added, and all routes were removed at no time since.
An attempt to add a route with a slot that the kernel does not have does not count. -/
def LastAdded (history : List Action) (route : Route) : Prop :=
  ∃ before after, history = before ++ .add route :: after ∧ route.Fits ∧
    ∀ later ∈ after, ¬ later.Displaces route

variable {table : Table} {history : List Action} {route : Route}

/-- Nothing was added before the first action. -/
theorem not_lastAdded_nil (route : Route) : ¬ LastAdded [] route := by
  rintro ⟨before, after, heq, -⟩
  simp at heq

/-- After one more action, a route was the last added if that action added it, or if it was the last
before and is not displaced. -/
theorem lastAdded_concat_iff {action : Action} :
    LastAdded (history ++ [action]) route ↔
      (action = .add route ∧ route.Fits) ∨
        (LastAdded history route ∧ ¬ action.Displaces route) := by
  constructor
  · rintro ⟨before, after, heq, hfits, hafter⟩
    rcases List.eq_nil_or_concat after with rfl | ⟨middle, last, rfl⟩
    · have hlast := (List.append_inj' heq rfl).2
      exact .inl ⟨List.singleton_inj.1 hlast, hfits⟩
    · rw [List.concat_eq_append, ← List.cons_append, ← List.append_assoc] at heq
      obtain ⟨hfront, hlast⟩ := List.append_inj' heq rfl
      obtain rfl : action = last := List.singleton_inj.1 hlast
      rw [List.concat_eq_append, List.forall_mem_append] at hafter
      exact .inr ⟨⟨before, middle, hfront, hfits, hafter.1⟩, hafter.2 _ List.mem_cons_self⟩
  · rintro (⟨rfl, hfits⟩ | ⟨⟨before, after, rfl, hfits, hafter⟩, hstays⟩)
    · exact ⟨history, [], rfl, hfits, List.forall_mem_nil _⟩
    · refine ⟨before, after ++ [action], by simp, hfits, ?_⟩
      exact List.forall_mem_append.2 ⟨hafter, List.forall_mem_singleton.2 hstays⟩

namespace Table

/-- An action keeps a table sorted. -/
theorem Sorted.act (h : table.Sorted) (action : Action) : (table.act action).Sorted := by
  cases action with
  | clear => exact sorted_empty
  | add added =>
      obtain ⟨-, what, hrefused⟩ | ⟨-, hput⟩ := add_cases added
      · rwa [Table.act, (hrefused table).2]
      · rw [Table.act, (hput table).2]
        exact h.put added

/-- After an action, the routes are the one that it added and those that it did not displace. -/
theorem Sorted.mem_act_iff (h : table.Sorted) (action : Action) :
    route ∈ (table.act action).routes ↔
      (action = .add route ∧ route.Fits) ∨ (route ∈ table.routes ∧ ¬ action.Displaces route) := by
  cases action with
  | clear =>
      have hnone : route ∉ (table.act .clear).routes := List.not_mem_nil
      simp [hnone, Action.Displaces]
  | add added =>
      obtain ⟨hfits, what, hrefused⟩ | ⟨hfits, hput⟩ := add_cases added
      · -- A route that does not fit neither comes in nor displaces another.
        have hother : ¬ (Action.add added = .add route ∧ route.Fits) := by
          rintro ⟨heq, hroute⟩
          cases heq
          exact hfits hroute
        have hstays : ¬ Action.Displaces route (.add added) := fun h => hfits h.1
        rw [Table.act, (hrefused table).2, or_iff_right hother, and_iff_left hstays]
      · have hadded : (Action.add added = .add route ∧ route.Fits) ↔ route = added := by
          rw [Action.add.injEq, eq_comm]
          exact and_iff_left_of_imp fun heq => heq ▸ hfits
        have hstays : ¬ Action.Displaces route (.add added) ↔ ¬ route.SameKey added := by
          rw [Action.Displaces, and_iff_right hfits]
          exact not_congr ⟨SameKey.symm, SameKey.symm⟩
        rw [Table.act, (hput table).2, h.mem_put_iff, hadded, hstays]

/-- A history keeps a table sorted. -/
theorem Sorted.after (h : table.Sorted) (history : List Action) : (table.after history).Sorted := by
  induction history generalizing table with
  | nil => exact h
  | cons action rest ih => exact ih (h.act action)

/-- The routes after a history are those that were added last. -/
theorem mem_after_iff (history : List Action) :
    route ∈ (empty.after history).routes ↔ LastAdded history route := by
  -- What the last action does depends on the table that it finds: the induction is from the end.
  induction history using List.reverseRecOn with
  | nil => exact iff_of_false List.not_mem_nil (not_lastAdded_nil route)
  | append_singleton history action ih =>
      have hsorted : (empty.after history).Sorted := sorted_empty.after history
      have hstep : empty.after (history ++ [action]) = (empty.after history).act action :=
        List.foldl_concat ..
      rw [hstep, hsorted.mem_act_iff, lastAdded_concat_iff, ih]

/-- There are as many values as elements, if no two elements have one value. -/
theorem ncard_values {Element Value : Type} [DecidableEq Value] {elements : List Element}
    {value : Element → Value} (h : (elements.map value).Nodup) :
    {known | ∃ element ∈ elements, value element = known}.ncard = elements.length := by
  have hvalues : {known | ∃ element ∈ elements, value element = known} =
      ((elements.map value).toFinset : Set Value) := by
    ext known
    simp
  rw [hvalues, Set.ncard_coe_finset, List.toFinset_card_of_nodup h, List.length_map]

/-- As many routes are listed as there are sources and groups, in IPv4 with lengths, that have a
route. -/
theorem Sorted.length_eq_ncard (h : table.Sorted) :
    table.length =
      {known | ∃ route ∈ table.v4, (route.source, route.group, route.length) = known}.ncard +
        {known | ∃ route ∈ table.v6, (route.source, route.group) = known}.ncard := by
  have hv4 : (table.v4.map fun route => (route.source, route.group, route.length)).Nodup := by
    refine List.Nodup.of_map (fun known => (⟨known.1, known.2.1, known.2.2⟩ : V4.Key)) ?_
    rw [List.map_map]
    exact h.v4.nodup_keys
  have hv6 : (table.v6.map fun route => (route.source, route.group)).Nodup := by
    refine List.Nodup.of_map (fun known => (⟨known.1, known.2⟩ : V6.Key)) ?_
    rw [List.map_map]
    exact h.v6.nodup_keys
  rw [ncard_values hv4, ncard_values hv6, length]

end Table

/-- After any history of a route table, its routes are those that were the last to be added with
their keys since all were removed. A route with a slot of 32 or more is refused as invalid, which
changes nothing, and any other is added. There are as many routes as there are keys of both families
that have one. Each family is listed in the order of its keys, strictly ascending as numbers, so the
table depends on nothing but which routes are in it. -/
theorem table_of_history (history : List Action) :
    let table := Table.empty.after history
    (∀ route, route ∈ table.routes ↔ LastAdded history route) ∧
    (∀ route : Route,
      (route.Fits → (table.add route).value = .ok ()) ∧
      (¬ route.Fits → (∃ what, (table.add route).value = .error (.invalid what)) ∧
        (table.add route).state = table)) ∧
    table.length =
      {known | ∃ route, LastAdded history (.v4 route) ∧
        (route.source, route.group, route.length) = known}.ncard +
      {known | ∃ route, LastAdded history (.v6 route) ∧
        (route.source, route.group) = known}.ncard ∧
    table.v4.Pairwise V4.Precedes ∧
    table.v6.Pairwise V6.Precedes ∧
    ∀ others, (∀ route, route ∈ (Table.empty.after others).routes ↔ route ∈ table.routes) →
      Table.empty.after others = table := by
  intro table
  have hsorted : table.Sorted := Table.sorted_empty.after history
  have hmem : ∀ route, route ∈ table.routes ↔ LastAdded history route :=
    fun _ => Table.mem_after_iff history
  refine ⟨hmem, fun route => ?_, ?_, ?_, ?_, fun others hothers => ?_⟩
  · obtain ⟨hfits, what, hrefused⟩ | ⟨hfits, hput⟩ := Table.add_cases route
    · exact ⟨fun h => absurd h hfits, fun _ => ⟨⟨what, (hrefused table).1⟩, (hrefused table).2⟩⟩
    · exact ⟨fun _ => (hput table).1, fun h => absurd hfits h⟩
  · rw [hsorted.length_eq_ncard]
    simp only [← hmem, Table.mem_routes_v4, Table.mem_routes_v6]
  · exact hsorted.v4.imp V4.compare_key_eq_lt_iff.1
  · exact hsorted.v6.imp V6.compare_key_eq_lt_iff.1
  · exact (Table.sorted_empty.after others).eq_of_mem_iff hsorted hothers

/-! ## Networks -/

/-- The network that an IPv4 route is for: the address of its group, and how many leading bits of it
are fixed. -/
def V4.network (route : V4) : Address.V4 × Nat :=
  (route.group, Address.fixedBits route.length)

/-- The routes are for packets from one source to one network. -/
def V4.SameNetwork (first second : V4) : Prop :=
  first.source = second.source ∧ first.network = second.network

instance : DecidableRel V4.SameNetwork :=
  fun _ _ => inferInstanceAs (Decidable (_ ∧ _))

/-- One length is 0 and the other 32, the two lengths of a single group. -/
def SingleLengths (first second : UInt8) : Prop :=
  (first = 0 ∧ second = 32) ∨ (first = 32 ∧ second = 0)

instance : DecidableRel SingleLengths :=
  fun _ _ => inferInstanceAs (Decidable (_ ∨ _))

/-- Two lengths fix as many bits as each other if they are the same, or those of a single group. -/
theorem fixedBits_eq_iff {first second : UInt8} (hfirst : first.toNat ≤ 32)
    (hsecond : second.toNat ≤ 32) :
    Address.fixedBits first = Address.fixedBits second ↔
      first = second ∨ SingleLengths first second := by
  have hbits : ∀ length : UInt8, length.toNat ≤ 32 →
      Address.fixedBits length = if length.toNat = 0 then 32 else length.toNat := by
    intro length hlength
    have hzero : length = 0 ↔ length.toNat = 0 := UInt8.toNat_inj.symm
    have hlong : ¬ 32 < length := by
      rw [UInt8.lt_iff_toNat_lt]
      exact Nat.not_lt.2 hlength
    simp [Address.fixedBits, hzero, hlong]
  rw [hbits first hfirst, hbits second hsecond, SingleLengths]
  simp only [← UInt8.toNat_inj, show (0 : UInt8).toNat = 0 from rfl,
    show (32 : UInt8).toNat = 32 from rfl]
  split <;> split <;> omega

/-- Routes for one source and one network have one key, or the lengths of a single group. -/
theorem V4.SameNetwork.sameKey_or {first second : V4} (h : first.SameNetwork second)
    (hfirst : first.length.toNat ≤ 32) (hsecond : second.length.toNat ≤ 32) :
    SameKey (.v4 first) (.v4 second) ∨ SingleLengths first.length second.length := by
  obtain ⟨hsource, hnetwork⟩ := h
  obtain ⟨hgroup, hbits⟩ := Prod.mk.inj hnetwork
  exact ((fixedBits_eq_iff hfirst hsecond).1 hbits).imp_left fun hlength =>
    ⟨hsource, hgroup, hlength⟩

/-- Routes with the lengths of a single group have different keys. -/
theorem SingleLengths.not_sameKey {first second : V4}
    (h : SingleLengths first.length second.length) : ¬ SameKey (.v4 first) (.v4 second) := by
  rintro ⟨-, -, hlength⟩
  obtain ⟨hfirst, hsecond⟩ | ⟨hfirst, hsecond⟩ := h <;> rw [hfirst, hsecond] at hlength <;>
    exact absurd hlength (by decide)

namespace Table

/-- Of two IPv4 routes for one source and one network, one has the length 0 and the other the length
32. A route that is added takes the place of the one for its source and its network, unless their
lengths are these two. -/
structure NetworksApart (table : Table) : Prop where
  lengths : ∀ first ∈ table.v4, ∀ second ∈ table.v4, first ≠ second → first.SameNetwork second →
    SingleLengths first.length second.length
  replaces : ∀ added : V4, (Route.v4 added).Fits → added.length.toNat ≤ 32 →
    ∀ other : V4, other.SameNetwork added →
      (other ∈ (table.addV4 added).state.v4 ↔
        other = added ∨ other ∈ table.v4 ∧ SingleLengths other.length added.length)

/-- Keys that are different tell networks apart, but for the lengths of a single group. -/
theorem Sorted.networksApart {table : Table} (h : table.Sorted)
    (hlengths : ∀ route ∈ table.v4, route.length.toNat ≤ 32) : table.NetworksApart where
  lengths first hfirst second hsecond hne hsame := by
    refine (hsame.sameKey_or (hlengths first hfirst) (hlengths second hsecond)).resolve_left ?_
    intro hkey
    exact hne (Route.v4.inj (h.eq_of_sameKey (mem_routes_v4.2 hfirst) (mem_routes_v4.2 hsecond)
      hkey))
  replaces added hfits hadded other hsame := by
    have hstate : (table.addV4 added).state = table.put (.v4 added) := by
      obtain ⟨hunfit, -⟩ | ⟨-, hput⟩ := add_cases (.v4 added)
      · exact absurd hfits hunfit
      · exact (hput table).2
    rw [hstate, ← mem_routes_v4, h.mem_put_iff, mem_routes_v4, Route.v4.injEq]
    refine or_congr_right (and_congr_right fun hother => ?_)
    exact ⟨(hsame.sameKey_or (hlengths other hother) hadded).resolve_left,
      SingleLengths.not_sameKey⟩

/-- What is true of all IPv4 routes that are added is true of those in the table. -/
theorem forall_mem_after {holds : V4 → Prop} {history : List Action}
    (h : ∀ route, .add (.v4 route) ∈ history → holds route) :
    ∀ route ∈ (empty.after history).v4, holds route := by
  intro route hroute
  have hlisted : Route.v4 route ∈ (empty.after history).routes := mem_routes_v4.2 hroute
  obtain ⟨before, after, rfl, -⟩ := (mem_after_iff history).1 hlisted
  exact h route (List.mem_append_right before List.mem_cons_self)

end Table

end StaticMulticast.Route

namespace StaticMulticast.Tables

/-- Adding a route of either family changes the routes alone. -/
theorem perform_operation (tables : Tables) (route : Route) :
    tables.perform route.operation = tables.onRoutes (tables.routes.add route) := by
  cases route <;> rfl

end StaticMulticast.Tables
