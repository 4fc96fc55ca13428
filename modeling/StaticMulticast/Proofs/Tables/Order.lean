import StaticMulticast.Proofs.Address.Order
import StaticMulticast.Proofs.Ordered
import StaticMulticast.Proofs.Tables.Operation

/-!
# The order of routes and memberships

The keys of routes and the memberships are compared part by part, each part in a total order. So
their orders are total ones too, and the tables list routes and memberships in these orders
(`Tables.Sorted`), whatever operations are carried out.
-/

namespace StaticMulticast

open Std

/-! ## Routes -/

namespace Route

instance : TransOrd V4.Key :=
  inferInstanceAs (TransCmp (compareLex (compareOn V4.Key.source)
    (compareLex (compareOn V4.Key.group) (compareOn fun key : V4.Key => key.length.toNat))))

instance : LawfulEqOrd V4.Key where
  compare_self := ReflCmp.compare_self
  eq_of_compare {left right} h := by
    obtain ⟨hsource, h⟩ := Ordering.then_eq_eq.1 h
    obtain ⟨hgroup, hlength⟩ := Ordering.then_eq_eq.1 h
    cases left
    cases right
    rw [V4.Key.mk.injEq]
    exact ⟨LawfulEqOrd.eq_of_compare hsource, LawfulEqOrd.eq_of_compare hgroup,
      UInt8.toNat_inj.1 (LawfulEqOrd.eq_of_compare hlength)⟩

instance : TransOrd V6.Key :=
  inferInstanceAs (TransCmp (compareLex (compareOn V6.Key.source) (compareOn V6.Key.group)))

instance : LawfulEqOrd V6.Key where
  compare_self := ReflCmp.compare_self
  eq_of_compare {left right} h := by
    obtain ⟨hsource, hgroup⟩ := Ordering.then_eq_eq.1 h
    cases left
    cases right
    rw [V6.Key.mk.injEq]
    exact ⟨LawfulEqOrd.eq_of_compare hsource, LawfulEqOrd.eq_of_compare hgroup⟩

end Route

/-! ## Memberships -/

namespace Membership

/-- The place of a source among all sources. -/
def sourceNumber : Option Address → Nat
  | none => 0
  | some source => source.number + 1

/-- Sources are in the order of their places. -/
theorem compareSource_eq (left right : Option Address) :
    compareSource left right = compare (sourceNumber left) (sourceNumber right) := by
  cases left with
  | none =>
      cases right with
      | none => rfl
      | some right => exact (Nat.compare_eq_lt.2 (Nat.zero_lt_succ _)).symm
  | some left =>
      cases right with
      | none => exact (Nat.compare_eq_gt.2 (Nat.zero_lt_succ _)).symm
      | some right =>
          show compare left right = compare (left.number + 1) (right.number + 1)
          rw [Address.compare_eq]
          simp only [compare, compareOfLessAndEq, Nat.add_lt_add_iff_right,
            Nat.add_right_cancel_iff]

/-- No two sources have the same place. -/
theorem sourceNumber_injective : Function.Injective sourceNumber := by
  intro left right h
  cases left with
  | none =>
      cases right with
      | none => rfl
      | some right => cases h
  | some left =>
      cases right with
      | none => cases h
      | some right => exact congrArg some (Address.number_injective (Nat.succ.inj h))

instance : LawfulEqCmp compareSource :=
  lawfulEqCmp_of_number compareSource_eq sourceNumber_injective

instance : TransOrd Membership :=
  have : TransCmp fun left right : Membership => compareSource left.source right.source :=
    transCmp_of_number fun left right => compareSource_eq left.source right.source
  inferInstanceAs (TransCmp (compareLex (compareOn interface)
    (compareLex (fun left right => compareSource left.source right.source) (compareOn group))))

instance : LawfulEqOrd Membership where
  compare_self := ReflCmp.compare_self
  eq_of_compare {left right} h := by
    obtain ⟨hinterface, h⟩ := Ordering.then_eq_eq.1 h
    obtain ⟨hsource, hgroup⟩ := Ordering.then_eq_eq.1 h
    cases left
    cases right
    rw [mk.injEq]
    exact ⟨LawfulEqOrd.eq_of_compare hinterface, LawfulEqCmp.eq_of_compare hsource,
      LawfulEqOrd.eq_of_compare hgroup⟩

end Membership

/-! ## Tables -/

namespace Tables

/-- The routes and the memberships are listed in their orders, each key once. -/
structure Sorted (tables : Tables) : Prop where
  v4 : Ordered.Ascending Route.V4.key tables.routes.v4
  v6 : Ordered.Ascending Route.V6.key tables.routes.v6
  joined : Ordered.Ascending id tables.groups.joined

/-- Empty tables are sorted. -/
theorem sorted_initial (registry : Registry) : (initial registry).Sorted :=
  ⟨.nil, .nil, .nil⟩

/-- Every operation keeps the tables sorted. -/
theorem Sorted.perform {tables : Tables} (h : tables.Sorted)
    (operation : Configuration.Operation) : (tables.perform operation).state.Sorted := by
  cases operation with
  | enable | disable => exact ⟨h.v4, h.v6, h.joined⟩
  | join membership =>
      rw [perform_join_state]
      obtain ⟨_, -, heq⟩ | ⟨-, heq⟩ := tables.groups.join_cases membership
      · rw [heq]
        exact h
      · rw [heq]
        exact ⟨h.v4, h.v6, Ordered.ascending_insert h.joined membership⟩
  | addV4 route =>
      rw [perform_addV4_state]
      obtain ⟨_, -, heq⟩ | ⟨-, heq⟩ := tables.routes.addV4_cases route
      · rw [heq]
        exact h
      · rw [heq]
        exact ⟨Ordered.ascending_insert h.v4 route, h.v6, h.joined⟩
  | addV6 route =>
      rw [perform_addV6_state]
      obtain ⟨_, -, heq⟩ | ⟨-, heq⟩ := tables.routes.addV6_cases route
      · rw [heq]
        exact h
      · rw [heq]
        exact ⟨h.v4, Ordered.ascending_insert h.v6 route, h.joined⟩

end Tables

end StaticMulticast
