import Mathlib.Logic.Function.Defs
import StaticMulticast.Address.Basic

/-!
# The order of addresses

Addresses are in the order of numbers, and no two of them have the same number. So their order is a
total one.
-/

namespace StaticMulticast

open Std

section Numbered

variable {Element : Type} {comparison : Element → Element → Ordering} {number : Element → Nat}
  (h : ∀ left right, comparison left right = compare (number left) (number right))
include h

/-- A comparison by numbers is transitive. -/
theorem transCmp_of_number : TransCmp comparison := by
  have heq : comparison = compareOn number := funext fun left => funext (h left)
  rw [heq]
  infer_instance

/-- A comparison by numbers tells elements with different numbers apart. -/
theorem lawfulEqCmp_of_number (hnumber : Function.Injective number) :
    LawfulEqCmp comparison where
  compare_self := (h _ _).trans ReflCmp.compare_self
  eq_of_compare heq := hnumber (LawfulEqOrd.eq_of_compare ((h _ _).symm.trans heq))

end Numbered

namespace Address

/-- Different IPv4 addresses have different numbers. -/
theorem V4.toNat_injective : Function.Injective V4.toNat := by
  rintro ⟨first, second, third, fourth⟩ ⟨first', second', third', fourth'⟩ h
  have hsecond := second.toNat_lt
  have hsecond' := second'.toNat_lt
  have hthird := third.toNat_lt
  have hthird' := third'.toNat_lt
  have hfourth := fourth.toNat_lt
  have hfourth' := fourth'.toNat_lt
  simp only [toNat] at h
  simp only [mk.injEq, ← UInt8.toNat_inj]
  omega

/-- An IPv4 address is a number of 32 bits. -/
theorem V4.toNat_lt (address : V4) : address.toNat < UInt32.size := by
  have hfirst := address.first.toNat_lt
  have hsecond := address.second.toNat_lt
  have hthird := address.third.toNat_lt
  have hfourth := address.fourth.toNat_lt
  simp only [toNat, UInt32.size]
  omega

/-- Different IPv6 addresses have different numbers. -/
theorem V6.toNat_injective : Function.Injective V6.toNat := by
  intro left right h
  have hleft : ∀ group ∈ left.groups, group.toNat < 2 ^ 16 := fun group _ => group.toNat_lt
  have hright : ∀ group ∈ right.groups, group.toNat < 2 ^ 16 := fun group _ => group.toNat_lt
  obtain ⟨first, second, third, fourth, fifth, sixth, seventh, eighth⟩ := left
  obtain ⟨first', second', third', fourth', fifth', sixth', seventh', eighth'⟩ := right
  simp only [groups, List.forall_mem_cons] at hleft hright
  simp only [toNat, groups, List.foldl_cons, List.foldl_nil] at h
  simp only [mk.injEq, ← UInt16.toNat_inj]
  omega

/-- The place of an address among those of both families. -/
def number : Address → Nat
  | .v4 address => address.toNat
  | .v6 address => UInt32.size + address.toNat

/-- Addresses of both families are in the order of their places. -/
theorem compare_eq (left right : Address) :
    compare left right = compare left.number right.number := by
  cases left with
  | v4 left =>
      cases right with
      | v4 right => rfl
      | v6 right =>
          have hlt := left.toNat_lt
          exact (Nat.compare_eq_lt.2 (by simp only [number]; omega)).symm
  | v6 left =>
      cases right with
      | v4 right =>
          have hlt := right.toNat_lt
          exact (Nat.compare_eq_gt.2 (by simp only [number]; omega)).symm
      | v6 right =>
          show compare left.toNat right.toNat =
            compare (UInt32.size + left.toNat) (UInt32.size + right.toNat)
          simp only [compare, compareOfLessAndEq, Nat.add_lt_add_iff_left, Nat.add_left_cancel_iff]

/-- No two addresses have the same place. -/
theorem number_injective : Function.Injective number := by
  intro left right h
  cases left with
  | v4 left =>
      have hlt := left.toNat_lt
      cases right with
      | v4 right => exact congrArg v4 (V4.toNat_injective h)
      | v6 right =>
          simp only [number] at h
          omega
  | v6 left =>
      cases right with
      | v4 right =>
          have hlt := right.toNat_lt
          simp only [number] at h
          omega
      | v6 right => exact congrArg v6 (V6.toNat_injective (Nat.add_left_cancel h))

instance : TransOrd V4 := transCmp_of_number fun _ _ => rfl

instance : LawfulEqOrd V4 := lawfulEqCmp_of_number (fun _ _ => rfl) V4.toNat_injective

instance : TransOrd V6 := transCmp_of_number fun _ _ => rfl

instance : LawfulEqOrd V6 := lawfulEqCmp_of_number (fun _ _ => rfl) V6.toNat_injective

instance : TransOrd Address := transCmp_of_number compare_eq

instance : LawfulEqOrd Address := lawfulEqCmp_of_number compare_eq number_injective

end Address

end StaticMulticast
