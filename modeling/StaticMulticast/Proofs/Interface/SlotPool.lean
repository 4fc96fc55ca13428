import Mathlib.Data.List.Nodup
import Mathlib.Data.List.Perm.Subperm
import Mathlib.Order.Bounds.Defs
import StaticMulticast.Interface.SlotPool

/-!
# Slots in use and slots held

`SlotPool.Tracks` ties a pool to the slots that its holders hold: the pool lists exactly these, each
once, and all are slots of the table. Taking the lowest free slot and giving one back keep that up.
So the pool is searched in vain exactly if all slots are held.
-/

namespace StaticMulticast.SlotPool

/-- The pool lists exactly the given slots, in ascending order, and all are slots of the table. -/
structure Tracks (pool : SlotPool) (held : List Nat) : Prop where
  ascending : pool.used.Pairwise (· < ·)
  perm : pool.used.Perm held
  below : ∀ slot ∈ held, slot < slotCount

/-- The slot is one of the table, and is not in use. -/
def IsFree (pool : SlotPool) (slot : Nat) : Prop :=
  slot < slotCount ∧ slot ∉ pool.used

variable {pool later : SlotPool} {held : List Nat} {slot : Nat}

/-- An empty pool fits holders that hold nothing. -/
theorem tracks_empty : empty.Tracks [] where
  ascending := List.Pairwise.nil
  perm := List.Perm.refl []
  below := by simp

namespace Tracks

/-- Only which slots are held counts, and not who holds them. -/
theorem of_perm (h : pool.Tracks held) {others : List Nat} (hperm : held.Perm others) :
    pool.Tracks others where
  ascending := h.ascending
  perm := h.perm.trans hperm
  below := fun slot hslot => h.below slot (hperm.mem_iff.2 hslot)

/-- The slots in use are those that are held. -/
theorem mem_used_iff (h : pool.Tracks held) : slot ∈ pool.used ↔ slot ∈ held :=
  h.perm.mem_iff

/-- No slot is held twice. -/
theorem nodup (h : pool.Tracks held) : held.Nodup :=
  h.perm.nodup_iff.1 (h.ascending.imp Nat.ne_of_lt)

/-- There are no other slots than those of the table, and so no more can be held. -/
theorem subperm_range (h : pool.Tracks held) : held.Subperm (List.range slotCount) :=
  h.nodup.subperm fun slot hslot => List.mem_range.2 (h.below slot hslot)

/-- At most as many slots are held as there are. -/
theorem length_le (h : pool.Tracks held) : held.length ≤ slotCount := by
  simpa using h.subperm_range.length_le

end Tracks

/-! ## Taking a slot -/

/-- A slot put in its place is one more slot. -/
theorem perm_place (slot : Nat) (slots : List Nat) : (place slot slots).Perm (slot :: slots) := by
  induction slots with
  | nil => exact List.Perm.refl [slot]
  | cons first rest ih =>
      unfold place
      split
      · exact List.Perm.refl _
      · exact (ih.cons first).trans (List.Perm.swap slot first rest)

/-- A slot that is not there yet is put where it keeps the order. -/
theorem ascending_place {slots : List Nat} (h : slots.Pairwise (· < ·)) (hnew : slot ∉ slots) :
    (place slot slots).Pairwise (· < ·) := by
  induction slots with
  | nil => exact List.pairwise_singleton _ slot
  | cons first rest ih =>
      obtain ⟨hfirst, hrest⟩ := List.pairwise_cons.1 h
      unfold place
      split
      · rename_i hlt
        refine List.pairwise_cons.2 ⟨fun other hother => ?_, h⟩
        rcases List.mem_cons.1 hother with rfl | hother
        · exact hlt
        · exact Nat.lt_trans hlt (hfirst other hother)
      · rename_i hle
        obtain ⟨hne, hout⟩ := not_or.1 (mt List.mem_cons.2 hnew)
        refine List.pairwise_cons.2 ⟨fun other hother => ?_, ih hrest hout⟩
        rcases List.mem_cons.1 ((perm_place slot rest).mem_iff.1 hother) with rfl | hother
        · omega
        · exact hfirst other hother

/-- The lowest free slot is a slot of the table that is not in use. -/
theorem lt_and_notMem_of_lowestFree? (h : pool.lowestFree? = some slot) :
    slot < slotCount ∧ slot ∉ pool.used := by
  refine ⟨List.mem_range.1 (List.mem_of_find?_eq_some h), ?_⟩
  simpa using List.find?_some h

/-- After the lowest free slot is taken, the pool lists it with those held before. -/
theorem Tracks.take? (h : pool.Tracks held)
    (htake : pool.take? = some (slot, later)) : later.Tracks (slot :: held) := by
  obtain ⟨lowest, hlowest, heq⟩ := Option.map_eq_some_iff.1 htake
  cases heq
  obtain ⟨hlt, hnew⟩ := lt_and_notMem_of_lowestFree? hlowest
  refine ⟨ascending_place h.ascending hnew, (perm_place _ _).trans (h.perm.cons _), ?_⟩
  intro other hother
  rcases List.mem_cons.1 hother with rfl | hother
  · exact hlt
  · exact h.below other hother

/-- The slot that is taken is the least of those that are free. -/
theorem isLeast_of_take? (h : pool.take? = some (slot, later)) :
    IsLeast {free | pool.IsFree free} slot := by
  obtain ⟨lowest, hlowest, heq⟩ := Option.map_eq_some_iff.1 h
  cases heq
  obtain ⟨-, -, hbelow⟩ := List.find?_range_eq_some.1 hlowest
  refine ⟨lt_and_notMem_of_lowestFree? hlowest, fun other hother => ?_⟩
  refine Nat.le_of_not_lt fun hlt => hother.2 ?_
  simpa using hbelow other hlt

/-- No slot can be taken exactly if none is free. -/
theorem take?_eq_none_iff : pool.take? = none ↔ ∀ slot, ¬ pool.IsFree slot := by
  rw [take?, Option.map_eq_none_iff, lowestFree?, List.find?_eq_none]
  simp [IsFree]

/-- No slot can be taken exactly if as many are held as there are. -/
theorem Tracks.take?_eq_none_iff_length (h : pool.Tracks held) :
    pool.take? = none ↔ slotCount ≤ held.length := by
  have hnone : pool.take? = none ↔ List.range slotCount ⊆ held := by
    rw [SlotPool.take?_eq_none_iff]
    simp [IsFree, h.mem_used_iff, List.subset_def]
  rw [hnone]
  constructor
  · intro hsubset
    simpa using (List.nodup_range.subperm hsubset).length_le
  · intro hlength
    exact (h.subperm_range.perm_of_length_le (by simpa using hlength)).symm.subset

/-- A slot above all others is put at the end. -/
theorem place_of_forall_lt {slots : List Nat} (h : ∀ other ∈ slots, other < slot) :
    place slot slots = slots ++ [slot] := by
  induction slots with
  | nil => rfl
  | cons first rest ih =>
      obtain ⟨hfirst, hrest⟩ := List.forall_mem_cons.1 h
      rw [place, if_neg (Nat.lt_asymm hfirst), ih hrest, List.cons_append]

/-- While the first slots are in use, the next one is taken. -/
theorem take?_range {count : Nat} (h : count < slotCount) :
    take? ⟨List.range count⟩ = some (count, ⟨List.range (count + 1)⟩) := by
  have hlowest : lowestFree? ⟨List.range count⟩ = some count := by
    refine List.find?_range_eq_some.2 ⟨by simp, List.mem_range.2 h, fun other hother => ?_⟩
    simpa using hother
  have hplace : place count (List.range count) = List.range (count + 1) := by
    rw [place_of_forall_lt fun other hother => List.mem_range.1 hother, List.range_succ]
  rw [take?, hlowest, Option.map_some, hplace]

/-! ## Giving a slot back -/

/-- After a slot is given back, the pool lists the others. -/
theorem Tracks.free (h : pool.Tracks (slot :: held)) : (pool.free slot).Tracks held where
  ascending := h.ascending.filter _
  perm := by
    -- The slot is held once, so the filter takes nothing away from the others.
    have hnodup := List.nodup_cons.1 h.nodup
    have hothers : (slot :: held).filter (· != slot) = held := by
      rw [List.filter_cons_of_neg (by simp)]
      refine List.filter_eq_self.2 fun other hother => ?_
      rw [bne_iff_ne]
      rintro rfl
      exact hnodup.1 hother
    have hperm := h.perm.filter (· != slot)
    rwa [hothers] at hperm
  below := fun other hother => h.below other (List.mem_cons_of_mem _ hother)

/-- A slot that a holder gives back is in use no more. -/
theorem notMem_used_release (pool : SlotPool) : slot ∉ (pool.release (some slot)).used := by
  simp [release, free]

/-- After what a holder holds is given back, the pool lists what the others hold. -/
theorem Tracks.release {own : Option Nat} (h : pool.Tracks (own.toList ++ held)) :
    (pool.release own).Tracks held := by
  cases own with
  | none => exact h
  | some slot => exact h.free

end StaticMulticast.SlotPool
