import Mathlib.Data.List.Forall2
import Mathlib.Data.List.TakeWhile
import StaticMulticast.Proofs.Interface.Reset
import StaticMulticast.Proofs.Interface.Switching
import StaticMulticast.Proofs.Text.Lossy

/-!
# Learning the interfaces of the system

The system may list a name more than once, and two names that are no UTF-8 may be taken as the same.
Each entry that is listed counts, but a registry has one interface of each name, with the index that
was listed last. All else about an interface that was known before stays as it was, and so do the
slots in use (`Registry.probe_effects`).
-/

namespace StaticMulticast

/-! ## The list of the system -/

namespace Interface.SystemEntry

/-- The entry ends the list that it is in. -/
def isEnd (entry : SystemEntry) : Bool :=
  entry.index == 0 || entry.name.isNone

/-- The name that the entry is taken for, and its index. -/
def named? (entry : SystemEntry) : Option (String × Nat) :=
  entry.name.map fun octets => (decodeName octets, entry.index)

/-- What is listed are the names and indexes of the entries before the one that ends the list. -/
theorem listed_eq (entries : List SystemEntry) :
    listed entries = (entries.takeWhile fun entry => !entry.isEnd).filterMap named? := by
  induction entries using listed.induct with
  | case1 => rfl
  | case2 index rest => simp [listed, isEnd]
  | case3 name rest => simp [listed, isEnd]
  | case4 name index rest ih => simp [listed, isEnd, named?, ih]

/-- The entry lists the name and the index. Its name goes up to the first zero octet, with what is
no UTF-8 in it replaced. -/
def Lists (entry : SystemEntry) (known : String × Nat) : Prop :=
  known.2 = entry.index ∧ ∃ octets, entry.name = some octets ∧
    Text.Utf8.Replaces (octets.takeWhile (· != 0)) known.1.toList

/-- The name of the system is taken up to its first zero octet, with what is no UTF-8 replaced. -/
theorem replaces_decodeName (octets : List UInt8) :
    Text.Utf8.Replaces (octets.takeWhile (· != 0)) (decodeName octets).toList := by
  rw [decodeName, String.toList_ofList]
  exact Text.Utf8.replaces_decodeLossy _

/-- Entries that have names are taken for what they list, each once and in their order. -/
theorem forall₂_named {entries : List SystemEntry} (h : ∀ entry ∈ entries, entry.name.isSome) :
    List.Forall₂ Lists entries (entries.filterMap named?) := by
  induction entries with
  | nil => exact .nil
  | cons entry rest ih =>
      obtain ⟨hentry, hrest⟩ := List.forall_mem_cons.1 h
      obtain ⟨octets, hname⟩ := Option.isSome_iff_exists.1 hentry
      have hnamed : entry.named? = some (decodeName octets, entry.index) := by
        rw [named?, hname, Option.map_some]
      rw [List.filterMap_cons_some hnamed]
      exact .cons ⟨rfl, octets, hname, replaces_decodeName octets⟩ (ih hrest)

/-- Every entry before the one that ends the list has a name. -/
theorem isSome_of_mem_takeWhile {entries : List SystemEntry} :
    ∀ entry ∈ entries.takeWhile fun entry => !entry.isEnd, entry.name.isSome := by
  intro entry hentry
  have hgoes := List.mem_takeWhile_imp hentry
  cases hname : entry.name <;> simp [isEnd, hname] at hgoes ⊢

end Interface.SystemEntry

open Interface (SystemEntry)

/-- The name is listed with the index, and is not listed again after that. -/
def LastListed (listed : List (String × Nat)) (name : String) (index : Nat) : Prop :=
  ∃ before after, listed = before ++ (name, index) :: after ∧ name ∉ after.map Prod.fst

/-- A name is listed last by the first entry if no other lists it, or else where the others list it
last. -/
theorem lastListed_cons_iff {entry : String × Nat} {rest : List (String × Nat)} {name : String}
    {index : Nat} :
    LastListed (entry :: rest) name index ↔
      (entry = (name, index) ∧ name ∉ rest.map Prod.fst) ∨ LastListed rest name index := by
  constructor
  · rintro ⟨before, after, heq, hafter⟩
    cases before with
    | nil =>
        obtain ⟨rfl, rfl⟩ := List.cons.inj heq
        exact .inl ⟨rfl, hafter⟩
    | cons first before => exact .inr ⟨before, after, (List.cons.inj heq).2, hafter⟩
  · rintro (⟨rfl, hrest⟩ | ⟨before, after, rfl, hafter⟩)
    · exact ⟨[], rest, rfl, hrest⟩
    · exact ⟨entry :: before, after, rfl, hafter⟩

/-- A name that is listed last is listed. -/
theorem LastListed.mem {listed : List (String × Nat)} {name : String} {index : Nat}
    (h : LastListed listed name index) : name ∈ listed.map Prod.fst := by
  obtain ⟨before, after, rfl, -⟩ := h
  simp

namespace Registry

variable {registry : Registry} {name other : String} {index : Nat}
  {listed : List (String × Nat)}

/-! ## Making one interface known -/

/-- The interface of the name with another index, as it is known or else as it is first known. -/
def refreshed (registry : Registry) (name : String) (index : Nat) : Interface :=
  { (registry.find? name).getD (.fresh name index) with index }

/-- Making an interface known puts it in its place with the new index. -/
theorem insert_eq_put (registry : Registry) (name : String) (index : Nat) :
    registry.insert name index = registry.put (registry.refreshed name index) := by
  unfold insert refreshed
  cases registry.find? name <;> rfl

/-- An interface keeps its name when it gets an index. -/
@[simp] theorem refreshed_name (registry : Registry) (name : String) (index : Nat) :
    (registry.refreshed name index).name = name := by
  unfold refreshed
  cases hfind : registry.find? name with
  | none => rfl
  | some interface => exact (mem_and_name_of_find? hfind).2

/-- An interface that is made known is found with the new index. -/
theorem Consistent.find?_insert_self (h : registry.Consistent) (name : String) (index : Nat) :
    (registry.insert name index).find? name = some (registry.refreshed name index) := by
  have hfound := Ordered.find?_insert_self h.ordered (registry.refreshed name index)
  rw [refreshed_name] at hfound
  rw [insert_eq_put]
  exact hfound

/-- Making an interface known leaves the others. -/
theorem find?_insert_of_ne (hne : other ≠ name) (index : Nat) :
    (registry.insert name index).find? other = registry.find? other := by
  rw [insert_eq_put]
  exact find?_put_of_ne _ (by rwa [refreshed_name]) _ _

/-- Of an index that an interface got earlier, nothing is left when it gets another. -/
theorem Consistent.refreshed_insert (h : registry.Consistent) (known : String) (earlier : Nat)
    (name : String) (index : Nat) :
    (registry.insert known earlier).refreshed name index = registry.refreshed name index := by
  by_cases hname : name = known
  · subst hname
    rw [refreshed, h.find?_insert_self]
    unfold refreshed
    cases registry.find? name <;> rfl
  · rw [refreshed, refreshed, find?_insert_of_ne hname]

/-! ## Making several interfaces known -/

/-- Making interfaces known leaves those that are not listed. -/
theorem find?_insert_all_of_notMem (hname : name ∉ listed.map Prod.fst) :
    (listed.foldl (fun known entry => known.insert entry.1 entry.2) registry).find? name =
      registry.find? name := by
  induction listed generalizing registry with
  | nil => rfl
  | cons entry rest ih =>
      rw [List.map_cons, List.mem_cons, not_or] at hname
      rw [List.foldl_cons, ih hname.2, find?_insert_of_ne hname.1]

/-- An interface that is listed is found with the index that is listed last, and otherwise as it was
before. -/
theorem Consistent.find?_insert_all (h : registry.Consistent)
    (hlast : LastListed listed name index) :
    (listed.foldl (fun known entry => known.insert entry.1 entry.2) registry).find? name =
      some (registry.refreshed name index) := by
  induction listed generalizing registry with
  | nil => exact absurd hlast.mem List.not_mem_nil
  | cons entry rest ih =>
      rw [List.foldl_cons]
      obtain ⟨rfl, hrest⟩ | hlast := lastListed_cons_iff.1 hlast
      · rw [find?_insert_all_of_notMem hrest, h.find?_insert_self]
      · rw [ih (h.insert entry.1 entry.2) hlast, h.refreshed_insert]

/-- Making interfaces known takes no slot and gives none back. -/
theorem pools_insert_all (registry : Registry) (listed : List (String × Nat)) :
    let learned := listed.foldl (fun known entry => known.insert entry.1 entry.2) registry
    learned.vifs = registry.vifs ∧ learned.mifs = registry.mifs := by
  induction listed generalizing registry with
  | nil => exact ⟨rfl, rfl⟩
  | cons entry rest ih =>
      obtain ⟨hvifs, hmifs⟩ := ih (registry.insert entry.1 entry.2)
      rw [insert_eq_put] at hvifs hmifs
      rw [List.foldl_cons, insert_eq_put]
      exact ⟨hvifs, hmifs⟩

/-! ## Any registry -/

/-- After any history of a registry, a system that cannot list its interfaces makes no difference to
it. Of a list, the entries before the first without a name or with the index zero are taken and
counted, each for the name and the index that it lists. The names that are known are then those that
were and those that are listed, each once. A name that is listed has the index of the last entry for
it; if it was known before, all else about its interface is as it was, and if not, the interface
holds no slot and has the default threshold. Interfaces that are not listed, and the slots in use,
are as they were. -/
theorem probe_effects (ipv6 : Bool) (actions : List Action) :
    let registry := (empty ipv6).after actions
    (∀ fault, (registry.probe (.error fault)).value = .error (.io fault) ∧
      (registry.probe (.error fault)).state = registry) ∧
    ∀ entries : List SystemEntry,
      let taken := entries.takeWhile fun entry => !entry.isEnd
      let listed := taken.filterMap SystemEntry.named?
      let probed := registry.probe (.ok entries)
      probed.value = .ok taken.length ∧
      List.Forall₂ SystemEntry.Lists taken listed ∧
      (∀ name, name ∈ probed.state.interfaces.map Interface.name ↔
        name ∈ registry.interfaces.map Interface.name ∨ name ∈ listed.map Prod.fst) ∧
      (probed.state.interfaces.map Interface.name).Nodup ∧
      (∀ name index, LastListed listed name index →
        (∀ before, registry.find? name = some before →
          probed.state.find? name = some { before with index }) ∧
        (registry.find? name = none →
          probed.state.find? name = some ⟨name, index, none, none, 1⟩)) ∧
      (∀ name, name ∉ listed.map Prod.fst →
        probed.state.find? name = registry.find? name) ∧
      probed.state.vifs = registry.vifs ∧ probed.state.mifs = registry.mifs := by
  intro registry
  have h : registry.Consistent := (consistent_empty ipv6).after actions
  refine ⟨fun fault => ⟨rfl, rfl⟩, fun entries => ?_⟩
  intro taken listed probed
  have hlisted : SystemEntry.listed entries = listed := SystemEntry.listed_eq entries
  have hvalue : probed.value = .ok listed.length := by rw [← hlisted]; rfl
  have hstate : probed.state =
      listed.foldl (fun known entry => known.insert entry.1 entry.2) registry := by
    rw [← hlisted]
    rfl
  have hlater : probed.state.Consistent := h.probe (.ok entries)
  have hlists : List.Forall₂ SystemEntry.Lists taken listed :=
    SystemEntry.forall₂_named SystemEntry.isSome_of_mem_takeWhile
  refine ⟨?_, hlists, fun name => ?_, hlater.ordered.nodup_keys, fun name index hlast => ⟨?_, ?_⟩,
    fun name hname => ?_, ?_⟩
  · rw [hvalue, hlists.length_eq]
  · rw [hstate, mem_names_insert_all h]
  · intro before hbefore
    rw [hstate, h.find?_insert_all hlast, refreshed, hbefore, Option.getD_some]
  · intro hnone
    rw [hstate, h.find?_insert_all hlast, refreshed, hnone]
    rfl
  · rw [hstate, find?_insert_all_of_notMem hname]
  · rw [hstate]
    exact pools_insert_all registry listed

end Registry

end StaticMulticast
