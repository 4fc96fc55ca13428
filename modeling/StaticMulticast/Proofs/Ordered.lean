import Mathlib.Data.List.Sort
import StaticMulticast.Ordered

/-!
# Collections in the order of a key

What looking up and inserting do to a list whose keys ascend strictly. `insert_anatomy` says it
once: such a list falls into the elements below a key, the one with the key if there is one, and
those above, and inserting changes the middle alone. Both commute with changes that leave the keys
alone, and with leaving out elements that do not pass a test. Two insertions under different keys
commute with each other.
-/

namespace StaticMulticast.Ordered

open Std

/-! ## Changes that leave the keys alone -/

section Map

variable {Element Other Key : Type} [Ord Key] {key : Element → Key} {otherKey : Other → Key}
  {change : Element → Other} (hkey : ∀ element, otherKey (change element) = key element)
include hkey

/-- A change that leaves the keys alone can come before looking up. -/
theorem find?_map (wanted : Key) (elements : List Element) :
    find? otherKey wanted (elements.map change) = (find? key wanted elements).map change := by
  simp only [find?, List.find?_map, Function.comp_def, hkey]

/-- A change that leaves the keys alone can come before inserting. -/
theorem map_insert (element : Element) (elements : List Element) :
    (insert key element elements).map change =
      insert otherKey (change element) (elements.map change) := by
  induction elements with
  | nil => rfl
  | cons first rest ih =>
      simp only [insert, List.map_cons, hkey]
      cases compare (key element) (key first) with
      | lt | eq => rfl
      | gt => exact congrArg (change first :: ·) ih

end Map

/-! ## Ascending keys -/

variable {Element Key : Type} [Ord Key]

/-- The keys ascend strictly. -/
def Ascending (key : Element → Key) (elements : List Element) : Prop :=
  elements.Pairwise fun first second => compare (key first) (key second) = .lt

variable {key : Element → Key} {elements : List Element}

/-- An element that is found is in the list, and has the key. -/
theorem mem_and_key_of_find? [LawfulEqOrd Key] {wanted : Key} {found : Element}
    (h : find? key wanted elements = some found) : found ∈ elements ∧ key found = wanted := by
  refine ⟨List.mem_of_find?_eq_some h, ?_⟩
  have htest := List.find?_some h
  exact LawfulEqOrd.eq_of_compare (by simpa using htest)

/-- A key below all others is not found. -/
theorem find?_eq_none_of_forall_lt [OrientedOrd Key] {wanted : Key}
    (h : ∀ element ∈ elements, compare wanted (key element) = .lt) :
    find? key wanted elements = none := by
  refine List.find?_eq_none.2 fun element hmem => ?_
  have hgt := OrientedCmp.gt_of_lt (h element hmem)
  simp [hgt]

/-- Inserting adds no other element. -/
theorem mem_of_mem_insert {element other : Element} (h : other ∈ insert key element elements) :
    other = element ∨ other ∈ elements := by
  induction elements with
  | nil => exact .inl (List.mem_singleton.1 h)
  | cons first rest ih =>
      unfold insert at h
      split at h
      · exact List.mem_cons.1 h
      · exact (List.mem_cons.1 h).imp_right (List.mem_cons_of_mem _)
      · rcases List.mem_cons.1 h with rfl | h
        · exact .inr List.mem_cons_self
        · exact (ih h).imp_right (List.mem_cons_of_mem _)

/-- What is true of an element and of all others is true after inserting it. -/
theorem forall_mem_insert {holds : Element → Prop} {element : Element} (helement : holds element)
    (h : ∀ other ∈ elements, holds other) : ∀ other ∈ insert key element elements, holds other := by
  intro other hother
  rcases mem_of_mem_insert hother with rfl | hother
  · exact helement
  · exact h other hother

/-- Elements ascend if each is below the next. -/
theorem ascending_of_isChain [TransOrd Key]
    (h : elements.IsChain fun one next => compare (key one) (key next) = .lt) :
    Ascending key elements :=
  haveI : Trans (fun one next : Element => compare (key one) (key next) = .lt)
      (fun one next => compare (key one) (key next) = .lt)
      fun one next => compare (key one) (key next) = .lt :=
    ⟨TransCmp.lt_trans⟩
  List.isChain_iff_pairwise.1 h

/-- An element whose key is below all others comes first. -/
theorem insert_of_forall_lt {element : Element}
    (h : ∀ other ∈ elements, compare (key element) (key other) = .lt) :
    insert key element elements = element :: elements := by
  cases elements with
  | nil => rfl
  | cons first rest => simp only [insert, h first List.mem_cons_self]

/-- An element is found by its key. -/
theorem find?_key [LawfulEqOrd Key] (hascending : Ascending key elements) {element : Element}
    (hmem : element ∈ elements) : find? key (key element) elements = some element := by
  induction elements with
  | nil => cases hmem
  | cons first rest ih =>
      obtain ⟨hfirst, hrest⟩ := List.pairwise_cons.1 hascending
      rcases List.mem_cons.1 hmem with rfl | hmem
      · simp [find?]
      · simpa [find?, hfirst element hmem] using ih hrest hmem

/-- No key comes twice. -/
theorem Ascending.nodup_keys [ReflOrd Key] (h : Ascending key elements) :
    (elements.map key).Nodup := by
  refine List.pairwise_map.2 (h.imp fun {first second} hlt heq => ?_)
  have hself : compare (key second) (key second) = .eq := ReflCmp.compare_self
  rw [heq, hself] at hlt
  cases hlt

/-- There is one list with ascending keys of the same elements. -/
theorem Ascending.eq_of_mem_iff [OrientedOrd Key] {others : List Element}
    (h : Ascending key elements) (hothers : Ascending key others)
    (hmem : ∀ element, element ∈ elements ↔ element ∈ others) : elements = others := by
  let below : Element → Element → Prop := fun first second => compare (key first) (key second) = .lt
  have hasymm : ∀ first second, below first second → ¬ below second first := by
    intro first second hlt hgt
    have heq := (OrientedCmp.gt_of_lt hlt).symm.trans hgt
    cases heq
  have hirrefl : Std.Irrefl below := ⟨fun element hlt => hasymm element element hlt hlt⟩
  have hantisymm : Std.Antisymm below :=
    ⟨fun first second hlt hgt => absurd hgt (hasymm first second hlt)⟩
  exact List.Pairwise.eq_of_mem_iff h hothers hmem

/-- In an ascending list, the place of an element is where one with its key is. -/
theorem insert_middle [TransOrd Key] {front back : List Element} {old : Element}
    (hascending : Ascending key (front ++ old :: back)) (element : Element)
    (hkey : key element = key old) :
    insert key element (front ++ old :: back) = front ++ element :: back := by
  induction front with
  | nil => simp [insert, hkey, ReflCmp.compare_self]
  | cons first front ih =>
      obtain ⟨hfirst, hrest⟩ := List.pairwise_cons.1 hascending
      have hlt : compare (key first) (key old) = .lt := hfirst old (by simp)
      have hgt : compare (key element) (key first) = .gt := hkey ▸ OrientedCmp.gt_of_lt hlt
      simp only [List.cons_append, insert, hgt, ih hrest]

/-! ## Tests of the elements -/

section Filter

variable {keeps : Element → Bool}

/-- What passes a test is found also among those that pass it. -/
theorem find?_filter [LawfulEqOrd Key] {wanted : Key}
    (hwanted : ∀ element, key element = wanted → keeps element = true) :
    find? key wanted (elements.filter keeps) = find? key wanted elements := by
  have htest : ∀ element, compare (key element) wanted = .eq → keeps element = true :=
    fun element heq => hwanted element (LawfulEqOrd.eq_of_compare heq)
  simp only [find?, List.find?_filter, beq_iff_eq]
  congr 1
  funext element
  by_cases heq : compare (key element) wanted = .eq <;> simp [heq, htest]

/-- An element that does not pass a test is not missed among those that do, and neither is one that
it takes the place of. -/
theorem filter_insert_of_neg [LawfulEqOrd Key] {element : Element}
    (helement : ∀ other, key other = key element → keeps other = false) :
    (insert key element elements).filter keeps = elements.filter keeps := by
  have hout := helement element rfl
  induction elements with
  | nil => simp [insert, hout]
  | cons first rest ih =>
      cases hcompare : compare (key element) (key first) with
      | lt => simp [insert, hcompare, hout]
      | eq =>
          have hfirst := helement first (LawfulEqOrd.eq_of_compare hcompare).symm
          simp [insert, hcompare, hout, hfirst]
      | gt => simp [insert, hcompare, List.filter_cons, ih]

/-- An element that passes a test can be inserted among those that pass it. -/
theorem filter_insert_of_pos [TransOrd Key] (hascending : Ascending key elements)
    {element : Element} (helement : keeps element = true) :
    (insert key element elements).filter keeps = insert key element (elements.filter keeps) := by
  induction elements with
  | nil => exact List.filter_cons_of_pos helement
  | cons first rest ih =>
      obtain ⟨hfirst, hrest⟩ := List.pairwise_cons.1 hascending
      -- Without the first element, those that pass the test begin somewhere above it.
      have hfront : compare (key element) (key first) ≠ .gt →
          insert key element (rest.filter keeps) = element :: rest.filter keeps := by
        intro hle
        refine insert_of_forall_lt fun other hother => ?_
        exact TransCmp.lt_of_isLE_of_lt (Ordering.ne_gt_iff_isLE.1 hle)
          (hfirst other (List.mem_filter.1 hother).1)
      cases hcompare : compare (key element) (key first) with
      | lt | eq =>
          have hfront := hfront (by simp [hcompare])
          cases hkept : keeps first <;> simp [insert, hcompare, helement, hkept, hfront]
      | gt =>
          cases hkept : keeps first <;> simp [insert, hcompare, hkept, ih hrest]

/-- Inserting an element does not change what is found under other keys. -/
theorem find?_insert_of_ne [LawfulEqOrd Key] {element : Element} {wanted : Key}
    (hne : key element ≠ wanted) :
    find? key wanted (insert key element elements) = find? key wanted elements := by
  let keeps : Element → Bool := fun other => compare (key other) wanted == .eq
  have hwanted : ∀ other, key other = wanted → keeps other = true := by
    rintro other rfl
    simp [keeps]
  have helement : ∀ other, key other = key element → keeps other = false := by
    intro other hother
    simpa [keeps, hother] using hne
  rw [← find?_filter hwanted, filter_insert_of_neg helement, find?_filter hwanted]

end Filter

/-! ## Where an element comes -/

variable [TransOrd Key] [LawfulEqOrd Key]

/-- An ascending list falls into the elements below the key of `element`, the one with that key, and
those above. Inserting `element` changes the middle alone. -/
theorem insert_anatomy (hascending : Ascending key elements) (element : Element) :
    ∃ below above : List Element,
      elements = below ++ (find? key (key element) elements).toList ++ above ∧
      insert key element elements = below ++ element :: above ∧
      (∀ other ∈ below, compare (key other) (key element) = .lt) ∧
      ∀ other ∈ above, compare (key element) (key other) = .lt := by
  induction elements with
  | nil => exact ⟨[], [], rfl, rfl, by simp, by simp⟩
  | cons first rest ih =>
      obtain ⟨hfirst, hrest⟩ := List.pairwise_cons.1 hascending
      -- Inserting and looking up go the same way, by this comparison.
      cases hcompare : compare (key element) (key first) with
      | lt =>
          have habove : ∀ other ∈ first :: rest, compare (key element) (key other) = .lt := by
            intro other hother
            rcases List.mem_cons.1 hother with rfl | hother
            · exact hcompare
            · exact TransCmp.lt_trans hcompare (hfirst other hother)
          refine ⟨[], first :: rest, ?_, ?_, by simp, habove⟩
          · simp [find?_eq_none_of_forall_lt habove]
          · simp [insert, hcompare]
      | eq =>
          have hkey : key element = key first := LawfulEqOrd.eq_of_compare hcompare
          refine ⟨[], rest, ?_, ?_, by simp, ?_⟩
          · simp [find?, hkey]
          · simp [insert, hcompare]
          · rw [hkey]
            exact hfirst
      | gt =>
          have hlt : compare (key first) (key element) = .lt := OrientedCmp.lt_of_gt hcompare
          obtain ⟨below, above, helements, hinsert, hbelow, habove⟩ := ih hrest
          refine ⟨first :: below, above, ?_, ?_, ?_, habove⟩
          · have hfind : find? key (key element) (first :: rest) =
                find? key (key element) rest := by
              simp [find?, hlt]
            rw [hfind, List.cons_append, List.cons_append, ← helements]
          · simp [insert, hcompare, hinsert]
          · intro other hother
            rcases List.mem_cons.1 hother with rfl | hother
            · exact hlt
            · exact hbelow other hother

/-- Inserting keeps the order. -/
theorem ascending_insert (hascending : Ascending key elements) (element : Element) :
    Ascending key (insert key element elements) := by
  obtain ⟨below, above, helements, hinsert, hbelow, habove⟩ := insert_anatomy hascending element
  unfold Ascending at hascending ⊢
  rw [helements] at hascending
  rw [hinsert]
  have houter : (below ++ above).Pairwise fun first second =>
      compare (key first) (key second) = .lt :=
    hascending.sublist (by simp)
  rw [List.pairwise_append] at houter
  obtain ⟨hlow, hhigh, hbetween⟩ := houter
  refine List.pairwise_append.2 ⟨hlow, List.pairwise_cons.2 ⟨habove, hhigh⟩, ?_⟩
  intro first hfirst second hsecond
  rcases List.mem_cons.1 hsecond with rfl | hsecond
  · exact hbelow first hfirst
  · exact hbetween first hfirst second hsecond

/-- Of two elements with different keys, either can be inserted first. -/
theorem insert_comm {first second : Element} (hne : key first ≠ key second)
    (elements : List Element) :
    insert key first (insert key second elements) =
      insert key second (insert key first elements) := by
  -- It is enough to insert an element above another, or before that other.
  have hsorted : ∀ low high : Element, compare (key low) (key high) = .lt →
      insert key low (insert key high elements) = insert key high (insert key low elements) := by
    intro low high hlt
    have hgt : compare (key high) (key low) = .gt := OrientedCmp.gt_of_lt hlt
    induction elements with
    | nil => simp only [insert, hlt, hgt]
    | cons middle rest ih =>
        cases hhigh : compare (key high) (key middle) with
        | lt =>
            have hlow : compare (key low) (key middle) = .lt := TransCmp.lt_trans hlt hhigh
            simp only [insert, hhigh, hlow, hlt, hgt]
        | eq =>
            have hlow : compare (key low) (key middle) = .lt := TransCmp.lt_of_lt_of_eq hlt hhigh
            simp only [insert, hhigh, hlow, hlt, hgt]
        | gt =>
            cases hlow : compare (key low) (key middle) with
            | lt | eq => simp only [insert, hhigh, hlow, hgt]
            | gt => simp only [insert, hhigh, hlow, ih]
  cases hcompare : compare (key first) (key second) with
  | lt => exact hsorted first second hcompare
  | eq => exact absurd (LawfulEqOrd.eq_of_compare hcompare) hne
  | gt => exact (hsorted second first (OrientedCmp.lt_of_gt hcompare)).symm

/-- Inserting an element with a new key adds it. -/
theorem perm_insert_of_find?_eq_none (hascending : Ascending key elements) {element : Element}
    (h : find? key (key element) elements = none) :
    (insert key element elements).Perm (element :: elements) := by
  obtain ⟨below, above, helements, hinsert, -⟩ := insert_anatomy hascending element
  rw [h, Option.toList_none, List.append_nil] at helements
  rw [hinsert, helements]
  exact List.perm_middle

/-- Inserting an element with the key of another puts it in the place of the other. -/
theorem exists_insert_of_find?_eq_some (hascending : Ascending key elements)
    {element old : Element} (h : find? key (key element) elements = some old) :
    ∃ below above : List Element,
      elements = below ++ old :: above ∧
        insert key element elements = below ++ element :: above := by
  obtain ⟨below, above, helements, hinsert, -⟩ := insert_anatomy hascending element
  rw [h] at helements
  exact ⟨below, above, by simpa using helements, hinsert⟩

/-- An element that is inserted is found. -/
theorem find?_insert_self (hascending : Ascending key elements) (element : Element) :
    find? key (key element) (insert key element elements) = some element := by
  refine find?_key (ascending_insert hascending element) ?_
  obtain ⟨below, above, -, hinsert, -⟩ := insert_anatomy hascending element
  rw [hinsert]
  exact List.mem_append_right below List.mem_cons_self

/-- After an element is inserted, the others are those that were there under other keys. -/
theorem mem_insert_iff (hascending : Ascending key elements) {element other : Element} :
    other ∈ insert key element elements ↔
      other = element ∨ other ∈ elements ∧ key other ≠ key element := by
  obtain ⟨below, above, helements, hinsert, hbelow, habove⟩ := insert_anatomy hascending element
  have hne : ∀ other, other ∈ below ∨ other ∈ above → key other ≠ key element := by
    rintro other hmem heq
    rcases hmem with hmem | hmem
    · simpa [heq] using hbelow other hmem
    · simpa [heq] using habove other hmem
  rw [hinsert, List.mem_append, List.mem_cons]
  constructor
  · rw [helements, List.mem_append, List.mem_append]
    rintro (h | rfl | h)
    · exact .inr ⟨.inl (.inl h), hne other (.inl h)⟩
    · exact .inl rfl
    · exact .inr ⟨.inr h, hne other (.inr h)⟩
  · rintro (rfl | ⟨hmem, hother⟩)
    · exact .inr (.inl rfl)
    · rw [helements, List.mem_append, List.mem_append] at hmem
      rcases hmem with (h | h) | h
      · exact .inl h
      · exact absurd (mem_and_key_of_find? (Option.mem_toList.1 h)).2 hother
      · exact .inr (.inr h)

end StaticMulticast.Ordered
