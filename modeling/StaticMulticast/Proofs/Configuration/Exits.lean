import Mathlib.Data.List.Induction
import StaticMulticast.Configuration.Operation
import StaticMulticast.Proofs.Configuration.Word

/-!
# Ways out

The ways out that names lead to have different slots, each is that of one of the names, and there
are no more of them than names. Any ways out with different slots can be named.

Going through the names one after the other, a name adds its way out unless an earlier name holds
the slot of that already (`Operation.Collects`). What is remarked on a name does not depend on the
others (`Operation.Warned`).
-/

namespace StaticMulticast.Configuration

open Address (Family)

/-- The interface of the name holds the slot. -/
def Holds (lookup : Lookup) (family : Family) (name : String) (slot : Nat) : Prop :=
  (lookup name).bind (·.slot family) = some slot

instance (lookup : Lookup) (family : Family) (name : String) (slot : Nat) :
    Decidable (Holds lookup family name slot) :=
  inferInstanceAs (Decidable (_ = _))

/-- A name has one slot. -/
theorem Holds.unique {lookup : Lookup} {family : Family} {name : String} {slot other : Nat}
    (h : Holds lookup family name slot) (hother : Holds lookup family name other) : slot = other :=
  Option.some.inj (h.symm.trans hother)

namespace Operation

variable {lookup : Lookup} {family : Family} {name : String}

/-- The interface of some token holds the slot. -/
def HoldsSlot (lookup : Lookup) (family : Family) (slot : Nat) : Prop :=
  ∃ name forwarding, IsToken name ∧ lookup name = some forwarding ∧
    forwarding.slot family = some slot

/-- The interface of some token is the way out: it holds its slot, with its threshold. -/
def LeadsTo (lookup : Lookup) (family : Family) (exit : Route.Exit) : Prop :=
  ∃ name forwarding, IsToken name ∧ lookup name = some forwarding ∧
    forwarding.slot family = some exit.slot ∧ forwarding.threshold = exit.threshold

/-- The ways out that a route can have. -/
structure ValidOutbound (lookup : Lookup) (family : Family) (outbound : List Route.Exit) :
    Prop where
  one_le : 1 ≤ outbound.length
  le_most : outbound.length ≤ 32
  nodup : (outbound.map Route.Exit.slot).Nodup
  leadsTo : ∀ exit ∈ outbound, LeadsTo lookup family exit

/-- A name leads to a way out exactly if its interface is that. -/
theorem exit?_eq_some_iff {exit : Route.Exit} :
    exit? lookup family name = some exit ↔
      ∃ forwarding, lookup name = some forwarding ∧ forwarding.slot family = some exit.slot ∧
        forwarding.threshold = exit.threshold := by
  constructor
  · intro h
    obtain ⟨forwarding, hlookup, h⟩ := Option.bind_eq_some_iff.1 h
    obtain ⟨slot, hslot, rfl⟩ := Option.map_eq_some_iff.1 h
    exact ⟨forwarding, hlookup, hslot, rfl⟩
  · rintro ⟨forwarding, hlookup, hslot, hthreshold⟩
    simp only [exit?, hlookup, Option.bind_some, hslot, Option.map_some, hthreshold]

/-- A name leads to a way out exactly if its interface has the slot. -/
theorem holds_iff_exit? {slot : Nat} :
    Holds lookup family name slot ↔
      ∃ exit, exit? lookup family name = some exit ∧ exit.slot = slot := by
  unfold Holds exit?
  cases lookup name with
  | none => simp
  | some forwarding => cases hslot : forwarding.slot family <;> simp [hslot]

/-- A name leads to no way out exactly if its interface has no slot. -/
theorem exit?_eq_none_iff :
    exit? lookup family name = none ↔ ¬ ∃ slot, Holds lookup family name slot := by
  cases hexit : exit? lookup family name with
  | none => simp [holds_iff_exit?, hexit]
  | some exit => simp [holds_iff_exit?, hexit]

/-- A way out is there for a token exactly if the token names it. -/
theorem leadsTo_iff {exit : Route.Exit} :
    LeadsTo lookup family exit ↔ ∃ name, IsToken name ∧ exit? lookup family name = some exit := by
  constructor
  · rintro ⟨name, forwarding, htoken, h⟩
    exact ⟨name, htoken, exit?_eq_some_iff.2 ⟨forwarding, h⟩⟩
  · rintro ⟨name, htoken, h⟩
    obtain ⟨forwarding, h⟩ := exit?_eq_some_iff.1 h
    exact ⟨name, forwarding, htoken, h⟩

/-! ## Different slots -/

/-- What is kept was there before. -/
theorem sublist_distinct (exits : List Route.Exit) : (distinct exits).Sublist exits := by
  induction exits with
  | nil => exact .slnil
  | cons exit exits ih => exact (List.filter_sublist.trans ih).cons_cons exit

/-- No slot is kept twice. -/
theorem nodup_distinct (exits : List Route.Exit) :
    ((distinct exits).map Route.Exit.slot).Nodup := by
  induction exits with
  | nil => exact .nil
  | cons exit exits ih =>
      refine List.nodup_cons.2 ⟨fun hmem => ?_, ?_⟩
      · obtain ⟨other, hother, hslot⟩ := List.mem_map.1 hmem
        have hne := (List.mem_filter.1 hother).2
        simp [hslot] at hne
      · exact ih.sublist (List.filter_sublist.map _)

/-- Ways out with different slots are all kept. -/
theorem distinct_eq_self {exits : List Route.Exit} (h : (exits.map Route.Exit.slot).Nodup) :
    distinct exits = exits := by
  induction exits with
  | nil => rfl
  | cons exit exits ih =>
      obtain ⟨hnew, hrest⟩ := List.nodup_cons.1 h
      -- The slot of the first is none of the others, so its filter keeps them all.
      rw [distinct, ih hrest, List.filter_eq_self.2 fun other hother => ?_]
      refine bne_iff_ne.2 fun hslot => hnew ?_
      exact hslot ▸ List.mem_map_of_mem hother

/-- The slots are those there were before. -/
theorem mem_slots_distinct {exits : List Route.Exit} {slot : Nat} :
    slot ∈ (distinct exits).map Route.Exit.slot ↔ slot ∈ exits.map Route.Exit.slot := by
  induction exits with
  | nil => rfl
  | cons exit exits ih =>
      rw [List.map_cons, List.mem_cons, ← ih, distinct, List.map_cons, List.mem_cons]
      by_cases hslot : slot = exit.slot
      · simp only [hslot, true_or]
      · -- Only the slot of the first is taken from the others.
        simp only [hslot, false_or, List.mem_map, List.mem_filter]
        refine exists_congr fun other => and_congr_left fun heq => and_iff_left ?_
        exact bne_iff_ne.2 fun h => hslot (heq.symm.trans h)

/-- A last way out with a slot of its own is kept. -/
theorem distinct_concat_of_notMem {exits : List Route.Exit} {exit : Route.Exit}
    (h : exit.slot ∉ exits.map Route.Exit.slot) :
    distinct (exits ++ [exit]) = distinct exits ++ [exit] := by
  induction exits with
  | nil => rfl
  | cons first exits ih =>
      obtain ⟨hfirst, hrest⟩ := not_or.1 (mt List.mem_cons.2 h)
      have hkept : [exit].filter (fun other => other.slot != first.slot) = [exit] :=
        List.filter_cons_of_pos (bne_iff_ne.2 hfirst)
      rw [List.cons_append, distinct, ih hrest, List.filter_append, hkept, distinct,
        List.cons_append]

/-- A last way out with the slot of an earlier one is not kept. -/
theorem distinct_concat_of_mem {exits : List Route.Exit} {exit : Route.Exit}
    (h : exit.slot ∈ exits.map Route.Exit.slot) :
    distinct (exits ++ [exit]) = distinct exits := by
  induction exits with
  | nil => exact absurd h List.not_mem_nil
  | cons first exits ih =>
      rw [List.cons_append, distinct, distinct]
      by_cases hrest : exit.slot ∈ exits.map Route.Exit.slot
      · rw [ih hrest]
      · have hfirst : exit.slot = first.slot := (List.mem_cons.1 h).resolve_right hrest
        have hdropped : [exit].filter (fun other => other.slot != first.slot) = [] :=
          List.filter_cons_of_neg fun hne => bne_iff_ne.1 hne hfirst
        rw [distinct_concat_of_notMem hrest, List.filter_append, hdropped, List.append_nil]

/-! ## Names -/

/-- The slots of the ways out are those that the names hold. -/
theorem mem_slots_filterMap {names : List String} {slot : Nat} :
    slot ∈ (names.filterMap (exit? lookup family)).map Route.Exit.slot ↔
      ∃ name ∈ names, Holds lookup family name slot := by
  simp only [List.mem_map, List.mem_filterMap, holds_iff_exit?]
  constructor
  · rintro ⟨exit, ⟨name, hname, hexit⟩, hslot⟩
    exact ⟨name, hname, exit, hexit, hslot⟩
  · rintro ⟨name, hname, exit, hexit, hslot⟩
    exact ⟨exit, ⟨name, hname, hexit⟩, hslot⟩

/-- No slot that a name holds is lost, and there are no others. -/
theorem mem_slots_exits {names : List String} {slot : Nat} :
    slot ∈ (exits lookup family names).map Route.Exit.slot ↔
      ∃ name ∈ names, Holds lookup family name slot :=
  mem_slots_distinct.trans mem_slots_filterMap

/-- There are no ways out exactly if no name leads to one. -/
theorem exits_eq_nil_iff {names : List String} :
    exits lookup family names = [] ↔
      ∀ name ∈ names, ¬ ∃ slot, Holds lookup family name slot := by
  rw [← @List.map_eq_nil_iff _ _ Route.Exit.slot, List.eq_nil_iff_forall_not_mem]
  simp only [mem_slots_exits, not_exists, not_and]
  exact ⟨fun h name hname slot => h slot name hname, fun h slot name hname => h name hname slot⟩

/-- The ways out by tokens, of which there are not too many, are those that a route can have, unless
there are none. -/
theorem validOutbound_exits {names : List String} (htokens : ∀ name ∈ names, IsToken name)
    (hmost : names.length ≤ mostOutbound) (hsome : (exits lookup family names).isEmpty = false) :
    ValidOutbound lookup family (exits lookup family names) where
  one_le := by
    rw [List.isEmpty_eq_false_iff] at hsome
    exact List.length_pos_iff.2 hsome
  le_most :=
    ((sublist_distinct _).length_le.trans (List.length_filterMap_le ..)).trans hmost
  nodup := nodup_distinct _
  leadsTo exit hexit := by
    obtain ⟨name, hname, hexit⟩ := List.mem_filterMap.1 ((sublist_distinct _).subset hexit)
    exact leadsTo_iff.2 ⟨name, htokens name hname, hexit⟩

/-- Ways out can be named one by one. -/
theorem exists_names {outbound : List Route.Exit}
    (h : ∀ exit ∈ outbound, LeadsTo lookup family exit) :
    ∃ names : List String, (∀ name ∈ names, IsToken name) ∧ names.length = outbound.length ∧
      names.filterMap (exit? lookup family) = outbound := by
  induction outbound with
  | nil => exact ⟨[], List.forall_mem_nil _, rfl, rfl⟩
  | cons exit outbound ih =>
      obtain ⟨hexit, hrest⟩ := List.forall_mem_cons.1 h
      obtain ⟨name, htoken, hname⟩ := leadsTo_iff.1 hexit
      obtain ⟨names, htokens, hlength, hnames⟩ := ih hrest
      refine ⟨name :: names, List.forall_mem_cons.2 ⟨htoken, htokens⟩, ?_, ?_⟩
      · rw [List.length_cons, List.length_cons, hlength]
      · rw [List.filterMap_cons_some hname, hnames]

/-- The ways out that a route can have are those of some tokens. -/
theorem ValidOutbound.exists_names {outbound : List Route.Exit}
    (h : ValidOutbound lookup family outbound) :
    ∃ names : List String, (∀ name ∈ names, IsToken name) ∧ names.length = outbound.length ∧
      exits lookup family names = outbound := by
  obtain ⟨names, htokens, hlength, hnames⟩ := Operation.exists_names h.leadsTo
  exact ⟨names, htokens, hlength, by rw [exits, hnames, distinct_eq_self h.nodup]⟩

/-! ## One name after the other -/

/-- The ways out that are there after the names, of which the last is the last to be looked at. A
way out has the threshold of the name that adds it. -/
inductive Collects (lookup : Lookup) (family : Family) : List String → List Route.Exit → Prop where
  | start : Collects lookup family [] []
  | without {names : List String} {found : List Route.Exit} {name : String}
      (h : Collects lookup family names found)
      (hslot : ¬ ∃ slot, Holds lookup family name slot) :
      Collects lookup family (names ++ [name]) found
  | again {names : List String} {found : List Route.Exit} {name earlier : String} {slot : Nat}
      (h : Collects lookup family names found) (hslot : Holds lookup family name slot)
      (hearlier : earlier ∈ names) (hsame : Holds lookup family earlier slot) :
      Collects lookup family (names ++ [name]) found
  | added {names : List String} {found : List Route.Exit} {name : String}
      {forwarding : Forwarding} {slot : Nat} (h : Collects lookup family names found)
      (hlookup : lookup name = some forwarding) (hslot : forwarding.slot family = some slot)
      (hnew : ∀ earlier ∈ names, ¬ Holds lookup family earlier slot) :
      Collects lookup family (names ++ [name]) (found ++ [⟨slot, forwarding.threshold⟩])

/-- A last name that leads to no way out makes no difference. -/
theorem exits_concat_of_none {names : List String} (h : exit? lookup family name = none) :
    exits lookup family (names ++ [name]) = exits lookup family names := by
  rw [exits, List.filterMap_append, List.filterMap_cons_none h, List.filterMap_nil,
    List.append_nil, exits]

/-- A last name with the slot of an earlier one makes no difference. -/
theorem exits_concat_of_mem {names : List String} {exit : Route.Exit}
    (h : exit? lookup family name = some exit)
    (hheld : ∃ earlier ∈ names, Holds lookup family earlier exit.slot) :
    exits lookup family (names ++ [name]) = exits lookup family names := by
  rw [exits, List.filterMap_append, List.filterMap_cons_some h, List.filterMap_nil,
    distinct_concat_of_mem (mem_slots_filterMap.2 hheld), exits]

/-- The way out of a last name with a slot of its own comes last. -/
theorem exits_concat_of_notMem {names : List String} {exit : Route.Exit}
    (h : exit? lookup family name = some exit)
    (hnew : ¬ ∃ earlier ∈ names, Holds lookup family earlier exit.slot) :
    exits lookup family (names ++ [name]) = exits lookup family names ++ [exit] := by
  rw [exits, List.filterMap_append, List.filterMap_cons_some h, List.filterMap_nil,
    distinct_concat_of_notMem (mt mem_slots_filterMap.1 hnew), exits]

/-- The ways out are there after the names. -/
theorem collects_exits (names : List String) :
    Collects lookup family names (exits lookup family names) := by
  -- What a name adds depends on those before it, so the induction is from the end.
  induction names using List.reverseRecOn with
  | nil => exact .start
  | append_singleton names name ih =>
      cases hexit : exit? lookup family name with
      | none =>
          rw [exits_concat_of_none hexit]
          exact ih.without (exit?_eq_none_iff.1 hexit)
      | some exit =>
          by_cases hheld : ∃ earlier ∈ names, Holds lookup family earlier exit.slot
          · rw [exits_concat_of_mem hexit hheld]
            obtain ⟨earlier, hearlier, hsame⟩ := hheld
            exact ih.again (holds_iff_exit?.2 ⟨exit, hexit, rfl⟩) hearlier hsame
          · rw [exits_concat_of_notMem hexit hheld]
            obtain ⟨forwarding, hlookup, hslot, hthreshold⟩ := exit?_eq_some_iff.1 hexit
            have hadded := ih.added hlookup hslot
              fun earlier hearlier hsame => hheld ⟨earlier, hearlier, hsame⟩
            rwa [hthreshold] at hadded

/-- Nothing else is there after the names. -/
theorem Collects.eq_exits {names : List String} {found : List Route.Exit}
    (h : Collects lookup family names found) : found = exits lookup family names := by
  induction h with
  | start => rfl
  | without _ hslot ih => rw [ih, exits_concat_of_none (exit?_eq_none_iff.2 hslot)]
  | again _ hslot hearlier hsame ih =>
      obtain ⟨exit, hexit, rfl⟩ := holds_iff_exit?.1 hslot
      rw [ih, exits_concat_of_mem hexit ⟨_, hearlier, hsame⟩]
  | @added names _ _ forwarding slot _ hlookup hslot hnew ih =>
      have hexit : exit? lookup family _ = some ⟨slot, forwarding.threshold⟩ :=
        exit?_eq_some_iff.2 ⟨forwarding, hlookup, hslot, rfl⟩
      have hheld : ¬ ∃ earlier ∈ names, Holds lookup family earlier slot :=
        fun ⟨earlier, hearlier, hsame⟩ => hnew earlier hearlier hsame
      rw [ih, exits_concat_of_notMem hexit hheld]

/-- What the log says of the names, where packets come in by the slot `inbound` of the interface
`inboundName`. -/
inductive Warned (lookup : Lookup) (family : Family) (inbound : Nat) (inboundName : String) :
    List String → List (Log.Level × String) → Prop where
  | nothing : Warned lookup family inbound inboundName [] []
  | invalid {names : List String} {records : List (Log.Level × String)} {name : String}
      (hslot : ¬ ∃ slot, Holds lookup family name slot)
      (h : Warned lookup family inbound inboundName names records) :
      Warned lookup family inbound inboundName (name :: names)
        ((.warning, "Invalid outbound " ++ family.name ++ " interface: " ++ name) :: records)
  | same {names : List String} {records : List (Log.Level × String)} {name : String}
      (hslot : Holds lookup family name inbound)
      (h : Warned lookup family inbound inboundName names records) :
      Warned lookup family inbound inboundName (name :: names)
        ((.warning, "Same outbound " ++ family.name ++ " interface (" ++ name ++
          ") as inbound (" ++ inboundName ++ ")?") :: records)
  | other {names : List String} {records : List (Log.Level × String)} {name : String} {slot : Nat}
      (hslot : Holds lookup family name slot) (hother : slot ≠ inbound)
      (h : Warned lookup family inbound inboundName names records) :
      Warned lookup family inbound inboundName (name :: names) records

/-- The notes on the names are what the log says of them. -/
theorem warned_outboundNotes (inbound : Nat) (inboundName : String) (names : List String) :
    Warned lookup family inbound inboundName names
      ((names.filterMap (outboundNote? lookup family inbound inboundName)).map fun note =>
        (note.level, note.message)) := by
  induction names with
  | nil => exact .nothing
  | cons name names ih =>
      cases hexit : exit? lookup family name with
      | none =>
          have hnote : outboundNote? lookup family inbound inboundName name =
              some (.invalidOutbound family name) := by
            simp only [outboundNote?, hexit]
          rw [List.filterMap_cons_some hnote]
          exact .invalid (exit?_eq_none_iff.1 hexit) ih
      | some exit =>
          have hholds : Holds lookup family name exit.slot := holds_iff_exit?.2 ⟨exit, hexit, rfl⟩
          by_cases hsame : exit.slot = inbound
          · have hnote : outboundNote? lookup family inbound inboundName name =
                some (.outboundIsInbound family name inboundName) := by
              simp only [outboundNote?, hexit, hsame, if_true]
            rw [List.filterMap_cons_some hnote]
            exact .same (hsame ▸ hholds) ih
          · have hnote : outboundNote? lookup family inbound inboundName name = none := by
              simp only [outboundNote?, hexit, hsame, if_false]
            rw [List.filterMap_cons_none hnote]
            exact .other hholds hsame ih

/-! ## Completed routes -/

/-- A route is rejected in the end if there are no ways out, and is given them otherwise. -/
theorem complete_cases (lookup : Lookup) (family : Family) (inbound : Nat) (inboundName : String)
    (names : List String) (build : List Route.Exit → Operation) :
    (exits lookup family names = [] ∧
        (complete lookup family inbound inboundName names build).result =
          .error (.noOutbound family)) ∨
      (exits lookup family names ≠ [] ∧
        (complete lookup family inbound inboundName names build).result =
          .ok (some (build (exits lookup family names)))) := by
  simp only [complete, List.isEmpty_iff]
  split
  · rename_i hnone
    exact .inl ⟨hnone, rfl⟩
  · rename_i hsome
    exact .inr ⟨hsome, rfl⟩

/-- A route is completed with the ways out by its names, of which there must be one. -/
theorem complete_eq_ok_iff {family : Family} {inbound : Nat} {inboundName : String}
    {names : List String} {build : List Route.Exit → Operation} {operation : Operation} :
    (complete lookup family inbound inboundName names build).result = .ok (some operation) ↔
      (exits lookup family names).isEmpty = false ∧
        build (exits lookup family names) = operation := by
  rw [List.isEmpty_eq_false_iff]
  obtain ⟨hnone, hresult⟩ | ⟨hsome, hresult⟩ :=
    complete_cases lookup family inbound inboundName names build
  · simp [hresult, hnone]
  · simp [hresult, hsome]

/-- A route is rejected in the end exactly if no name has a slot. -/
theorem complete_eq_error_iff {inbound : Nat} {inboundName : String} {names : List String}
    {build : List Route.Exit → Operation} :
    (complete lookup family inbound inboundName names build).result =
        .error (.noOutbound family) ↔
      ∀ name ∈ names, ¬ ∃ slot, Holds lookup family name slot := by
  rw [← exits_eq_nil_iff]
  obtain ⟨hnone, hresult⟩ | ⟨hsome, hresult⟩ :=
    complete_cases lookup family inbound inboundName names build
  · exact iff_of_true hresult hnone
  · simp [hresult, hsome]

/-- A route gets the ways out that its names add one after the other. Each slot that a name holds is
among them, that which packets come in by included. The route is rejected exactly if no name has a
slot. A warning is given, in the order of the names, for each that has none and for each that holds
the slot that packets come in by. -/
theorem complete_collects (lookup : Lookup) (family : Family) (inbound : Nat) (inboundName : String)
    (names : List String) (build : List Route.Exit → Operation) :
    let completed := complete lookup family inbound inboundName names build
    let found := exits lookup family names
    (∀ other, Collects lookup family names other ↔ other = found) ∧
      (∀ slot, slot ∈ found.map Route.Exit.slot ↔ ∃ name ∈ names, Holds lookup family name slot) ∧
      (completed.result = .ok (some (build found)) ↔
        ∃ name ∈ names, ∃ slot, Holds lookup family name slot) ∧
      (completed.result = .error (.noOutbound family) ↔
        ∀ name ∈ names, ¬ ∃ slot, Holds lookup family name slot) ∧
      Warned lookup family inbound inboundName names
        (completed.notes.map fun note => (note.level, note.message)) := by
  intro completed found
  have hcollects (other : List Route.Exit) :
      Collects lookup family names other ↔ other = found :=
    ⟨Collects.eq_exits, fun heq => heq ▸ collects_exits names⟩
  have hcompleted : completed.result = .ok (some (build found)) ↔
      ∃ name ∈ names, ∃ slot, Holds lookup family name slot := by
    rw [complete_eq_ok_iff, and_iff_left rfl, List.isEmpty_eq_false_iff, Ne, exits_eq_nil_iff]
    simp only [not_forall, not_not, exists_prop]
  exact ⟨hcollects, fun _ => mem_slots_exits, hcompleted, complete_eq_error_iff,
    warned_outboundNotes inbound inboundName names⟩

end Operation

end StaticMulticast.Configuration
