import StaticMulticast.Proofs.Configuration.Naming
import StaticMulticast.Proofs.Configuration.Reordering
import StaticMulticast.Proofs.Tables.Concatenation
import StaticMulticast.Proofs.Tables.Routes

/-!
# The order of lines about groups and routes

What is joined and what is routed does not depend on the order in which it is asked for, but for two
routes with one key, of which the later stays. So the lines of a file that come after those about
interfaces can be put in any order (`Tables.parse_reordered`).
-/

namespace StaticMulticast

open StaticMulticast.Configuration

/-! ## Groups -/

namespace Group.Table

/-- Whether a group can be joined does not depend on another that is joined before. -/
theorem join_value_of_ne {first second : Membership} (hne : first ≠ second) (table : Table) :
    ((table.join first).state.join second).value = (table.join second).value := by
  have hfind : Ordered.find? id second (Ordered.insert id first table.joined) =
      Ordered.find? id second table.joined := Ordered.find?_insert_of_ne hne
  obtain ⟨_, -, heq⟩ | ⟨-, heq⟩ := table.join_cases first
  · rw [heq]
  · rw [heq]
    simp only [join, hfind]
    split <;> rfl

/-- Two groups can be joined in either order. -/
theorem join_comm (table : Table) (first second : Membership) :
    ((table.join first).state.join second).state =
      ((table.join second).state.join first).state := by
  by_cases hne : first = second
  · rw [hne]
  · have hsecond : Ordered.find? id second (Ordered.insert id first table.joined) =
        Ordered.find? id second table.joined := Ordered.find?_insert_of_ne hne
    have hfirst : Ordered.find? id first (Ordered.insert id second table.joined) =
        Ordered.find? id first table.joined := Ordered.find?_insert_of_ne (Ne.symm hne)
    have hcomm := Ordered.insert_comm (fun heq : id second = id first => hne heq.symm) table.joined
    cases hone : Ordered.find? id first table.joined <;>
      cases hanother : Ordered.find? id second table.joined <;>
        simp only [join, hone, hanother, hfirst, hsecond, hcomm]

end Group.Table

/-! ## Routes -/

namespace Route

namespace Table

/-- Two routes with different keys can be put in their places in either order. -/
theorem put_comm {first second : Route} (hne : ¬ first.SameKey second) (table : Table) :
    (table.put first).put second = (table.put second).put first := by
  cases first with
  | v4 first =>
      cases second with
      | v4 second =>
          have hkey : second.key ≠ first.key := fun heq => hne (V4.key_eq_iff.1 heq.symm)
          simp only [put, Ordered.insert_comm hkey]
      | v6 second => rfl
  | v6 first =>
      cases second with
      | v4 second => rfl
      | v6 second =>
          have hkey : second.key ≠ first.key := fun heq => hne (V6.key_eq_iff.1 heq.symm)
          simp only [put, Ordered.insert_comm hkey]

/-- Whether a route can be added does not depend on the table. -/
theorem add_value (table other : Table) (route : Route) :
    (table.add route).value = (other.add route).value := by
  obtain ⟨-, what, hrefused⟩ | ⟨-, hput⟩ := add_cases route
  · rw [(hrefused table).1, (hrefused other).1]
  · rw [(hput table).1, (hput other).1]

/-- Two routes can be added in either order, unless both are put under one key. -/
theorem add_comm (table : Table) {first second : Route}
    (hne : (table.add first).value = .ok () → (table.add second).value = .ok () →
      ¬ first.SameKey second) :
    ((table.add first).state.add second).state = ((table.add second).state.add first).state := by
  obtain ⟨-, _, hrefused⟩ | ⟨-, hfirst⟩ := add_cases first
  · rw [(hrefused _).2, (hrefused _).2]
  · obtain ⟨-, _, hrefused⟩ | ⟨-, hsecond⟩ := add_cases second
    · rw [(hrefused _).2, (hrefused _).2]
    · rw [(hfirst _).2, (hsecond _).2, (hsecond _).2, (hfirst _).2]
      exact put_comm (hne (hfirst table).1 (hsecond table).1) table

end Table

end Route

/-! ## Operations -/

namespace Configuration

/-- The route that an operation adds, if it adds one. -/
def Operation.route? : Operation → Option Route
  | .addV4 route => some (.v4 route)
  | .addV6 route => some (.v6 route)
  | _ => none

/-- The route that a call has added, if it has added one. -/
def Answered.added? (call : Answered) : Option Route :=
  match call.answer with
  | .ok _ => call.operation.route?
  | .error _ => none

/-- An operation that is not about an interface joins a group or adds a route. -/
theorem Operation.join_or_route {operation : Operation} (h : operation.command ≠ .interface) :
    (∃ membership, operation = .join membership) ∨
      ∃ route : Route, operation = route.operation := by
  cases operation with
  | enable | disable => exact absurd rfl h
  | join membership => exact .inl ⟨membership, rfl⟩
  | addV4 route => exact .inr ⟨.v4 route, rfl⟩
  | addV6 route => exact .inr ⟨.v6 route, rfl⟩

end Configuration

namespace Tables

variable {operation first second : Operation}

/-- The interfaces are changed by operations about them alone. -/
theorem perform_registry (h : operation.command ≠ .interface) (tables : Tables) :
    (tables.perform operation).state.registry = tables.registry := by
  obtain ⟨membership, rfl⟩ | ⟨route, rfl⟩ := Operation.join_or_route h
  · rfl
  · rw [perform_operation]
    rfl

/-- What an operation about a group or a route comes to, and which groups are joined then, depends
on the groups that are joined before alone. -/
theorem perform_of_groups_eq (h : operation.command ≠ .interface) {tables others : Tables}
    (hgroups : tables.groups = others.groups) :
    (tables.perform operation).value = (others.perform operation).value ∧
      (tables.perform operation).state.groups = (others.perform operation).state.groups := by
  obtain ⟨membership, rfl⟩ | ⟨route, rfl⟩ := Operation.join_or_route h
  · show (tables.groups.join membership).value = (others.groups.join membership).value ∧
      (tables.groups.join membership).state = (others.groups.join membership).state
    rw [hgroups]
    exact ⟨rfl, rfl⟩
  · rw [perform_operation, perform_operation]
    exact ⟨Route.Table.add_value tables.routes others.routes route, hgroups⟩

/-- Whether an operation has added a route does not depend on the tables. -/
theorem added?_perform (tables others : Tables) (operation : Operation) :
    Answered.added? ⟨operation, (tables.perform operation).value⟩ =
      Answered.added? ⟨operation, (others.perform operation).value⟩ := by
  have hroute : ∀ route : Route, (tables.perform route.operation).value =
      (others.perform route.operation).value := by
    intro route
    rw [perform_operation, perform_operation]
    exact Route.Table.add_value tables.routes others.routes route
  have hnone : operation.route? = none → ∀ answer, Answered.added? ⟨operation, answer⟩ = none := by
    intro h answer
    cases answer with
    | ok _ => exact h
    | error _ => rfl
  cases operation with
  | enable | disable | join => rw [hnone rfl, hnone rfl]
  | addV4 route => exact congrArg (fun answer => Answered.added? ⟨_, answer⟩) (hroute (.v4 route))
  | addV6 route => exact congrArg (fun answer => Answered.added? ⟨_, answer⟩) (hroute (.v6 route))

section Exchange

variable (hfirst : first.command ≠ .interface) (hsecond : second.command ≠ .interface)
include hfirst hsecond

/-- What an operation about a group or a route comes to does not depend on another one before. -/
theorem perform_value_of_ne (hne : first ≠ second) (tables : Tables) :
    ((tables.perform first).state.perform second).value = (tables.perform second).value := by
  obtain ⟨membership, rfl⟩ | ⟨route, rfl⟩ := Operation.join_or_route hsecond
  · obtain ⟨former, rfl⟩ | ⟨former, rfl⟩ := Operation.join_or_route hfirst
    · exact Group.Table.join_value_of_ne (fun heq => hne (congrArg _ heq)) tables.groups
    · rw [perform_operation]
      rfl
  · rw [perform_operation, perform_operation]
    exact Route.Table.add_value _ _ route

/-- After two operations about groups or routes, in either order, the same groups are joined. -/
theorem perform_groups_comm (tables : Tables) :
    ((tables.perform first).state.perform second).state.groups =
      ((tables.perform second).state.perform first).state.groups := by
  obtain ⟨membership, rfl⟩ | ⟨route, rfl⟩ := Operation.join_or_route hfirst
  · obtain ⟨another, rfl⟩ | ⟨another, rfl⟩ := Operation.join_or_route hsecond
    · exact tables.groups.join_comm membership another
    · simp only [perform_operation]
      rfl
  · obtain ⟨another, rfl⟩ | ⟨another, rfl⟩ := Operation.join_or_route hsecond
    · simp only [perform_operation]
      rfl
    · simp only [perform_operation]
      rfl

/-- After two operations about groups or routes, in either order, there are the same routes, unless
both have added one under one key. -/
theorem perform_routes_comm (tables : Tables)
    (hne : ∀ one ∈ Answered.added? ⟨first, (tables.perform first).value⟩,
      ∀ another ∈ Answered.added? ⟨second, (tables.perform second).value⟩,
        ¬ one.SameKey another) :
    ((tables.perform first).state.perform second).state.routes =
      ((tables.perform second).state.perform first).state.routes := by
  obtain ⟨membership, rfl⟩ | ⟨route, rfl⟩ := Operation.join_or_route hfirst
  · obtain ⟨another, rfl⟩ | ⟨another, rfl⟩ := Operation.join_or_route hsecond
    · rfl
    · simp only [perform_operation]
      rfl
  · obtain ⟨another, rfl⟩ | ⟨another, rfl⟩ := Operation.join_or_route hsecond
    · simp only [perform_operation]
      rfl
    · have hadded : ∀ route : Route, (tables.routes.add route).value = .ok () →
          Answered.added? ⟨route.operation, (tables.perform route.operation).value⟩ =
            some route := by
        intro route hvalue
        have hanswer : (tables.onRoutes (tables.routes.add route)).value = .ok () := hvalue
        rw [perform_operation, hanswer]
        cases route <;> rfl
      simp only [perform_operation]
      exact tables.routes.add_comm fun hone hanother =>
        hne route (hadded route hone) another (hadded another hanother)

end Exchange

/-! ## Lines -/

/-- The tables have the given interfaces, and are alike in what else is asked. -/
def Over (registry : Registry) (alike : Tables → Tables → Prop) (tables others : Tables) : Prop :=
  (tables.registry = registry ∧ others.registry = registry) ∧ alike tables others

/-- The same groups are joined. -/
def SameGroups (tables others : Tables) : Prop :=
  tables.groups = others.groups

/-- To have the same groups joined is an equivalence. -/
theorem sameGroups_equivalence : Equivalence SameGroups :=
  ⟨fun _ => rfl, Eq.symm, Eq.trans⟩

variable {settings : Settings} {registry : Registry}
  {afterwards : Tables → Outcome Tables Event (Except Failure Unit)}

/-- In tables over the given interfaces, these are what lines can name. -/
theorem over_lookup {alike : Tables → Tables → Prop} (tables others : Tables)
    (h : Over registry alike tables others) :
    (collaborators afterwards).lookup tables = registry.forwarding? ∧
      (collaborators afterwards).lookup others = registry.forwarding? :=
  ⟨congrArg Registry.forwarding? h.1.1, congrArg Registry.forwarding? h.1.2⟩

/-- Lines whose operations can be exchanged over the interfaces can come in any order. -/
theorem run_over {alike : Tables → Tables → Prop} (halike : Equivalence alike)
    {lines others : List Line} (hperm : lines.Perm others)
    (hsteady : ∀ line ∈ lines, ∀ operation ∈ line.asked? settings registry.forwarding?,
      (collaborators afterwards).Steady (Over registry alike) operation)
    (hpairs : lines.Pairwise fun first second =>
      ∀ one ∈ first.asked? settings registry.forwarding?,
      ∀ another ∈ second.asked? settings registry.forwarding?,
        (collaborators afterwards).Interchange (Over registry alike) one another)
    (number other : Nat) {tables : Tables} (hregistry : tables.registry = registry) :
    let there := Pass.run (collaborators afterwards) settings number lines tables
    let back := Pass.run (collaborators afterwards) settings other others tables
    there.value.Perm back.value ∧ Over registry alike there.state back.state := by
  have hover : Over registry alike tables tables := ⟨⟨hregistry, hregistry⟩, halike.refl tables⟩
  refine Pass.run_perm over_lookup ?_ ?_ hperm hsteady hpairs number other hover
  · exact fun _ _ h => ⟨h.1.symm, halike.symm h.2⟩
  · exact fun _ _ _ h hlater => ⟨⟨h.1.1, hlater.1.2⟩, halike.trans h.2 hlater.2⟩

/-- An operation about a group or a route comes to the same where the same groups are joined. -/
theorem steady_sameGroups (h : operation.command ≠ .interface) :
    (collaborators afterwards).Steady (Over registry SameGroups) operation := by
  rintro tables others ⟨⟨hregistry, hothers⟩, hgroups⟩
  obtain ⟨hvalue, hjoined⟩ := perform_of_groups_eq h hgroups
  exact ⟨hvalue, ⟨(perform_registry h tables).trans hregistry,
    (perform_registry h others).trans hothers⟩, hjoined⟩

/-- Any two operations about groups or routes can be exchanged, as far as groups are concerned. -/
theorem interchange_sameGroups (hfirst : first.command ≠ .interface)
    (hsecond : second.command ≠ .interface) :
    (collaborators afterwards).Interchange (Over registry SameGroups) first second := by
  rintro tables ⟨⟨hregistry, -⟩, -⟩
  refine ⟨?_, ⟨?_, ?_⟩, perform_groups_comm hfirst hsecond tables⟩
  · by_cases hne : first = second
    · rw [hne]
    · show [(tables.perform first).value, ((tables.perform first).state.perform second).value].Perm
        [(tables.perform second).value, ((tables.perform second).state.perform first).value]
      rw [perform_value_of_ne hfirst hsecond hne, perform_value_of_ne hsecond hfirst (Ne.symm hne)]
      exact .swap _ _ _
  · exact (perform_registry hsecond _).trans ((perform_registry hfirst tables).trans hregistry)
  · exact (perform_registry hfirst _).trans ((perform_registry hsecond tables).trans hregistry)

/-- An operation about a group or a route comes to the same in the same tables. -/
theorem steady_same (h : operation.command ≠ .interface) :
    (collaborators afterwards).Steady (Over registry Eq) operation := by
  rintro tables _ ⟨⟨hregistry, -⟩, rfl⟩
  have hkept := (perform_registry h tables).trans hregistry
  exact ⟨rfl, ⟨hkept, hkept⟩, rfl⟩

/-- Two operations about groups or routes can be exchanged, unless they add two routes under one
key. Whether they do can be told from any tables. -/
theorem interchange_same (hfirst : first.command ≠ .interface)
    (hsecond : second.command ≠ .interface) (others : Tables)
    (hne : ∀ one ∈ Answered.added? ⟨first, (others.perform first).value⟩,
      ∀ another ∈ Answered.added? ⟨second, (others.perform second).value⟩,
        ¬ one.SameKey another) :
    (collaborators afterwards).Interchange (Over registry Eq) first second := by
  rintro tables ⟨⟨hregistry, -⟩, -⟩
  have hexchange : (collaborators afterwards).Interchange (Over registry SameGroups) first second :=
    interchange_sameGroups hfirst hsecond
  obtain ⟨hvalues, hregistries, hgroups⟩ := hexchange tables ⟨⟨hregistry, hregistry⟩, rfl⟩
  rw [added?_perform others tables, added?_perform others tables] at hne
  have hroutes := perform_routes_comm hfirst hsecond tables hne
  exact ⟨hvalues, hregistries,
    Tables.ext (hregistries.1.trans hregistries.2.symm) hroutes hgroups⟩

/-- The operations of lines that do not begin with the command of interfaces are not about any. -/
theorem command_ne_of_asked? {lookup : Lookup} {line : Line}
    (h : line.command? ≠ some .interface) (hasked : line.asked? settings lookup = some operation) :
    operation.command ≠ .interface := by
  have hcommand := Line.command?_of_operation (Line.asked?_eq_some_iff.1 hasked)
  exact fun heq => h (hcommand.trans (congrArg some heq))

/-- The route that a line adds, if it adds one, where the calls are answered by the given tables. -/
def added? (tables : Tables) (settings : Settings) (line : Line) : Option Route :=
  (line.asked? settings tables.registry.forwarding?).bind fun operation =>
    Answered.added? ⟨operation, (tables.perform operation).value⟩

/-- The routes that lines about groups and routes add can be told from other tables with the same
interfaces. -/
theorem added_turns {lines : List Line} (hlines : ∀ line ∈ lines, line.command? ≠ some .interface)
    (number : Nat) {tables others : Tables} (hregistry : tables.registry = others.registry) :
    ((Pass.turns (collaborators afterwards) settings number lines tables).filterMap
        Turn.call?).filterMap Answered.added? = lines.filterMap (others.added? settings) := by
  rw [List.filterMap_filterMap]
  induction lines generalizing number tables with
  | nil => rfl
  | cons line rest ih =>
      obtain ⟨hfirst, hrest⟩ := List.forall_mem_cons.1 hlines
      have hlookup : (collaborators afterwards).lookup tables = others.registry.forwarding? :=
        congrArg Registry.forwarding? hregistry
      have hadded : (Pass.turn (collaborators afterwards) settings number line tables).call?.bind
          Answered.added? = others.added? settings line := by
        rw [Pass.call?_turn number line hlookup, added?, Option.bind_map]
        congr 1
        funext operation
        exact added?_perform tables others operation
      have hover : Over others.registry Eq tables tables := ⟨⟨hregistry, hregistry⟩, rfl⟩
      obtain ⟨-, ⟨hkept, -⟩, -⟩ := Pass.handle_alike over_lookup
        (fun operation hasked => steady_same (command_ne_of_asked? hfirst hasked)) number number
        hover
      rw [Pass.turns, List.filterMap_cons, List.filterMap_cons, hadded, ih hrest (number + 1) hkept]

/-- Lines about groups and routes can come in any order. What becomes of them is the same but for
the order, and the same groups are joined. There are the same routes too, unless two are added under
one key. -/
theorem run_reordered {lines others : List Line} (hperm : lines.Perm others)
    (hlines : ∀ line ∈ lines, line.command? ≠ some .interface) (number other : Nat)
    (tables : Tables) :
    let there := Pass.run (collaborators afterwards) settings number lines tables
    let back := Pass.run (collaborators afterwards) settings other others tables
    there.value.Perm back.value ∧ there.state.registry = back.state.registry ∧
      there.state.groups = back.state.groups ∧
      ((lines.filterMap (tables.added? settings)).Pairwise (fun one another =>
          ¬ one.SameKey another) →
        there.state.routes = back.state.routes) := by
  intro there back
  have hoperations : ∀ line ∈ lines, ∀ operation ∈ line.asked? settings
      tables.registry.forwarding?, operation.command ≠ .interface :=
    fun line hline _ hasked => command_ne_of_asked? (hlines line hline) hasked
  obtain ⟨hvalues, ⟨hregistry, hkept⟩, hgroups⟩ := run_over sameGroups_equivalence hperm
    (fun line hline operation hasked => steady_sameGroups (hoperations line hline operation hasked))
    (List.pairwise_of_forall_mem_list fun first hfirst second hsecond one hone another hanother =>
      interchange_sameGroups (hoperations first hfirst one hone)
        (hoperations second hsecond another hanother)) number other rfl
  refine ⟨hvalues, hregistry.trans hkept.symm, hgroups, fun hapart => ?_⟩
  have hkeys := List.pairwise_filterMap.1 hapart
  have hpairs : lines.Pairwise fun first second =>
      ∀ one ∈ first.asked? settings tables.registry.forwarding?,
      ∀ another ∈ second.asked? settings tables.registry.forwarding?,
        (collaborators afterwards).Interchange (Over tables.registry Eq) one another := by
    refine hkeys.imp_of_mem ?_
    intro first second hfirst hsecond hne one hone another hanother
    refine interchange_same (hoperations first hfirst one hone)
      (hoperations second hsecond another hanother) tables ?_
    intro route hroute former hformer
    exact hne route (Option.bind_eq_some_iff.2 ⟨one, hone, hroute⟩) former
      (Option.bind_eq_some_iff.2 ⟨another, hanother, hformer⟩)
  obtain ⟨-, -, hsame⟩ := run_over eq_equivalence hperm
    (fun line hline operation hasked => steady_same (hoperations line hline operation hasked))
    hpairs number other rfl
  exact congrArg routes hsame

/-- A file can have its lines about groups and routes in any order, as long as they come after those
about interfaces. Whatever the tables before, the pass comes to the same summary, the same
interfaces and the same joined groups. If the routes that are added have different keys, then to the
same routes in the same order as well. -/
theorem parse_reordered (afterwards : Tables → Outcome Tables Event (Except Failure Unit))
    (settings : Settings) {capacity other : Nat} (hcapacity : 0 < capacity) (hother : 0 < other)
    {chunks pieces front rest moved : List (List UInt8)}
    (hlines : wholeLines chunks.flatten = front ++ rest)
    (hmoved : wholeLines pieces.flatten = front ++ moved) (hperm : rest.Perm moved)
    (hrest : ∀ octets ∈ rest, (Line.whole octets).command? ≠ some .interface) (tables : Tables) :
    let plain := Pass.parse (collaborators afterwards) settings capacity (chunks.map .data) tables
    let reordered :=
      Pass.parse (collaborators afterwards) settings other (pieces.map .data) tables
    let calls := (Pass.parse (collaborators afterwards).recorded settings capacity
      (chunks.map .data) (tables, [])).state.2
    (∃ summary, plain.value = .ok summary ∧ reordered.value = .ok summary) ∧
      reordered.state.registry = plain.state.registry ∧
      reordered.state.groups = plain.state.groups ∧
      ((calls.filterMap Answered.added?).Pairwise (fun one another => ¬ one.SameKey another) →
        reordered.state.routes = plain.state.routes) := by
  intro plain reordered calls
  -- Both passes come to the same tables before the lines in question.
  let before := Pass.run (collaborators afterwards) settings 1 (front.map .whole) tables
  obtain ⟨hvalue, hstate⟩ : plain.value = _ ∧ plain.state = _ :=
    Pass.parse_front_rest (collaborators afterwards) settings hcapacity hlines tables
  obtain ⟨hanother, hlast⟩ : reordered.value = _ ∧ reordered.state = _ :=
    Pass.parse_front_rest (collaborators afterwards) settings hother hmoved tables
  have hcalls : calls = (Pass.turns (collaborators afterwards) settings 1
      ((front ++ rest).map .whole) tables).filterMap Turn.call? := by
    simp only [calls, Pass.parse_data hcapacity, Pass.run_recorded, hlines, List.nil_append]
  have hall : ∀ line ∈ rest.map Line.whole, line.command? ≠ some .interface := by
    simpa using hrest
  have hmap : (moved.map Line.whole).Perm (rest.map .whole) := hperm.symm.map Line.whole
  obtain ⟨hvalues, hregistry, hgroups, hroutes⟩ :=
    run_reordered hmap (fun line hline => hall line (hmap.mem_iff.1 hline)) (1 + front.length)
      (1 + front.length) before.state
  refine ⟨⟨_, hvalue, ?_⟩, ?_, ?_, fun hapart => ?_⟩
  · rw [hanother]
    exact congrArg Except.ok (Summary.ofResults_perm (hvalues.append_left before.value))
  · rw [hlast, hstate]
    exact hregistry
  · rw [hlast, hstate]
    exact hgroups
  · rw [hlast, hstate]
    refine hroutes ?_
    rw [hcalls, List.map_append, Pass.turns_append, List.filterMap_append, List.filterMap_append,
      added_turns hall _ rfl] at hapart
    -- The routes are apart in any order, as having one key does not depend on which comes first.
    refine ((hmap.filterMap _).pairwise_iff ?_).2 (List.pairwise_append.1 hapart).2.1
    exact fun hne hsame => hne hsame.symm

/-- A group that is joined twice, an unknown command and two routes, forwards and backwards. -/
theorem parse_reordered_backwards :
    let octets := fun text : String => text.toUTF8.toList
    let front := ["phyint a enable", "phyint b enable"].map octets
    let rest := ["mgroup from a group 224.1.1.1", "mroute from b group 224.1.1.1 to a",
      "mgroup from a group 224.1.1.1", "mroute from a group 224.1.1.2 to b", "group"].map octets
    let file := fun lines : List (List UInt8) => lines.flatMap fun line => line ++ [lineEnd]
    let tables := initial (((Registry.empty true).insert "a" 1).insert "b" 2)
    let plain := Pass.parse (collaborators nothingAfterwards) {} 8192
      ([file (front ++ rest)].map .data) tables
    let reordered := Pass.parse (collaborators nothingAfterwards) {} 7
      ([file (front ++ rest.reverse)].map .data) tables
    plain.value = .ok ⟨7, 5, 1, 1⟩ ∧ reordered.value = .ok ⟨7, 5, 1, 1⟩ ∧
      reordered.state = plain.state := by
  intro octets front rest file tables plain reordered
  have hcapacity : 0 < 8192 := by decide
  obtain ⟨ran, hran⟩ : ∃ ran, Pass.run (collaborators nothingAfterwards).recorded {} 1
      ((front ++ rest).map .whole) (tables, []) = ran :=
    ⟨_, rfl⟩
  have hfacts : wholeLines [file (front ++ rest)].flatten = front ++ rest ∧
      wholeLines [file (front ++ rest.reverse)].flatten = front ++ rest.reverse ∧
      (∀ octets ∈ rest, (Line.whole octets).command? ≠ some .interface) ∧
      Summary.ofResults ran.value = ⟨7, 5, 1, 1⟩ ∧
      ran.state.2.filterMap Answered.added? =
        [.v4 ⟨1, .unspecified, ⟨224, 1, 1, 1⟩, 0, [⟨0, 1⟩]⟩,
          .v4 ⟨0, .unspecified, ⟨224, 1, 1, 2⟩, 0, [⟨1, 1⟩]⟩] := by
    rw [← hran]
    decide +kernel
  obtain ⟨hlines, hmoved, hrest, hsummary, hadded⟩ := hfacts
  obtain ⟨⟨summary, hvalue, hreordered⟩, hregistry, hgroups, hroutes⟩ :=
    parse_reordered nothingAfterwards {} hcapacity (show 0 < 7 by decide) hlines hmoved
      (List.reverse_perm rest).symm hrest tables
  have hrecorded : Pass.parse (collaborators nothingAfterwards).recorded {} 8192
      ([file (front ++ rest)].map .data) (tables, []) =
        { ran with value := .ok (.ofResults ran.value) } := by
    rw [Pass.parse_data hcapacity, hlines, hran]
  have hplain : plain.value = .ok ⟨7, 5, 1, 1⟩ := by
    rw [← hsummary]
    exact (congrArg Outcome.value (Pass.parse_recorded ..)).symm.trans
      (congrArg Outcome.value hrecorded)
  obtain rfl := Except.ok.inj (hvalue.symm.trans hplain)
  have hkeys := hroutes (by rw [hrecorded, hadded]; decide)
  exact ⟨hplain, hreordered, Tables.ext hregistry hkeys hgroups⟩

end Tables

end StaticMulticast
