import Mathlib.Data.List.Induction
import StaticMulticast.Proofs.Interface.Slots
import StaticMulticast.Proofs.Tables.Routes
import StaticMulticast.Proofs.Tables.Session

/-!
# Journals of the tables

A journal lists what the tables underwent: the interfaces that were enabled without a line, the
lines, and the times when everything was forgotten. Two things are read off it. An interface keeps a
slot until a line disables it, and a route that is installed goes back to the last line that added
one with its key. Nothing else ties a route to the interfaces: when a slot is given back, the routes
with this slot stay as they are.
-/

namespace StaticMulticast

open StaticMulticast.Configuration
open Address (Family)

/-! ## Slots that interfaces keep -/

namespace Registry

variable {registry : Registry} {family : Family} {name other : String} {slot : Nat}

/-- An interface holds a slot if it is known with it. -/
theorem holds_iff :
    Holds registry.forwarding? family name slot ↔
      ∃ interface, registry.find? name = some interface ∧
        interface.forwarding.slot family = some slot := by
  rw [Holds, forwarding?, Option.bind_map, Option.bind_eq_some_iff]
  rfl

/-- An interface that is put in its place holds the slots that it is put there with. -/
theorem holds_put_self (hordered : Ordered.Ascending Interface.name registry.interfaces)
    (changed : Interface) (hslot : changed.forwarding.slot family = some slot)
    (vifs mifs : SlotPool) :
    Holds ({ registry with vifs, mifs }.put changed).forwarding? family changed.name slot :=
  holds_iff.2 ⟨changed, Ordered.find?_insert_self hordered changed, hslot⟩

/-- A change to another interface and to the pools takes no slot from an interface. -/
theorem holds_put_of_ne (hholds : Holds registry.forwarding? family name slot)
    (changed : Interface) (hne : changed.name ≠ name) (vifs mifs : SlotPool) :
    Holds ({ registry with vifs, mifs }.put changed).forwarding? family name slot := by
  obtain ⟨interface, hfind, hslot⟩ := holds_iff.1 hholds
  exact holds_iff.2 ⟨interface, (Ordered.find?_insert_of_ne hne).trans hfind, hslot⟩

/-- Enabling an interface takes a slot from none, and leaves it those that it has. -/
theorem Consistent.holds_enable (h : registry.Consistent)
    (hholds : Holds registry.forwarding? family name slot) (other : String) (threshold : UInt8) :
    Holds (registry.enable other threshold).state.forwarding? family name slot := by
  obtain ⟨-, heq⟩ | ⟨_, -, -, heq⟩ | ⟨interface, vif, vifs, hfind, htake, heq⟩ :=
    h.enable_cases other threshold
  · rw [heq]
    exact hholds
  · rw [heq]
    exact hholds
  · rw [heq]
    obtain ⟨hmem, rfl⟩ := mem_and_name_of_find? hfind
    by_cases hname : interface.name = name
    · subst hname
      obtain ⟨found, hfound, hslot⟩ := holds_iff.1 hholds
      obtain rfl : interface = found := Option.some.inj (hfind.symm.trans hfound)
      have hkept := h.slot_enabled hmem htake hslot threshold
      exact holds_put_self h.ordered
        { interface with vif := some vif, mif := _, threshold } hkept _ _
    · exact holds_put_of_ne hholds { interface with vif := some vif, mif := _, threshold } hname _ _

/-- Disabling an interface takes a slot from no other. -/
theorem holds_disable (hholds : Holds registry.forwarding? family name slot) (hne : other ≠ name) :
    Holds (registry.disable other).state.forwarding? family name slot := by
  obtain ⟨-, heq⟩ | ⟨interface, hfind, heq⟩ := registry.disable_cases other
  · rw [heq]
    exact hholds
  · rw [heq]
    obtain ⟨-, rfl⟩ := mem_and_name_of_find? hfind
    exact holds_put_of_ne hholds interface.released hne _ _

end Registry

namespace Tables

/-! ## Journals -/

/-- Something that the tables undergo. -/
inductive Deed where
  /-- An interface is enabled with the default threshold. -/
  | enable (name : String)
  /-- The operation of a line is carried out, if the line asks for any. -/
  | line (line : Line)
  /-- The routes, the groups and the slots of the interfaces are forgotten. -/
  | forget

/-- The line asks for the operation. -/
def Asks (tables : Tables) (settings : Settings) (line : Line) (operation : Operation) : Prop :=
  (line.operation settings tables.registry.forwarding?).result = .ok (some operation)

/-- The tables after a deed. -/
def undergo (settings : Settings) (tables : Tables) : Deed → Tables
  | .enable name => (tables.perform (.enable name defaultThreshold)).state
  | .line line =>
      match (line.operation settings tables.registry.forwarding?).result with
      | .ok (some operation) => (tables.perform operation).state
      | _ => tables
  | .forget => .initial tables.registry.reset

/-- The tables after all deeds of a journal. -/
def undergoAll (settings : Settings) (tables : Tables) (journal : List Deed) : Tables :=
  journal.foldl (undergo settings) tables

variable {settings : Settings} {tables : Tables}

/-- A line comes to nothing, or to the operation that it asks for. -/
theorem undergo_line_cases (settings : Settings) (tables : Tables) (line : Line) :
    ((∀ operation, ¬ tables.Asks settings line operation) ∧
      tables.undergo settings (.line line) = tables) ∨
    ∃ operation, tables.Asks settings line operation ∧
      tables.undergo settings (.line line) = (tables.perform operation).state := by
  simp only [undergo, Asks]
  cases (line.operation settings tables.registry.forwarding?).result with
  | error reason => exact .inl ⟨fun _ h => (nomatch h), rfl⟩
  | ok asked =>
      cases asked with
      | none => exact .inl ⟨fun _ h => (nomatch h), rfl⟩
      | some operation => exact .inr ⟨operation, rfl, rfl⟩

section Keeps

variable (keeps : Tables → Prop)
  (hperform : ∀ tables operation, keeps tables → keeps (Tables.perform tables operation).state)
  (hforget : ∀ tables, keeps tables → keeps (.initial (Tables.registry tables).reset))
include hperform hforget

/-- What operations and forgetting keep, a deed keeps. -/
theorem undergo_keeps (h : keeps tables) (deed : Deed) : keeps (tables.undergo settings deed) := by
  cases deed with
  | enable name => exact hperform tables _ h
  | line line =>
      obtain ⟨-, heq⟩ | ⟨operation, -, heq⟩ := undergo_line_cases settings tables line
      · rw [heq]
        exact h
      · rw [heq]
        exact hperform tables operation h
  | forget => exact hforget tables h

/-- What operations and forgetting keep, a journal keeps. -/
theorem undergoAll_keeps (h : keeps tables) (journal : List Deed) :
    keeps (tables.undergoAll settings journal) := by
  induction journal generalizing tables with
  | nil => exact h
  | cons deed rest ih => exact ih (undergo_keeps keeps hperform hforget h deed)

end Keeps

/-- A deed keeps the tables consistent. -/
theorem Consistent.undergo (h : tables.Consistent) (settings : Settings) (deed : Deed) :
    (tables.undergo settings deed).Consistent :=
  undergo_keeps Tables.Consistent (fun _ operation h => h.perform operation)
    (fun _ h => Registry.Consistent.reset h) h deed

/-- A journal keeps the tables consistent. -/
theorem Consistent.undergoAll (h : tables.Consistent) (settings : Settings)
    (journal : List Deed) : (tables.undergoAll settings journal).Consistent :=
  undergoAll_keeps Tables.Consistent (fun _ operation h => h.perform operation)
    (fun _ h => Registry.Consistent.reset h) h journal

/-- A journal keeps the tables sorted. -/
theorem Sorted.undergoAll (h : tables.Sorted) (settings : Settings) (journal : List Deed) :
    (tables.undergoAll settings journal).Sorted :=
  undergoAll_keeps Tables.Sorted (fun _ operation h => h.perform operation)
    (fun _ _ => sorted_initial _) h journal

/-! ## Who keeps a slot -/

/-- The line disables the interface of the name. -/
def Disables (settings : Settings) (line : Line) (name : String) : Prop :=
  ∃ threshold, line.statement? settings = some (.interface name false threshold)

/-- A line that asks for an interface to be disabled says so. -/
theorem disables_of_asks {line : Line} {name : String}
    (h : tables.Asks settings line (.disable name)) : Disables settings line name := by
  obtain ⟨statement, hline, hstatement⟩ := Line.operation_eq_ok_iff.1 h
  have hcommand := Operation.command_of_ofStatement hstatement
  cases statement with
  | membership | route => cases hcommand
  | interface found enable threshold =>
      cases enable with
      | true => cases hstatement
      | false =>
          cases hstatement
          exact ⟨threshold, hline⟩

variable {family : Family} {name : String} {slot : Nat}

/-- An interface keeps its slot unless it is disabled by the line, or all is forgotten. -/
theorem Consistent.holds_undergo (h : tables.Consistent) (settings : Settings)
    (hholds : Holds tables.registry.forwarding? family name slot) {deed : Deed}
    (hforget : deed ≠ .forget) :
    Holds (tables.undergo settings deed).registry.forwarding? family name slot ∨
      ∃ line, deed = .line line ∧ Disables settings line name := by
  cases deed with
  | forget => exact absurd rfl hforget
  | enable other => exact .inl (Registry.Consistent.holds_enable h hholds other _)
  | line line =>
      obtain ⟨-, heq⟩ | ⟨operation, hasks, heq⟩ := undergo_line_cases settings tables line
      · rw [heq]
        exact .inl hholds
      · rw [heq]
        cases operation with
        | enable other threshold =>
            exact .inl (Registry.Consistent.holds_enable h hholds other threshold)
        | disable other =>
            by_cases hname : other = name
            · subst hname
              exact .inr ⟨line, rfl, disables_of_asks hasks⟩
            · exact .inl (Registry.holds_disable hholds hname)
        | join | addV4 | addV6 => exact .inl hholds

/-- An interface keeps its slot until a line disables it, or all is forgotten. -/
theorem Consistent.holds_undergoAll (h : tables.Consistent) (settings : Settings)
    (hholds : Holds tables.registry.forwarding? family name slot) {journal : List Deed}
    (hforget : .forget ∉ journal) :
    Holds (tables.undergoAll settings journal).registry.forwarding? family name slot ∨
      ∃ line, .line line ∈ journal ∧ Disables settings line name := by
  induction journal generalizing tables with
  | nil => exact .inl hholds
  | cons deed rest ih =>
      obtain ⟨hdeed, hrest⟩ := not_or.1 (List.mem_cons.not.1 hforget)
      obtain hkept | ⟨line, rfl, hdisables⟩ := h.holds_undergo settings hholds (Ne.symm hdeed)
      · obtain hkept | ⟨line, hline, hdisables⟩ := ih (h.undergo settings deed) hkept hrest
        · exact .inl hkept
        · exact .inr ⟨line, List.mem_cons_of_mem _ hline, hdisables⟩
      · exact .inr ⟨line, List.mem_cons_self, hdisables⟩

/-! ## Routes and their lines -/

/-- The route is installed. -/
def Installed (tables : Tables) : Route → Prop
  | .v4 route => route ∈ tables.routes.v4
  | .v6 route => route ∈ tables.routes.v6

/-- The deed removes the route or puts another in its place: all is forgotten, or a line asks for a
route with the same key. -/
def Supersedes (tables : Tables) (settings : Settings) (route : Route) : Deed → Prop
  | .enable _ => False
  | .line line => ∃ changed : Route, tables.Asks settings line changed.operation ∧
      route.SameKey changed
  | .forget => True

variable {route changed : Route}

/-- The routes that are installed are those of both families. -/
theorem installed_iff : tables.Installed route ↔ route ∈ tables.routes.routes := by
  cases route <;> simp [Installed]

/-- Adding a route changes no other, but takes the place of one with its key. -/
theorem installed_of_add (h : tables.Sorted)
    (hdone : ∀ reason, (tables.perform changed.operation).value ≠ .error reason)
    (hinstalled : (tables.perform changed.operation).state.Installed route) :
    route = changed ∨ tables.Installed route ∧ ¬ route.SameKey changed := by
  have hsorted : tables.routes.Sorted := ⟨h.v4, h.v6⟩
  rw [perform_operation] at hdone hinstalled
  obtain ⟨-, what, hrefused⟩ | ⟨-, hput⟩ := Route.Table.add_cases changed
  · exact absurd (hrefused tables.routes).1 (hdone _)
  · have hstate : (tables.onRoutes (tables.routes.add changed)).state.routes =
        tables.routes.put changed := (hput tables.routes).2
    rw [installed_iff, hstate] at hinstalled
    rw [installed_iff]
    exact (hsorted.mem_put_iff changed).1 hinstalled

/-- An operation adds a route, or leaves the routes alone. -/
theorem route_or_routes_eq (tables : Tables) (operation : Operation) :
    (∃ route : Route, operation = route.operation) ∨
      (∀ route : Route, operation ≠ route.operation) ∧
        (tables.perform operation).state.routes = tables.routes := by
  cases operation with
  | addV4 route => exact .inl ⟨.v4 route, rfl⟩
  | addV6 route => exact .inl ⟨.v6 route, rfl⟩
  | enable | disable | join => exact .inr ⟨fun route => by cases route <;> exact nofun, rfl⟩

/-- A route that is installed after a deed was added by it, or was installed before and has not been
superseded. -/
theorem installed_undergo (hconsistent : tables.Consistent) (hsorted : tables.Sorted)
    {deed : Deed} (hinstalled : (tables.undergo settings deed).Installed route) :
    (∃ line, deed = .line line ∧ tables.Asks settings line route.operation) ∨
      tables.Installed route ∧ ¬ tables.Supersedes settings route deed := by
  cases deed with
  | enable name => exact .inr ⟨by cases route <;> exact hinstalled, id⟩
  | forget => cases route <;> cases hinstalled
  | line line =>
      obtain ⟨hnone, heq⟩ | ⟨operation, hasks, heq⟩ := undergo_line_cases settings tables line
      · rw [heq] at hinstalled
        exact .inr ⟨hinstalled, fun ⟨changed, hchanged, _⟩ => hnone _ hchanged⟩
      · rw [heq] at hinstalled
        -- No line asks for two operations, so this is the only one that could supersede the route.
        have honly : ∀ other, tables.Asks settings line other → other = operation :=
          fun other hother => Option.some.inj (Except.ok.inj (hother.symm.trans hasks))
        obtain ⟨added, rfl⟩ | ⟨hother, hroutes⟩ := route_or_routes_eq tables operation
        · have hdone : ∀ reason, (tables.perform added.operation).value ≠ .error reason := by
            intro reason hfailed
            have hmay := hconsistent.mayFail_of_perform ⟨line, hasks⟩ hfailed
            cases added <;> exact hmay
          obtain rfl | ⟨hold, hkey⟩ := installed_of_add hsorted hdone hinstalled
          · exact .inl ⟨line, rfl, hasks⟩
          · refine .inr ⟨hold, fun ⟨changed, hchanged, hsame⟩ => hkey ?_⟩
            rwa [Route.operation_injective (honly _ hchanged)] at hsame
        · have hold : tables.Installed route := by
            cases route with
            | v4 | v6 => rwa [Installed, hroutes] at hinstalled
          exact .inr ⟨hold, fun ⟨changed, hchanged, _⟩ => hother changed (honly _ hchanged).symm⟩

/-- After the deeds `before`, the line added the route, and none of the deeds `after` has superseded
it. -/
structure AddedBy (start : Tables) (settings : Settings) (route : Route) (before : List Deed)
    (line : Line) (after : List Deed) : Prop where
  asks : (start.undergoAll settings before).Asks settings line route.operation
  stays : ∀ middle deed rest, after = middle ++ deed :: rest →
    ¬ (start.undergoAll settings (before ++ .line line :: middle)).Supersedes settings route deed

/-- Nothing was forgotten since the line. -/
theorem AddedBy.forget_notMem {start : Tables} {before after : List Deed} {line : Line}
    (h : AddedBy start settings route before line after) : .forget ∉ after := by
  intro hmem
  obtain ⟨middle, rest, heq⟩ := List.append_of_mem hmem
  exact h.stays middle .forget rest heq trivial

/-- Every route that is installed was added by a line, and has not been superseded since. -/
theorem exists_addedBy {start : Tables} (hconsistent : start.Consistent) (hsorted : start.Sorted)
    (hempty : ∀ route, ¬ start.Installed route) (journal : List Deed)
    (hinstalled : (start.undergoAll settings journal).Installed route) :
    ∃ before line after, journal = before ++ .line line :: after ∧
      AddedBy start settings route before line after := by
  -- The last deed tells whether the line is that, or one before it.
  induction journal using List.reverseRecOn with
  | nil => exact absurd hinstalled (hempty route)
  | append_singleton journal deed ih =>
      have hconsistent' := hconsistent.undergoAll settings journal
      have hsorted' := hsorted.undergoAll settings journal
      rw [undergoAll, List.foldl_concat] at hinstalled
      obtain ⟨line, rfl, hasks⟩ | ⟨hold, hstays⟩ :=
        installed_undergo hconsistent' hsorted' hinstalled
      · exact ⟨journal, line, [], rfl, hasks, fun middle _ _ heq => by simp at heq⟩
      · obtain ⟨before, line, after, rfl, hadded⟩ := ih hold
        refine ⟨before, line, after ++ [deed], by simp, hadded.asks, ?_⟩
        intro middle other rest heq
        rcases List.eq_nil_or_concat rest with rfl | ⟨rest, last, rfl⟩
        · obtain ⟨rfl, hlast⟩ := List.append_inj' heq rfl
          obtain rfl : deed = other := by simpa using hlast
          exact hstays
        · rw [List.concat_eq_append, ← List.cons_append, ← List.append_assoc] at heq
          exact hadded.stays middle other rest (List.append_inj' heq rfl).1

end Tables

end StaticMulticast
