import StaticMulticast.Proofs.Daemon.History
import StaticMulticast.Proofs.Tables.Journal

/-!
# The journal of a daemon

What the tables of a daemon underwent follows from its steps and from the files that it found
(`Daemon.after_tables`). So every route of a daemon can be traced to its line, and from there on to
what became of the interfaces that the line names (`Daemon.route_slots_held_until_disabled`).
-/

namespace StaticMulticast

open StaticMulticast.Configuration
open StaticMulticast.Tables (Deed)

/-! ## Deeds of larger operations -/

namespace Tables

variable {settings : Settings}

/-- Deeds that follow each other can be undergone in two parts. -/
theorem undergoAll_append (tables : Tables) (first second : List Deed) :
    tables.undergoAll settings (first ++ second) =
      (tables.undergoAll settings first).undergoAll settings second :=
  List.foldl_append

/-- Enabling several interfaces is enabling each of them. -/
theorem undergoAll_enable (tables : Tables) (names : List String) :
    tables.undergoAll settings (names.map .enable) =
      { tables with registry := (tables.registry.enableEach names).state } := by
  induction names generalizing tables with
  | nil => rfl
  | cons name rest ih =>
      rw [Registry.enableEach_cons_state]
      exact ih (tables.perform (.enable name defaultThreshold)).state

/-- Handling lines is undergoing each of them. -/
theorem undergoAll_lines (afterwards : Tables → Outcome Tables Event (Except Failure Unit))
    (number : Nat) (lines : List Line) (tables : Tables) :
    tables.undergoAll settings (lines.map .line) =
      (Pass.run (collaborators afterwards) settings number lines tables).state := by
  induction lines generalizing number tables with
  | nil => rfl
  | cons line rest ih =>
      have hline : tables.undergo settings (.line line) =
          (Pass.handle (collaborators afterwards) settings number line tables).state := by
        rw [Pass.handle_state]
        rfl
      simp only [List.map_cons, undergoAll, List.foldl_cons, hline, Pass.run]
      exact ih (number + 1) _

end Tables

namespace Daemon

/-! ## Deeds of a daemon -/

/-- What the tables undergo when interfaces are enabled by default. -/
def defaults (daemon : Daemon) : List Deed :=
  if daemon.setup.enablesByDefault then
    (daemon.tables.registry.interfaces.map Interface.name).map .enable
  else []

/-- What the tables undergo when the configuration is read. -/
def reading (daemon : Daemon) (environment : Host.Environment) : List Deed :=
  match environment.openFile daemon.setup.configFile with
  | .error _ => []
  | .ok reads => (readLines Pass.fileCapacity reads).1.map .line

/-- What the tables undergo in a step. -/
def deeds (daemon : Daemon) : Step → List Deed
  | .enableByDefault => daemon.defaults
  | .load environment => daemon.reading environment
  | .reload environment =>
      .forget :: daemon.forget.state.defaults ++ daemon.reading environment

/-- What the tables undergo in some steps. -/
def journal (daemon : Daemon) : List Step → List Deed
  | [] => []
  | taken :: rest => daemon.deeds taken ++ (daemon.step taken).journal rest

/-- Enabling by default does to the tables what it says. -/
theorem enableByDefault_tables (daemon : Daemon) :
    daemon.enableByDefault.state.tables =
      daemon.tables.undergoAll daemon.setup.settings daemon.defaults := by
  unfold enableByDefault defaults
  split
  · exact (Tables.undergoAll_enable daemon.tables _).symm
  · rfl

/-- Reading the configuration does to the tables what its lines say. -/
theorem load_tables (daemon : Daemon) (environment : Host.Environment) :
    (daemon.load environment).state.tables =
      daemon.tables.undergoAll daemon.setup.settings (daemon.reading environment) := by
  refine (Pass.load_state (fun _ => rfl) environment daemon.setup.configFile daemon.tables).trans ?_
  unfold reading
  cases environment.openFile daemon.setup.configFile with
  | error fault => rfl
  | ok reads => exact (Tables.undergoAll_lines _ 1 _ daemon.tables).symm

/-- A step does to the tables what its deeds do. -/
theorem step_tables (daemon : Daemon) (taken : Step) :
    (daemon.step taken).tables =
      daemon.tables.undergoAll daemon.setup.settings (daemon.deeds taken) := by
  cases taken with
  | enableByDefault => exact daemon.enableByDefault_tables
  | load environment => exact daemon.load_tables environment
  | reload environment =>
      let forgotten := daemon.forget.state
      let enabled := forgotten.enableByDefault.state
      have hsetup : enabled.setup = daemon.setup := step_setup forgotten .enableByDefault
      have hreading : enabled.reading environment = daemon.reading environment := by
        unfold reading
        rw [hsetup]
      have htables : enabled.tables =
          forgotten.tables.undergoAll daemon.setup.settings forgotten.defaults :=
        forgotten.enableByDefault_tables
      have hloaded := enabled.load_tables environment
      rw [hsetup, hreading, htables, ← Tables.undergoAll_append] at hloaded
      exact hloaded

/-- The tables of a daemon are those that its journal leads to. -/
theorem after_tables (daemon : Daemon) (steps : List Step) :
    (daemon.after steps).tables =
      daemon.tables.undergoAll daemon.setup.settings (daemon.journal steps) := by
  induction steps generalizing daemon with
  | nil => rfl
  | cons taken rest ih =>
      rw [journal, Tables.undergoAll_append, ← step_tables, ← step_setup daemon taken]
      exact ih (daemon.step taken)

/-- What a line says that is read of the configuration is what one of the lines of its data says. -/
theorem statement?_mem_of_reading {daemon : Daemon} {environment : Host.Environment}
    (chunks : List (List UInt8))
    (hopen : environment.openFile daemon.setup.configFile = .ok (chunks.map .data))
    (settings : Settings) {line : Line} (h : .line line ∈ daemon.reading environment) :
    line.statement? settings ∈
      (wholeLines chunks.flatten).map fun octets => (Line.whole octets).statement? settings := by
  rw [reading, hopen] at h
  obtain ⟨_, hread, heq⟩ := List.mem_map.1 h
  cases heq
  rw [← map_statement?_readLines settings (show 0 < Pass.fileCapacity by decide)]
  exact List.mem_map_of_mem hread

/-! ## Routes and the interfaces of their lines -/

/-- A new daemon has tables that are consistent and sorted, without routes. -/
theorem invariants_fresh (setup : Setup) (interfaces : List (String × Nat)) :
    (fresh setup interfaces).tables.Consistent ∧ (fresh setup interfaces).tables.Sorted ∧
      ∀ route, ¬ (fresh setup interfaces).tables.Installed route := by
  refine ⟨Registry.consistent_known setup.ipv6 interfaces, Tables.sorted_initial _, ?_⟩
  intro route hinstalled
  cases route <;> cases hinstalled

/-- Every route that a daemon has installed was added by a line of its journal, and nothing has
superseded it since. When the line was handled, the interfaces that it names held the slots of the
route. Each of them holds its slot still, unless a later line has disabled it. -/
theorem route_slots_held_until_disabled (setup : Setup) (interfaces : List (String × Nat))
    (steps : List Step) (route : Route)
    (hinstalled : ((fresh setup interfaces).after steps).tables.Installed route) :
    let start := (fresh setup interfaces).tables
    let now := ((fresh setup interfaces).after steps).tables.registry.forwarding?
    ∃ before line after inbound source group outbound,
      (fresh setup interfaces).journal steps = before ++ .line line :: after ∧
      Tables.AddedBy start setup.settings route before line after ∧
      line.statement? setup.settings = some (.route inbound source group outbound) ∧
      let past := (start.undergoAll setup.settings before).registry.forwarding?
      let keeps := fun name slot => Holds past route.family name slot ∧
        (Holds now route.family name slot ∨
          ∃ other, .line other ∈ after ∧ Tables.Disables setup.settings other name)
      keeps inbound route.inbound ∧ ∀ exit ∈ route.outbound, ∃ name ∈ outbound,
        keeps name exit.slot := by
  intro start now
  obtain ⟨hconsistent, hsorted, hempty⟩ := invariants_fresh setup interfaces
  have htables : ((fresh setup interfaces).after steps).tables =
      start.undergoAll setup.settings ((fresh setup interfaces).journal steps) :=
    (fresh setup interfaces).after_tables steps
  rw [htables] at hinstalled
  obtain ⟨before, line, after, hjournal, hadded⟩ :=
    Tables.exists_addedBy hconsistent hsorted hempty _ hinstalled
  obtain ⟨statement, hline, hstatement⟩ := Line.operation_eq_ok_iff.1 hadded.asks
  obtain ⟨inbound, source, group, outbound, rfl, hnames⟩ :=
    Operation.names_of_ofStatement hstatement
  refine ⟨before, line, after, inbound, source, group, outbound, hjournal, hadded, hline, ?_⟩
  intro past keeps
  have hkeeps : ∀ name slot, Holds past route.family name slot → keeps name slot := by
    intro name slot hholds
    refine ⟨hholds, ?_⟩
    have hpast := hconsistent.undergoAll setup.settings before
    have hforget : Deed.forget ∉ .line line :: after := by
      simpa using hadded.forget_notMem
    obtain hkept | ⟨other, hother, hdisables⟩ :=
      hpast.holds_undergoAll setup.settings hholds hforget
    · refine .inl ?_
      rwa [← Tables.undergoAll_append, ← hjournal, ← htables] at hkept
    · rcases List.mem_cons.1 hother with heq | hother
      -- The line itself is about a route, and so it disables no interface.
      · obtain rfl : other = line := Deed.line.inj heq
        obtain ⟨threshold, hdisables⟩ := hdisables
        cases hline.symm.trans hdisables
      · exact .inr ⟨other, hother, hdisables⟩
  refine ⟨hkeeps inbound route.inbound hnames.inbound, fun exit hexit => ?_⟩
  obtain ⟨name, hname, hholds⟩ := hnames.outbound exit hexit
  exact ⟨name, hname, hkeeps name exit.slot hholds⟩

/-- A route over two interfaces that were enabled by default. They held its slots when its line was
handled, and as no line disables them they hold them still. -/
theorem route_slots_held_until_disabled_by_default :
    let file := "mroute from eth0 group 239.1.1.1 to eth1\n".toUTF8.toList
    let setup : Setup := ⟨defaultConfigFile, none, none, .human, true, true⟩
    let daemon := fresh setup [("eth0", 1), ("eth1", 2)]
    let environment : Host.Environment := ⟨fun _ => .ok [.data file], fun _ => .error .missing⟩
    let steps := [Step.enableByDefault, Step.load environment]
    let route : Route := .v4 ⟨0, .unspecified, ⟨239, 1, 1, 1⟩, 0, [⟨1, 1⟩]⟩
    let now := (daemon.after steps).tables.registry.forwarding?
    (daemon.after steps).tables.Installed route ∧
      ∃ before line after, daemon.journal steps = before ++ .line line :: after ∧
        line.statement? setup.settings = some (.route "eth0" none "239.1.1.1" ["eth1"]) ∧
        let past := (daemon.tables.undergoAll setup.settings before).registry.forwarding?
        (Holds past .inet "eth0" 0 ∧ Holds past .inet "eth1" 1) ∧
          Holds now .inet "eth0" 0 ∧ Holds now .inet "eth1" 1 := by
  intro file setup daemon environment steps route now
  have htables : (daemon.after steps).tables = (Pass.run
      (Tables.collaborators Tables.nothingAfterwards) setup.settings 1
      ((wholeLines [file].flatten).map .whole) daemon.enableByDefault.state.tables).state :=
    load_tables_of_data rfl
  have hinstalled : (daemon.after steps).tables.Installed route := by
    show ⟨0, .unspecified, ⟨239, 1, 1, 1⟩, 0, [⟨1, 1⟩]⟩ ∈ (daemon.after steps).tables.routes.v4
    rw [htables]
    decide +kernel
  -- There is one line, which is about the route, and so no line disables an interface.
  have hstatement : ∀ line, .line line ∈ daemon.journal steps →
      line.statement? setup.settings = some (.route "eth0" none "239.1.1.1" ["eth1"]) := by
    intro line hline
    have hreading : .line line ∈ daemon.reading environment := by
      have hjournal : daemon.journal steps =
          [.enable "eth0", .enable "eth1"] ++ (daemon.reading environment ++ []) := rfl
      simpa [hjournal] using hline
    have hmem := statement?_mem_of_reading [file] rfl setup.settings hreading
    have hstatements : (wholeLines [file].flatten).map
        (fun octets => (Line.whole octets).statement? setup.settings) =
          [some (.route "eth0" none "239.1.1.1" ["eth1"])] := by
      decide +kernel
    rwa [hstatements, List.mem_singleton] at hmem
  obtain ⟨before, line, after, inbound, source, group, outbound, hjournal, -, hline, hin, hout⟩ :=
    route_slots_held_until_disabled setup _ steps route hinstalled
  have hsays := hstatement line (hjournal ▸ List.mem_append_right before List.mem_cons_self)
  obtain ⟨rfl, -, -, rfl⟩ := Statement.route.inj (Option.some.inj (hline.symm.trans hsays))
  have hkept : ∀ name, ¬ ∃ other, .line other ∈ after ∧
      Tables.Disables setup.settings other name := by
    rintro name ⟨other, hother, threshold, hdisables⟩
    have hroute := hstatement other
      (hjournal ▸ List.mem_append_right before (List.mem_cons_of_mem _ hother))
    cases hdisables.symm.trans hroute
  obtain ⟨name, hname, houtPast, houtNow⟩ := hout ⟨1, 1⟩ List.mem_cons_self
  obtain rfl := List.mem_singleton.1 hname
  exact ⟨hinstalled, before, line, after, hjournal, hsays, ⟨hin.1, houtPast⟩,
    hin.2.resolve_right (hkept "eth0"), houtNow.resolve_right (hkept "eth1")⟩

/-- A route whose interfaces are disabled after it. Its slot to come in by is given to an interface
that no line about a route names, and its slot to go out by is free. -/
theorem slots_of_route_released :
    let file := ("\n".intercalate
      ["phyint eth0 enable", "phyint eth1 enable", "mroute from eth0 group 239.1.1.1 to eth1",
        "phyint eth0 disable", "phyint eth1 disable", "phyint eth2 enable"]).toUTF8.toList
    let setup : Setup := ⟨defaultConfigFile, none, none, .human, false, true⟩
    let daemon := fresh setup [("eth0", 1), ("eth1", 2), ("eth2", 3)]
    let environment : Host.Environment := ⟨fun _ => .ok [.data file], fun _ => .error .missing⟩
    let tables := (daemon.after [.load environment]).tables
    let route : Route := .v4 ⟨0, .unspecified, ⟨239, 1, 1, 1⟩, 0, [⟨1, 1⟩]⟩
    tables.Installed route ∧
      (∀ line, .line line ∈ daemon.journal [.load environment] → ∀ inbound source group outbound,
        line.statement? setup.settings = some (.route inbound source group outbound) →
          inbound = "eth0" ∧ outbound = ["eth1"]) ∧
      ¬ Names tables.registry.forwarding? "eth0" ["eth1"] route ∧
      Holds tables.registry.forwarding? .inet "eth2" 0 ∧
      ∀ interface ∈ tables.registry.interfaces, interface.vif ≠ some 1 := by
  intro file setup daemon environment tables route
  have htables : tables = (Pass.run (Tables.collaborators Tables.nothingAfterwards) setup.settings
      1 ((wholeLines [file].flatten).map .whole) daemon.tables).state :=
    load_tables_of_data rfl
  obtain ⟨lines, hlines⟩ : ∃ lines, wholeLines [file].flatten = lines := ⟨_, rfl⟩
  rw [hlines] at htables
  -- All that is said of the lines and of the tables that they leave is computed at once.
  have hfacts : (lines.map fun octets => (Line.whole octets).statement? setup.settings) =
        [some (.interface "eth0" true 1), some (.interface "eth1" true 1),
          some (.route "eth0" none "239.1.1.1" ["eth1"]), some (.interface "eth0" false 1),
          some (.interface "eth1" false 1), some (.interface "eth2" true 1)] ∧
      ⟨0, .unspecified, ⟨239, 1, 1, 1⟩, 0, [⟨1, 1⟩]⟩ ∈ tables.routes.v4 ∧
      ¬ Holds tables.registry.forwarding? .inet "eth0" 0 ∧
      Holds tables.registry.forwarding? .inet "eth2" 0 ∧
      ∀ interface ∈ tables.registry.interfaces, interface.vif ≠ some 1 := by
    rw [htables, ← hlines]
    decide +kernel
  obtain ⟨hstatements, hinstalled, hleft, hgiven, hfree⟩ := hfacts
  refine ⟨hinstalled, ?_, fun h => hleft h.inbound, hgiven, hfree⟩
  intro line hline inbound source group outbound hstatement
  have hjournal : daemon.journal [.load environment] = daemon.reading environment ++ [] := rfl
  rw [hjournal, List.append_nil] at hline
  have hmem := statement?_mem_of_reading [file] rfl setup.settings hline
  rw [hlines, hstatements, hstatement] at hmem
  simp only [List.mem_cons, Option.some.injEq, reduceCtorEq, Statement.route.injEq,
    List.not_mem_nil, or_false, false_or] at hmem
  exact ⟨hmem.1, hmem.2.2.2⟩

end Daemon

end StaticMulticast
