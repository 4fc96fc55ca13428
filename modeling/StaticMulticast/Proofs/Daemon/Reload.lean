import StaticMulticast.Daemon.Basic
import StaticMulticast.Proofs.Configuration.Chunks
import StaticMulticast.Proofs.Configuration.Pass
import StaticMulticast.Proofs.Interface.Reset

/-!
# Reloading and restarting

However the daemon came to its state, forgetting everything but which interfaces there are brings it
back to the state in which it started. `Tables.Origin` is the invariant that carries this through
any history. So reloading the configuration leaves the state that a daemon leaves which is started
afresh (`Daemon.reload_eq_restart`).
-/

namespace StaticMulticast

/-! ## What no history changes -/

/-- The tables have the interfaces of `registry`, whatever else has become of them. -/
structure Tables.Origin (registry : Registry) (tables : Tables) : Prop where
  consistent : tables.registry.Consistent
  reset_eq : tables.registry.reset = registry

namespace Tables.Origin

variable {registry : Registry} {tables : Tables}

/-- New tables over known interfaces originate from these. -/
theorem initial_known (ipv6 : Bool) (interfaces : List (String × Nat)) :
    Origin (.known ipv6 interfaces) (.initial (.known ipv6 interfaces)) :=
  ⟨Registry.consistent_known ipv6 interfaces, Registry.reset_known ipv6 interfaces⟩

/-- Enabling every interface keeps the origin. -/
theorem enableAll (h : Origin registry tables) :
    Origin registry { tables with registry := tables.registry.enableAll.state } where
  consistent := h.consistent.enableEach _
  reset_eq := (h.consistent.reset_enableEach _).trans h.reset_eq

/-- The operation of a line keeps the origin. -/
theorem perform (h : Origin registry tables) (operation : Configuration.Operation) :
    Origin registry (tables.perform operation).state := by
  cases operation with
  | enable name threshold =>
      exact ⟨h.consistent.enable name threshold,
        (h.consistent.reset_enable name threshold).trans h.reset_eq⟩
  | disable name =>
      exact ⟨h.consistent.disable name, (h.consistent.reset_disable name).trans h.reset_eq⟩
  | join | addV4 | addV6 => exact ⟨h.consistent, h.reset_eq⟩

end Tables.Origin

namespace Daemon

/-! ## The history of a daemon -/

/-- Something that the daemon does. What the host has on it may differ every time. -/
inductive Step where
  | enableByDefault
  | load (environment : Host.Environment)
  | reload (environment : Host.Environment)

/-- The daemon after a step. -/
def step (daemon : Daemon) : Step → Daemon
  | .enableByDefault => daemon.enableByDefault.state
  | .load environment => (daemon.load environment).state
  | .reload environment => (daemon.reload environment).state

/-- The daemon after some steps. -/
def after (daemon : Daemon) (steps : List Step) : Daemon :=
  steps.foldl step daemon

/-- A new daemon over interfaces of which nothing is known but name and index. -/
def fresh (setup : Setup) (interfaces : List (String × Nat)) : Daemon :=
  .initial setup (.known setup.ipv6 interfaces)

/-- A new daemon that has enabled what it enables by default, and then read its configuration. -/
def started (setup : Setup) (interfaces : List (String × Nat)) (environment : Host.Environment) :
    Daemon :=
  ((fresh setup interfaces).enableByDefault.state.load environment).state

/-- The daemon keeps its setup and the interfaces of `registry`. -/
structure Origin (setup : Setup) (registry : Registry) (daemon : Daemon) : Prop where
  setup_eq : daemon.setup = setup
  tables : daemon.tables.Origin registry

namespace Origin

variable {setup : Setup} {registry : Registry} {daemon : Daemon}

/-- A new daemon has the origin that its interfaces make. -/
theorem fresh (setup : Setup) (interfaces : List (String × Nat)) :
    Origin setup (.known setup.ipv6 interfaces) (fresh setup interfaces) :=
  ⟨rfl, .initial_known setup.ipv6 interfaces⟩

/-- Enabling what is enabled by default keeps the origin. -/
theorem enableByDefault (h : Origin setup registry daemon) :
    Origin setup registry daemon.enableByDefault.state := by
  unfold Daemon.enableByDefault
  split
  · exact ⟨h.setup_eq, h.tables.enableAll⟩
  · exact h

/-- Reading the configuration keeps the origin, whatever the file is. -/
theorem load (h : Origin setup registry daemon) (environment : Host.Environment) :
    Origin setup registry (daemon.load environment).state := by
  -- The script runs outside: it sees the tables, but it cannot change them.
  exact ⟨h.setup_eq, Configuration.Pass.load_keeps (fun _ operation h _ => h.perform operation)
    (fun _ h => h) environment daemon.setup.configFile h.tables⟩

/-- Forgetting brings a daemon back to its origin. -/
theorem forget_eq (h : Origin setup registry daemon) :
    daemon.forget.state = initial setup registry := by
  obtain ⟨own, tables⟩ := daemon
  obtain ⟨hsetup, -, hreset⟩ := h
  show Daemon.mk own ⟨tables.registry.reset, .empty, .empty⟩ = ⟨setup, ⟨registry, .empty, .empty⟩⟩
  rw [hreset]
  exact congrArg (Daemon.mk · _) hsetup

end Origin

/-! ## Reloading -/

variable {setup : Setup}

/-- What a daemon comes to by reading its configuration depends on the host only through the
file. -/
theorem load_state_congr {daemon : Daemon} {now other : Host.Environment}
    (hfile : now.openFile daemon.setup.configFile = other.openFile daemon.setup.configFile) :
    (daemon.load now).state = (daemon.load other).state := by
  refine congrArg (mk daemon.setup) (Configuration.Pass.load_state_congr ?_ ?_ ?_ ?_ hfile _)
  · rfl
  · rfl
  · exact fun _ => rfl
  · exact fun _ => rfl

/-- The tables that the daemon leaves which has read a file are those that its lines leave. -/
theorem load_tables_of_data {daemon : Daemon} {environment : Host.Environment}
    {chunks : List (List UInt8)}
    (hopen : environment.openFile daemon.setup.configFile = .ok (chunks.map .data)) :
    (daemon.load environment).state.tables =
      (Configuration.Pass.run (Tables.collaborators Tables.nothingAfterwards)
        daemon.setup.settings 1 ((Configuration.wholeLines chunks.flatten).map .whole)
        daemon.tables).state := by
  refine (Configuration.Pass.load_state (fun _ => rfl) environment daemon.setup.configFile
    daemon.tables).trans ?_
  rw [hopen]
  simp only [Configuration.Pass.parse_data (show 0 < Configuration.Pass.fileCapacity by decide)]
  refine congrArg Outcome.state (Configuration.Pass.run_congr ?_ ?_ 1 _ daemon.tables)
  · rfl
  · rfl

/-- A reload is a restart from what forgetting leaves. -/
theorem reload_state (daemon : Daemon) (environment : Host.Environment) :
    (daemon.reload environment).state =
      (daemon.forget.state.enableByDefault.state.load environment).state :=
  rfl

/-- Each step keeps the origin of the daemon. -/
theorem Origin.step {registry : Registry} {daemon : Daemon} (h : Origin setup registry daemon)
    (hinitial : Origin setup registry (initial setup registry)) (taken : Step) :
    Origin setup registry (daemon.step taken) := by
  cases taken with
  | enableByDefault => exact h.enableByDefault
  | load environment => exact h.load environment
  | reload environment =>
      show Origin setup registry (daemon.reload environment).state
      -- Whatever came before, what is left after forgetting is the state at the start.
      rw [reload_state, h.forget_eq]
      exact hinitial.enableByDefault.load environment

/-- Every history keeps the origin of the daemon. -/
theorem Origin.after {registry : Registry} {daemon : Daemon} (h : Origin setup registry daemon)
    (hinitial : Origin setup registry (initial setup registry)) (steps : List Step) :
    Origin setup registry (daemon.after steps) := by
  induction steps generalizing daemon with
  | nil => exact h
  | cons taken rest ih => exact ih (h.step hinitial taken)

/-- Whatever a daemon did before, a reload leaves it in the state in which a new one would be that
finds the same file. So that state depends on nothing but the setup, the interfaces and the file. -/
theorem reload_eq_restart (setup : Setup) (interfaces : List (String × Nat)) (steps : List Step)
    (now other : Host.Environment)
    (hfile : now.openFile setup.configFile = other.openFile setup.configFile) :
    (((fresh setup interfaces).after steps).reload now).state = started setup interfaces other := by
  have hfresh := Origin.fresh setup interfaces
  have hforget := (hfresh.after hfresh steps).forget_eq
  have hsetup := hfresh.enableByDefault.setup_eq
  rw [reload_state, hforget]
  exact load_state_congr (hsetup.symm ▸ hfile)

/-- A file that became empty after an earlier one could not be read to its end. -/
theorem reload_eq_restart_emptied :
    (((fresh ⟨defaultConfigFile, none, none, .human, true, true⟩ [("lo", 1), ("eth0", 2)]).after
        [.enableByDefault,
          .load ⟨fun _ => .ok [.data "phyint lo disable\nphy".toUTF8.toList, .failure .missing],
            fun _ => .error .missing⟩]).reload
        ⟨fun _ => .ok [], fun _ => .error .missing⟩).state =
      started ⟨defaultConfigFile, none, none, .human, true, true⟩ [("lo", 1), ("eth0", 2)]
        ⟨fun _ => .ok [], fun _ => .ok (.code 0)⟩ :=
  reload_eq_restart _ _ _ _ _ rfl

end Daemon

end StaticMulticast
