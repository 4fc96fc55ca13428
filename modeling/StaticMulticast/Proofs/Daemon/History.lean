import StaticMulticast.Proofs.Daemon.Reload

/-!
# What a daemon keeps

A daemon changes its tables in three ways: it enables interfaces, it carries out operations that
lines ask for, and it forgets. So what these three keep is kept whatever the daemon does, in any
order and over any files (`Daemon.after_keeps`).
-/

namespace StaticMulticast.Daemon

/-- No step changes the setup. -/
@[simp] theorem step_setup (daemon : Daemon) (taken : Step) :
    (daemon.step taken).setup = daemon.setup := by
  have henabled : ∀ current : Daemon, current.enableByDefault.state.setup = current.setup := by
    intro current
    unfold enableByDefault
    split <;> rfl
  cases taken with
  | enableByDefault => exact henabled daemon
  | load environment => rfl
  | reload environment => exact henabled daemon.forget.state

variable {setup : Setup} {keeps : Tables → Prop}
  (henable : ∀ tables name, keeps tables →
    keeps (tables.perform (.enable name defaultThreshold)).state)
  (hperform : ∀ tables operation, keeps tables →
    operation.AskedFor setup.settings tables.registry.forwarding? →
      keeps (tables.perform operation).state)
  (hforget : ∀ tables, keeps tables → keeps (.initial tables.registry.reset))

section Enabling

include henable

/-- What enabling an interface keeps, enabling what is enabled by default keeps. -/
theorem enableByDefault_keeps {daemon : Daemon} (h : keeps daemon.tables) :
    keeps daemon.enableByDefault.state.tables := by
  unfold enableByDefault
  split
  · exact Registry.enableEach_keeps
      (fun registry name hregistry => henable { daemon.tables with registry } name hregistry) h _
  · exact h

end Enabling

section Loading

include hperform

/-- What every operation of a line keeps, reading the configuration keeps. -/
theorem load_keeps {daemon : Daemon} (hsetup : daemon.setup = setup) (h : keeps daemon.tables)
    (environment : Host.Environment) : keeps (daemon.load environment).state.tables := by
  subst hsetup
  refine Configuration.Pass.load_keeps ?_ ?_ environment daemon.setup.configFile h
  · exact hperform
  · exact fun _ h => h

end Loading

include henable hperform hforget

/-- What enabling, the operations of lines and forgetting keep, a step keeps. -/
theorem step_keeps {daemon : Daemon} (hsetup : daemon.setup = setup) (h : keeps daemon.tables)
    (taken : Step) : keeps (daemon.step taken).tables := by
  cases taken with
  | enableByDefault => exact enableByDefault_keeps henable h
  | load environment => exact load_keeps hperform hsetup h environment
  | reload environment =>
      have hforgotten : keeps daemon.forget.state.tables := hforget daemon.tables h
      have henabled := enableByDefault_keeps henable hforgotten
      refine load_keeps hperform ?_ henabled environment
      exact (step_setup daemon.forget.state .enableByDefault).trans hsetup

/-- What enabling, the operations of lines and forgetting keep, a daemon keeps whatever it does. -/
theorem after_keeps {daemon : Daemon} (hsetup : daemon.setup = setup) (h : keeps daemon.tables)
    (steps : List Step) : keeps (daemon.after steps).tables := by
  induction steps generalizing daemon with
  | nil => exact h
  | cons taken rest ih =>
      exact ih ((step_setup daemon taken).trans hsetup)
        (step_keeps henable hperform hforget hsetup h taken)

end StaticMulticast.Daemon
