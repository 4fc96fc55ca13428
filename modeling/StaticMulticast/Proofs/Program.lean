import StaticMulticast.Program.Run
import StaticMulticast.Proofs.Daemon.Soundness
import StaticMulticast.Proofs.Except
import StaticMulticast.Proofs.Signal.Interleaving

/-!
# Runs of the program

Whatever the computer that the program runs on does, and whatever happens to the program from
outside, its two threads only take steps that they can take (`Program.run_interleaves`). So what is
true of the threads however they interleave is true of the program. The daemon in it is one that
steps lead to from a new one (`Program.run_reaches`), and what is true after any steps is true of it
(`Program.run_sound`). Nothing is known of the computer here but that it answers what it is asked.
-/

namespace StaticMulticast

/-! ## Moves of the two threads -/

namespace Signal

variable {daemon : Daemon} {signals : List Signal} {machine : Machine}
  {events : List StaticMulticast.Event} {result : Machine.Result}

/-- Whether the main thread has a step left does not depend on the host. -/
theorem Machine.mainStep_eq_none_iff (machine : Machine) (environment other : Host.Environment) :
    machine.mainStep environment = none ↔ machine.mainStep other = none := by
  unfold mainStep
  cases machine.phase with
  | loading => exact iff_of_false nofun nofun
  | exited => exact Iff.rfl
  | waiting =>
      cases machine.queue with
      | nil => exact Iff.rfl
      | cons message rest => cases message <;> exact iff_of_false nofun nofun

/-- Some moves with which the signals are delivered lead to the machine, and the main thread reports
the events. -/
def Reached (daemon : Daemon) (signals : List Signal) (machine : Machine)
    (events : List StaticMulticast.Event) : Prop :=
  ∃ moves, Interleaving daemon moves machine events ∧ Move.signals moves = signals

namespace Reached

/-- The threads start somewhere. -/
theorem start (daemon : Daemon) : Reached daemon [] (.start daemon) [] :=
  ⟨[], .start, rfl⟩

/-- One more signal can be delivered. -/
theorem deliver (h : Reached daemon signals machine events) (signal : Signal) :
    Reached daemon (signals ++ [signal]) (machine.deliver signal) events := by
  obtain ⟨moves, hmoves, rfl⟩ := h
  exact ⟨_, hmoves.deliver signal, Move.signals_deliver moves signal⟩

/-- The handler can take the signals that are delivered. -/
theorem handleAll (h : Reached daemon signals machine events) :
    Reached daemon signals machine.handleAll.state events := by
  unfold Machine.handleAll
  generalize machine.delivered.length = bound
  induction bound generalizing machine with
  | zero => exact h
  | succ bound ih =>
      unfold Machine.repeatedly
      cases hstep : machine.handlerStep with
      | none => exact h
      | some result =>
          obtain ⟨moves, hmoves, rfl⟩ := h
          exact ih ⟨_, hmoves.handle hstep, Move.signals_handle moves⟩

/-- The main thread can take a step in any environment. -/
theorem work (h : Reached daemon signals machine events) {environment : Host.Environment}
    (hstep : machine.mainStep environment = some result) :
    Reached daemon signals result.state (events ++ result.events) := by
  obtain ⟨moves, hmoves, rfl⟩ := h
  exact ⟨_, hmoves.work environment hstep, Move.signals_work moves environment⟩

end Reached

/-- The handler leaves the daemon alone. -/
theorem Machine.daemon_of_handlerStep (h : machine.handlerStep = some result) :
    result.state.daemon = machine.daemon := by
  unfold handlerStep at h
  split at h
  · cases h
    dsimp only
    split <;> rfl
  · cases h

/-- The main thread reads the configuration, or leaves the daemon alone. -/
theorem Machine.daemon_of_mainStep {environment : Host.Environment}
    (h : machine.mainStep environment = some result) :
    ∃ steps, result.state.daemon = machine.daemon.after steps := by
  unfold mainStep at h
  split at h
  · cases h
  · cases h
    exact ⟨[.load environment], rfl⟩
  · split at h
    · cases h
      exact ⟨[.reload environment], rfl⟩
    · cases h
      exact ⟨[], rfl⟩
    · split at h
      · cases h
      · cases h
        exact ⟨[], rfl⟩

/-- Whatever moves lead to the machine, its daemon is one that steps lead to. -/
theorem Interleaving.exists_steps {moves : List Move}
    (h : Interleaving daemon moves machine events) :
    ∃ steps, machine.daemon = daemon.after steps := by
  induction h with
  | start => exact ⟨[], rfl⟩
  | deliver _ _ ih => exact ih
  | handle _ hstep ih => rwa [Machine.daemon_of_handlerStep hstep]
  | work environment _ hstep ih =>
      obtain ⟨steps, hsteps⟩ := ih
      obtain ⟨further, hfurther⟩ := Machine.daemon_of_mainStep hstep
      refine ⟨steps ++ further, ?_⟩
      rw [hfurther, hsteps, Daemon.after, Daemon.after, Daemon.after, List.foldl_append]

end Signal

namespace Program

open Host (Platform)

variable {Computer LogFile : Type} [Platform Computer LogFile]

/-! ## What happens in a run -/

/-- The signal that comes from outside, if it is one that does. -/
def Stimulus.signal? : Stimulus → Option Signal
  | .signal given => some given
  | .change _ => none

/-- An operation comes to what it does in some environment, whatever its script changes. -/
theorem exists_environment {State : Type} (report : List Event → Computer → Computer)
    (computer : Computer) (operate : Host.Environment → Outcome State Event Unit) :
    ∃ environment, (settle report computer operate).1 = operate environment := by
  unfold settle
  dsimp only
  split <;> exact ⟨_, rfl⟩

namespace Run

/-- The run has got where its threads can get from where the program was prepared, and the main
thread has reported what it did. The signals that have come from outside are among those delivered,
as long as the program is not killed. -/
def Accounted (prepared : Outcome Daemon Event Unit) (outside : List Signal)
    (run : Run Computer LogFile) : Prop :=
  ∃ signals events, Signal.Reached prepared.state signals run.machine events ∧
    run.mainEvents = prepared.events ++ events ∧
    (run.isKilled = false → outside.Sublist signals)

variable {prepared : Outcome Daemon Event Unit} {outside : List Signal}
  {run : Run Computer LogFile}

namespace Accounted

/-- A signal from a script is one more that is delivered. -/
theorem receive (h : run.Accounted prepared outside) (signal : Signal) :
    (run.receive signal).Accounted prepared outside := by
  obtain ⟨signals, events, hreached, hevents, houtside⟩ := h
  exact ⟨_, events, (hreached.deliver signal).handleAll, hevents,
    fun halive => (houtside halive).trans (List.sublist_append_left signals [signal])⟩

/-- A signal from outside is delivered. -/
theorem receive_outside (h : run.Accounted prepared outside) (signal : Signal) :
    (run.receive signal).Accounted prepared (outside ++ [signal]) := by
  obtain ⟨signals, events, hreached, hevents, houtside⟩ := h
  exact ⟨_, events, (hreached.deliver signal).handleAll, hevents,
    fun halive => (houtside halive).append (.refl [signal])⟩

/-- So are several signals from a script. None of them kills the program. -/
theorem receive_all (h : run.Accounted prepared outside) (signals : List Signal) :
    (signals.foldl Run.receive run).Accounted prepared outside ∧
      (signals.foldl Run.receive run).isKilled = run.isKilled := by
  induction signals generalizing run with
  | nil => exact ⟨h, rfl⟩
  | cons signal rest ih => exact ih (h.receive signal)

/-- The signals that scripts have sent are delivered, or they kill the program. -/
theorem takeSignals (h : run.Accounted prepared outside) :
    run.takeSignals.Accounted prepared outside := by
  have hother : { run with computer := (Platform.takeSignals run.computer).2 }.Accounted prepared
      outside := h
  obtain ⟨⟨signals, events, hreached, hevents, houtside⟩, halive⟩ := hother.receive_all
    ((Platform.takeSignals run.computer).1.filterMap Signal.ofNumber?)
  refine ⟨signals, events, hreached, hevents, fun hspared => houtside ?_⟩
  rw [halive]
  exact (Bool.or_eq_false_iff.1 hspared).1

/-- The main thread takes its steps, and the handler takes the signals that come meanwhile. -/
theorem work (h : run.Accounted prepared outside) (bound : Nat) :
    (Run.work bound run).Accounted prepared outside := by
  induction bound generalizing run with
  | zero => exact h
  | succ bound ih =>
      unfold Run.work
      split
      · exact h
      · rename_i hgoes
        rw [Bool.or_eq_true, not_or, Option.isNone_iff_eq_none] at hgoes
        obtain ⟨environment, henvironment⟩ := exists_environment run.report run.computer
          fun environment => (run.machine.mainStep environment).getD ⟨(), run.machine, []⟩
        obtain ⟨result, hstep⟩ := Option.ne_none_iff_exists'.1
          ((not_congr (run.machine.mainStep_eq_none_iff .empty environment)).1 hgoes.2)
        rw [hstep, Option.getD_some] at henvironment
        obtain ⟨signals, events, hreached, hevents, houtside⟩ := h
        cases hsettled : settle run.report run.computer fun environment =>
          (run.machine.mainStep environment).getD ⟨(), run.machine, []⟩ with
        | mk worked computer =>
            obtain rfl : worked = result := (congrArg Prod.fst hsettled).symm.trans henvironment
            refine ih (takeSignals
              ⟨signals, events ++ worked.events, hreached.work hstep, ?_, houtside⟩)
            rw [hevents, List.append_assoc]

/-- Whatever happens, the threads get on from there. -/
theorem meet (h : run.Accounted prepared outside) (stimulus : Stimulus) :
    (run.meet stimulus).Accounted prepared (outside ++ stimulus.signal?.toList) := by
  cases stimulus with
  | change action =>
      rw [Stimulus.signal?, Option.toList_none, List.append_nil]
      exact h
  | signal signal =>
      show (if run.isKilled then run
        else Run.work mostSteps (run.receive signal)).Accounted prepared (outside ++ [signal])
      by_cases hkilled : run.isKilled
      · obtain ⟨signals, events, hreached, hevents, -⟩ := h
        rw [if_pos hkilled]
        exact ⟨signals, events, hreached, hevents,
          fun halive => absurd hkilled (Bool.eq_false_iff.1 halive)⟩
      · rw [if_neg hkilled]
        exact (h.receive_outside signal).work mostSteps

/-- So it is with all that happens, one after the other. -/
theorem meet_all (h : run.Accounted prepared outside) (stimuli : List Stimulus) :
    (stimuli.foldl Run.meet run).Accounted prepared
      (outside ++ stimuli.filterMap Stimulus.signal?) := by
  induction stimuli generalizing run outside with
  | nil => rwa [List.filterMap_nil, List.append_nil]
  | cons stimulus rest ih =>
      have hrest := ih (h.meet stimulus)
      rw [List.append_assoc] at hrest
      cases hsignal : stimulus.signal? <;> simpa [hsignal] using hrest

end Accounted

/-- The program starts where it was prepared. -/
theorem accounted_start (setup : Setup) (log : Option LogFile) (computer : Computer)
    (answer : Interface.SystemAnswer) :
    (start setup log computer answer).Accounted (prepare setup answer) [] := by
  refine Accounted.work ⟨[], [], .start _, ?_, fun _ => .refl []⟩ mostSteps
  exact (List.append_nil _).symm

end Run

/-! ## Any run -/

variable {arguments : List String} {computer : Computer} {answer : Interface.SystemAnswer}
  {stimuli : List Stimulus} {ran : Run Computer LogFile}

/-- A run of the program comes of a setup that its command line makes. Its threads have got where
some interleaving of moves leads them from the daemon that was prepared, and after what was reported
then, the main thread has reported what it does in that interleaving. All signals from outside have
been delivered in their order, unless a signal from a script has killed the program. -/
theorem run_interleaves (h : run arguments computer answer stimuli = .ok ran) :
    ∃ setup moves events, configure arguments = .ok setup ∧
      Signal.Interleaving (prepare setup answer).state moves ran.machine events ∧
      ran.mainEvents = (prepare setup answer).events ++ events ∧
      (ran.isKilled = false →
        (stimuli.filterMap Stimulus.signal?).Sublist (Signal.Move.signals moves)) := by
  obtain ⟨setup, hsetup, hopened⟩ := bind_eq_ok_iff.1 h
  obtain ⟨⟨log, opened⟩, -, heq⟩ := bind_eq_ok_iff.1 hopened
  obtain rfl := Except.ok.inj heq
  obtain ⟨_, events, ⟨moves, hmoves, rfl⟩, hevents, hsignals⟩ :=
    (Run.accounted_start setup log opened answer).meet_all stimuli
  exact ⟨setup, moves, events, hsetup, hmoves, hevents, hsignals⟩

/-- The interfaces that are known from what the system has answered. -/
def interfacesFrom : Interface.SystemAnswer → List (String × Nat)
  | .error _ => []
  | .ok entries => Interface.SystemEntry.listed entries

/-- The daemon that is prepared is a new one that has enabled what it enables by default. -/
theorem prepare_state (setup : Setup) (answer : Interface.SystemAnswer) :
    (prepare setup answer).state =
      (Daemon.fresh setup (interfacesFrom answer)).after [.enableByDefault] := by
  cases answer <;> rfl

/-- The daemon in a run of the program is one that steps lead to from a new one over the interfaces
that the system has listed. -/
theorem run_reaches (h : run arguments computer answer stimuli = .ok ran) :
    ∃ setup steps, configure arguments = .ok setup ∧
      ran.machine.daemon = (Daemon.fresh setup (interfacesFrom answer)).after steps := by
  obtain ⟨setup, moves, events, hsetup, hmoves, -⟩ := run_interleaves h
  obtain ⟨steps, hsteps⟩ := hmoves.exists_steps
  refine ⟨setup, .enableByDefault :: steps, hsetup, ?_⟩
  rw [hsteps, prepare_state]
  rfl

/-- Whatever happens, the tables of the program are sound. -/
theorem run_sound (h : run arguments computer answer stimuli = .ok ran) :
    ran.machine.daemon.tables.Sound := by
  obtain ⟨setup, steps, -, hreaches⟩ := run_reaches h
  rw [hreaches]
  exact Daemon.sound_after setup (interfacesFrom answer) steps

end Program

end StaticMulticast
