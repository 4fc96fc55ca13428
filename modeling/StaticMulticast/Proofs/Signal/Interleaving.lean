import StaticMulticast.Proofs.Configuration.Pass
import StaticMulticast.Signal.Machine

/-!
# How the two threads interleave

Signals are delivered at any time, and the two threads take their steps in any order. Whatever the
order, the handler has sent a message for each signal that it has taken, and the main thread has
done what the messages ask for that it has received (`Signal.Interleaving.accounts`). So the main
thread reads the configuration again once for each hangup before the first other signal, and ends
with that one (`Signal.reloads_match_hangups`).
-/

namespace StaticMulticast

/-! ## Reading the configuration -/

namespace Daemon

/-- Reading the configuration, the daemon does not report that the handler is gone. -/
theorem handlerGone_notMem_load (daemon : Daemon) (environment : Host.Environment) :
    .daemon .handlerGone ∉ (daemon.load environment).events := by
  have hperform : ∀ (tables : Tables) (operation : Configuration.Operation),
      ∀ event ∈ (tables.perform operation).events, event ≠ .daemon .handlerGone := by
    intro tables operation event hevent heq
    cases operation with
    | enable | disable | join | addV4 | addV6 =>
        obtain ⟨_, -, rfl⟩ := List.mem_map.1 hevent
        cases heq
  have hafterwards : ∀ tables, ∀ event ∈
      (Tables.scriptAfterwards environment daemon.setup.script tables).events,
        event ≠ .daemon .handlerGone := by
    intro tables
    exact List.forall_mem_singleton.2 fun heq => by cases heq
  have hfile : .daemon .handlerGone ∉ (Configuration.Pass.load
      (Tables.collaborators (Tables.scriptAfterwards environment daemon.setup.script))
      daemon.setup.settings environment daemon.setup.configFile daemon.tables).events :=
    fun hmem => Configuration.Pass.load_events (fun _ heq => by cases heq) hperform hafterwards
      environment daemon.setup.configFile daemon.tables _ hmem rfl
  have hresult : ∀ result, .daemon .handlerGone ∉ loadEvents daemon.setup.configFile result := by
    intro result
    unfold loadEvents
    split
    · simp
    · split <;> simp
    · simp
  have hstate : ∀ current : Daemon, .daemon .handlerGone ∉ current.stateEvents := by
    intro current
    simp only [stateEvents]
    split <;> simp
  simp only [load, List.mem_append, List.mem_cons, loadedEvent, not_or]
  exact ⟨⟨hfile, hresult _⟩, (fun heq => by cases heq), hstate _⟩

/-- Neither does it when it reads the configuration again. -/
theorem handlerGone_notMem_reload (daemon : Daemon) (environment : Host.Environment) :
    .daemon .handlerGone ∉ (daemon.reload environment).events := by
  have henabled : ∀ current : Daemon,
      .daemon .handlerGone ∉ current.enableByDefault.events := by
    intro current
    unfold enableByDefault
    split
    · simp [Tables.onRegistry, Outcome.lift]
    · simp
  simp only [reload, List.mem_append, List.mem_cons, not_or]
  refine ⟨⟨⟨(fun heq => by cases heq), ?_⟩, henabled _⟩, handlerGone_notMem_load _ environment⟩
  simp [forget]

/-- Reads the configuration again, once in each of the environments. -/
def reloads (daemon : Daemon) : List Host.Environment → Result
  | [] => ⟨(), daemon, []⟩
  | environment :: rest =>
      let now := daemon.reload environment
      let later := now.state.reloads rest
      ⟨(), later.state, now.events ++ later.events⟩

/-- Reads the configuration for the first time, and then again in each of the other environments. -/
def readings (daemon : Daemon) (first : Host.Environment) (others : List Host.Environment) :
    Result :=
  let loaded := daemon.load first
  let later := loaded.state.reloads others
  ⟨(), later.state, loaded.events ++ later.events⟩

/-- The last of several readings comes after the others. -/
theorem reloads_append (daemon : Daemon) (environments : List Host.Environment)
    (last : Host.Environment) :
    daemon.reloads (environments ++ [last]) =
      let former := daemon.reloads environments
      let now := former.state.reload last
      ⟨(), now.state, former.events ++ now.events⟩ := by
  induction environments generalizing daemon with
  | nil => simp only [List.nil_append, reloads, List.append_nil]
  | cons environment rest ih => simp only [List.cons_append, reloads, ih, List.append_assoc]

/-- The last of several readings comes after the others and the first. -/
theorem readings_append (daemon : Daemon) (first : Host.Environment)
    (others : List Host.Environment) (last : Host.Environment) :
    daemon.readings first (others ++ [last]) =
      let former := daemon.readings first others
      let now := former.state.reload last
      ⟨(), now.state, former.events ++ now.events⟩ := by
  simp only [readings, reloads_append, List.append_assoc]

/-- In no reading is it reported that the handler is gone. -/
theorem handlerGone_notMem_readings (daemon : Daemon) (first : Host.Environment)
    (others : List Host.Environment) :
    .daemon .handlerGone ∉ (daemon.readings first others).events := by
  have hreloads : ∀ current : Daemon, .daemon .handlerGone ∉ (current.reloads others).events := by
    intro current
    induction others generalizing current with
    | nil => simp [reloads]
    | cons environment rest ih =>
        simp only [reloads, List.mem_append, not_or]
        exact ⟨handlerGone_notMem_reload current environment, ih _⟩
  simp only [readings, List.mem_append, not_or]
  exact ⟨handlerGone_notMem_load daemon first, hreloads _⟩

end Daemon

namespace Signal

/-! ## Interleavings -/

/-- What happens next: a signal is delivered, or one of the threads takes a step. The main thread
takes it in the host's environment of the moment. -/
inductive Move where
  | deliver (signal : Signal)
  | handle
  | work (environment : Host.Environment)

namespace Move

/-- The signal that is delivered. -/
def signal? : Move → Option Signal
  | .deliver signal => some signal
  | _ => none

/-- The environment in which the main thread takes a step. -/
def environment? : Move → Option Host.Environment
  | .work environment => some environment
  | _ => none

/-- The signals that are delivered. -/
def signals (moves : List Move) : List Signal :=
  moves.filterMap signal?

/-- The environments in which the main thread takes its steps. -/
def environments (moves : List Move) : List Host.Environment :=
  moves.filterMap environment?

variable (moves : List Move) (signal : Signal) (environment : Host.Environment)

@[simp] theorem signals_deliver :
    signals (moves ++ [.deliver signal]) = signals moves ++ [signal] :=
  List.filterMap_append

@[simp] theorem signals_handle : signals (moves ++ [.handle]) = signals moves :=
  List.filterMap_append.trans (List.append_nil _)

@[simp] theorem signals_work : signals (moves ++ [.work environment]) = signals moves :=
  List.filterMap_append.trans (List.append_nil _)

@[simp] theorem environments_deliver :
    environments (moves ++ [.deliver signal]) = environments moves :=
  List.filterMap_append.trans (List.append_nil _)

@[simp] theorem environments_handle : environments (moves ++ [.handle]) = environments moves :=
  List.filterMap_append.trans (List.append_nil _)

@[simp] theorem environments_work :
    environments (moves ++ [.work environment]) = environments moves ++ [environment] :=
  List.filterMap_append

end Move

/-- The moves can follow each other, from where the threads start. They lead to the machine, and the
main thread reports the events. -/
inductive Interleaving (daemon : Daemon) : List Move → Machine → List StaticMulticast.Event → Prop
  | start : Interleaving daemon [] (.start daemon) []
  | deliver (signal) {moves machine events} :
      Interleaving daemon moves machine events →
      Interleaving daemon (moves ++ [.deliver signal]) (machine.deliver signal) events
  | handle {moves machine events result} :
      Interleaving daemon moves machine events → machine.handlerStep = some result →
      Interleaving daemon (moves ++ [.handle]) result.state events
  | work (environment) {moves machine events result} :
      Interleaving daemon moves machine events → machine.mainStep environment = some result →
      Interleaving daemon (moves ++ [.work environment]) result.state (events ++ result.events)

/-! ## What the threads have done -/

/-- How far the handler is once it has taken the signals. -/
inductive Taken : List Signal → Handler → Prop
  | listening (count) : Taken (List.replicate count .hangup) .listening
  | finished (count) {signal} (hend : signal ≠ .hangup) :
      Taken (List.replicate count .hangup ++ [signal]) .finished

/-- How far the main thread is once it has received the messages: the environments of its steps, and
what has become of the daemon and been reported. -/
inductive Received (daemon : Daemon) : List Message → List Host.Environment → Phase → Daemon →
    List StaticMulticast.Event → Prop
  | loading : Received daemon [] [] .loading daemon []
  | waiting (first others) :
      Received daemon (List.replicate others.length .reload) (first :: others) .waiting
        (daemon.readings first others).state (daemon.readings first others).events
  | exited (first others last) :
      Received daemon (List.replicate others.length .reload ++ [.exit])
        (first :: others ++ [last]) .exited (daemon.readings first others).state
        ((daemon.readings first others).events ++ [.daemon .exiting])

/-- The delivered signals are those that the handler has taken and those still to be taken, and the
messages that it has sent are those that the main thread has received and those still to be
received. -/
structure Accounts (daemon : Daemon) (signals : List Signal) (environments : List Host.Environment)
    (machine : Machine) (events : List StaticMulticast.Event) (taken : List Signal)
    (received : List Message) : Prop where
  signals : signals = taken ++ machine.delivered
  messages : taken.map message = received ++ machine.queue
  handler : Taken taken machine.handler
  main : Received daemon received environments machine.phase machine.daemon events

variable {daemon current : Daemon} {signals taken : List Signal} {received : List Message}
  {environments : List Host.Environment} {machine : Machine} {handler : Handler}
  {events : List StaticMulticast.Event} {result : Machine.Result}

/-- A handler that listens has sent no message to exit. -/
theorem Taken.exit_notMem (h : Taken taken .listening) : .exit ∉ taken.map message := by
  cases h with
  | listening count => simp [message]

/-- A handler that listens takes another signal. -/
theorem Taken.append (h : Taken taken .listening) (signal : Signal) :
    Taken (taken ++ [signal]) (if signal.message = .exit then .finished else .listening) := by
  cases h with
  | listening count =>
      cases signal with
      | hangup =>
          rw [← List.replicate_succ']
          exact .listening (count + 1)
      | interrupt | quit | terminate => exact .finished count Signal.noConfusion

/-- Once the handler has ended, the last message is to exit. -/
theorem Taken.messages (h : Taken taken .finished) :
    ∃ count, taken.map message = List.replicate count .reload ++ [.exit] := by
  cases h with
  | finished count hend =>
      rename_i signal
      refine ⟨count, ?_⟩
      cases signal with
      | hangup => exact absurd rfl hend
      | interrupt | quit | terminate => simp [message]

/-- Before the first reading, nothing is done. -/
theorem Received.of_loading (h : Received daemon received environments .loading current events) :
    received = [] ∧ environments = [] ∧ current = daemon ∧ events = [] := by
  cases h with
  | loading => exact ⟨rfl, rfl, rfl, rfl⟩

/-- After it, the configuration is read again for each message. -/
theorem Received.of_waiting (h : Received daemon received environments .waiting current events) :
    ∃ first others, received = List.replicate others.length .reload ∧
      environments = first :: others ∧ current = (daemon.readings first others).state ∧
      events = (daemon.readings first others).events := by
  cases h with
  | waiting first others => exact ⟨first, others, rfl, rfl, rfl, rfl⟩

/-- At the end, the last message was to exit. -/
theorem Received.of_exited (h : Received daemon received environments .exited current events) :
    ∃ first others last, received = List.replicate others.length .reload ++ [.exit] ∧
      environments = first :: others ++ [last] ∧ current = (daemon.readings first others).state ∧
      events = (daemon.readings first others).events ++ [.daemon .exiting] := by
  cases h with
  | exited first others last => exact ⟨first, others, last, rfl, rfl, rfl, rfl⟩

/-! ## What a step keeps -/

namespace Accounts

/-- The main thread does not end while the handler listens, so no message is refused. -/
theorem phase_ne_exited (h : Accounts daemon signals environments machine events taken received)
    (hlistening : machine.handler = .listening) : machine.phase ≠ .exited := by
  intro hexited
  have hhandler := h.handler
  have hmain := h.main
  rw [hlistening] at hhandler
  rw [hexited] at hmain
  obtain ⟨first, others, last, hreceived, -⟩ := hmain.of_exited
  refine hhandler.exit_notMem ?_
  rw [h.messages, hreceived]
  simp

/-- The handler does not end before it has sent the message to exit, so the main thread does not
find it gone. -/
theorem listening_of_waiting
    (h : Accounts daemon signals environments machine events taken received)
    (hwaiting : machine.phase = .waiting) (hqueue : machine.queue = []) :
    machine.handler = .listening := by
  have hhandler := h.handler
  have hmain := h.main
  have hmessages := h.messages
  rw [hwaiting] at hmain
  rw [hqueue, List.append_nil] at hmessages
  obtain ⟨first, others, hreceived, -⟩ := hmain.of_waiting
  cases hended : machine.handler with
  | listening => rfl
  | refused =>
      rw [hended] at hhandler
      cases hhandler
  | finished =>
      rw [hended] at hhandler
      obtain ⟨count, hsent⟩ := hhandler.messages
      have hexit : Message.exit ∈ List.replicate others.length Message.reload := by
        rw [← hreceived, ← hmessages, hsent]
        simp
      cases List.eq_of_mem_replicate hexit

/-- As the threads start, no signal is delivered. -/
theorem start (daemon : Daemon) : Accounts daemon [] [] (.start daemon) [] [] [] where
  signals := rfl
  messages := rfl
  handler := .listening 0
  main := .loading

/-- A signal that is delivered is still to be taken. -/
theorem deliver (h : Accounts daemon signals environments machine events taken received)
    (signal : Signal) :
    Accounts daemon (signals ++ [signal]) environments (machine.deliver signal) events taken
      received where
  signals := by
    rw [h.signals, List.append_assoc]
    rfl
  messages := h.messages
  handler := h.handler
  main := h.main

/-- The handler takes the next signal and sends the message for it. -/
theorem handle (h : Accounts daemon signals environments machine events taken received)
    (hstep : machine.handlerStep = some result) :
    ∃ signal, Accounts daemon signals environments result.state events (taken ++ [signal])
      received := by
  unfold Machine.handlerStep at hstep
  split at hstep
  · rename_i signal rest hlistening hdelivered
    obtain rfl := Option.some.inj hstep
    have hhandler := h.handler
    rw [hlistening] at hhandler
    simp only [if_neg (h.phase_ne_exited hlistening)]
    refine ⟨signal, ?_, ?_, hhandler.append signal, h.main⟩
    · rw [h.signals, hdelivered, List.append_assoc]
      rfl
    · rw [List.map_append, h.messages, List.append_assoc]
      rfl
  · cases hstep

/-- The main thread does what the next message asks for. -/
theorem work {environment : Host.Environment}
    (h : Accounts daemon signals environments machine events taken received)
    (hstep : machine.mainStep environment = some result) :
    ∃ received', Accounts daemon signals (environments ++ [environment]) result.state
      (events ++ result.events) taken received' := by
  have hmain := h.main
  have hmessages := h.messages
  unfold Machine.mainStep at hstep
  split at hstep
  · cases hstep
  · rename_i hloading
    obtain rfl := Option.some.inj hstep
    rw [hloading] at hmain
    obtain ⟨rfl, rfl, hdaemon, rfl⟩ := hmain.of_loading
    have hread : Received daemon [] [environment] .waiting (daemon.load environment).state
        ((daemon.load environment).events ++ []) := .waiting environment []
    rw [List.append_nil] at hread
    rw [hdaemon]
    exact ⟨[], h.signals, hmessages, h.handler, hread⟩
  · rename_i hwaiting
    rw [hwaiting] at hmain
    obtain ⟨first, others, rfl, rfl, hdaemon, rfl⟩ := hmain.of_waiting
    split at hstep
    · rename_i rest hqueue
      obtain rfl := Option.some.inj hstep
      have hread : Received daemon _ _ _ _ _ := .waiting first (others ++ [environment])
      simp only [List.length_append, List.length_singleton, List.replicate_succ',
        ← List.cons_append, Daemon.readings_append, ← hdaemon] at hread
      rw [hqueue, List.append_cons] at hmessages
      exact ⟨_, h.signals, hmessages, h.handler, by rw [hwaiting]; exact hread⟩
    · rename_i rest hqueue
      obtain rfl := Option.some.inj hstep
      have hend : Received daemon _ _ _ _ _ := .exited first others environment
      rw [← hdaemon] at hend
      rw [hqueue, List.append_cons] at hmessages
      exact ⟨_, h.signals, hmessages, h.handler, hend⟩
    · rename_i hqueue
      rw [if_pos (h.listening_of_waiting hwaiting hqueue)] at hstep
      cases hstep

end Accounts

/-- Whatever the order of the moves, both threads have done what they have been asked, and each move
is accounted for. -/
theorem Interleaving.accounts {moves : List Move}
    (h : Interleaving daemon moves machine events) :
    ∃ taken received, Accounts daemon (Move.signals moves) (Move.environments moves) machine events
        taken received ∧
      moves.length = (Move.signals moves).length + taken.length +
        (Move.environments moves).length := by
  induction h with
  | start => exact ⟨[], [], .start daemon, rfl⟩
  | deliver signal _ ih =>
      obtain ⟨taken, received, haccounts, hlength⟩ := ih
      simp only [Move.signals_deliver, Move.environments_deliver, List.length_append,
        List.length_singleton, hlength]
      exact ⟨taken, received, haccounts.deliver signal, by omega⟩
  | handle _ hstep ih =>
      obtain ⟨taken, received, haccounts, hlength⟩ := ih
      obtain ⟨signal, hhandled⟩ := haccounts.handle hstep
      simp only [Move.signals_handle, Move.environments_handle, List.length_append,
        List.length_singleton, hlength]
      refine ⟨taken ++ [signal], received, hhandled, ?_⟩
      rw [List.length_append, List.length_singleton]
      omega
  | work environment _ hstep ih =>
      obtain ⟨taken, received, haccounts, hlength⟩ := ih
      obtain ⟨further, hworked⟩ := haccounts.work hstep
      simp only [Move.signals_work, Move.environments_work, List.length_append,
        List.length_singleton, hlength]
      exact ⟨taken, further, hworked, by omega⟩

/-! ## How often the configuration is read -/

/-- The hangups before the first signal that is another. -/
def hangups (signals : List Signal) : Nat :=
  (signals.takeWhile (· = .hangup)).length

/-- Signals for which the messages begin with some to reload begin with as many hangups. -/
theorem hangups_eq_add {signals : List Signal} {count : Nat} {rest : List Message}
    (h : signals.map message = List.replicate count .reload ++ rest) :
    hangups signals = count + (rest.takeWhile (· = .reload)).length := by
  have hmessage : (fun message : Message => decide (message = .reload)) ∘ message =
      fun signal => decide (signal = .hangup) := by
    funext signal
    cases signal <;> rfl
  have hall : ∀ message ∈ List.replicate count Message.reload, decide (message = .reload) = true :=
    fun message hmessage => decide_eq_true (List.eq_of_mem_replicate hmessage)
  have hhangups : hangups signals =
      ((signals.map message).takeWhile (fun message => decide (message = .reload))).length := by
    rw [List.takeWhile_map, List.length_map, hmessage, hangups]
  rw [hhangups, h, List.takeWhile_append_of_pos hall, List.length_append, List.length_replicate]

namespace Accounts

variable (h : Accounts daemon signals environments machine events taken received)
include h

/-- All messages for the delivered signals, those first that the main thread has received. -/
theorem map_message :
    signals.map message = received ++ (machine.queue ++ machine.delivered.map message) := by
  rw [h.signals, List.map_append, h.messages, List.append_assoc]

/-- Neither thread has done more than there are signals, but for the first reading. -/
theorem length_le : taken.length ≤ signals.length ∧ environments.length ≤ signals.length + 1 := by
  have hsignals := congrArg List.length h.signals
  have hmessages := congrArg List.length h.map_message
  have hmain := h.main
  simp only [List.length_append, List.length_map] at hsignals hmessages
  refine ⟨by omega, ?_⟩
  cases hphase : machine.phase with
  | loading =>
      rw [hphase] at hmain
      obtain ⟨-, rfl, -⟩ := hmain.of_loading
      exact Nat.zero_le _
  | waiting =>
      rw [hphase] at hmain
      obtain ⟨first, others, rfl, rfl, -⟩ := hmain.of_waiting
      simp only [List.length_replicate, List.length_cons] at hmessages ⊢
      omega
  | exited =>
      rw [hphase] at hmain
      obtain ⟨first, others, last, rfl, rfl, -⟩ := hmain.of_exited
      simp only [List.length_append, List.length_replicate, List.length_cons,
        List.length_nil] at hmessages ⊢
      omega

/-- The main thread reads the configuration again no more often than there are hangups before the
first other signal. -/
theorem le_hangups {count : Nat} (hreceived : received = List.replicate count .reload) :
    count ≤ hangups signals := by
  have hmessages := h.map_message
  rw [hreceived] at hmessages
  rw [hangups_eq_add hmessages]
  exact Nat.le_add_right _ _

/-- When it is asked to exit, it has done so exactly that often. -/
theorem eq_hangups {count : Nat} (hreceived : received = List.replicate count .reload ++ [.exit]) :
    count = hangups signals := by
  have hmessages := h.map_message
  rw [hreceived, List.append_assoc] at hmessages
  rw [hangups_eq_add hmessages]
  rfl

/-- If neither thread has a step left and a signal was delivered that is no hangup, the main thread
has ended. -/
theorem exited_of_no_step (hhandler : machine.handlerStep = none) {environment : Host.Environment}
    (hwork : machine.mainStep environment = none) (hend : ∃ signal ∈ signals, signal ≠ .hangup) :
    machine.phase = .exited := by
  unfold Machine.mainStep at hwork
  split at hwork
  · rename_i hexited
    exact hexited
  · cases hwork
  · rename_i hwaiting
    split at hwork
    · cases hwork
    · cases hwork
    -- The main thread waits, so the handler listens. It has taken all signals, and all are hangups.
    · rename_i hqueue
      have hlistening := h.listening_of_waiting hwaiting hqueue
      have hdelivered : machine.delivered = [] := by
        unfold Machine.handlerStep at hhandler
        rw [hlistening] at hhandler
        cases hrest : machine.delivered with
        | nil => rfl
        | cons signal rest =>
            rw [hrest] at hhandler
            cases hhandler
      have htaken := h.handler
      rw [hlistening] at htaken
      obtain ⟨signal, hmem, hne⟩ := hend
      rw [h.signals, hdelivered, List.append_nil] at hmem
      cases htaken with
      | listening count => exact absurd (List.eq_of_mem_replicate hmem) hne

end Accounts

/-- However the threads interleave, the main thread first loads the configuration, then reads it
again for each hangup before the first other signal, and then ends. It does no other work, and never
finds that the handler is gone before it was asked to exit, nor does the handler find that no
message can be sent. If a signal was delivered that ends the daemon, the main thread has ended when
neither thread has a step left, which is after no more moves than three for each signal and one. -/
theorem reloads_match_hangups {daemon : Daemon} {moves : List Move} {machine : Machine}
    {events : List StaticMulticast.Event} (h : Interleaving daemon moves machine events) :
    let signals := Move.signals moves
    let environments := Move.environments moves
    (machine.phase = .loading → environments = [] ∧ machine.daemon = daemon ∧ events = []) ∧
    (machine.phase = .waiting → ∃ first others, environments = first :: others ∧
      others.length ≤ hangups signals ∧
      machine.daemon = (daemon.readings first others).state ∧
      events = (daemon.readings first others).events) ∧
    (machine.phase = .exited → ∃ first others last, environments = first :: others ++ [last] ∧
      others.length = hangups signals ∧
      machine.daemon = (daemon.readings first others).state ∧
      events = (daemon.readings first others).events ++ [.daemon .exiting]) ∧
    machine.handler ≠ .refused ∧
    (machine.phase = .waiting → machine.queue = [] → machine.handler = .listening) ∧
    .daemon .handlerGone ∉ events ∧
    moves.length ≤ 3 * signals.length + 1 ∧
    ((∃ signal ∈ signals, signal ≠ .hangup) → machine.handlerStep = none →
      ∀ environment, machine.mainStep environment = none → machine.phase = .exited) := by
  intro signals environments
  obtain ⟨taken, received, haccounts, hlength⟩ := h.accounts
  have hmain := haccounts.main
  have hloading : machine.phase = .loading →
      environments = [] ∧ machine.daemon = daemon ∧ events = [] := by
    intro hphase
    rw [hphase] at hmain
    exact hmain.of_loading.2
  have hwaiting : machine.phase = .waiting → ∃ first others, environments = first :: others ∧
      others.length ≤ hangups signals ∧ machine.daemon = (daemon.readings first others).state ∧
      events = (daemon.readings first others).events := by
    intro hphase
    rw [hphase] at hmain
    obtain ⟨first, others, hreceived, henvironments, hdone⟩ := hmain.of_waiting
    exact ⟨first, others, henvironments, haccounts.le_hangups hreceived, hdone⟩
  have hexited : machine.phase = .exited → ∃ first others last,
      environments = first :: others ++ [last] ∧ others.length = hangups signals ∧
      machine.daemon = (daemon.readings first others).state ∧
      events = (daemon.readings first others).events ++ [.daemon .exiting] := by
    intro hphase
    rw [hphase] at hmain
    obtain ⟨first, others, last, hreceived, henvironments, hdone⟩ := hmain.of_exited
    exact ⟨first, others, last, henvironments, haccounts.eq_hangups hreceived, hdone⟩
  refine ⟨hloading, hwaiting, hexited, ?_, haccounts.listening_of_waiting, ?_, ?_,
    fun hend hhandler _ hwork => haccounts.exited_of_no_step hhandler hwork hend⟩
  · intro hrefused
    have hhandler := haccounts.handler
    rw [hrefused] at hhandler
    cases hhandler
  · cases hphase : machine.phase with
    | loading =>
        rw [(hloading hphase).2.2]
        exact List.not_mem_nil
    | waiting =>
        obtain ⟨first, others, -, -, -, heq⟩ := hwaiting hphase
        rw [heq]
        exact daemon.handlerGone_notMem_readings first others
    | exited =>
        obtain ⟨first, others, last, -, -, -, heq⟩ := hexited hphase
        rw [heq, List.mem_append, not_or]
        exact ⟨daemon.handlerGone_notMem_readings first others, by simp⟩
  · obtain ⟨htaken, hworked⟩ := haccounts.length_le
    show moves.length ≤ 3 * (Move.signals moves).length + 1
    omega

/-- A hangup comes before the configuration is loaded, and another after the signal to end. -/
theorem reloads_match_hangups_one_before_load :
    let daemon := Daemon.initial ⟨defaultConfigFile, none, none, .human, true, true⟩ (.empty true)
    let moves : List Move :=
      [.deliver .hangup, .handle, .work .empty, .deliver .terminate, .deliver .hangup, .handle,
        .work .empty, .work .empty]
    ∃ machine events, Interleaving daemon moves machine events ∧ machine.phase = .exited ∧
      machine.delivered = [.hangup] ∧
      ∃ first others last, Move.environments moves = first :: others ++ [last] ∧
        others.length = 1 ∧ machine.daemon = (daemon.readings first others).state := by
  intro daemon moves
  have hstart : Interleaving daemon [] (.start daemon) [] := .start
  have hloaded := Interleaving.work .empty (.handle (.deliver .hangup hstart) rfl) rfl
  have hended := Interleaving.work .empty (.work .empty
    (.handle (.deliver .hangup (.deliver .terminate hloaded)) rfl) rfl) rfl
  obtain ⟨first, others, last, henvironments, hlength, hdaemon, -⟩ :=
    (reloads_match_hangups hended).2.2.1 rfl
  exact ⟨_, _, hended, rfl, rfl, first, others, last, henvironments, hlength, hdaemon⟩

end Signal

end StaticMulticast
