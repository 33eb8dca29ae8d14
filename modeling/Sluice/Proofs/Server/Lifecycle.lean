import Mathlib.Tactic.ByContra
import Sluice.Server.Lifecycle

/-! The life of a server as a run of calls from outside. A server is engaged once it accepts connections or its signal
was triggered, and it stays so. A stop of an engaged server is final: whatever is called later, the server stays
stopped, and a start fails whatever a try to listen would come to. A stop before that only names the phase, and a
later start goes through. -/

set_option autoImplicit false

namespace Sluice

namespace Server

/-- What can be called on a server. With a start comes what a try to listen would come to. -/
inductive Call where
  | start (binding : Binding)
  | stop
  | trigger

def perform (server : Server) : Call → Server
  | .start binding => (server.start binding).2
  | .stop => server.stop
  | .trigger => server.trigger

def run (server : Server) (calls : List Call) : Server := calls.foldl perform server

theorem run_cons (server : Server) (call : Call) (calls : List Call) :
    server.run (call :: calls) = (server.perform call).run calls := rfl

theorem run_append (server : Server) (first second : List Call) :
    server.run (first ++ second) = (server.run first).run second := List.foldl_append

variable {server : Server}

theorem start_of_accepting (accepting : server.isAccepting = true) (binding : Binding) :
    server.start binding = (.pure .already, server) := by
  simp [start, accepting]

theorem start_of_triggered (idle : server.isAccepting = false) (triggered : server.signal.isTriggered = true)
    (binding : Binding) : server.start binding = (.fail (.runtime "server has been stopped"), server) := by
  simp [start, idle, triggered]

theorem start_bound (idle : server.isAccepting = false) (untriggered : server.signal.isTriggered = false)
    (address : SocketAddress) :
    server.start (.bound address) =
      (([server.startedLine address], .ok (.listening address)),
        { server with address := some address, isAccepting := true, phase := .running }) := by
  simp [start, idle, untriggered, Logged.say, Logged.andThen, Logged.pure]

/-- Without an address to listen at, a start changes nothing. -/
theorem start_unbound {binding : Binding} (unbound : ∀ address, binding ≠ .bound address) :
    (server.start binding).2 = server := by
  unfold start
  split
  · rfl
  · split
    · rfl
    · cases binding with
      | refused | nameless => rfl
      | bound address => exact absurd rfl (unbound address)

theorem isTriggered_trigger (signal : ShutdownSignal) : signal.trigger.isTriggered = true := by
  simp [ShutdownSignal.isTriggered, ShutdownSignal.trigger]

theorem stop_of_accepting (accepting : server.isAccepting = true) :
    server.stop = { server with isAccepting := false, phase := .stopped, signal := server.signal.trigger } := by
  simp [stop, close, accepting]

theorem stop_of_idle (idle : server.isAccepting = false) : server.stop = { server with phase := .stopped } := by
  simp [stop, idle]

/-- The server accepts connections, or its signal was triggered. -/
def Engaged (server : Server) : Prop := server.isAccepting = true ∨ server.signal.isTriggered = true

/-- A call that engages a server which is not engaged yet. -/
def Call.Engages : Call → Prop
  | .start (.bound _) | .trigger => True
  | .start _ | .stop => False

theorem not_engaged : ¬ server.Engaged ↔ server.isAccepting = false ∧ server.signal.isTriggered = false := by
  simp [Engaged]

theorem engaged_start_iff (binding : Binding) :
    (server.start binding).2.Engaged ↔ server.Engaged ∨ (Call.start binding).Engages := by
  -- a start looks at the task that accepts, then at the signal, and only then at the address
  cases accepting : server.isAccepting with
  | true => simp [start_of_accepting accepting, Engaged, accepting]
  | false =>
    cases triggered : server.signal.isTriggered with
    | true => simp [start_of_triggered accepting triggered, Engaged, triggered]
    | false =>
      have idle : ¬ server.Engaged := not_engaged.2 ⟨accepting, triggered⟩
      cases binding with
      | bound address => simp [start_bound accepting triggered, Engaged, Call.Engages]
      | refused | nameless =>
        rw [start_unbound (by simp)]
        simp [idle, Call.Engages]

theorem engaged_stop_iff : server.stop.Engaged ↔ server.Engaged := by
  cases accepting : server.isAccepting with
  | true => simp [stop_of_accepting accepting, Engaged, accepting, isTriggered_trigger]
  | false => simp [stop_of_idle accepting, Engaged, accepting]

theorem engaged_perform_iff (call : Call) : (server.perform call).Engaged ↔ server.Engaged ∨ call.Engages := by
  cases call with
  | start binding => exact engaged_start_iff binding
  | stop => simpa [perform, Call.Engages] using engaged_stop_iff
  | trigger => simp [perform, trigger, Engaged, isTriggered_trigger, Call.Engages]

theorem engaged_run_iff (calls : List Call) :
    (server.run calls).Engaged ↔ server.Engaged ∨ ∃ call ∈ calls, call.Engages := by
  induction calls generalizing server with
  | nil => simp [run]
  | cons call rest ih =>
    rw [run_cons, ih, engaged_perform_iff]
    simp [or_assoc]

/-- The server is stopped and cannot start any more. -/
structure Retired (server : Server) : Prop where
  idle : server.isAccepting = false
  triggered : server.signal.isTriggered = true
  stopped : server.phase = .stopped

theorem Retired.start_fails (retired : server.Retired) (binding : Binding) :
    server.start binding = (.fail (.runtime "server has been stopped"), server) :=
  start_of_triggered retired.idle retired.triggered binding

theorem Retired.perform (retired : server.Retired) (call : Call) : (server.perform call).Retired := by
  cases call with
  | start binding =>
    rw [Server.perform, retired.start_fails binding]
    exact retired
  | stop =>
    rw [Server.perform, stop_of_idle retired.idle]
    exact ⟨retired.idle, retired.triggered, rfl⟩
  | trigger => exact ⟨retired.idle, isTriggered_trigger server.signal, retired.stopped⟩

theorem Retired.run (retired : server.Retired) (calls : List Call) : (server.run calls).Retired := by
  induction calls generalizing server with
  | nil => exact retired
  | cons call rest ih => exact ih (retired.perform call)

/-- A server that accepts is closed by its stop, which triggers the signal; one that does not must have been triggered
before. -/
theorem Engaged.retired_stop (engaged : server.Engaged) : server.stop.Retired := by
  cases accepting : server.isAccepting with
  | true =>
    rw [stop_of_accepting accepting]
    exact ⟨rfl, isTriggered_trigger server.signal, rfl⟩
  | false =>
    have triggered : server.signal.isTriggered = true := by simpa [Engaged, accepting] using engaged
    rw [stop_of_idle accepting]
    exact ⟨accepting, triggered, rfl⟩

/-- The server is stopped, and a start fails with the same error and no effect whatever there is to listen at. -/
def Refuses (server : Server) : Prop :=
  server.phase = .stopped ∧ ∀ binding, server.start binding = (.fail (.runtime "server has been stopped"), server)

/-- Nothing stands in the way of a start after the stop of a server that is not engaged. -/
theorem start_after_idle_stop (untouched : ¬ server.Engaged) (address : SocketAddress) :
    (server.stop.start (.bound address)).1.2 = .ok (.listening address) := by
  obtain ⟨idle, untriggered⟩ := not_engaged.1 untouched
  have idleStop : server.stop.isAccepting = false := by rw [stop_of_idle idle]; exact idle
  have untriggeredStop : server.stop.signal.isTriggered = false := by rw [stop_of_idle idle]; exact untriggered
  rw [start_bound idleStop untriggeredStop]

/-- A server refuses to start for ever after a stop exactly if it was engaged before: some start could listen, or
something triggered its signal. -/
theorem stop_is_final_iff (settings : ServerSettings) (dispatcher : Dispatcher) (acceptor : Option TlsAcceptor)
    (earlier : List Call) :
    (∀ later, ((fresh settings dispatcher acceptor).run (earlier ++ .stop :: later)).Refuses) ↔
      ∃ call ∈ earlier, call.Engages := by
  have engaged : ((fresh settings dispatcher acceptor).run earlier).Engaged ↔ ∃ call ∈ earlier, call.Engages := by
    rw [engaged_run_iff]
    exact or_iff_right (not_engaged.2 ⟨rfl, rfl⟩)
  rw [← engaged]
  constructor
  · intro refuses
    by_contra untouched
    -- the call that gives it away is a start that can listen, right after the stop
    have listening := start_after_idle_stop untouched settings.socketAddress
    have refused := (refuses []).2 (.bound settings.socketAddress)
    rw [run_append] at refused
    change ((fresh settings dispatcher acceptor).run earlier).stop.start _ = _ at refused
    rw [refused] at listening
    cases listening
  · intro engaged later
    rw [run_append, run_cons]
    have retired := engaged.retired_stop.run later
    exact ⟨retired.stopped, retired.start_fails⟩

/-- A server that nothing was called on. -/
def untouched : Server := fresh ServerSettings.standard (Dispatcher.fresh Handler.failure [] (0 : Int)) none

/-- A stop before the first start is not final: the server listens after the next start, and runs. -/
theorem idle_stop_not_final :
    (untouched.run [.stop]).phase = .stopped ∧
      ((untouched.run [.stop]).start (.bound ServerSettings.standard.socketAddress)).1.2 =
        .ok (.listening ServerSettings.standard.socketAddress) ∧
      (untouched.run [.stop, .start (.bound ServerSettings.standard.socketAddress)]).phase = .running ∧
      ¬ ∀ later, (untouched.run (.stop :: later)).Refuses := by
  refine ⟨rfl, rfl, rfl, fun refuses => ?_⟩
  have stopped := (refuses [.start (.bound ServerSettings.standard.socketAddress)]).1
  cases stopped

end Server

end Sluice
