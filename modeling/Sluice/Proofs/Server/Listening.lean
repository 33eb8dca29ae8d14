import Sluice.Proofs.Server.Lifecycle

/-! When a server listens. A start does one of two things: it begins to listen, on a server that is not engaged, or it
leaves the server as it is. So a server begins to listen at most once in its life, whatever is called on it and in
whatever order; it has no address before that and keeps the one address after it, and it runs while it accepts
connections. -/

set_option autoImplicit false

namespace Sluice

namespace Server

/-- The address at which a start began to listen. -/
def Start.address? : Start → Option SocketAddress
  | .already => none
  | .listening address => some address

/-- The address at which a call begins to listen. -/
def listens? (server : Server) : Call → Option SocketAddress
  | .start binding => (server.start binding).1.2.toOption.bind Start.address?
  | .stop | .trigger => none

/-- The addresses at which the calls of a run begin to listen, in order. -/
def listened (server : Server) : List Call → List SocketAddress
  | [] => []
  | call :: rest => (server.listens? call).toList ++ (server.perform call).listened rest

variable {server : Server}

/-- All that a start can do. -/
theorem start_cases (server : Server) (binding : Binding) :
    (∃ address, binding = .bound address ∧ ¬ server.Engaged ∧
      server.start binding = (([server.startedLine address], .ok (.listening address)),
        { server with address := some address, isAccepting := true, phase := .running })) ∨
    (server.start binding).2 = server ∧ server.listens? (.start binding) = none := by
  cases accepting : server.isAccepting with
  | true =>
    right
    simp [start_of_accepting accepting, listens?, Logged.pure, Except.toOption, Start.address?]
  | false =>
    cases triggered : server.signal.isTriggered with
    | true =>
      right
      simp [start_of_triggered accepting triggered, listens?, Logged.fail, Except.toOption]
    | false =>
      cases binding with
      | bound address =>
        left
        exact ⟨address, rfl, not_engaged.2 ⟨accepting, triggered⟩, start_bound accepting triggered address⟩
      | refused | nameless =>
        right
        simp [start, accepting, triggered, listens?, Logged.fail, Except.toOption]

theorem start_of_error {binding : Binding} {cause : Fault} (failed : (server.start binding).1.2 = .error cause) :
    (server.start binding).2 = server := by
  obtain ⟨address, -, -, begun⟩ | ⟨unchanged, -⟩ := server.start_cases binding
  · rw [begun] at failed
    cases failed
  · exact unchanged

/-- All that a call can do to the address and to the task that accepts connections. -/
theorem perform_cases (server : Server) (call : Call) :
    (∃ address, ¬ server.Engaged ∧ server.listens? call = some address ∧ call ≠ .stop ∧
      server.perform call = { server with address := some address, isAccepting := true, phase := .running }) ∨
    server.listens? call = none ∧
      ((call ≠ .stop ∧ ∃ signal, server.perform call = { server with signal }) ∨
        call = .stop ∧ ∃ signal,
          server.perform call = { server with isAccepting := false, phase := .stopped, signal }) := by
  cases call with
  | start binding =>
    obtain ⟨address, -, untouched, begun⟩ | ⟨unchanged, nowhere⟩ := server.start_cases binding
    · left
      exact ⟨address, untouched, by simp [listens?, begun, Except.toOption, Start.address?], by simp,
        congrArg Prod.snd begun⟩
    · right
      exact ⟨nowhere, .inl ⟨by simp, server.signal, unchanged⟩⟩
  | stop =>
    right
    refine ⟨rfl, .inr ⟨rfl, ?_⟩⟩
    cases accepting : server.isAccepting with
    | true => exact ⟨_, stop_of_accepting accepting⟩
    | false => exact ⟨server.signal, by rw [perform, stop_of_idle accepting, ← accepting]⟩
  | trigger => exact .inr ⟨rfl, .inl ⟨by simp, server.signal.trigger, rfl⟩⟩

/-- The task that accepts connections is made by a call that begins to listen, and taken away by a stop. -/
theorem isAccepting_perform_iff (call : Call) : (server.perform call).isAccepting = true ↔
    (server.listens? call).isSome = true ∨ server.isAccepting = true ∧ call ≠ .stop := by
  obtain ⟨address, -, begins, going, after⟩ | ⟨nowhere, ⟨going, signal, after⟩ | ⟨stopped, signal, after⟩⟩ :=
    server.perform_cases call
  · simp [begins, after]
  · simp [nowhere, going, after]
  · rw [after, nowhere, stopped]
    simp

/-- The pieces of a server's state agree with the addresses at which it has begun to listen. -/
structure Accounted (settings : ServerSettings) (listened : List SocketAddress) (server : Server) : Prop where
  settings : server.settings = settings
  address : server.address.toList = listened
  running : server.phase = .running ↔ server.isAccepting = true
  /-- Nothing can begin to listen a second time. -/
  engaged : listened ≠ [] → server.Engaged

theorem accounted_fresh (settings : ServerSettings) (dispatcher : Dispatcher) (acceptor : Option TlsAcceptor) :
    (fresh settings dispatcher acceptor).Accounted settings [] :=
  ⟨rfl, rfl, by simp [fresh], by simp⟩

namespace Accounted

variable {settings : ServerSettings} {listened : List SocketAddress}

theorem perform (accounted : server.Accounted settings listened) (call : Call) :
    (server.perform call).Accounted settings (listened ++ (server.listens? call).toList) := by
  have engaged : listened ≠ [] → (server.perform call).Engaged := fun some =>
    (engaged_perform_iff call).2 (.inl (accounted.engaged some))
  obtain ⟨address, untouched, begins, -, after⟩ | ⟨nowhere, ⟨-, signal, after⟩ | ⟨-, signal, after⟩⟩ :=
    server.perform_cases call
  · -- a server that is not engaged has never listened
    obtain rfl : listened = [] := by_contra fun some => untouched (accounted.engaged some)
    rw [begins, after]
    exact ⟨accounted.settings, rfl, by simp, fun _ => .inl rfl⟩
  · rw [nowhere, Option.toList_none, List.append_nil]
    rw [after] at engaged ⊢
    exact ⟨accounted.settings, accounted.address, accounted.running, engaged⟩
  · rw [nowhere, Option.toList_none, List.append_nil]
    rw [after] at engaged ⊢
    exact ⟨accounted.settings, accounted.address, by simp, engaged⟩

theorem run (accounted : server.Accounted settings listened) (calls : List Call) :
    (server.run calls).Accounted settings (listened ++ server.listened calls) := by
  induction calls generalizing server listened with
  | nil => simpa [Server.run, Server.listened] using accounted
  | cons call rest ih =>
    rw [run_cons, Server.listened, ← List.append_assoc]
    exact ih (accounted.perform call)

theorem length_le (accounted : server.Accounted settings listened) : listened.length ≤ 1 := by
  rw [← accounted.address]
  cases server.address <;> simp

theorem port (accounted : server.Accounted settings listened) :
    server.port = (listened.head?.map (·.port)).getD settings.port.toNat := by
  rw [Server.port, ← accounted.address, ← accounted.settings]
  cases server.address <;> rfl

theorem begins (accounted : server.Accounted settings listened) {call : Call} {address : SocketAddress}
    (begins : server.listens? call = some address) : (server.perform call).Accounted settings [address] := by
  have after := accounted.perform call
  have once := after.length_le
  rw [begins] at once after
  obtain rfl : listened = [] := by simpa using once
  exact after

theorem stays {address : SocketAddress} (accounted : server.Accounted settings [address]) (later : List Call) :
    (server.run later).Accounted settings [address] := by
  have after := accounted.run later
  have once := after.length_le
  have nothing : server.listened later = [] := by simpa using once
  rwa [nothing, List.append_nil] at after

end Accounted

/-- A server begins to listen at most once, whatever is called on it. Until then it has no address, and its port is the
configured one; from then on, also when it is stopped, it has the address that was bound. It runs exactly while there
is a task that accepts connections, which only a call that begins to listen makes. A start that fails leaves the server
as it was, so that one which can listen still goes through if nothing triggered the signal; and a start of a server that
accepts connections changes nothing. -/
theorem listens_once (settings : ServerSettings) (dispatcher : Dispatcher) (acceptor : Option TlsAcceptor)
    (calls : List Call) :
    let untouched := fresh settings dispatcher acceptor
    let server := untouched.run calls
    (untouched.listened calls).length ≤ 1 ∧
      (untouched.listened calls = [] → server.address = none ∧ server.port = settings.port.toNat) ∧
      (∀ call address, server.listens? call = some address → ∀ later,
        ((server.perform call).run later).address = some address ∧
          ((server.perform call).run later).port = address.port) ∧
      (server.phase = .running ↔ server.isAccepting = true) ∧
      (∀ call, (server.perform call).isAccepting = true ↔
        (server.listens? call).isSome = true ∨ server.isAccepting = true ∧ call ≠ .stop) ∧
      (∀ binding cause, (server.start binding).1.2 = .error cause → (server.start binding).2 = server ∧
        (server.signal.isTriggered = false → ∀ address,
          ((server.start binding).2.start (.bound address)).1.2 = .ok (.listening address))) ∧
      (server.isAccepting = true → ∀ binding, server.start binding = (.pure .already, server)) := by
  intro untouched server
  have accounted : server.Accounted settings (untouched.listened calls) :=
    (accounted_fresh settings dispatcher acceptor).run calls
  refine ⟨accounted.length_le, fun nowhere => ?_, fun call address begins later => ?_, accounted.running,
    isAccepting_perform_iff, fun binding cause failed => ⟨start_of_error failed, fun untriggered address => ?_⟩,
    start_of_accepting⟩
  · have address := accounted.address
    have port := accounted.port
    rw [nowhere] at address port
    exact ⟨by simpa using address, port⟩
  · have stays := (accounted.begins begins).stays later
    exact ⟨by simpa using stays.address, stays.port⟩
  · -- a start fails only where there is no task yet
    have idle : server.isAccepting = false := by
      by_contra accepting
      rw [start_of_accepting (by simpa using accepting)] at failed
      cases failed
    rw [start_of_error failed, start_bound idle untriggered]

def bound : SocketAddress := { ServerSettings.standard.socketAddress with port := 40001 }

/-- A stop and two starts that fail. -/
def luckless : List Call := [.start .refused, .stop, .start (.nameless .other "gone")]

/-- After a stop and two failures a start still goes through, and no other does after it. -/
theorem luckless_listens_once :
    (∃ cause, (untouched.start .refused).1.2 = .error cause) ∧
      (untouched.start .refused).2 = untouched ∧ untouched.signal.isTriggered = false ∧
      ((untouched.start .refused).2.start (.bound bound)).1.2 = .ok (.listening bound) ∧
      untouched.listened luckless = [] ∧ (untouched.run luckless).port = 8080 ∧
      (untouched.run luckless).listens? (.start (.bound bound)) = some bound ∧
      (((untouched.run luckless).perform (.start (.bound bound))).run [.trigger, .stop, .start (.bound bound)]).port =
        40001 ∧
      (untouched.run (luckless ++ [.start (.bound bound)])).isAccepting = true ∧
      (untouched.run (luckless ++ [.start (.bound bound)])).start .refused =
        (.pure .already, untouched.run (luckless ++ [.start (.bound bound)])) := by
  obtain ⟨-, -, -, -, -, failing, -⟩ :=
    listens_once ServerSettings.standard (Dispatcher.fresh Handler.failure [] (0 : Int)) none []
  obtain ⟨unchanged, goes⟩ := failing .refused _ rfl
  obtain ⟨-, unbound, begins, -⟩ :=
    listens_once ServerSettings.standard (Dispatcher.fresh Handler.failure [] (0 : Int)) none luckless
  obtain ⟨-, -, -, -, -, -, already⟩ := listens_once ServerSettings.standard
    (Dispatcher.fresh Handler.failure [] (0 : Int)) none (luckless ++ [.start (.bound bound)])
  exact ⟨⟨_, rfl⟩, unchanged, rfl, goes rfl bound, rfl, (unbound rfl).2, rfl, (begins _ bound rfl _).2, rfl,
    already rfl .refused⟩

end Server

end Sluice
