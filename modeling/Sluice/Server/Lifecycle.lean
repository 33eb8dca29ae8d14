import Sluice.Config.Settings
import Sluice.Dispatch.Dispatcher
import Sluice.Log
import Sluice.Server.Shutdown
import Sluice.Tls.Acceptor

/-! Servers: where they listen, and how they start and stop. -/

set_option autoImplicit false

namespace Sluice

/-- The phases of a server. -/
inductive Server.Phase where
  | initializing
  | running
  | shuttingDown
  | stopped
  deriving DecidableEq, Repr

/-- What comes of the wish to listen at an address. -/
inductive Server.Binding where
  | refused
  /-- The address that was bound cannot be told. -/
  | nameless (device : Device) (detail : String)
  | bound (address : SocketAddress)
  deriving DecidableEq, Repr

/-- What a start did that did not fail. -/
inductive Server.Start where
  | already
  | listening (address : SocketAddress)
  deriving DecidableEq, Repr

structure Server where
  settings : ServerSettings
  dispatcher : Dispatcher
  acceptor : Option TlsAcceptor
  phase : Server.Phase
  signal : ShutdownSignal
  /-- The bound address, from the first start that succeeds. -/
  address : Option SocketAddress
  /-- Whether a task accepts connections. -/
  isAccepting : Bool

namespace Server

def Phase.name : Phase → String
  | .initializing => "Initializing"
  | .running => "Running"
  | .shuttingDown => "ShuttingDown"
  | .stopped => "Stopped"

def fresh (settings : ServerSettings) (dispatcher : Dispatcher) (acceptor : Option TlsAcceptor) : Server :=
  ⟨settings, dispatcher, acceptor, .initializing, .fresh, none, false⟩

/-- The bound port; before a start, the configured one. -/
def port (server : Server) : Nat :=
  match server.address with
  | some address => address.port
  | none => server.settings.port.toNat

def isSecure (server : Server) : Bool := server.acceptor.isSome

def inFlight (server : Server) : Nat := server.dispatcher.inFlight

def outline (server : Server) : Text.Outline :=
  .closed "WebServer" [
    ("settings", server.settings.outline),
    ("local_addr", .option (fun address => .atom address.text) server.address),
    ("tls", .flag server.isSecure),
    ("in_flight", .nat server.inFlight)]

/-- Anyone who holds the signal can trigger it. -/
def trigger (server : Server) : Server := { server with signal := server.signal.trigger }

def startedLine (server : Server) (address : SocketAddress) : LogLine :=
  ⟨.info, "Web server started", [("listen", .shown address.text), ("tls", .flag server.isSecure)]⟩

/-- Starts to accept connections. A server that accepts already is left alone, one whose signal was triggered cannot
start any more, and a failure to listen changes nothing. -/
def start (server : Server) (binding : Binding) : Logged Start × Server :=
  if server.isAccepting then (.pure .already, server)
  else if server.signal.isTriggered then (.fail (.runtime "server has been stopped"), server)
  else match binding with
    | .refused =>
      (.fail (.runtime ("Failed to bind to " ++ server.settings.socketAddress.text)), server)
    | .nameless device detail => (.fail (.device device detail), server)
    | .bound address =>
      ((Logged.say (server.startedLine address)).andThen fun _ => .pure (.listening address),
        { server with address := some address, isAccepting := true, phase := .running })

def close (server : Server) : Server :=
  { server with isAccepting := false, phase := .shuttingDown, signal := server.signal.trigger }

/-- Stops a server. One that accepts connections is closed first; another one only changes its phase. -/
def stop (server : Server) : Server :=
  { (if server.isAccepting then server.close else server) with phase := .stopped }

end Server

end Sluice
