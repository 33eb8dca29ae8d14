import Sluice.Chain.Tracing
import Sluice.Server.Lifecycle

/-! Servers made from settings. TLS is set up when a server is made, so what is wrong with it shows before anything
listens. -/

set_option autoImplicit false

namespace Sluice

/-- The kinds of applications that a server can run. -/
inductive ApplicationKind where
  | reactive
  | servlet
  deriving DecidableEq, Repr

def ApplicationKind.standard : ApplicationKind := .reactive

/-- Makes servers with the same settings and decorators. -/
structure ServerFactory where
  settings : ServerSettings
  decorators : List (Decorator Flow (Reply Source))

namespace ServerFactory

def ofSettings (settings : ServerSettings) : ServerFactory := ⟨settings, []⟩

/-- The factory for a kind of application; there is none for servlets. -/
def ofKind (kind : ApplicationKind) (settings : ServerSettings) : Except Fault ServerFactory :=
  match kind with
  | .reactive => .ok (ofSettings settings)
  | .servlet => .error (.notImplemented "Not implemented yet. Are you interested in sending a PR?")

/-- Adds a decorator inside of those that are there. -/
def decorate (factory : ServerFactory) (decorator : Decorator Flow (Reply Source)) : ServerFactory :=
  { factory with decorators := factory.decorators ++ [decorator] }

def outline (factory : ServerFactory) : Text.Outline :=
  .closed "ReactiveWebServerFactory" [
    ("settings", factory.settings.outline),
    ("decorators", .list (factory.decorators.map fun _ => .atom ".."))]

/-- The factory of a configuration; tracing is a decorator. -/
def ofConfig (config : Config) : Logged ServerFactory :=
  let factory := ofSettings config.server
  if config.tracing.enabled then
    (Logged.say ⟨.info, "HTTP tracing enabled", [("service", .shown config.tracing.serviceName),
      ("sample_rate", .shown (config.tracing.sampleRate.outlineText .double))]⟩).andThen fun _ =>
        .pure (factory.decorate (Tracing.decorator ⟨config.tracing.serviceName, .ofRate config.tracing.sampleRate⟩))
  else .pure factory

/-- Sets TLS up if it is enabled. -/
def acceptor (files : Files) (settings : ServerSettings) : Logged (Option TlsAcceptor) :=
  match settings.activeTls with
  | none => .pure none
  | some tls =>
    match TlsAcceptor.ofSettings files tls with
    | (lines, .error fault) =>
      (lines ++ [⟨.error, "Failed to initialize TLS", [("error", .shown fault.message)]⟩], .error fault)
    | (lines, .ok acceptor) =>
      (lines ++ [⟨.info, "HTTPS enabled", [("self_signed", .flag acceptor.isSelfSigned),
        ("client_auth", .shown tls.clientAuth.name)]⟩], .ok (some acceptor))

/-- Settings that have no effect are only warned about. -/
def warnings (settings : ServerSettings) : List LogLine :=
  (if settings.http2 then []
    else [⟨.warn, "HTTP/2 cannot be disabled; it is negotiated per connection", []⟩]) ++
  (if settings.compression.enabled then
    [⟨.warn, "Response compression is not supported and will be ignored",
      [("mime_types", .shown (TlsSettings.outlineTexts settings.compression.mimeTypes).render)]⟩]
    else [])

/-- Makes a server for a handler. -/
def server (factory : ServerFactory) (files : Files) (clock : Instant) (handler : Handler) : Logged Server :=
  (acceptor files factory.settings).andThen fun acceptor =>
    (warnings factory.settings,
      .ok (Server.fresh factory.settings (Dispatcher.fresh handler factory.decorators clock) acceptor))

end ServerFactory

end Sluice
