import Sluice.Config.Validation

/-! Settings put together step by step, starting from the defaults, and validated at the end. -/

set_option autoImplicit false

namespace Sluice

/-- Settings under way. -/
structure ConfigBuilder where
  config : Config
  deriving DecidableEq, Repr

namespace ConfigBuilder

def fresh : ConfigBuilder := ⟨Config.standard⟩

def server (builder : ConfigBuilder) (settings : ServerSettings) : ConfigBuilder :=
  ⟨{ builder.config with server := settings }⟩

def address (builder : ConfigBuilder) (address : IpAddress) : ConfigBuilder :=
  builder.server { builder.config.server with address := some address }

def port (builder : ConfigBuilder) (port : UInt16) : ConfigBuilder :=
  builder.server { builder.config.server with port }

def tls (builder : ConfigBuilder) (settings : TlsSettings) : ConfigBuilder :=
  builder.server { builder.config.server with tls := some settings }

def http2 (builder : ConfigBuilder) (enabled : Bool) : ConfigBuilder :=
  builder.server { builder.config.server with http2 := enabled }

def shutdownTimeout (builder : ConfigBuilder) (timeout : Duration) : ConfigBuilder :=
  builder.server { builder.config.server with shutdownTimeout := timeout }

def tracing (builder : ConfigBuilder) (service : String) (rate : Binary) : ConfigBuilder :=
  ⟨{ builder.config with tracing := ⟨true, rate, service⟩ }⟩

/-- The settings, if they are valid. -/
def build (builder : ConfigBuilder) (files : Files) : Logged Config :=
  (builder.config.validate files).andThen fun _ => .pure builder.config

end ConfigBuilder

end Sluice
