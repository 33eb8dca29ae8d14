import Sluice.Config.Settings
import Sluice.Log
import Sluice.Tls.Validation

/-! What is checked of settings beyond their form. -/

set_option autoImplicit false

namespace Sluice

/-- What can be wrong with settings. -/
inductive ConfigDefect where
  | tls (defect : TlsDefect)
  | logFormat (format : String)
  | sampleRate (rate : Binary)
  | noServiceName
  deriving DecidableEq, Repr

namespace ConfigDefect

def message : ConfigDefect → String
  | .tls defect => defect.message
  | .logFormat format => "Invalid log format: " ++ format ++ " (must be json or text)"
  | .sampleRate rate =>
    "tracing sample_rate must be between 0.0 and 1.0, got " ++ rate.plainText .single
  | .noServiceName => "tracing service_name cannot be empty"

def fault (defect : ConfigDefect) : Fault := .config defect.message

end ConfigDefect

/-- Checks the TLS settings, if they are enabled. -/
def ServerSettings.check (settings : ServerSettings) (files : Files) : Except ConfigDefect Unit :=
  match settings.activeTls with
  | some tls => (tls.check files).mapError .tls
  | none => .ok ()

namespace Config

/-- Checks the settings of logging and tracing. -/
def checkObservation (config : Config) : Except ConfigDefect Unit :=
  if config.logging.format != "json" && config.logging.format != "text" then
    .error (.logFormat config.logging.format)
  else if !((Binary.zero false).le config.tracing.sampleRate && config.tracing.sampleRate.le Binary.one) then
    .error (.sampleRate config.tracing.sampleRate)
  else if config.tracing.serviceName.isEmpty then .error .noServiceName
  else .ok ()

/-- Checks the settings; the first defect wins. -/
def check (config : Config) (files : Files) : Except ConfigDefect Unit := do
  config.server.check files
  config.checkObservation

/-- Whether stopping may take more than five minutes. -/
def waitsLong (config : Config) : Bool := 300 < config.server.shutdownTimeout.seconds

/-- The check, with a warning about a long wait before it. -/
def validate (config : Config) (files : Files) : Logged Unit :=
  let warnings : List LogLine :=
    if config.waitsLong then [⟨.warn, "shutdown_timeout is very high (>5 minutes)", []⟩] else []
  (warnings, (config.check files).mapError ConfigDefect.fault)

end Config

end Sluice
