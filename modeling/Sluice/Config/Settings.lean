import Sluice.Address
import Sluice.Duration
import Sluice.Tls.Settings

/-! The settings of a server and of its observation, with their defaults. -/

set_option autoImplicit false

namespace Sluice

structure CompressionSettings where
  enabled : Bool
  minResponseSize : Option Nat
  mimeTypes : List String
  deriving DecidableEq, Repr

structure ServerSettings where
  address : Option IpAddress
  port : UInt16
  tls : Option TlsSettings
  http2 : Bool
  compression : CompressionSettings
  shutdownTimeout : Duration
  deriving DecidableEq, Repr

structure LoggingSettings where
  level : String
  format : String
  deriving DecidableEq, Repr

structure TracingSettings where
  enabled : Bool
  sampleRate : Binary
  serviceName : String
  deriving DecidableEq, Repr

structure Config where
  server : ServerSettings
  logging : LoggingSettings
  tracing : TracingSettings
  deriving DecidableEq, Repr

namespace CompressionSettings

def standard : CompressionSettings := ⟨false, none, []⟩

def toJson (settings : CompressionSettings) : Json :=
  .object [
    ("enabled", .bool settings.enabled),
    ("min_response_size", Json.option .nat settings.minResponseSize),
    ("mime_types", Json.texts settings.mimeTypes)]

def outline (settings : CompressionSettings) : Text.Outline :=
  .closed "CompressionConfig" [
    ("enabled", .flag settings.enabled),
    ("min_response_size", .option Text.Outline.nat settings.minResponseSize),
    ("mime_types", TlsSettings.outlineTexts settings.mimeTypes)]

end CompressionSettings

namespace ServerSettings

def standard : ServerSettings := ⟨none, 8080, none, true, CompressionSettings.standard, Duration.ofSeconds 30⟩

/-- Where to listen; without an address, on all of them. -/
def socketAddress (settings : ServerSettings) : SocketAddress :=
  ⟨settings.address.getD IpAddress.unspecified, 0, settings.port.toNat⟩

/-- The TLS settings if there are any and they are enabled. -/
def activeTls (settings : ServerSettings) : Option TlsSettings := settings.tls.filter (·.enabled)

def toJson (settings : ServerSettings) : Json :=
  .object [
    ("address", Json.option (fun a => .string a.text) settings.address),
    ("port", .nat settings.port.toNat),
    ("ssl", Json.option TlsSettings.toJson settings.tls),
    ("http2", .object [("enabled", .bool settings.http2)]),
    ("compression", settings.compression.toJson),
    ("shutdown_timeout", .string settings.shutdownTimeout.text)]

def outline (settings : ServerSettings) : Text.Outline :=
  .closed "ServerSettings" [
    ("address", .option (fun a => .atom a.text) settings.address),
    ("port", .nat settings.port.toNat),
    ("ssl", .option TlsSettings.outline settings.tls),
    ("http2", .closed "Http2Config" [("enabled", .flag settings.http2)]),
    ("compression", settings.compression.outline),
    ("shutdown_timeout", .atom settings.shutdownTimeout.outlineText)]

end ServerSettings

namespace Config

def standard : Config :=
  ⟨ServerSettings.standard, ⟨"info", "text"⟩, ⟨false, Binary.one, "spindle"⟩⟩

/-- The written form; the sample rate is given as text. -/
def toJson (config : Config) : Json :=
  .object [
    ("server", config.server.toJson),
    ("observability", .object [
      ("logging", .object [("level", .string config.logging.level), ("format", .string config.logging.format)]),
      ("tracing", .object [
        ("enabled", .bool config.tracing.enabled),
        ("sample_rate", .string (config.tracing.sampleRate.plainText .single)),
        ("service_name", .string config.tracing.serviceName)])])]

end Config

end Sluice
