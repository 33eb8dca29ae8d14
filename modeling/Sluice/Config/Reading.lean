import Sluice.Config.Settings

/-! Settings read from a document. What a document leaves out keeps its default. -/

set_option autoImplicit false

namespace Sluice

open Document (RecordSequences)

def Duration.read? (document : Document) : Option Duration :=
  (Document.text? document).bind Duration.ofText?

def IpAddress.read? (document : Document) : Option IpAddress :=
  (Document.text? document).bind IpAddress.ofText?

/-- A port number. -/
def readPort? (document : Document) : Option UInt16 :=
  (Document.natural? 65535 document).map fun n => UInt16.ofNat n

/-- Whether HTTP/2 is enabled, as a record of one field. -/
def readHttp2? (rule : RecordSequences) (document : Document) : Option Bool := do
  let [enabled] ← Document.fields? rule ["enabled"] document | none
  Document.orElse? true Document.flag? enabled

def CompressionSettings.read? (rule : RecordSequences) (document : Document) :
    Option CompressionSettings := do
  let [enabled, minResponseSize, mimeTypes] ←
    Document.fields? rule ["enabled", "min_response_size", "mime_types"] document | none
  return {
    enabled := ← Document.orElse? false Document.flag? enabled
    minResponseSize :=
      ← Document.orElse? none (Document.optional? (Document.natural? 18446744073709551615)) minResponseSize
    mimeTypes := ← Document.orElse? [] (Document.list? Document.text?) mimeTypes }

def ServerSettings.read? (rule : RecordSequences) (document : Document) : Option ServerSettings := do
  let [address, port, tls, http2, compression, shutdownTimeout] ←
    Document.fields? rule ["address", "port", "ssl", "http2", "compression", "shutdown_timeout"] document
      | none
  return {
    address := ← Document.orElse? none (Document.optional? IpAddress.read?) address
    port := ← Document.orElse? ServerSettings.standard.port readPort? port
    tls := ← Document.orElse? none (Document.optional? (TlsSettings.read? rule)) tls
    http2 := ← Document.orElse? ServerSettings.standard.http2 (readHttp2? rule) http2
    compression :=
      ← Document.orElse? CompressionSettings.standard (CompressionSettings.read? rule) compression
    shutdownTimeout :=
      ← Document.orElse? ServerSettings.standard.shutdownTimeout Duration.read? shutdownTimeout }

def LoggingSettings.read? (rule : RecordSequences) (document : Document) : Option LoggingSettings := do
  let [level, format] ← Document.fields? rule ["level", "format"] document | none
  return {
    level := ← Document.orElse? Config.standard.logging.level Document.text? level
    format := ← Document.orElse? Config.standard.logging.format Document.text? format }

def TracingSettings.read? (rule : RecordSequences) (document : Document) : Option TracingSettings := do
  let [enabled, sampleRate, serviceName] ←
    Document.fields? rule ["enabled", "sample_rate", "service_name"] document | none
  return {
    enabled := ← Document.orElse? Config.standard.tracing.enabled Document.flag? enabled
    sampleRate := ← Document.orElse? Config.standard.tracing.sampleRate Document.single? sampleRate
    serviceName := ← Document.orElse? Config.standard.tracing.serviceName Document.text? serviceName }

/-- Logging and tracing settings, which stand together in a record. -/
def readObservability? (rule : RecordSequences) (document : Document) :
    Option (LoggingSettings × TracingSettings) := do
  let [logging, tracing] ← Document.fields? rule ["logging", "tracing"] document | none
  return (← Document.orElse? Config.standard.logging (LoggingSettings.read? rule) logging,
    ← Document.orElse? Config.standard.tracing (TracingSettings.read? rule) tracing)

def Config.read? (rule : RecordSequences) (document : Document) : Option Config := do
  let [server, observability] ← Document.fields? rule ["server", "observability"] document | none
  let server ← Document.orElse? Config.standard.server (ServerSettings.read? rule) server
  let (logging, tracing) ← Document.orElse? (Config.standard.logging, Config.standard.tracing)
    (readObservability? rule) observability
  return ⟨server, logging, tracing⟩

end Sluice
