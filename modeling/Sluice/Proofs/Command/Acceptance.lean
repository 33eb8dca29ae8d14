import Sluice.Command.Run
import Sluice.Proofs.Tls.Validation

/-! Which configurations the commands accept. The check of a configuration has two halves: the enabled TLS settings,
and the settings of logging and tracing. Neither command runs the check. What `validate` calls valid is a file that
can be read; a server that `serve` starts has passed the first half, since it sets TLS up before it listens. -/

set_option autoImplicit false

namespace Sluice

/-- The TLS settings, if they are enabled, pass their check. -/
def ServerSettings.Secures (settings : ServerSettings) (files : Files) : Prop :=
  ∀ tls, settings.activeTls = some tls → tls.check files = .ok ()

theorem ServerSettings.check_eq_ok_iff {settings : ServerSettings} {files : Files} :
    settings.check files = .ok () ↔ settings.Secures files := by
  unfold check Secures
  cases settings.activeTls with
  | none => simp
  | some tls => simp [mapError_eq_ok_iff]

namespace Config

variable {config : Config} {files : Files}

/-- The settings of logging and tracing are legal. -/
structure Observes (config : Config) : Prop where
  format : config.logging.format = "json" ∨ config.logging.format = "text"
  rate : (Binary.zero false).le config.tracing.sampleRate = true ∧ config.tracing.sampleRate.le Binary.one = true
  service : config.tracing.serviceName ≠ ""

theorem checkObservation_eq_ok_iff : config.checkObservation = .ok () ↔ config.Observes := by
  constructor
  · intro checked
    unfold checkObservation at checked
    split at checked
    · cases checked
    · rename_i format
      split at checked
      · cases checked
      · rename_i rate
        split at checked
        · cases checked
        · rename_i service
          refine ⟨?_, by simpa using rate, by simpa using service⟩
          simpa [Classical.or_iff_not_imp_left] using format
  · rintro ⟨format, ⟨low, high⟩, service⟩
    have known : (config.logging.format != "json" && config.logging.format != "text") = false := by
      rcases format with same | same <;> simp [same]
    simp [checkObservation, known, low, high, service]

/-- The validator accepts the configuration. -/
def Passes (config : Config) (files : Files) : Prop := (config.validate files).2 = .ok ()

theorem passes_iff : config.Passes files ↔ config.server.Secures files ∧ config.Observes := by
  rw [← ServerSettings.check_eq_ok_iff, ← checkObservation_eq_ok_iff]
  unfold Passes validate check
  rw [mapError_eq_ok_iff]
  cases config.server.check files <;> simp [bind, Except.bind]

theorem standard_passes (files : Files) : standard.Passes files := by
  have plain : ServerSettings.standard.Secures files := by
    simp [ServerSettings.Secures, ServerSettings.activeTls, ServerSettings.standard]
  have observes : standard.Observes := ⟨.inr rfl, by decide, by decide⟩
  exact passes_iff.2 ⟨plain, observes⟩

end Config

namespace ServerFactory

variable {factory : ServerFactory} {files : Files}

theorem ofConfig_settings {config : Config} (made : (ofConfig config).2 = .ok factory) :
    factory.settings = config.server := by
  unfold ofConfig at made
  split at made
  · obtain ⟨-, -, made⟩ := Logged.andThen_eq_ok_iff.1 made
    cases made
    rfl
  · cases made
    rfl

/-- TLS is not set up from settings that fail their check. -/
theorem acceptor_secures {settings : ServerSettings} {made : Option TlsAcceptor}
    (set : (acceptor files settings).2 = .ok made) : settings.Secures files := by
  intro tls active
  simp only [acceptor, active] at set
  have validated : ∃ acceptor, (TlsAcceptor.ofSettings files tls).2 = .ok acceptor := by
    cases made : TlsAcceptor.ofSettings files tls with
    | mk lines result =>
      cases result with
      | ok acceptor => exact ⟨acceptor, rfl⟩
      | error fault => simp [made] at set
  obtain ⟨acceptor, made⟩ := validated
  -- the check comes before a key or a certificate is read
  obtain ⟨_, valid, -⟩ := Logged.andThen_eq_ok_iff.1 made
  change (tls.check files).mapError TlsDefect.fault = .ok _ at valid
  cases checked : tls.check files with
  | ok done => rfl
  | error defect =>
    rw [checked] at valid
    cases valid

end ServerFactory

namespace Server

/-- A server that was just made starts only if it can listen, and then it runs. -/
theorem fresh_start_ok {settings : ServerSettings} {dispatcher : Dispatcher} {acceptor : Option TlsAcceptor}
    {binding : Binding} {outcome : Start}
    (started : ((fresh settings dispatcher acceptor).start binding).1.2 = .ok outcome) :
    ((fresh settings dispatcher acceptor).start binding).2.settings = settings ∧
      ((fresh settings dispatcher acceptor).start binding).2.phase = .running := by
  cases binding with
  | refused | nameless => cases started
  | bound address => exact ⟨rfl, rfl⟩

end Server

namespace Command.World

variable {world : World} {path : String} {config : Config}

theorem validate_code_eq_zero_iff :
    (world.validate path).code = 0 ↔ ∃ config, Config.load world.files world.environment path = .ok config := by
  simp only [Config.load, mapError_eq_ok_iff]
  unfold validate
  cases Config.ofFile world.files world.environment path <;> simp

/-- The settings are those of the file, or the standard ones if there is no file. -/
theorem settings_ok {isLoaded : Bool} (found : world.settings path = .ok (config, isLoaded)) :
    (isLoaded = true ∧ Config.load world.files world.environment path = .ok config) ∨
      (isLoaded = false ∧ world.files.contains path = false ∧ config = Config.standard) := by
  unfold settings at found
  split at found
  · left
    cases loaded : Config.load world.files world.environment path with
    | error fault => simp [loaded, Except.map] at found
    | ok other =>
      simp only [loaded, Except.map, Except.ok.injEq, Prod.mk.injEq] at found
      obtain ⟨rfl, rfl⟩ := found
      exact ⟨rfl, rfl⟩
  · rename_i absent
    cases found
    exact .inr ⟨rfl, by simpa using absent, rfl⟩

/-- What the command line sets is no part of the check. -/
theorem override_passes_iff {files : Files} (port : Option UInt16) (level : Option String) :
    (override config port level).Passes files ↔ config.Passes files := by
  rw [Config.passes_iff, Config.passes_iff]
  exact and_congr Iff.rfl ⟨fun ⟨format, rate, service⟩ => ⟨format, rate, service⟩,
    fun ⟨format, rate, service⟩ => ⟨format, rate, service⟩⟩

theorem launch_ok {server : Server} (launched : (world.launch config).2 = .ok server) :
    server.settings = config.server ∧ server.phase = .running ∧ config.server.Secures world.files := by
  -- there is a server only if the factory, the server and its start came out well
  obtain ⟨factory, made, launched⟩ := Logged.andThen_eq_ok_iff.1 launched
  obtain ⟨unstarted, built, launched⟩ := Logged.andThen_eq_ok_iff.1 launched
  obtain ⟨outcome, started, launched⟩ := Logged.andThen_eq_ok_iff.1 launched
  obtain ⟨acceptor, set, built⟩ := Logged.andThen_eq_ok_iff.1 built
  cases built
  cases launched
  have same := ServerFactory.ofConfig_settings made
  have secures := ServerFactory.acceptor_secures set
  have running := Server.fresh_start_ok started
  exact ⟨running.1.trans same, running.2, same ▸ secures⟩

theorem serve_code_eq_zero_iff {port : Option UInt16} {level : Option String} :
    (world.serve path port level).code = 0 ↔
      ∃ config isLoaded server, world.settings path = .ok (config, isLoaded) ∧
        (world.launch (override config port level)).2 = .ok server := by
  unfold serve
  cases found : world.settings path with
  | error fault => simp
  | ok pair =>
    obtain ⟨config, isLoaded⟩ := pair
    constructor
    · intro served
      cases launched : (world.launch (override config port level)).2 with
      | error fault => simp [launched] at served
      | ok server => exact ⟨config, isLoaded, server, rfl, launched⟩
    · rintro ⟨_, _, server, same, launched⟩
      cases same
      simp [launched]

/-- `validate` accepts what loads, `serve` what loads and has its TLS settings in order. That the validator would
accept it too is left to the file. -/
theorem accepted_passes_iff (world : World) (path : String) :
    ((world.validate path).code = 0 ↔ ∃ config, Config.load world.files world.environment path = .ok config) ∧
      (∀ config : Config, config.Passes world.files ↔ config.server.Secures world.files ∧ config.Observes) ∧
      ∀ port level, (world.serve path port level).code = 0 →
        ∃ config isLoaded server, world.settings path = .ok (config, isLoaded) ∧
          (world.launch (override config port level)).2 = .ok server ∧
          server.settings = (override config port level).server ∧ server.phase = .running ∧
          ((override config port level).Passes world.files ↔ config.Observes) ∧
          (isLoaded = false → (override config port level).Passes world.files) := by
  refine ⟨validate_code_eq_zero_iff, fun _ => Config.passes_iff, fun port level served => ?_⟩
  obtain ⟨config, isLoaded, server, found, launched⟩ := serve_code_eq_zero_iff.1 served
  obtain ⟨same, running, secures⟩ := launch_ok launched
  have passes : (override config port level).Passes world.files ↔ config.Observes := by
    rw [override_passes_iff, Config.passes_iff]
    -- the port on the command line leaves TLS as it is
    exact and_iff_right secures
  refine ⟨config, isLoaded, server, found, launched, same, running, passes, fun absent => ?_⟩
  rcases settings_ok found with ⟨loaded, -⟩ | ⟨-, -, rfl⟩
  · cases loaded.symm.trans absent
  · exact (override_passes_iff port level).2 (Config.standard_passes world.files)

/-- One file, and an address to listen at for every server. -/
def holding (name content : String) : World :=
  ⟨[], ⟨[(name, .ok (Bytes.ofText content))]⟩, 0, fun settings => .bound settings.socketAddress⟩

def knownFormat : World := holding "a.json" "\x7b\"observability\":\x7b\"logging\":\x7b\"format\":\"json\"\x7d\x7d\x7d"

theorem known_format_passes :
    (knownFormat.serve "a.json" none none).code = 0 ∧
      ∃ config isLoaded, knownFormat.settings "a.json" = .ok (config, isLoaded) ∧
        ((override config none none).Passes knownFormat.files ↔ config.Observes) := by
  have served : (knownFormat.serve "a.json" none none).code = 0 := by decide +kernel
  obtain ⟨-, -, serves⟩ := accepted_passes_iff knownFormat "a.json"
  obtain ⟨config, isLoaded, -, found, -, -, -, passes, -⟩ := serves none none served
  exact ⟨served, config, isLoaded, found, passes⟩

def unknownFormat : World := holding "a.json" "\x7b\"observability\":\x7b\"logging\":\x7b\"format\":\"xml\"\x7d\x7d\x7d"

/-- A format that the check does not know is accepted. -/
theorem unknown_format_accepted :
    (unknownFormat.validate "a.json").code = 0 ∧ (unknownFormat.serve "a.json" none none).code = 0 ∧
      ∃ config, Config.load unknownFormat.files unknownFormat.environment "a.json" = .ok config ∧
        ¬ config.Passes unknownFormat.files := by
  have valid : (unknownFormat.validate "a.json").code = 0 := by decide +kernel
  have served : (unknownFormat.serve "a.json" none none).code = 0 := by decide +kernel
  have known : (Config.load unknownFormat.files unknownFormat.environment "a.json").toOption =
      some { Config.standard with logging := ⟨"info", "xml"⟩ } := by decide +kernel
  obtain ⟨config, loaded⟩ := validate_code_eq_zero_iff.1 valid
  refine ⟨valid, served, config, loaded, fun passes => ?_⟩
  rw [loaded] at known
  cases known
  have observes := (Config.passes_iff.1 passes).2
  exact absurd observes.format (by decide)

end Command.World

end Sluice
