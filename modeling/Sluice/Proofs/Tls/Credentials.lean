import Sluice.Proofs.Tls.Validation
import Sluice.Tls.Credentials

/-! What becomes of certificates and keys that passed the check as files. What can still go wrong is that they cannot be
opened, and their content. An identity holds what the configured files hold, and one is generated only if nothing is
configured in its place. -/

set_option autoImplicit false

namespace Sluice

namespace Logged

variable {α β : Type} {cause : Fault → Prop}

/-- If the computation fails, then for such a cause. -/
def FailsOnly (cause : Fault → Prop) (computation : Logged α) : Prop :=
  ∀ fault, computation.2 = .error fault → cause fault

theorem failsOnly_pure (value : α) : (Logged.pure value).FailsOnly cause := nofun

theorem failsOnly_say (line : LogLine) : (say line).FailsOnly cause := nofun

theorem failsOnly_fail {fault : Fault} (caused : cause fault) : (fail fault : Logged α).FailsOnly cause := by
  rintro _ ⟨⟩
  exact caused

theorem failsOnly_mapError {ε : Type} {f : ε → Fault} {result : Except ε α}
    (caused : ∀ error, result = .error error → cause (f error)) : (ofExcept (result.mapError f)).FailsOnly cause := by
  cases result with
  | ok value => nofun
  | error error =>
    rintro _ ⟨⟩
    exact caused error rfl

theorem FailsOnly.andThen {first : Logged α} {next : α → Logged β} (start : first.FailsOnly cause)
    (rest : ∀ value, first.2 = .ok value → (next value).FailsOnly cause) : (first.andThen next).FailsOnly cause := by
  obtain ⟨lines, result⟩ := first
  cases result with
  | error fault =>
    rintro _ ⟨⟩
    exact start fault rfl
  | ok value => exact rest value rfl

section
variable {ε : Type} {f : ε → Fault} {result : Except ε α} {line : α → LogLine} {g : α → β}

/-- What was read is announced and passed on. -/
theorem announced_eq_ok_iff {made : β} :
    ((ofExcept (result.mapError f)).andThen fun value =>
      (say (line value)).andThen fun _ => Logged.pure (g value)).2 = .ok made ↔
        ∃ value, result = .ok value ∧ g value = made := by
  cases result with
  | error error => simp [ofExcept, Except.mapError, andThen]
  | ok value => simp [ofExcept, Except.mapError, andThen, say, Logged.pure]

theorem announced_failsOnly (caused : ∀ error, result = .error error → cause (f error)) :
    ((ofExcept (result.mapError f)).andThen fun value =>
      (say (line value)).andThen fun _ => Logged.pure (g value)).FailsOnly cause :=
  (failsOnly_mapError caused).andThen fun _ _ => (failsOnly_say _).andThen fun _ _ => failsOnly_pure _

end

end Logged

/-- Something is wrong with a file that is there: it cannot be opened, or with its content. -/
inductive CredentialProblem.OfFile (files : Files) (path : String) : CredentialProblem → Prop where
  | sealed {store cause : String} : files.lookUp path = .sealed cause → OfFile files path (.unreadable store path cause)
  | malformedCertificates : OfFile files path .malformedCertificates
  | noCertificate : OfFile files path (.noCertificate path)
  | malformedKey : OfFile files path .malformedKey
  | noKey : OfFile files path (.noKey path)
  | noAnchor : OfFile files path .noAnchor

namespace CredentialProblem.OfFile

variable {files : Files} {path : String} {problem : CredentialProblem}

theorem fault_eq (ofFile : OfFile files path problem) : problem.fault = .config problem.message := by
  cases ofFile <;> rfl

theorem message_lead (ofFile : OfFile files path problem) :
    problem.message.toList.take 2 ∈ [['F', 'a'], ['N', 'o'], ['I', 'n']] := by
  unfold message
  cases ofFile <;> simp

end CredentialProblem.OfFile

theorem TlsDefect.message_lead (defect : TlsDefect) :
    defect.message.toList.take 2 ∈ [['U', 'n'], ['E', 'n'], ['C', 'o'], ['c', 'e'], ['F', 'i'], ['c', 'l']] := by
  unfold message
  cases defect <;> simp

namespace TlsSettings

variable {files : Files} {settings : TlsSettings} {fault : Fault}

/-- No certificate, no key and no store of both. -/
structure NothingConfigured (settings : TlsSettings) : Prop where
  keyStore : settings.keyStore = none
  certificate : settings.certificate = none
  certificateKey : settings.certificateKey = none

/-- A certificate can carry the name of the host. -/
def Certifiable (host : String) : Prop := ∀ c ∈ host.toList, c.toNat ≤ 127

/-- What can go wrong with settings that passed the check. -/
inductive Trouble (settings : TlsSettings) (files : Files) : Fault → Prop where
  | file {path : String} {problem : CredentialProblem} : path ∈ settings.paths →
      CredentialProblem.OfFile files path problem → Trouble settings files problem.fault
  | host {host : String} : settings.NothingConfigured → host ∈ settings.selfSignedHosts → ¬ Certifiable host →
      Trouble settings files (CredentialProblem.hostName host).fault
  | offers : Trouble settings files (.tls "Incompatible protocols and ciphers")
  | key : Trouble settings files (.config "Failed to build TLS config")

theorem config_ne_defect {detail : String} (lead : detail.toList.take 2 ∈ [['F', 'a'], ['N', 'o'], ['I', 'n']])
    (defect : TlsDefect) : Fault.config detail ≠ defect.fault := by
  intro same
  -- two characters are enough to tell the messages apart, whatever names and paths stand in them
  have reported := defect.message_lead
  rw [← Fault.config.inj same] at reported
  have apart : ∀ lead ∈ [['F', 'a'], ['N', 'o'], ['I', 'n']],
      lead ∉ [['U', 'n'], ['E', 'n'], ['C', 'o'], ['c', 'e'], ['F', 'i'], ['c', 'l']] := by decide
  exact apart _ lead reported

/-- The check reports nothing of this kind. -/
theorem Trouble.ne_defect (trouble : settings.Trouble files fault) (defect : TlsDefect) : fault ≠ defect.fault := by
  cases trouble with
  | file _ ofFile =>
    rw [ofFile.fault_eq]
    exact config_ne_defect ofFile.message_lead defect
  | host => nofun
  | offers => nofun
  | key => exact config_ne_defect (by simp) defect

end TlsSettings

namespace Files

variable {files : Files} {path store : String} {α : Type} {value : α} {next : Pem.Reading → Except CredentialProblem α}

/-- There is a file at the path, and it reads so. -/
def Holds (files : Files) (path : String) (reading : Pem.Reading) : Prop :=
  ∃ content, files.lookUp path = .file content ∧ Pem.read content = reading

theorem Holds.unique {reading other : Pem.Reading} (holds : files.Holds path reading) (same : files.Holds path other) :
    reading = other := by
  obtain ⟨content, found, rfl⟩ := holds
  obtain ⟨_, again, rfl⟩ := same
  cases found.symm.trans again
  rfl

/-- Nothing can be made of a directory. -/
theorem readPem_bind_ok_iff (malformed : ∀ value, next .malformed ≠ .ok value) :
    (files.readPem store path >>= next) = .ok value ↔
      ∃ reading, files.Holds path reading ∧ next reading = .ok value := by
  unfold Holds readPem
  cases files.lookUp path with
  | file content => simp [bind, Except.bind]
  | directory => simpa [bind, Except.bind] using malformed value
  | _ => simp [bind, Except.bind]

/-- A file that is there is read, or cannot be opened. -/
theorem readPem_bind_error (present : files.contains path = true) {problem : CredentialProblem}
    (failed : (files.readPem store path >>= next) = .error problem) :
    (∃ reading, next reading = .error problem) ∨
      ∃ cause, files.lookUp path = .sealed cause ∧ problem = .unreadable store path cause := by
  unfold contains at present
  unfold readPem at failed
  cases entry : files.lookUp path with
  | file content =>
    rw [entry] at failed
    exact .inl ⟨_, failed⟩
  | directory =>
    rw [entry] at failed
    exact .inl ⟨_, failed⟩
  | sealed cause =>
    rw [entry] at failed
    cases failed
    exact .inr ⟨cause, rfl, rfl⟩
  | _ => simp [entry] at present

end Files

namespace Pem.Reading

variable {files : Files} {reading : Reading} {path : String} {problem : CredentialProblem}

theorem certificates_error (failed : reading.certificates path = .error problem) :
    CredentialProblem.OfFile files path problem := by
  unfold certificates at failed
  dsimp only at failed
  split at failed
  · cases failed
    exact .malformedCertificates
  · split at failed
    · cases failed
      exact .noCertificate
    · cases failed

theorem key_error (failed : reading.key path = .error problem) :
    CredentialProblem.OfFile files path problem := by
  unfold key at failed
  split at failed
  · cases failed
  · cases failed
    split
    · exact .noKey
    · exact .malformedKey

end Pem.Reading

namespace Files

open Logged

variable {files : Files} {path : String} {settings : TlsSettings} {certificates : List Bytes} {key : PrivateKey}

theorem read_failsOnly {α β : Type} {store : String} {next : Pem.Reading → Except CredentialProblem α}
    {line : α → LogLine} {g : α → β} (legal : settings.Legal files) (named : path ∈ settings.paths)
    (content : ∀ reading problem, next reading = .error problem → CredentialProblem.OfFile files path problem) :
    ((ofExcept ((files.readPem store path >>= next).mapError CredentialProblem.fault)).andThen fun value =>
      (say (line value)).andThen fun _ => Logged.pure (g value)).FailsOnly (settings.Trouble files) := by
  refine announced_failsOnly fun problem failed => ?_
  rcases readPem_bind_error (legal.present path named) failed with ⟨reading, failed⟩ | ⟨cause, found, rfl⟩
  · exact .file named (content reading problem failed)
  · exact .file named (.sealed found)

/-- The file has these certificates. -/
def Certifies (files : Files) (path : String) (certificates : List Bytes) : Prop :=
  ∃ reading, files.Holds path reading ∧ reading.certificates path = .ok certificates

/-- The file has this key. -/
def Keys (files : Files) (path : String) (key : PrivateKey) : Prop :=
  ∃ reading, files.Holds path reading ∧ reading.key path = .ok key

theorem certificates_eq_ok_iff :
    (files.certificates path).2 = .ok certificates ↔ files.Certifies path certificates := by
  refine announced_eq_ok_iff.trans ?_
  simp only [exists_eq_right]
  exact readPem_bind_ok_iff nofun

theorem certificates_failsOnly (legal : settings.Legal files) (named : path ∈ settings.paths) :
    (files.certificates path).FailsOnly (settings.Trouble files) :=
  read_failsOnly legal named fun _ _ => Pem.Reading.certificates_error

theorem privateKey_eq_ok_iff : (files.privateKey path).2 = .ok key ↔ files.Keys path key := by
  refine announced_eq_ok_iff.trans ?_
  simp only [exists_eq_right]
  exact readPem_bind_ok_iff nofun

theorem privateKey_failsOnly (legal : settings.Legal files) (named : path ∈ settings.paths) :
    (files.privateKey path).FailsOnly (settings.Trouble files) :=
  read_failsOnly legal named fun _ _ => Pem.Reading.key_error

theorem readKeyStore_eq_ok_iff :
    files.readKeyStore path = .ok (certificates, key) ↔ files.Certifies path certificates ∧ files.Keys path key := by
  refine (readPem_bind_ok_iff nofun).trans ?_
  simp only [bind_ok_iff]
  constructor
  · rintro ⟨reading, holds, _, certified, _, keyed, made⟩
    cases made
    exact ⟨⟨reading, holds, certified⟩, reading, holds, keyed⟩
  · rintro ⟨⟨reading, holds, certified⟩, other, same, keyed⟩
    -- certificates and key stand in one file
    obtain rfl := holds.unique same
    exact ⟨reading, holds, _, certified, _, keyed, rfl⟩

theorem keyStore_eq_ok_iff {identity : Identity} : (files.keyStore path).2 = .ok identity ↔
    ∃ certificates key, files.Certifies path certificates ∧ files.Keys path key ∧
      identity = .loaded certificates key := by
  refine announced_eq_ok_iff.trans ?_
  constructor
  · rintro ⟨⟨certificates, key⟩, read, rfl⟩
    obtain ⟨certified, keyed⟩ := readKeyStore_eq_ok_iff.1 read
    exact ⟨certificates, key, certified, keyed, rfl⟩
  · rintro ⟨certificates, key, certified, keyed, rfl⟩
    exact ⟨(certificates, key), readKeyStore_eq_ok_iff.2 ⟨certified, keyed⟩, rfl⟩

theorem keyStore_failsOnly (legal : settings.Legal files) (named : path ∈ settings.paths) :
    (files.keyStore path).FailsOnly (settings.Trouble files) := by
  refine read_failsOnly legal named fun reading problem failed => ?_
  rcases bind_error_iff.1 failed with failed | ⟨_, -, failed⟩
  · exact Pem.Reading.certificates_error failed
  · rcases bind_error_iff.1 failed with failed | ⟨_, -, made⟩
    · exact Pem.Reading.key_error failed
    · cases made

theorem trustStore_eq_ok_iff {roots : List Bytes} : (files.trustStore path).2 = .ok roots ↔
    files.Certifies path roots ∧ ∀ root ∈ roots, Certificate.isAnchor root = true := by
  simp only [trustStore, andThen_eq_ok_iff, certificates_eq_ok_iff]
  constructor
  · rintro ⟨certificates, certified, made⟩
    split at made
    · next anchors =>
      cases made
      exact ⟨certified, List.all_eq_true.1 anchors⟩
    · cases made
  · rintro ⟨certified, anchors⟩
    exact ⟨roots, certified, by rw [if_pos (List.all_eq_true.2 anchors)]; rfl⟩

theorem trustStore_failsOnly (legal : settings.Legal files) (named : path ∈ settings.paths) :
    (files.trustStore path).FailsOnly (settings.Trouble files) := by
  refine (certificates_failsOnly legal named).andThen fun certificates _ => ?_
  split
  · exact failsOnly_pure _
  · exact failsOnly_fail (.file named .noAnchor)

end Files

namespace Identity

open Logged

variable {files : Files} {settings : TlsSettings} {identity : Identity}

/-- The identity that settings ask for. -/
inductive Serves (files : Files) (settings : TlsSettings) : Identity → Prop where
  | keyStore {path : String} {certificates : List Bytes} {key : PrivateKey} : settings.keyStore = some path →
      files.Certifies path certificates → files.Keys path key → Serves files settings (.loaded certificates key)
  | pair {path keyPath : String} {certificates : List Bytes} {key : PrivateKey} : settings.keyStore = none →
      settings.certificate = some path → settings.certificateKey = some keyPath →
      files.Certifies path certificates → files.Keys keyPath key → Serves files settings (.loaded certificates key)
  | generated : settings.NothingConfigured → (∀ host ∈ settings.selfSignedHosts, TlsSettings.Certifiable host) →
      Serves files settings (.selfSigned settings.selfSignedHosts)

theorem Serves.isSelfSigned_iff (serves : Serves files settings identity) :
    identity.isSelfSigned = true ↔ settings.NothingConfigured := by
  cases serves with
  | keyStore named => exact ⟨nofun, fun nothing => absurd (named.symm.trans nothing.keyStore) nofun⟩
  | pair _ named => exact ⟨nofun, fun nothing => absurd (named.symm.trans nothing.certificate) nofun⟩
  | generated nothing => exact ⟨fun _ => nothing, fun _ => rfl⟩

theorem ofHosts_error {hosts : List String} {problem : CredentialProblem} (failed : ofHosts hosts = .error problem) :
    ∃ host ∈ hosts, ¬ TlsSettings.Certifiable host ∧ problem = .hostName host := by
  unfold ofHosts at failed
  split at failed
  · next host found =>
    have foreign := List.find?_some found
    simp only [List.any_eq_true, decide_eq_true_eq] at foreign
    obtain ⟨c, among, beyond⟩ := foreign
    cases failed
    exact ⟨host, List.mem_of_find?_eq_some found, fun plain => absurd (plain c among) (by omega), rfl⟩
  · cases failed

theorem ofHosts_ok {hosts : List String} (made : ofHosts hosts = .ok identity) :
    (∀ host ∈ hosts, TlsSettings.Certifiable host) ∧ identity = .selfSigned hosts := by
  unfold ofHosts at made
  split at made
  · cases made
  · next plain =>
    cases made
    exact ⟨by simpa [TlsSettings.Certifiable] using plain, rfl⟩

theorem ofHosts_certifiable {hosts : List String} (plain : ∀ host ∈ hosts, TlsSettings.Certifiable host) :
    ofHosts hosts = .ok (.selfSigned hosts) := by
  cases made : ofHosts hosts with
  | ok identity => rw [(ofHosts_ok made).2]
  | error problem =>
    obtain ⟨host, listed, foreign, -⟩ := ofHosts_error made
    exact absurd (plain host listed) foreign

/-- What is configured: a store, a certificate with its key, or nothing. -/
theorem sources (paired : settings.certificate.isSome = settings.certificateKey.isSome) :
    (∃ path, settings.keyStore = some path) ∨
      (∃ path keyPath, settings.keyStore = none ∧ settings.certificate = some path ∧
        settings.certificateKey = some keyPath) ∨ settings.NothingConfigured := by
  cases keyStore : settings.keyStore with
  | some path => exact .inl ⟨path, rfl⟩
  | none =>
    cases certificate : settings.certificate with
    | some path =>
      obtain ⟨keyPath, key⟩ := Option.isSome_iff_exists.1 (paired.symm.trans (congrArg Option.isSome certificate))
      exact .inr (.inl ⟨path, keyPath, rfl, rfl, key⟩)
    | none =>
      have missing := paired.symm.trans (congrArg Option.isSome certificate)
      exact .inr (.inr ⟨keyStore, certificate, by simpa using missing⟩)

theorem load_keyStore {path : String} (named : settings.keyStore = some path) :
    load files settings = files.keyStore path := by
  rw [load, named]

theorem load_pair {path keyPath : String} (bare : settings.keyStore = none) (named : settings.certificate = some path)
    (keyed : settings.certificateKey = some keyPath) :
    load files settings = (files.certificates path).andThen fun certificates =>
      (files.privateKey keyPath).andThen fun key => .pure (.loaded certificates key) := by
  rw [load, bare, named, keyed]

theorem load_nothing (nothing : settings.NothingConfigured) :
    (load files settings).2 = (ofHosts settings.selfSignedHosts).mapError CredentialProblem.fault := by
  rw [load, nothing.keyStore, nothing.certificate]
  rfl

theorem load_eq_ok_iff (paired : settings.certificate.isSome = settings.certificateKey.isSome) :
    (load files settings).2 = .ok identity ↔ Serves files settings identity := by
  constructor
  · intro made
    rcases sources paired with ⟨path, named⟩ | ⟨path, keyPath, bare, named, keyed⟩ | nothing
    · rw [load_keyStore named, Files.keyStore_eq_ok_iff] at made
      obtain ⟨certificates, key, certified, keyed, rfl⟩ := made
      exact .keyStore named certified keyed
    · rw [load_pair bare named keyed] at made
      simp only [andThen_eq_ok_iff, Files.certificates_eq_ok_iff, Files.privateKey_eq_ok_iff] at made
      obtain ⟨certificates, certified, key, fits, made⟩ := made
      cases made
      exact .pair bare named keyed certified fits
    · rw [load_nothing nothing, mapError_eq_ok_iff] at made
      obtain ⟨plain, rfl⟩ := ofHosts_ok made
      exact .generated nothing plain
  · intro serves
    cases serves with
    | keyStore named certified keyed =>
      rw [load_keyStore named, Files.keyStore_eq_ok_iff]
      exact ⟨_, _, certified, keyed, rfl⟩
    | pair bare named keyed certified fits =>
      rw [load_pair bare named keyed]
      simp only [andThen_eq_ok_iff, Files.certificates_eq_ok_iff, Files.privateKey_eq_ok_iff]
      exact ⟨_, certified, _, fits, rfl⟩
    | generated nothing plain =>
      rw [load_nothing nothing, ofHosts_certifiable plain]
      rfl

theorem load_failsOnly (legal : settings.Legal files) : (load files settings).FailsOnly (settings.Trouble files) := by
  rcases sources legal.paired with ⟨path, named⟩ | ⟨path, keyPath, bare, named, keyed⟩ | nothing
  · rw [load_keyStore named]
    exact Files.keyStore_failsOnly legal (by simp [TlsSettings.paths, named])
  · rw [load_pair bare named keyed]
    refine (Files.certificates_failsOnly legal (by simp [TlsSettings.paths, named])).andThen fun _ _ => ?_
    refine (Files.privateKey_failsOnly legal (by simp [TlsSettings.paths, keyed])).andThen fun _ _ => ?_
    exact failsOnly_pure _
  · -- the line that warns of a generated certificate cannot fail, so the result alone counts
    intro fault failed
    rw [load_nothing nothing] at failed
    refine failsOnly_mapError (fun problem failed => ?_) fault failed
    obtain ⟨host, listed, foreign, rfl⟩ := ofHosts_error failed
    exact .host nothing listed foreign

end Identity

end Sluice
