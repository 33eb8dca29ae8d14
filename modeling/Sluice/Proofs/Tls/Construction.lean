import Sluice.Proofs.Tls.Credentials
import Sluice.Tls.Acceptor

/-! How acceptors of TLS connections are made of settings that passed the check, and of settings that did not. Of what
the check looks at nothing can go wrong any more: what remains are files that cannot be opened, the contents of the
others, the names of hosts that no certificate can carry, versions and suites that do not go together, and a key that
cannot be used. -/

set_option autoImplicit false

namespace Sluice

namespace TlsAcceptor

open Logged

variable {files : Files} {settings : TlsSettings}

section
variable {α : Type} {known? : String → Option α} {all : List α} {unknown : String → TlsDefect}

/-- What names enable: what they stand for one by one, or all there is if there are none. -/
inductive Enables (known? : String → Option α) (all : List α) : List String → List α → Prop where
  | all : Enables known? all [] all
  | named {names : List String} {meant : List α} : names ≠ [] →
      List.Forall₂ (fun name value => known? name = some value) names meant → Enables known? all names meant

theorem enables_iff {names : List String} {meant : List α} :
    (if names.isEmpty then .ok all else TlsDefect.resolve known? unknown names) = .ok meant ↔
      Enables known? all names meant := by
  cases names with
  | nil =>
    constructor
    · rintro ⟨⟩
      exact .all
    · rintro (_ | named)
      · rfl
      · contradiction
  | cons name names =>
    rw [if_neg nofun, TlsDefect.resolve_eq_ok_iff]
    constructor
    · exact .named nofun
    · rintro (_ | ⟨-, meant⟩)
      exact meant

end

theorem offers_eq_ok_iff {protocols : List Protocol} {suites : List Suite} :
    offers settings = .ok (protocols, suites) ↔ Enables Protocol.ofText? Protocol.all settings.protocols protocols ∧
      Enables Suite.ofText? Suite.all settings.ciphers suites ∧ areCompatible protocols suites = true := by
  unfold offers suitesOf Suite.ofTexts Protocol.ofTexts
  simp only [bind_ok_iff, mapError_eq_ok_iff, enables_iff]
  constructor
  · rintro ⟨_, suited, _, spoken, made⟩
    split at made
    · next fit =>
      cases made
      exact ⟨spoken, suited, fit⟩
    · cases made
  · rintro ⟨spoken, suited, fit⟩
    exact ⟨suites, suited, protocols, spoken, by rw [if_pos fit]; rfl⟩

/-- Names that passed the check are known, so nothing but the fit is left to fail. -/
theorem offers_failsOnly (legal : settings.Legal files) : (ofExcept (offers settings)).FailsOnly (settings.Trouble files) := by
  obtain ⟨suites, suited⟩ : ∃ suites, suitesOf settings.ciphers = .ok suites := by
    unfold suitesOf
    split
    · exact ⟨_, rfl⟩
    · exact TlsDefect.resolves_iff.2 legal.suites
  obtain ⟨protocols, spoken⟩ := Protocol.ofTexts_ok_iff.2 legal.protocols
  have offered : offers settings = if areCompatible protocols suites then .ok (protocols, suites)
      else .error (.tls "Incompatible protocols and ciphers") := by
    unfold offers
    rw [suited, spoken]
    rfl
  rw [offered]
  split
  · nofun
  · exact failsOnly_fail .offers

/-- The check of clients that settings ask for. -/
inductive Verifies (files : Files) (settings : TlsSettings) : Option ClientVerifier → Prop where
  | nobody : settings.clientAuth = .none → Verifies files settings none
  | clients {path : String} {roots : List Bytes} : settings.clientAuth ≠ .none → settings.trustStore = some path →
      files.Certifies path roots → (∀ root ∈ roots, Certificate.isAnchor root = true) →
      Verifies files settings (some ⟨roots, settings.clientAuth == .need⟩)

theorem Verifies.isSome_iff {verifier : Option ClientVerifier} (verifies : Verifies files settings verifier) :
    verifier.isSome = true ↔ settings.clientAuth ≠ .none := by
  cases verifies with
  | nobody unasked => simp [unasked]
  | clients asked => simp [asked]

theorem verifierOf_unasked (unasked : settings.clientAuth = .none) : verifierOf files settings = .pure none := by
  rw [verifierOf, unasked]

/-- Asking for certificates of clients and requiring them differ only in the verifier. -/
theorem verifierOf_asked (asked : settings.clientAuth ≠ .none) : verifierOf files settings =
    match settings.trustStore with
    | some path => (files.trustStore path).andThen fun roots => .pure (some ⟨roots, settings.clientAuth == .need⟩)
    | none => fail (TlsDefect.clientsWithoutTrustStore settings.clientAuth).fault := by
  unfold verifierOf
  cases auth : settings.clientAuth with
  | none => exact absurd auth asked
  | want => cases settings.trustStore <;> rfl
  | need => cases settings.trustStore <;> rfl

theorem verifierOf_eq_ok_iff {verifier : Option ClientVerifier} :
    (verifierOf files settings).2 = .ok verifier ↔ Verifies files settings verifier := by
  constructor
  · intro made
    by_cases unasked : settings.clientAuth = .none
    · rw [verifierOf_unasked unasked] at made
      cases made
      exact .nobody unasked
    · rw [verifierOf_asked unasked] at made
      cases trusted : settings.trustStore with
      | none =>
        rw [trusted] at made
        cases made
      | some path =>
        simp only [trusted, andThen_eq_ok_iff, Files.trustStore_eq_ok_iff] at made
        obtain ⟨roots, ⟨certified, anchors⟩, made⟩ := made
        cases made
        exact .clients unasked trusted certified anchors
  · intro verifies
    cases verifies with
    | nobody unasked =>
      rw [verifierOf_unasked unasked]
      rfl
    | clients asked trusted certified anchors =>
      simp only [verifierOf_asked asked, trusted, andThen_eq_ok_iff, Files.trustStore_eq_ok_iff]
      exact ⟨_, ⟨certified, anchors⟩, rfl⟩

/-- The check has seen to it that there is a trust store if one is needed. -/
theorem verifierOf_failsOnly (legal : settings.Legal files) :
    (verifierOf files settings).FailsOnly (settings.Trouble files) := by
  by_cases unasked : settings.clientAuth = .none
  · rw [verifierOf_unasked unasked]
    exact failsOnly_pure _
  · obtain ⟨path, trusted⟩ := Option.isSome_iff_exists.1 (legal.clients.resolve_left unasked)
    have named : path ∈ settings.paths := by simp [TlsSettings.paths, trusted]
    rw [verifierOf_asked unasked, trusted]
    exact (Files.trustStore_failsOnly legal named).andThen fun _ _ => failsOnly_pure _

/-- The acceptor is the one that settings ask for. -/
structure Made (files : Files) (settings : TlsSettings) (acceptor : TlsAcceptor) : Prop where
  protocols : Enables Protocol.ofText? Protocol.all settings.protocols acceptor.protocols
  suites : Enables Suite.ofText? Suite.all settings.ciphers acceptor.suites
  fit : areCompatible acceptor.protocols acceptor.suites = true
  verifier : Verifies files settings acceptor.verifier
  identity : ∃ identity, Identity.Serves files settings identity ∧ identity.keyKind? = some acceptor.key ∧
    acceptor.isSelfSigned = identity.isSelfSigned

theorem ofSettings_eq_ok_iff {acceptor : TlsAcceptor} :
    (ofSettings files settings).2 = .ok acceptor ↔ settings.Legal files ∧ Made files settings acceptor := by
  unfold ofSettings
  simp only [andThen_eq_ok_iff]
  constructor
  · rintro ⟨_, valid, identity, loaded, ⟨protocols, suites⟩, offered, verifier, verified, made⟩
    have legal := TlsSettings.validate_eq_ok_iff.1 valid
    obtain ⟨spoken, suited, fit⟩ := offers_eq_ok_iff.1 offered
    have serves := (Identity.load_eq_ok_iff legal.paired).1 loaded
    have verifies := verifierOf_eq_ok_iff.1 verified
    cases usable : identity.keyKind? with
    | none => simp [usable, Logged.fail] at made
    | some key =>
      rw [usable] at made
      cases made
      exact ⟨legal, spoken, suited, fit, verifies, identity, serves, usable, rfl⟩
  · rintro ⟨legal, made⟩
    obtain ⟨identity, serves, usable, same⟩ := made.identity
    refine ⟨(), TlsSettings.validate_eq_ok_iff.2 legal, identity, (Identity.load_eq_ok_iff legal.paired).2 serves,
      (acceptor.protocols, acceptor.suites), offers_eq_ok_iff.2 ⟨made.protocols, made.suites, made.fit⟩,
      acceptor.verifier, verifierOf_eq_ok_iff.2 made.verifier, ?_⟩
    simp only [usable]
    rw [← same]
    rfl

theorem ofSettings_failsOnly (legal : settings.Legal files) :
    (ofSettings files settings).FailsOnly (settings.Trouble files) := by
  have valid := TlsSettings.validate_eq_ok_iff.2 legal
  refine FailsOnly.andThen (by rw [valid]; nofun) fun _ _ => ?_
  refine (Identity.load_failsOnly legal).andThen fun identity _ => ?_
  refine (offers_failsOnly legal).andThen fun offered _ => ?_
  refine (verifierOf_failsOnly legal).andThen fun verifier _ => ?_
  split
  · exact failsOnly_fail .key
  · exact (failsOnly_say _).andThen fun _ _ => failsOnly_pure _

/-- What the check rejects is rejected on its account, whatever the files hold and whatever the hosts are. -/
theorem ofSettings_rejected {fault : Fault} (rejected : settings.validate files = .error fault) {other : Files}
    (same : ∀ path ∈ settings.paths, other.contains path = files.contains path) (hosts : List String) :
    ofSettings other { settings with selfSignedHosts := hosts } = ([], .error fault) := by
  have again : TlsSettings.validate { settings with selfSignedHosts := hosts } other = .error fault := by
    rw [← rejected, TlsSettings.validate, TlsSettings.check_hosts, TlsSettings.check_files same, TlsSettings.validate]
  rw [ofSettings, again]
  rfl

/-- What the construction keeps to if the settings passed the check. -/
structure Assured (files : Files) (settings : TlsSettings) : Prop where
  trusts : settings.clientAuth ≠ .none → settings.trustStore ≠ none
  fails : ∀ fault, (ofSettings files settings).2 = .error fault →
    settings.Trouble files fault ∧ ∀ defect : TlsDefect, fault ≠ defect.fault
  makes : ∀ acceptor, (ofSettings files settings).2 = .ok acceptor ↔ Made files settings acceptor
  verifies : ∀ acceptor, (ofSettings files settings).2 = .ok acceptor →
    (acceptor.verifier.isSome = true ↔ settings.clientAuth ≠ .none)
  serves : ∀ identity, (Identity.load files settings).2 = .ok identity ↔ Identity.Serves files settings identity
  generates : ∀ identity, (Identity.load files settings).2 = .ok identity →
    (identity.isSelfSigned = true ↔ settings.NothingConfigured)
  signs : ∀ acceptor, (ofSettings files settings).2 = .ok acceptor →
    (acceptor.isSelfSigned = true ↔ settings.NothingConfigured)

theorem assured (legal : settings.Legal files) : Assured files settings where
  trusts asked missing := by simpa [asked, missing] using legal.clients
  fails fault failed :=
    have trouble := ofSettings_failsOnly legal fault failed
    ⟨trouble, trouble.ne_defect⟩
  makes acceptor := ofSettings_eq_ok_iff.trans (and_iff_right legal)
  verifies acceptor made := (ofSettings_eq_ok_iff.1 made).2.verifier.isSome_iff
  serves identity := Identity.load_eq_ok_iff legal.paired
  generates identity loaded := ((Identity.load_eq_ok_iff legal.paired).1 loaded).isSelfSigned_iff
  signs acceptor made := by
    obtain ⟨identity, serves, -, same⟩ := (ofSettings_eq_ok_iff.1 made).2.identity
    rw [same, serves.isSelfSigned_iff]

/-- Of settings that pass the check no acceptor fails for want of a trust store or for an unknown name, clients are
checked if and only if that is asked for, and a certificate is generated if and only if none is configured. Settings
that do not pass fail with what the check reports, and neither the content of a file nor a host makes a difference. -/
theorem validation_covers (files : Files) (settings : TlsSettings) :
    (settings.validate files = .ok () → Assured files settings) ∧
    ∀ fault, settings.validate files = .error fault → ∀ (other : Files) (hosts : List String),
      (∀ path ∈ settings.paths, other.contains path = files.contains path) →
      ofSettings other { settings with selfSignedHosts := hosts } = ([], .error fault) :=
  ⟨fun valid => assured (TlsSettings.validate_eq_ok_iff.1 valid),
    fun _ rejected _ hosts same => ofSettings_rejected rejected same hosts⟩

/-- Clients need a certificate, and the standard settings are left as they are otherwise. -/
def needing (trustStore : Option String) : TlsSettings :=
  { TlsSettings.standard with clientAuth := .need, trustStore }

def emptyStore : Files := ⟨[("ca.pem", .ok [])]⟩

def sealedStore : Files := ⟨[("ca.pem", .error "Permission denied (os error 13)")]⟩

def denied : Fault := .config "Failed to open certificate file ca.pem: Permission denied (os error 13)"

/-- With a trust store the settings pass, so that it is its content that fails, or its opening; without one they do not
even need a host. With neither a certificate is generated, and no client is checked. -/
theorem needing_covered :
    (∃ fault, (ofSettings emptyStore (needing (some "ca.pem"))).2 = .error fault ∧
      (needing (some "ca.pem")).Trouble emptyStore fault) ∧
    ((ofSettings sealedStore (needing (some "ca.pem"))).2 = .error denied ∧
      (needing (some "ca.pem")).Trouble sealedStore denied) ∧
    ofSettings Files.empty { needing none with selfSignedHosts := [] } =
      ([], .error (TlsDefect.clientsWithoutTrustStore .need).fault) ∧
    ∃ acceptor, (ofSettings Files.empty TlsSettings.standard).2 = .ok acceptor ∧
      acceptor.verifier.isSome = false ∧ acceptor.isSelfSigned = true := by
  refine ⟨?_, ?_, ?_, ?_⟩
  · have covered := (validation_covers emptyStore (needing (some "ca.pem"))).1 rfl
    exact ⟨(CredentialProblem.noCertificate "ca.pem").fault, rfl, (covered.fails _ rfl).1⟩
  · have covered := (validation_covers sealedStore (needing (some "ca.pem"))).1 rfl
    exact ⟨rfl, (covered.fails _ rfl).1⟩
  · exact (validation_covers emptyStore (needing none)).2 _ rfl Files.empty [] nofun
  · have covered := (validation_covers Files.empty TlsSettings.standard).1 rfl
    have made : (ofSettings Files.empty TlsSettings.standard).2 =
        .ok ⟨Protocol.all, Suite.all, none, .ecdsa, true⟩ := rfl
    exact ⟨_, made, rfl, (covered.signs _ made).2 ⟨rfl, rfl, rfl⟩⟩

end TlsAcceptor

end Sluice
