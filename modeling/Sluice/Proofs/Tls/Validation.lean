import Mathlib.Data.List.Forall2
import Sluice.Tls.Validation

/-! What the check of TLS settings finds. It accepts exactly the settings that have no defect, and of the files it only
asks which of those that the settings name are there. -/

set_option autoImplicit false

namespace Sluice

theorem mapError_eq_ok_iff {ε δ α : Type} {f : ε → δ} {result : Except ε α} {value : α} :
    result.mapError f = .ok value ↔ result = .ok value := by
  cases result <;> simp [Except.mapError]

theorem bind_ok_iff {ε α β : Type} {first : Except ε α} {next : α → Except ε β} {result : β} :
    (first >>= next) = .ok result ↔ ∃ value, first = .ok value ∧ next value = .ok result := by
  cases first <;> simp [bind, Except.bind]

theorem bind_error_iff {ε α β : Type} {first : Except ε α} {next : α → Except ε β} {error : ε} :
    (first >>= next) = .error error ↔
      first = .error error ∨ ∃ value, first = .ok value ∧ next value = .error error := by
  cases first <;> simp [bind, Except.bind]

namespace TlsDefect

section
variable {α : Type} {known? : String → Option α} {unknown : String → TlsDefect} {names : List String} {meant : List α}

/-- Names are resolved one by one. -/
theorem resolve_eq_ok_iff : resolve known? unknown names = .ok meant ↔
    List.Forall₂ (fun name value => known? name = some value) names meant := by
  unfold resolve
  induction names generalizing meant with
  | nil => simp [pure, Except.pure, eq_comm]
  | cons name names ih =>
    simp only [List.mapM_cons, bind_ok_iff, ih, List.forall₂_cons_left_iff]
    cases known? name with
    | none => simp
    | some value => simp [pure, Except.pure, eq_comm]

theorem resolves_iff :
    (∃ meant, resolve known? unknown names = .ok meant) ↔ ∀ name ∈ names, (known? name).isSome = true := by
  simp only [resolve_eq_ok_iff]
  induction names with
  | nil => simp
  | cons name names ih =>
    rw [List.forall_mem_cons, ← ih, Option.isSome_iff_exists]
    constructor
    · rintro ⟨_, _ | ⟨known, others⟩⟩
      exact ⟨⟨_, known⟩, _, others⟩
    · rintro ⟨⟨value, known⟩, meant, others⟩
      exact ⟨_, .cons known others⟩

end

end TlsDefect

theorem Protocol.ofTexts_ok_iff {names : List String} :
    (∃ versions, ofTexts names = .ok versions) ↔ ∀ name ∈ names, (ofText? name).isSome = true := by
  cases names with
  | nil => simp [ofTexts]
  | cons name names => exact TlsDefect.resolves_iff

namespace TlsSettings

variable {settings : TlsSettings} {files : Files}

/-- Settings without a defect. -/
structure Legal (settings : TlsSettings) (files : Files) : Prop where
  keyStoreType : isStoreType settings.keyStoreType = true
  trustStoreType : isStoreType settings.trustStoreType = true
  keyStoreOpen : settings.keyStorePassword = none ∧ settings.keyPassword = none
  trustStoreOpen : settings.trustStorePassword = none
  oneSource : settings.keyStore = none ∨ settings.certificate = none
  paired : settings.certificate.isSome = settings.certificateKey.isSome
  present : ∀ path ∈ settings.paths, files.contains path = true
  clients : settings.clientAuth = .none ∨ settings.trustStore.isSome = true
  protocols : ∀ name ∈ settings.protocols, (Protocol.ofText? name).isSome = true
  suites : ∀ name ∈ settings.ciphers, (Suite.ofText? name).isSome = true

theorem refuse_eq_ok_iff {bad : Bool} {defect : TlsDefect} {done : Unit} :
    refuse bad defect = .ok done ↔ bad = false := by
  cases bad <;> simp [refuse]

theorem forM_eq_ok_iff {ε : Type} {paths : List String} {test : String → Except ε Unit} {done : Unit} :
    paths.forM test = .ok done ↔ ∀ path ∈ paths, test path = .ok () := by
  induction paths with
  | nil => simp [pure, Except.pure]
  | cons path rest ih =>
    change (test path >>= fun _ => rest.forM test) = .ok () ↔ _
    rw [bind_ok_iff, List.forall_mem_cons, ih]
    exact ⟨fun ⟨_, first, others⟩ => ⟨first, others⟩, fun ⟨first, others⟩ => ⟨(), first, others⟩⟩

theorem check_eq_ok_iff : settings.check files = .ok () ↔ settings.Legal files := by
  unfold check
  simp only [bind_ok_iff, refuse_eq_ok_iff, forM_eq_ok_iff, exists_const, exists_and_right, Protocol.ofTexts_ok_iff,
    Suite.ofTexts, TlsDefect.resolves_iff, Bool.not_eq_false', Bool.or_eq_false_iff, Bool.and_eq_false_iff,
    bne_eq_false_iff_eq, Option.isSome_eq_false_iff, Option.isNone_iff_eq_none, Option.isNone_eq_false_iff]
  constructor
  · rintro ⟨keyStoreType, trustStoreType, keyStoreOpen, trustStoreOpen, oneSource, paired, present, clients, protocols,
      suites, -⟩
    exact ⟨keyStoreType, trustStoreType, keyStoreOpen, trustStoreOpen, oneSource, paired, present, clients, protocols,
      suites⟩
  · intro legal
    exact ⟨legal.keyStoreType, legal.trustStoreType, legal.keyStoreOpen, legal.trustStoreOpen, legal.oneSource,
      legal.paired, legal.present, legal.clients, legal.protocols, legal.suites, rfl⟩

theorem forM_congr {ε : Type} {paths : List String} {test other : String → Except ε Unit}
    (same : ∀ path ∈ paths, test path = other path) : paths.forM test = paths.forM other := by
  induction paths with
  | nil => rfl
  | cons path rest ih =>
    obtain ⟨first, others⟩ := List.forall_mem_cons.1 same
    change (test path >>= fun _ => rest.forM test) = (other path >>= fun _ => rest.forM other)
    rw [first, ih others]

/-- Of the files the check asks no more than which of those that the settings name are there. -/
theorem check_files {other : Files} (same : ∀ path ∈ settings.paths, other.contains path = files.contains path) :
    settings.check other = settings.check files := by
  have tests : (settings.paths.forM fun path => refuse (!other.contains path) (.missingFile path)) =
      settings.paths.forM fun path => refuse (!files.contains path) (.missingFile path) :=
    forM_congr fun path named => by rw [same path named]
  unfold check
  rw [tests]

/-- The hosts of a generated certificate are not part of the check. -/
theorem check_hosts (settings : TlsSettings) (files : Files) (hosts : List String) :
    TlsSettings.check { settings with selfSignedHosts := hosts } files = settings.check files := rfl

theorem validate_eq_ok_iff : settings.validate files = .ok () ↔ settings.Legal files :=
  mapError_eq_ok_iff.trans check_eq_ok_iff

end TlsSettings

end Sluice
