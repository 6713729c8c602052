import FreeVPN.Foundation.Utf8
import FreeVPN.Manager.VPNManager

/-!
# Saves that fail

`saveTunnelConfiguration` over the Keychain, which holds at most one item of the app.  The item is
deleted and added again, and the manager gets its new configuration, before `saveToPreferences`, which
can fail.

* `savePasswordToKeychain` — the item and the reference, for what the system answers;
* `SaveCall.keepsUsable_iff` — when a call that fails leaves the old configuration usable, and no
  configuration is written without its password.
-/

namespace FreeVPN.Manager

open FreeVPN.Foundation FreeVPN.Profile

/-! ### The Keychain -/

/-- The item for the app's service, account and access group. -/
structure KeychainItem where
  persistentRef : Data
  passwordData : Bytes
  deriving DecidableEq

/-- What the Keychain answers. -/
structure SecAnswers where
  /-- `SecItemDelete` deletes the item; when it is refused, the item stays. -/
  secItemDelete : Bool := true
  /-- The reference that `SecItemAdd` gives when there is no item, or the status. -/
  secItemAdd : Except ℤ Data

/-- The item that a reference is of. -/
def resolve (item : Option KeychainItem) (persistentRef : Data) : Option KeychainItem :=
  item.filter fun i => i.persistentRef = persistentRef

/-- `savePasswordToKeychain`: the item after it, and what it returns. -/
def savePasswordToKeychain (item : Option KeychainItem) (answers : SecAnswers) (password : Text) :
    Option KeychainItem × Option Data :=
  let item := if answers.secItemDelete then none else item
  match item, answers.secItemAdd with
  -- `errSecDuplicateItem`
  | some i, _ => (some i, none)
  | none, .error _ => (none, none)
  | none, .ok persistentRef => (some ⟨persistentRef, utf8 password⟩, some persistentRef)

/-- The password can be stored: no item is left in its place, and the new one is added. -/
def Stores (item : Option KeychainItem) (answers : SecAnswers) (persistentRef : Data) : Prop :=
  (answers.secItemDelete = true ∨ item = none) ∧ answers.secItemAdd = .ok persistentRef

/-- `savePasswordToKeychain`, in all that it can do. -/
lemma savePasswordToKeychain_cases (item : Option KeychainItem) (answers : SecAnswers) (password : Text) :
    (∃ i, item = some i ∧ answers.secItemDelete = false ∧
      savePasswordToKeychain item answers password = (item, none)) ∨
    ((answers.secItemDelete = true ∨ item = none) ∧ (∃ status, answers.secItemAdd = .error status) ∧
      savePasswordToKeychain item answers password = (none, none)) ∨
    ∃ persistentRef, Stores item answers persistentRef ∧ savePasswordToKeychain item answers password =
      (some ⟨persistentRef, utf8 password⟩, some persistentRef) := by
  obtain ⟨deletes, add⟩ := answers
  unfold Stores
  cases deletes with
  | true =>
    cases add with
    | error status => exact Or.inr (Or.inl ⟨Or.inl rfl, ⟨status, rfl⟩, rfl⟩)
    | ok persistentRef => exact Or.inr (Or.inr ⟨persistentRef, ⟨Or.inl rfl, rfl⟩, rfl⟩)
  | false =>
    cases item with
    | some i => exact Or.inl ⟨i, rfl, rfl, rfl⟩
    | none =>
      cases add with
      | error status => exact Or.inr (Or.inl ⟨Or.inr rfl, ⟨status, rfl⟩, rfl⟩)
      | ok persistentRef => exact Or.inr (Or.inr ⟨persistentRef, ⟨Or.inr rfl, rfl⟩, rfl⟩)

/-- **What the password reference is.** -/
lemma savePasswordToKeychain_eq_some {item : Option KeychainItem} {answers : SecAnswers} {password : Text}
    {persistentRef : Data} :
    (savePasswordToKeychain item answers password).2 = some persistentRef ↔ Stores item answers persistentRef := by
  rcases savePasswordToKeychain_cases item answers password with
    ⟨i, rfl, hdelete, h⟩ | ⟨-, ⟨status, hadd⟩, h⟩ | ⟨ref, ⟨hplace, hadd⟩, h⟩
  · rw [h]
    simp [Stores, hdelete]
  · rw [h]
    simp [Stores, hadd]
  · rw [h]
    simp [Stores, hadd, hplace]

/-- A reference is not touched by the storing of a password: the old item stays, or the reference is of
no item, before and after, or the new item is the same. -/
def Spared (item : Option KeychainItem) (answers : SecAnswers) (password : Text) (persistentRef : Data) : Prop :=
  (item.isSome = true ∧ answers.secItemDelete = false) ∨
  ((∀ i ∈ item, i.persistentRef ≠ persistentRef) ∧ answers.secItemAdd ≠ .ok persistentRef) ∨
  (item = some ⟨persistentRef, utf8 password⟩ ∧ answers.secItemAdd = .ok persistentRef)

lemma resolve_eq_none {item : Option KeychainItem} {persistentRef : Data} :
    resolve item persistentRef = none ↔ ∀ i ∈ item, i.persistentRef ≠ persistentRef := by
  simp [resolve, Option.filter_eq_none_iff]

/-- What is deleted or has not been there does not stay. -/
lemma not_stays {item : Option KeychainItem} {answers : SecAnswers}
    (h : answers.secItemDelete = true ∨ item = none) :
    ¬(item.isSome = true ∧ answers.secItemDelete = false) := by
  rintro ⟨hsome, hstays⟩
  rcases h with hdelete | rfl
  · exact Bool.false_ne_true (hstays.symm.trans hdelete)
  · cases hsome

/-- **When a reference is of the same item as before.** -/
lemma resolve_savePasswordToKeychain {item : Option KeychainItem} {answers : SecAnswers} {password : Text}
    {persistentRef : Data} :
    resolve (savePasswordToKeychain item answers password).1 persistentRef = resolve item persistentRef ↔
      Spared item answers password persistentRef := by
  unfold Spared
  rcases savePasswordToKeychain_cases item answers password with
    ⟨i, rfl, hdelete, h⟩ | ⟨hplace, ⟨status, hadd⟩, h⟩ | ⟨ref, ⟨hplace, hadd⟩, h⟩
  · rw [h]
    exact iff_of_true rfl (Or.inl ⟨rfl, hdelete⟩)
  · have hleft := not_stays hplace
    rw [h, eq_comm, show resolve none persistentRef = none from rfl, resolve_eq_none]
    simp [hleft, hadd]
  · have hleft := not_stays hplace
    rw [h]
    by_cases hnew : ref = persistentRef
    · subst hnew
      have hresolve : resolve (some ⟨ref, utf8 password⟩) ref = some ⟨ref, utf8 password⟩ := by simp [resolve]
      rw [hresolve]
      constructor
      · intro hsame
        exact Or.inr (Or.inr ⟨(Option.filter_eq_some_iff.1 hsame.symm).1, hadd⟩)
      · rintro (hl | ⟨-, hne⟩ | ⟨rfl, -⟩)
        · exact absurd hl hleft
        · exact absurd hadd hne
        · exact hresolve.symm
    · have hresolve : resolve (some ⟨ref, utf8 password⟩) persistentRef = none := by simp [resolve, hnew]
      have hne : answers.secItemAdd ≠ .ok persistentRef := by
        rw [hadd]
        intro heq
        exact hnew (Except.ok.inj heq)
      rw [hresolve, eq_comm, resolve_eq_none]
      simp [hleft, hne]

/-! ### A call -/

/-- A call of `saveTunnelConfiguration`, and what the system answers to it. -/
structure SaveCall where
  protocolType : VPNProtocolType
  serverAddress : Text
  providerConfig : ProviderConfiguration
  username : Option Text := none
  password : Option Text := none
  keychain : SecAnswers
  answers : Answers := {}

namespace SaveCall

variable (call : SaveCall) (m : VPNManager) (item : Option KeychainItem)

/-- The item after the call. -/
def itemAfter : Option KeychainItem :=
  match given call.password with
  | some password => (savePasswordToKeychain item call.keychain password).1
  | none => item

/-- The configuration that the call makes. -/
def config : TunnelProtocol :=
  protocolConfig (fun password => (savePasswordToKeychain item call.keychain password).2) call.protocolType
    call.serverAddress call.providerConfig call.username call.password

/-- `saveTunnelConfiguration` -/
def perform : VPNManager :=
  m.saveTunnelConfiguration (fun password => (savePasswordToKeychain item call.keychain password).2) call.answers
    call.protocolType call.serverAddress call.providerConfig call.username call.password

/-- What the call writes to the preferences. -/
def written : Option TunnelProtocol :=
  if call.answers.saveToPreferences.isOk then some (call.config item) else none

/-- `saveToPreferences` fails. -/
def Fails : Prop := call.answers.saveToPreferences.isOk = false

/-- A failing call leaves the manager's configuration and the item of the configuration that has been
saved before; and no configuration is written without a password that has been given. -/
structure KeepsUsable (previous : TunnelProtocol) : Prop where
  memory : call.Fails → (call.perform m item).tunnelManager.map TunnelManager.protocolConfiguration =
    m.tunnelManager.map TunnelManager.protocolConfiguration
  resolves : call.Fails → ∀ ref ∈ previous.passwordReference, resolve (call.itemAfter item) ref = resolve item ref
  complete : (given call.password).isSome = true → ∀ c ∈ call.written item, c.passwordReference.isSome = true

/-- A configuration with what the call has been given, the reference to the password included. -/
structure IsGiven (c : TunnelProtocol) : Prop where
  providerBundleIdentifier : c.providerBundleIdentifier = tunnelBundleIdentifier call.protocolType
  serverAddress : c.serverAddress = call.serverAddress
  providerConfiguration : c.providerConfiguration = call.providerConfig
  username : c.username = given call.username
  passwordReference : ∀ ref, c.passwordReference = some ref ↔
    (given call.password).isSome = true ∧ Stores item call.keychain ref

/-- If the call fails, the manager is a new one or has the configuration already, and no password is
stored over the old one; if it does not fail, a password that is given can be stored. -/
structure Careful (previous : TunnelProtocol) : Prop where
  memory : call.Fails → ∀ manager ∈ m.tunnelManager,
    ∃ c, manager.protocolConfiguration = some c ∧ call.IsGiven item c
  resolves : call.Fails → ∀ ref ∈ previous.passwordReference, ∀ password ∈ given call.password,
    Spared item call.keychain password ref
  complete : (given call.password).isSome = true → ¬call.Fails → ∃ ref, Stores item call.keychain ref

variable {call m item}

lemma passwordReference_config {ref : Data} : (call.config item).passwordReference = some ref ↔
    (given call.password).isSome = true ∧ Stores item call.keychain ref := by
  unfold config protocolConfig
  cases given call.password with
  | none => simp
  | some password => simp [savePasswordToKeychain_eq_some]

/-- A configuration is given when it is the one that the call makes. -/
lemma isGiven_iff {c : TunnelProtocol} : call.IsGiven item c ↔ c = call.config item := by
  constructor
  · rintro ⟨h₁, h₂, h₃, h₄, h₅⟩
    have href : c.passwordReference = (call.config item).passwordReference := by
      apply Option.ext
      intro ref
      rw [h₅, passwordReference_config]
    obtain ⟨bundle, address, provider, username, reference⟩ := c
    simp only at h₁ h₂ h₃ h₄ href
    subst h₁ h₂ h₃ h₄ href
    rfl
  · rintro rfl
    exact ⟨rfl, rfl, rfl, rfl, fun ref => passwordReference_config⟩

/-- What is left in memory when the call fails. -/
lemma memory_perform (h : call.Fails) :
    (call.perform m item).tunnelManager.map TunnelManager.protocolConfiguration =
      m.tunnelManager.map fun _ => some (call.config item) := by
  unfold Fails at h
  unfold perform VPNManager.saveTunnelConfiguration
  cases hsave : call.answers.saveToPreferences with
  | ok u =>
    rw [hsave] at h
    cases h
  | error nsError => cases m.tunnelManager <;> rfl

/-- **When a failing call leaves the old configuration usable.**  It does, and no configuration is written
without its password, if and only if the call is careful. -/
theorem keepsUsable_iff (previous : TunnelProtocol) :
    call.KeepsUsable m item previous ↔ call.Careful m item previous := by
  have hmemory : call.Fails → ((call.perform m item).tunnelManager.map TunnelManager.protocolConfiguration =
      m.tunnelManager.map TunnelManager.protocolConfiguration ↔
      ∀ manager ∈ m.tunnelManager, ∃ c, manager.protocolConfiguration = some c ∧ call.IsGiven item c) := by
    intro hfails
    rw [memory_perform hfails]
    cases m.tunnelManager with
    | none => simp
    | some manager => simp [isGiven_iff, eq_comm]
  have hresolves : ∀ ref, resolve (call.itemAfter item) ref = resolve item ref ↔
      ∀ password ∈ given call.password, Spared item call.keychain password ref := by
    intro ref
    unfold itemAfter
    cases given call.password with
    | none => simp
    | some password => simp [resolve_savePasswordToKeychain]
  have hcomplete : (given call.password).isSome = true →
      ((∀ c ∈ call.written item, c.passwordReference.isSome = true) ↔
        (¬call.Fails → ∃ ref, Stores item call.keychain ref)) := by
    intro hgiven
    unfold written Fails
    rw [Bool.not_eq_false]
    cases call.answers.saveToPreferences.isOk with
    | false => simp
    | true => simp [Option.isSome_iff_exists, passwordReference_config, hgiven]
  constructor
  · rintro ⟨h₁, h₂, h₃⟩
    exact ⟨fun hf => (hmemory hf).1 (h₁ hf), fun hf ref href => (hresolves ref).1 (h₂ hf ref href),
      fun hgiven => (hcomplete hgiven).1 (h₃ hgiven)⟩
  · rintro ⟨h₁, h₂, h₃⟩
    exact ⟨fun hf => (hmemory hf).2 (h₁ hf), fun hf ref href => (hresolves ref).2 (h₂ hf ref href),
      fun hgiven => (hcomplete hgiven).2 (h₃ hgiven)⟩

/-- A configuration with a password that is kept under the reference 1. -/
def withPassword : TunnelProtocol where
  providerBundleIdentifier := tunnelBundleIdentifier .openVPN
  serverAddress := "a:1194".toList
  providerConfiguration := { protocolType := VPNProtocolType.openVPN.rawValue, ovpnConfig := some "remote a".toList }
  username := some "user".toList
  passwordReference := some [1]

/-- Another password is stored, and the configuration cannot be saved. -/
def denied : SaveCall where
  protocolType := .openVPN
  serverAddress := "a:1194".toList
  providerConfig := { protocolType := VPNProtocolType.openVPN.rawValue, ovpnConfig := some "remote a".toList }
  username := some "user".toList
  password := some "new".toList
  keychain := { secItemAdd := .ok [2] }
  answers := { saveToPreferences := .error ⟨5, "permission denied"⟩ }

theorem not_keepsUsable_denied :
    ¬∀ (call : SaveCall) (m : VPNManager) (item : Option KeychainItem) (previous : TunnelProtocol),
      m.saved = some previous → call.KeepsUsable m item previous := by
  intro h
  have hkeeps := h denied { tunnelManager := some ⟨some withPassword, some withPassword⟩ }
    (some ⟨[1], utf8 "old".toList⟩) withPassword rfl
  have hgone : resolve (denied.itemAfter (some ⟨[1], utf8 "old".toList⟩)) [1] = none := by decide +kernel
  have hthere : resolve (some ⟨[1], utf8 "old".toList⟩) [1] ≠ none := by decide +kernel
  exact hthere ((hkeeps.resolves rfl [1] rfl).symm.trans hgone)

end SaveCall

end FreeVPN.Manager
