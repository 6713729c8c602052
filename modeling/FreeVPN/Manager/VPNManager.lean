import FreeVPN.Profile.ProfileStore

/-!
# Configuring and starting the tunnel

The part of `VPNManager` between a profile and the tunnel extension: `configure` builds a tunnel
protocol and saves it through the system's `NETunnelProviderManager`, and `connect` starts the tunnel
with whatever is saved.

What the system answers is a parameter: the reference under which the Keychain keeps a password, and
the results of `saveToPreferences`, `loadFromPreferences` and `startVPNTunnel`.

* `configurationOf` — the protocol that is built from a profile;
* `VPNManager.configure_spec` — what is saved after `configure`;
* `startsOwn_iff` — when the start that follows is one of the profile itself.
-/

namespace FreeVPN.Manager

open FreeVPN.Lib FreeVPN.Foundation FreeVPN.Profile

/-! ### What is saved -/

/-- `Data` -/
abbrev Data := List UInt8

/-- `providerConfiguration`: the protocol, and the text under the key that goes with it. -/
structure ProviderConfiguration where
  protocolType : String
  wgQuickConfig : Option Text := none
  ovpnConfig : Option Text := none
  deriving DecidableEq

/-- `NETunnelProviderProtocol` -/
structure TunnelProtocol where
  providerBundleIdentifier : String
  serverAddress : Text
  providerConfiguration : ProviderConfiguration
  username : Option Text
  passwordReference : Option Data
  deriving DecidableEq

/-- `NETunnelProviderManager`: the configuration of the object and the one in the preferences. -/
structure TunnelManager where
  protocolConfiguration : Option TunnelProtocol := none
  saved : Option TunnelProtocol := none
  deriving DecidableEq

/-- `NSError` -/
structure NSError where
  code : ℤ
  localizedDescription : String
  deriving DecidableEq

/-- The errors that `startVPNTunnel` throws. -/
inductive StartFailure
  | nevpnError (code : ℤ) (localizedDescription : String)
  | other (localizedDescription : String)
  deriving DecidableEq

/-- The messages of the handlers in `connect`. -/
def StartFailure.message : StartFailure → String
  | .nevpnError code localizedDescription =>
    "VPN error (" ++ toString code ++ "): " ++ localizedDescription
  | .other localizedDescription => "Failed to start VPN: " ++ localizedDescription

/-- What the system answers to a `saveTunnelConfiguration`. -/
structure Answers where
  saveToPreferences : Except NSError Unit := .ok ()
  loadFromPreferences : Except NSError Unit := .ok ()

/-- `VPNManager`, as far as it configures and starts. -/
structure VPNManager where
  tunnelManager : Option TunnelManager := none
  serverAddress : Option Text := none
  errorMessage : Option String := none
  deriving DecidableEq

/-- `NEVPNStatus` -/
inductive Status
  | invalid
  | disconnected
  | connecting
  | connected
  | reasserting
  | disconnecting
  deriving DecidableEq

/-- `ConnectionState` -/
inductive ConnectionState
  | disconnected
  | connecting
  | connected
  | disconnecting
  | reasserting
  | invalid
  deriving DecidableEq

/-- `rawValue`, which the app shows and logs. -/
def ConnectionState.rawValue : ConnectionState → String
  | .disconnected => "Disconnected"
  | .connecting => "Connecting..."
  | .connected => "Connected"
  | .disconnecting => "Disconnecting..."
  | .reasserting => "Reconnecting..."
  | .invalid => "Not Configured"

/-- The state that `updateConnectionState` gives a status. -/
def Status.connectionState : Status → ConnectionState
  | .invalid => .invalid
  | .disconnected => .disconnected
  | .connecting => .connecting
  | .connected => .connected
  | .reasserting => .reasserting
  | .disconnecting => .disconnecting

/-- `isActiveOrTransitioning` -/
def ConnectionState.isActiveOrTransitioning (s : ConnectionState) : Bool :=
  s = .connected || s = .connecting || s = .reasserting

/-- The system has a tunnel up or coming up. -/
def Status.isUp (s : Status) : Bool := s = .connected || s = .connecting || s = .reasserting

/-- The system has no tunnel at all. -/
def Status.isDown (s : Status) : Bool := s = .disconnected || s = .invalid

@[simp] lemma isActiveOrTransitioning_connectionState (s : Status) :
    s.connectionState.isActiveOrTransitioning = s.isUp := by
  cases s <;> rfl

lemma Status.isUp_eq_false_of_isDown {s : Status} (h : s.isDown) : s.isUp = false := by
  cases s <;> simp_all [Status.isDown, Status.isUp]

/-- `tunnelBundleIdentifier(for:)` -/
def tunnelBundleIdentifier (protocolType : VPNProtocolType) : String :=
  if protocolType = .amneziaWG then "com.zacvpn.zacvpn.AmneziaTunnel" else "com.zacvpn.zacvpn.PacketTunnel"

/-- `if let value, !value.isEmpty { … }` -/
def given (value : Option Text) : Option Text := value.filter fun value => value ≠ []

section Keychain

-- `savePasswordToKeychain`: the reference to a password, or nil
variable (keychain : Text → Option Data)

/-- The `NETunnelProviderProtocol` that `saveTunnelConfiguration` makes. -/
def protocolConfig (protocolType : VPNProtocolType) (serverAddress : Text)
    (providerConfig : ProviderConfiguration) (username password : Option Text) : TunnelProtocol where
  providerBundleIdentifier := tunnelBundleIdentifier protocolType
  serverAddress := serverAddress
  providerConfiguration := providerConfig
  username := given username
  passwordReference := (given password).bind keychain

/-- `saveTunnelConfiguration` -/
def VPNManager.saveTunnelConfiguration (m : VPNManager) (answers : Answers)
    (protocolType : VPNProtocolType) (serverAddress : Text) (providerConfig : ProviderConfiguration)
    (username password : Option Text) : VPNManager :=
  let manager := m.tunnelManager.getD {}
  let manager := { manager with
    protocolConfiguration :=
      some (protocolConfig keychain protocolType serverAddress providerConfig username password) }
  -- a manager that the app has had before is changed by a failing call too
  let failed (manager : TunnelManager) (nsError : NSError) : VPNManager := { m with
    tunnelManager := m.tunnelManager.map fun _ => manager
    errorMessage := some ("Failed to save VPN: " ++ nsError.localizedDescription ++
      " (code " ++ toString nsError.code ++ ")") }
  match answers.saveToPreferences with
  | .error nsError => failed manager nsError
  | .ok () =>
    let manager := { manager with saved := manager.protocolConfiguration }
    match answers.loadFromPreferences with
    | .error nsError => failed manager nsError
    | .ok () => { m with tunnelManager := some manager, errorMessage := none }

/-! ### Configuring -/

/-- `configureWireGuard` -/
def VPNManager.configureWireGuard (m : VPNManager) (answers : Answers) (configString : Text) : VPNManager :=
  match WireGuardConfig.parse configString with
  | .error error => { m with errorMessage := some ("WireGuard parse error: " ++ error.errorDescription) }
  | .ok config =>
    let endpoint := config.peers.head?.bind PeerConfig.endpoint
    { m with serverAddress := endpoint.or m.serverAddress }.saveTunnelConfiguration keychain answers
      .wireGuard (endpoint.getD "Unknown".toList)
      { protocolType := VPNProtocolType.wireGuard.rawValue, wgQuickConfig := config.toWgQuickConfig }
      none none

/-- `configureAmneziaWG` -/
def VPNManager.configureAmneziaWG (m : VPNManager) (answers : Answers) (configString : Text) : VPNManager :=
  let config := (WireGuardConfig.parse configString).toOption
  let endpoint := (config.bind fun c => c.peers.head?).bind PeerConfig.endpoint
  { m with serverAddress := endpoint.or m.serverAddress }.saveTunnelConfiguration keychain answers
    .amneziaWG (endpoint.getD "Unknown".toList)
    { protocolType := VPNProtocolType.amneziaWG.rawValue, wgQuickConfig := configString } none none

/-- `configureOpenVPN` -/
def VPNManager.configureOpenVPN (m : VPNManager) (answers : Answers) (configString : Text)
    (username password : Option Text) : VPNManager :=
  let endpoint := OpenVPNConfig.extractEndpoint configString
  { m with serverAddress := endpoint }.saveTunnelConfiguration keychain answers
    .openVPN (endpoint.getD "Unknown".toList)
    { protocolType := VPNProtocolType.openVPN.rawValue, ovpnConfig := configString } username password

/-- `configure(with: profile.configString, protocolType: profile.vpnProtocol, …)` -/
def VPNManager.configure (m : VPNManager) (answers : Answers) (profile : SavedProfile) : VPNManager :=
  let m := { m with errorMessage := none }
  match profile.vpnProtocol with
  | .wireGuard => m.configureWireGuard keychain answers profile.configString
  | .amneziaWG => m.configureAmneziaWG keychain answers profile.configString
  | .openVPN => m.configureOpenVPN keychain answers profile.configString profile.username profile.password

/-- The configuration that is in the preferences. -/
def VPNManager.saved (m : VPNManager) : Option TunnelProtocol := m.tunnelManager.bind TunnelManager.saved

/-- `connect()`: `startVPNTunnel` is called unless there is no manager. -/
def VPNManager.connect (m : VPNManager) (startVPNTunnel : Except StartFailure Unit) : VPNManager × Bool :=
  if m.tunnelManager.isNone then
    ({ m with errorMessage := some "VPN not configured. Add a profile first." }, false)
  else match startVPNTunnel with
    | .ok () => (m, true)
    | .error error => ({ m with errorMessage := some error.message }, true)

/-! ### What is built from a profile -/

/-- The configuration that `configure` builds from a profile; none when the text cannot be parsed. -/
def configurationOf (profile : SavedProfile) : Option TunnelProtocol :=
  let config := (WireGuardConfig.parse profile.configString).toOption
  let endpoint := (config.bind fun c => c.peers.head?).bind PeerConfig.endpoint
  match profile.vpnProtocol with
  | .wireGuard => config.map fun c => protocolConfig keychain .wireGuard (endpoint.getD "Unknown".toList)
      { protocolType := VPNProtocolType.wireGuard.rawValue, wgQuickConfig := c.toWgQuickConfig } none none
  | .amneziaWG => protocolConfig keychain .amneziaWG (endpoint.getD "Unknown".toList)
      { protocolType := VPNProtocolType.amneziaWG.rawValue, wgQuickConfig := profile.configString }
      none none
  | .openVPN => protocolConfig keychain .openVPN
      ((OpenVPNConfig.extractEndpoint profile.configString).getD "Unknown".toList)
      { protocolType := VPNProtocolType.openVPN.rawValue, ovpnConfig := profile.configString }
      profile.username profile.password

/-- What is saved after `configure`: the new configuration, or what has been saved before. -/
structure Configured (m m' : VPNManager) (answers : Answers) (built : Option TunnelProtocol) : Prop where
  /-- There is a manager afterwards, if there was one or all has gone well. -/
  isSome : m'.tunnelManager.isSome ↔ m.tunnelManager.isSome ∨
    (built.isSome ∧ answers.saveToPreferences.isOk ∧ answers.loadFromPreferences.isOk)
  /-- A configuration that could not be built or saved leaves the saved one. -/
  kept : built = none ∨ answers.saveToPreferences.isOk = false → m'.saved = m.saved
  /-- A saved configuration is the one that was built. -/
  saved : answers.saveToPreferences.isOk → m'.tunnelManager.isSome → built.isSome → m'.saved = built

lemma VPNManager.saveTunnelConfiguration_spec (m : VPNManager) (answers : Answers)
    (protocolType : VPNProtocolType) (serverAddress : Text) (providerConfig : ProviderConfiguration)
    (username password : Option Text) :
    Configured m (m.saveTunnelConfiguration keychain answers protocolType serverAddress providerConfig
      username password) answers
      (some (protocolConfig keychain protocolType serverAddress providerConfig username password)) := by
  obtain ⟨s, l⟩ := answers
  obtain ⟨t, a, e⟩ := m
  cases s <;> cases l <;> cases t <;>
    constructor <;> simp [VPNManager.saveTunnelConfiguration, VPNManager.saved, Except.isOk, Except.toBool]

/-- **What `configure` saves.** -/
theorem VPNManager.configure_spec (m : VPNManager) (answers : Answers) (profile : SavedProfile) :
    Configured m (m.configure keychain answers profile) answers (configurationOf keychain profile) := by
  unfold VPNManager.configure configurationOf
  cases profile.vpnProtocol with
  | wireGuard =>
    simp only [VPNManager.configureWireGuard]
    cases hp : WireGuardConfig.parse profile.configString with
    | error error => constructor <;> simp [Except.toOption, VPNManager.saved]
    | ok config =>
      obtain ⟨h₁, h₂, h₃⟩ := VPNManager.saveTunnelConfiguration_spec keychain
        { m with errorMessage := none, serverAddress := (config.peers.head?.bind PeerConfig.endpoint).or m.serverAddress }
        answers .wireGuard ((config.peers.head?.bind PeerConfig.endpoint).getD "Unknown".toList)
        { protocolType := VPNProtocolType.wireGuard.rawValue, wgQuickConfig := config.toWgQuickConfig } none none
      exact ⟨h₁, h₂, h₃⟩
  | amneziaWG =>
    obtain ⟨h₁, h₂, h₃⟩ := VPNManager.saveTunnelConfiguration_spec keychain _ answers _ _ _ _ _
    exact ⟨h₁, h₂, h₃⟩
  | openVPN =>
    obtain ⟨h₁, h₂, h₃⟩ := VPNManager.saveTunnelConfiguration_spec keychain _ answers _ _ _ _ _
    exact ⟨h₁, h₂, h₃⟩

/-! ### Starting -/

/-- The start after `configure` is one of the profile: `startVPNTunnel` is called only if the
configuration in the preferences is the one that was built from it. -/
def StartsOwn (m : VPNManager) (answers : Answers) (startVPNTunnel : Except StartFailure Unit)
    (profile : SavedProfile) : Prop :=
  ((m.configure keychain answers profile).connect startVPNTunnel).2 = true →
    ∃ c, configurationOf keychain profile = some c ∧ (m.configure keychain answers profile).saved = some c

lemma VPNManager.connect_calls (m : VPNManager) (startVPNTunnel : Except StartFailure Unit) :
    (m.connect startVPNTunnel).2 = m.tunnelManager.isSome := by
  unfold VPNManager.connect
  cases m.tunnelManager <;> cases startVPNTunnel <;> rfl

/-- `connect` changes nothing but the error message. -/
lemma VPNManager.connect_saved (m : VPNManager) (startVPNTunnel : Except StartFailure Unit) :
    (m.connect startVPNTunnel).1.saved = m.saved := by
  unfold VPNManager.connect
  split_ifs
  · rfl
  · cases startVPNTunnel <;> rfl

/-- What is saved is the profile's, if it could be built and has been saved, now or before. -/
lemma VPNManager.saved_configure {m : VPNManager} {answers : Answers} {profile : SavedProfile}
    (h : m.tunnelManager = none ∨ ∃ c, configurationOf keychain profile = some c ∧
      (answers.saveToPreferences.isOk = true ∨ m.saved = some c))
    (hm' : (m.configure keychain answers profile).tunnelManager.isSome) :
    ∃ c, configurationOf keychain profile = some c ∧ (m.configure keychain answers profile).saved = some c := by
  obtain ⟨hsome, hkept, hsaved⟩ := m.configure_spec keychain answers profile
  rcases h with hnone | ⟨c, hc, hok | hbefore⟩
  · -- the manager is a new one, so everything has gone well
    rcases hsome.1 hm' with h | ⟨hbuilt, hok, -⟩
    · rw [hnone] at h
      cases h
    · obtain ⟨c, hc⟩ := Option.isSome_iff_exists.1 hbuilt
      exact ⟨c, hc, (hsaved hok hm' hbuilt).trans hc⟩
  · exact ⟨c, hc, (hsaved hok hm' (by rw [hc]; rfl)).trans hc⟩
  · refine ⟨c, hc, ?_⟩
    by_cases hok : answers.saveToPreferences.isOk = true
    · exact (hsaved hok hm' (by rw [hc]; rfl)).trans hc
    · exact (hkept (Or.inr (Bool.eq_false_iff.2 hok))).trans hbefore

/-- **When a failed configuration starts no stale tunnel.**  The start is one of the profile itself, if
and only if there has been no manager before, or the profile's configuration could be built and either
has been saved now or is the one that has been saved before. -/
theorem startsOwn_iff (m : VPNManager) (answers : Answers) (startVPNTunnel : Except StartFailure Unit)
    (profile : SavedProfile) :
    StartsOwn keychain m answers startVPNTunnel profile ↔
      m.tunnelManager = none ∨ ∃ c, configurationOf keychain profile = some c ∧
        (answers.saveToPreferences.isOk = true ∨ m.saved = some c) := by
  unfold StartsOwn
  rw [VPNManager.connect_calls]
  constructor
  · intro h
    obtain ⟨hsome, hkept, -⟩ := m.configure_spec keychain answers profile
    cases hm : m.tunnelManager with
    | none => exact Or.inl rfl
    | some manager =>
      obtain ⟨c, hc, hown⟩ := h (hsome.2 (Or.inl (by rw [hm]; rfl)))
      refine Or.inr ⟨c, hc, ?_⟩
      by_cases hok : answers.saveToPreferences.isOk = true
      · exact Or.inl hok
      · exact Or.inr ((hkept (Or.inr (Bool.eq_false_iff.2 hok))).symm.trans hown)
  · exact VPNManager.saved_configure keychain

end Keychain

/-! ### A start of another profile -/

/-- An OpenVPN profile for a host. -/
def openVPNProfile (id : UUID) (host : String) : SavedProfile where
  id := id
  name := host.toList
  configString := ("remote " ++ host ++ " 1194\n<ca>\n</ca>").toList
  endpoint := some (host ++ ":1194").toList
  address := none
  protocolType := some .openVPN
  username := none
  password := none

/-- After a first profile, one that cannot be saved: the tunnel of the first is started. -/
theorem not_startsOwn_saveError :
    ¬∀ (keychain : Text → Option Data) (first profile : SavedProfile) (answers : Answers)
      (startVPNTunnel : Except StartFailure Unit),
        StartsOwn keychain (VPNManager.configure keychain {} {} first) answers startVPNTunnel profile := by
  intro h
  obtain ⟨c, hc, hsaved⟩ := h (fun _ => none) (openVPNProfile 1 "a") (openVPNProfile 2 "b")
    { saveToPreferences := .error ⟨5, "permission denied"⟩ } (.ok ()) (by decide +kernel)
  have hne : configurationOf (fun _ => none) (openVPNProfile 2 "b") ≠
      (VPNManager.configure (fun _ => none) (VPNManager.configure (fun _ => none) {} {} (openVPNProfile 1 "a"))
        { saveToPreferences := .error ⟨5, "permission denied"⟩ } (openVPNProfile 2 "b")).saved := by
    decide +kernel
  exact hne (hc.trans hsaved.symm)

end FreeVPN.Manager
