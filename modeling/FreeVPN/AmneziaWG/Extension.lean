import FreeVPN.WgQuick.Readable
import FreeVPN.AmneziaWG.Uapi

/-!
# AmneziaWGKit extends WireGuardKit

A text that WireGuardKit accepts has only keys of WireGuard.  AmneziaWGKit then reads the same
attributes from it, section by section (`attributesOf_interface`), and none of its own parameters.

`WireGuard.uapiConfiguration` is the text that WireGuardKit configures its device with.  A peer takes
the same lines in both kits; the lines of the device are those of AmneziaWGKit without parameters.
-/

namespace FreeVPN.AmneziaWG

open FreeVPN.Lib FreeVPN.Foundation FreeVPN.WgQuick

/-! ### The configuration of the WireGuard device -/

namespace WireGuard

variable [Network]

/-- The lines of the device. -/
def deviceSettings (T : TunnelConfiguration WgQuick.InterfaceConfiguration) : List (Text × Option Text) :=
  [("private_key".toList, some (hexKey T.interface.privateKey)),
    ("listen_port".toList, T.interface.listenPort.map number),
    ("replace_peers".toList, if T.peers.isEmpty then none else some "true".toList)]

/-- `zip(peers, resolvedEndpoints)` with the results of the second resolution. -/
def resolvedPeers [Resolver] (T : TunnelConfiguration WgQuick.InterfaceConfiguration)
    (resolvedEndpoints : List (Option Endpoint)) :
    List (PeerConfiguration × Option (Except DNSResolutionError (Endpoint × Endpoint))) :=
  T.peers.zip (resolvedEndpoints.map fun e => e.map reresolveEndpoint)

/-- All the lines. -/
def settings [Resolver] (T : TunnelConfiguration WgQuick.InterfaceConfiguration)
    (resolvedEndpoints : List (Option Endpoint)) : List (Text × Text) :=
  present (deviceSettings T) ++
    (resolvedPeers T resolvedEndpoints).flatMap fun p => present (peerSettings p.1 p.2)

/-- `uapiConfiguration` of WireGuardKit -/
def uapiConfiguration [Resolver] (T : TunnelConfiguration WgQuick.InterfaceConfiguration)
    (resolvedEndpoints : List (Option Endpoint)) :
    Text × List (Option (Except DNSResolutionError (Endpoint × Endpoint))) :=
  (printAssignments '=' '\n' (settings T resolvedEndpoints),
    (resolvedPeers T resolvedEndpoints).map Prod.snd)

end WireGuard

/-! ### Interfaces without parameters -/

section Parameters

variable [Network]

/-- An interface of WireGuardKit: all the parameters are `nil`. -/
def withoutParameters (interface : WgQuick.InterfaceConfiguration) : InterfaceConfiguration :=
  { interface with
    junkPacketCount := none
    junkPacketMinSize := none
    junkPacketMaxSize := none
    initPacketJunkSize := none
    responsePacketJunkSize := none
    cookiePacketJunkSize := none
    transportPacketJunkSize := none
    initPacketMagicHeader := none
    responsePacketMagicHeader := none
    underloadPacketMagicHeader := none
    transportPacketMagicHeader := none
    initPacketData1 := none
    initPacketData2 := none
    initPacketData3 := none
    initPacketData4 := none
    initPacketData5 := none
    headerProtectionKey := none
    contentPaddingAddition := none
    rekeyAfterTime := none
    rekeyTimeout := none
    rejectAfterTime := none
    keepaliveTimeout := none
    maxHandshakeAttempts := none
    randomTrailers := none
    disableCookies := none }

/-- The attributes of no parameter give none. -/
lemma withParameters_of_none {a : Attributes} (ha : ∀ p ∈ parameters, a p.key = none)
    (i : WgQuick.InterfaceConfiguration) : withParameters i a = withoutParameters i := by
  simp only [parameters, List.forall_mem_cons] at ha
  simp only [withParameters, withoutParameters, ha, numberAttribute, dataAttribute, Option.bind_none,
    Option.filter_none]

/-- No line is written for a parameter that is `nil`. -/
lemma present_parameterSettings (i : WgQuick.InterfaceConfiguration) :
    present (parameterSettings (withoutParameters i)) = [] := rfl

/-- **The two devices** get the same lines. -/
lemma settings_withoutParameters [Resolver] {T : TunnelConfiguration WgQuick.InterfaceConfiguration}
    {T' : TunnelConfiguration InterfaceConfiguration} (hi : T'.interface = withoutParameters T.interface)
    (hp : T'.peers = T.peers) (resolvedEndpoints : List (Option Endpoint)) :
    uapiConfiguration T' resolvedEndpoints = WireGuard.uapiConfiguration T resolvedEndpoints := by
  have hdevice : present (deviceSettings T') = present (WireGuard.deviceSettings T) := by
    rw [deviceSettings, hi, hp, present_append, present_append, present_parameterSettings,
      List.append_nil, ← present_append]
    rfl
  have hpeers : resolvedPeers T' resolvedEndpoints = WireGuard.resolvedPeers T resolvedEndpoints := by
    rw [resolvedPeers, hp]
    rfl
  rw [uapiConfiguration, settings, hdevice, hpeers]
  rfl

end Parameters

/-! ### The same attributes -/

lemma standard_spec :
    standardInterfaceKeys ⊆ interfaceSectionKeys ∧ ∀ p ∈ parameters, p.key ∉ standardInterfaceKeys := by
  decide +kernel

section Attributes

variable [Network]

omit [Network] in
/-- A key that no entry has. -/
lemma values_of_forall {keys : List Text} {es : List Entry} (h : ∀ e ∈ es, lowercased e.1 ∈ keys)
    {k : Text} (hk : k ∉ keys) : values k es = [] := by
  have hnone : ∀ e ∈ es, ¬lowercased e.1 = k := fun e he hek => hk (hek ▸ h e he)
  rw [values, List.filter_eq_nil_iff.2 (by simpa using hnone), List.map_nil]

/-- **A section with the keys of WireGuard only** has the same attributes in both kits. -/
lemma attributesOf_interface {es : List Entry} (h : ∀ e ∈ es, lowercased e.1 ∈ standardInterfaceKeys) :
    amneziaWGKit.attributesOf .interface es = wireGuardKit.attributesOf .interface es := by
  funext k
  by_cases hk : k ∈ standardInterfaceKeys
  · rw [amneziaWGKit.attributesOf_of_mem (standard_spec.1 hk), wireGuardKit.attributesOf_of_mem hk]
  · have hnone : joinedValues (values k es) = none := by
      rw [values_of_forall h hk]
      rfl
    simp [Kit.attributesOf, hnone]

lemma attributesOf_parameter {es : List Entry} {p : Parameter} (hp : p ∈ parameters) :
    wireGuardKit.attributesOf .interface es p.key = none :=
  if_neg (standard_spec.2 p hp)

/-- An `[Interface]` section that WireGuardKit reads. -/
lemma readInterface_of_wireGuard {es : List Entry} {i : WgQuick.InterfaceConfiguration}
    (h : wireGuardKit.readInterface es = .ok i) : amneziaWGKit.readInterface es = .ok (withoutParameters i) := by
  obtain ⟨hkeys, hsingle, hcollate⟩ := wireGuardKit.readInterface_eq_ok.1 h
  have hstandard : ∀ e ∈ es, lowercased e.1 ∈ standardInterfaceKeys := hkeys rfl
  have hcollate : collateInterface (wireGuardKit.attributesOf .interface es) = .ok (withoutParameters i) :=
    map_eq_ok.2 ⟨i, hcollate, withParameters_of_none (fun p hp => attributesOf_parameter hp) i⟩
  refine amneziaWGKit.readInterface_eq_ok.2 ⟨nofun, fun k _ hm => ?_, ?_⟩
  · by_cases hk : k ∈ standardInterfaceKeys
    · exact hsingle k hk hm
    · rw [values_of_forall hstandard hk, List.length_nil]
      exact Nat.zero_le 1
  · rw [attributesOf_interface hstandard]
    exact hcollate

/-- A `[Peer]` section that WireGuardKit reads. -/
lemma readPeer_of_wireGuard {es : List Entry} {p : PeerConfiguration}
    (h : wireGuardKit.readPeer es = .ok p) : amneziaWGKit.readPeer es = .ok p := by
  obtain ⟨-, hsingle, hcollate⟩ := wireGuardKit.readPeer_eq_ok.1 h
  exact amneziaWGKit.readPeer_eq_ok.2 ⟨nofun, hsingle, hcollate⟩

end Attributes

/-! ### The same tunnels -/

section Extension

variable [Network]

/-- **AmneziaWGKit extends WireGuardKit conservatively.**  What WireGuardKit accepts is accepted, with
no parameter and all else the same, and the device gets the same text. -/
theorem parse_of_wireGuard {s : Text} {T : TunnelConfiguration WgQuick.InterfaceConfiguration}
    (h : wireGuardKit.parse s = .ok T) :
    ∃ T' : TunnelConfiguration InterfaceConfiguration, amneziaWGKit.parse s = .ok T' ∧
      T'.interface = withoutParameters T.interface ∧ T'.peers = T.peers ∧
      ∀ [Resolver] (resolvedEndpoints : List (Option Endpoint)),
        uapiConfiguration T' resolvedEndpoints = WireGuard.uapiConfiguration T resolvedEndpoints := by
  obtain ⟨ls, hls, ⟨a, ha⟩, ⟨es, hes, hi⟩, hpeers⟩ := wireGuardKit.parse_eq_ok.1 h
  have hpreamble : ∃ a, amneziaWGKit.readEntries .notInASection (sections (dropLastHeader ls)).1
      noAttributes = .ok a :=
    ⟨a, amneziaWGKit.readEntries_notInASection.2 (wireGuardKit.readEntries_notInASection.1 ha)⟩
  have hpeers' := hpeers.imp fun _ _ hp => readPeer_of_wireGuard hp
  refine ⟨⟨withoutParameters T.interface, T.peers, T.distinct⟩, amneziaWGKit.parse_eq_ok.2
    ⟨ls, hls, hpreamble, ⟨es, hes, readInterface_of_wireGuard hi⟩, hpeers'⟩, rfl, rfl, ?_⟩
  intro _ resolvedEndpoints
  exact settings_withoutParameters rfl rfl resolvedEndpoints

end Extension

/-! ### A profile of WireGuard -/

section Examples

open scoped FreeVPN.WgQuick.Dotted

/-- A profile with one peer, whose endpoint is an address. -/
def standardProfile : Text :=
  ("[Interface]\nPrivateKey=AAAAAAAAAAAAAAAAAAAAAAAAAAAAAAAAAAAAAAAAAAA=\nAddress=10.0.0.2/32\n" ++
    "[Peer]\nPublicKey=AAAAAAAAAAAAAAAAAAAAAAAAAAAAAAAAAAAAAAAAAAA=\nEndpoint=192.0.2.1:51820").toList

theorem parse_of_wireGuard_standardProfile :
    ∃ T, wireGuardKit.parse standardProfile = .ok T ∧
      ∃ T' : TunnelConfiguration InterfaceConfiguration, amneziaWGKit.parse standardProfile = .ok T' ∧
        T'.interface = withoutParameters T.interface ∧ T'.peers = T.peers ∧
        ∀ [Resolver] (resolvedEndpoints : List (Option Endpoint)),
          uapiConfiguration T' resolvedEndpoints = WireGuard.uapiConfiguration T resolvedEndpoints := by
  have haccepted : (wireGuardKit.parse standardProfile).isOk = true := by
    have htext : standardProfile = _ := toList_append_ofList String.toList_ofList _
    rw [htext]
    decide +kernel
  obtain ⟨T, hT⟩ := exists_of_isOk haccepted
  exact ⟨T, hT, parse_of_wireGuard hT⟩

end Examples

end FreeVPN.AmneziaWG
