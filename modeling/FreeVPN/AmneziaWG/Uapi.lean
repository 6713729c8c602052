import FreeVPN.Lib.Assignments
import FreeVPN.AmneziaWG.Configuration

/-!
# The configuration of the AmneziaWG device

`uapiConfiguration` of `PacketTunnelSettingsGenerator`: the text that the device is configured with,
one assignment a line.  An endpoint is resolved again when it is printed; `Resolver` stands for
`getaddrinfo`.

`parametersSurvive_iff` says which texts lose no parameter on the way from the `[Interface]` section
to the device.
-/

namespace FreeVPN.AmneziaWG

open FreeVPN.Lib FreeVPN.Foundation FreeVPN.WgQuick

/-! ### Resolving again -/

section Resolve

variable [Network]

/-- `getaddrinfo`: an error code, or the first address. -/
class Resolver where
  getaddrinfo (hostname service : Text) : Except ℤ IPAddress

/-- `DNSResolutionError` -/
structure DNSResolutionError where
  errorCode : ℤ
  address : Text

/-- The text of a host. -/
def hostname : Host → Text
  | .name name => name
  | .ipv4 address => Network.ipv4Text address
  | .ipv6 address => Network.ipv6Text address

/-- The host that an address is. -/
def hostOf : IPAddress → Host
  | .ipv4 address => .ipv4 address
  | .ipv6 address => .ipv6 address

/-- `withReresolvedIP` -/
def withReresolvedIP [Resolver] (e : Endpoint) : Except DNSResolutionError Endpoint :=
  match Resolver.getaddrinfo (hostname e.host) (digits e.port.toNat) with
  | .error errorCode => .error { errorCode, address := hostname e.host }
  | .ok address => .ok { host := hostOf address, port := e.port }

/-- `reresolveEndpoint` -/
def reresolveEndpoint [Resolver] (endpoint : Endpoint) : Except DNSResolutionError (Endpoint × Endpoint) :=
  (withReresolvedIP endpoint).map fun resolved => (endpoint, resolved)

lemma reresolveEndpoint_eq_ok [Resolver] {e e' endpoint : Endpoint} :
    reresolveEndpoint e = .ok (e', endpoint) ↔ ∃ a,
      Resolver.getaddrinfo (hostname e.host) (digits e.port.toNat) = .ok a ∧ e' = e ∧
        endpoint = { host := hostOf a, port := e.port } := by
  unfold reresolveEndpoint withReresolvedIP
  cases Resolver.getaddrinfo (hostname e.host) (digits e.port.toNat) with
  | error c => simp [Except.map]
  | ok a => simp [Except.map, eq_comm]

/-! ### The text for the device -/

/-- A digit of `key_to_hex`. -/
def hexDigit (n : ℕ) : Char := Char.ofNat (if n < 10 then 48 + n else 87 + n)

/-- `hexKey` -/
def hexKey (key : BaseKey) : Text :=
  key.rawValue.flatMap fun b => [hexDigit (b.toNat / 16), hexDigit (b.toNat % 16)]

/-- `"\(n)"` -/
def number (n : UInt16) : Text := digits n.toNat

/-- The lines of the parameters. -/
def parameterSettings (i : InterfaceConfiguration) : List (Text × Option Text) :=
  [("jc".toList, i.junkPacketCount.map number),
    ("jmin".toList, i.junkPacketMinSize.map number),
    ("jmax".toList, i.junkPacketMaxSize.map number),
    ("s1".toList, i.initPacketJunkSize.map number),
    ("s2".toList, i.responsePacketJunkSize.map number),
    ("s3".toList, i.cookiePacketJunkSize.map number),
    ("s4".toList, i.transportPacketJunkSize.map number),
    ("h1".toList, i.initPacketMagicHeader),
    ("h2".toList, i.responsePacketMagicHeader),
    ("h3".toList, i.underloadPacketMagicHeader),
    ("h4".toList, i.transportPacketMagicHeader),
    ("i1".toList, i.initPacketData1),
    ("i2".toList, i.initPacketData2),
    ("i3".toList, i.initPacketData3),
    ("i4".toList, i.initPacketData4),
    ("i5".toList, i.initPacketData5),
    ("header_protection_key".toList, i.headerProtectionKey),
    ("content_padding_addition".toList, i.contentPaddingAddition),
    ("rekey_after_time".toList, i.rekeyAfterTime),
    ("rekey_timeout".toList, i.rekeyTimeout),
    ("reject_after_time".toList, i.rejectAfterTime),
    ("keepalive_timeout".toList, i.keepaliveTimeout),
    ("max_handshake_attempts".toList, i.maxHandshakeAttempts),
    ("random_trailers".toList, i.randomTrailers),
    ("disable_cookies".toList, i.disableCookies)]

/-- The lines of the device. -/
def deviceSettings (T : TunnelConfiguration InterfaceConfiguration) : List (Text × Option Text) :=
  [("private_key".toList, some (hexKey T.interface.privateKey)),
    ("listen_port".toList, T.interface.listenPort.map number)] ++
  parameterSettings T.interface ++
  [("replace_peers".toList, if T.peers.isEmpty then none else some "true".toList)]

/-- The lines of a peer. -/
def peerSettings (peer : PeerConfiguration) (result : Option (Except DNSResolutionError (Endpoint × Endpoint))) :
    List (Text × Option Text) :=
  [("public_key".toList, some (hexKey peer.publicKey)),
    ("preshared_key".toList, peer.preSharedKey.map hexKey),
    ("endpoint".toList, result.bind fun r => r.toOption.map fun r => r.2.stringRepresentation),
    ("persistent_keepalive_interval".toList, some (number (peer.persistentKeepAlive.getD 0))),
    ("replace_allowed_ips".toList, if peer.allowedIPs.isEmpty then none else some "true".toList)] ++
  peer.allowedIPs.map fun r => ("allowed_ip".toList, some r.stringRepresentation)

/-- `zip(peers, resolvedEndpoints)` with the results of the second resolution. -/
def resolvedPeers [Resolver] (T : TunnelConfiguration InterfaceConfiguration)
    (resolvedEndpoints : List (Option Endpoint)) :
    List (PeerConfiguration × Option (Except DNSResolutionError (Endpoint × Endpoint))) :=
  T.peers.zip (resolvedEndpoints.map fun e => e.map reresolveEndpoint)

/-- All the lines. -/
def settings [Resolver] (T : TunnelConfiguration InterfaceConfiguration)
    (resolvedEndpoints : List (Option Endpoint)) : List (Text × Text) :=
  present (deviceSettings T) ++
    (resolvedPeers T resolvedEndpoints).flatMap fun p => present (peerSettings p.1 p.2)

/-- `uapiConfiguration`: the text and the results of the second resolution. -/
def uapiConfiguration [Resolver] (T : TunnelConfiguration InterfaceConfiguration)
    (resolvedEndpoints : List (Option Endpoint)) :
    Text × List (Option (Except DNSResolutionError (Endpoint × Endpoint))) :=
  (printAssignments '=' '\n' (settings T resolvedEndpoints),
    (resolvedPeers T resolvedEndpoints).map Prod.snd)

/-- The lines of a peer of which only the endpoint is set. -/
def endpointSettings (peer : PeerConfiguration)
    (result : Option (Except DNSResolutionError (Endpoint × Endpoint))) : List (Text × Option Text) :=
  [("public_key".toList, some (hexKey peer.publicKey)),
    ("endpoint".toList, result.bind fun r => r.toOption.map fun r => r.2.stringRepresentation)]

/-- `endpointUapiConfiguration` -/
def endpointUapiConfiguration [Resolver] (T : TunnelConfiguration InterfaceConfiguration)
    (resolvedEndpoints : List (Option Endpoint)) :
    Text × List (Option (Except DNSResolutionError (Endpoint × Endpoint))) :=
  (printAssignments '=' '\n' ((resolvedPeers T resolvedEndpoints).flatMap fun p =>
      present (endpointSettings p.1 p.2)),
    (resolvedPeers T resolvedEndpoints).map Prod.snd)

end Resolve

/-! ### The text is read back -/

/-- The keys of the lines of the device. -/
def deviceKeys : List Text :=
  ["private_key".toList, "listen_port".toList] ++ parameters.map Parameter.uapiKey ++ ["replace_peers".toList]

/-- The keys of the lines of a peer. -/
def peerKeys : List Text :=
  ["public_key".toList, "preshared_key".toList, "endpoint".toList, "persistent_keepalive_interval".toList,
    "replace_allowed_ips".toList, "allowed_ip".toList]

lemma keys_spec :
    deviceKeys.Nodup ∧ (∀ k ∈ deviceKeys, k ∉ peerKeys) ∧
      ∀ k ∈ deviceKeys ++ peerKeys, '=' ∉ k ∧ '\n' ∉ k := by
  decide +kernel

lemma hexDigit_ne : ∀ n < 16, hexDigit n ≠ '\n' := by decide

lemma notMem_hexKey (key : BaseKey) : '\n' ∉ hexKey key := by
  intro h
  obtain ⟨b, -, hb⟩ := List.mem_flatMap.1 h
  have hlt := b.toNat_lt
  rcases List.mem_cons.1 hb with hb | hb
  · exact hexDigit_ne _ (by omega) hb.symm
  · exact hexDigit_ne _ (by omega) (List.mem_singleton.1 hb).symm

lemma notMem_digits (n : ℕ) : '\n' ∉ digits n := fun h => by
  have := isDigit_of_mem_digits h
  simp at this

section ReadBack

variable [Network]

lemma notMem_ipText (hN : Network.Documented) (a : IPAddress) : '\n' ∉ a.text := fun h => by
  cases a with
  | ipv4 a => exact absurd (hN.ipv4Text_line a _ h) (by decide)
  | ipv6 a => exact absurd (hN.ipv6Text_line a _ h) (by decide)

lemma notMem_endpoint [Resolver] (hN : Network.Documented) {e : Endpoint} {r : Endpoint × Endpoint}
    (h : (reresolveEndpoint e).toOption = some r) : '\n' ∉ r.2.stringRepresentation := by
  obtain ⟨a, -, -, hr⟩ := reresolveEndpoint_eq_ok.1 (toOption_eq_some.1 h)
  have ha := notMem_ipText hN a
  rw [hr]
  cases a <;> simp_all [Endpoint.stringRepresentation, hostOf, notMem_digits, IPAddress.text]

lemma mem_peerKeys {peer : PeerConfiguration} {result : Option (Except DNSResolutionError (Endpoint × Endpoint))}
    {a : Text × Text} (h : a ∈ present (peerSettings peer result)) : a.1 ∈ peerKeys := by
  have hmem := mem_present.1 h
  rcases List.mem_append.1 hmem with hmem | hmem
  · have hfst := List.mem_map_of_mem (f := Prod.fst) hmem
    exact List.mem_append_left ["allowed_ip".toList] hfst
  · obtain ⟨r, -, hr⟩ := List.mem_map.1 hmem
    rw [show a.1 = "allowed_ip".toList from (congrArg Prod.fst hr).symm]
    decide

lemma notMem_deviceSettings {T : TunnelConfiguration InterfaceConfiguration}
    (hT : ∀ a ∈ present (parameterSettings T.interface), '\n' ∉ a.2) :
    ∀ a ∈ present (deviceSettings T), '\n' ∉ a.2 := by
  intro a ha
  have hmem := mem_present.1 ha
  simp only [deviceSettings, List.mem_append, List.mem_cons, List.not_mem_nil, or_false,
    Prod.mk.injEq] at hmem
  rcases hmem with ((⟨-, h⟩ | ⟨-, h⟩) | h) | ⟨-, h⟩
  · rw [Option.some.inj h]
    exact notMem_hexKey _
  · obtain ⟨n, -, hn⟩ := Option.map_eq_some_iff.1 h.symm
    rw [← hn]
    exact notMem_digits _
  · exact hT a (mem_present.2 h)
  · split_ifs at h
    rw [Option.some.inj h]
    decide

lemma notMem_peerSettings [Resolver] (hN : Network.Documented) (peer : PeerConfiguration)
    (e : Option Endpoint) : ∀ a ∈ present (peerSettings peer (e.map reresolveEndpoint)), '\n' ∉ a.2 := by
  intro a ha
  have hmem := mem_present.1 ha
  simp only [peerSettings, List.mem_append, List.mem_cons, List.not_mem_nil, or_false, List.mem_map,
    Prod.mk.injEq] at hmem
  rcases hmem with (⟨-, h⟩ | ⟨-, h⟩ | ⟨-, h⟩ | ⟨-, h⟩ | ⟨-, h⟩) | ⟨r, -, -, h⟩
  · rw [Option.some.inj h]
    exact notMem_hexKey _
  · obtain ⟨k, -, hk⟩ := Option.map_eq_some_iff.1 h.symm
    rw [← hk]
    exact notMem_hexKey _
  · obtain ⟨x, hx, h'⟩ := Option.bind_eq_some_iff.1 h.symm
    obtain ⟨e, -, rfl⟩ := Option.map_eq_some_iff.1 hx
    obtain ⟨r, hr, hrep⟩ := Option.map_eq_some_iff.1 h'
    rw [← hrep]
    exact notMem_endpoint hN hr
  · rw [Option.some.inj h]
    exact notMem_digits _
  · split_ifs at h
    rw [Option.some.inj h]
    decide
  · rw [← Option.some.inj h]
    simp [IPAddressRange.stringRepresentation, notMem_ipText hN, notMem_digits]

variable [Resolver]

/-- No key has a separator, and nothing a line break, if the values of the parameters have none. -/
lemma notMem_settings (hN : Network.Documented) {T : TunnelConfiguration InterfaceConfiguration}
    (hT : ∀ a ∈ present (parameterSettings T.interface), '\n' ∉ a.2)
    (resolvedEndpoints : List (Option Endpoint)) :
    ∀ a ∈ settings T resolvedEndpoints, '=' ∉ a.1 ∧ '\n' ∉ a.1 ∧ '\n' ∉ a.2 := by
  intro a ha
  rcases List.mem_append.1 ha with ha | ha
  · have hkey : a.1 ∈ deviceKeys :=
      List.mem_map_of_mem (f := Prod.fst) (mem_present.1 ha)
    obtain ⟨h₁, h₂⟩ := keys_spec.2.2 a.1 (List.mem_append_left _ hkey)
    exact ⟨h₁, h₂, notMem_deviceSettings hT a ha⟩
  · obtain ⟨⟨peer, result⟩, hp, ha⟩ := List.mem_flatMap.1 ha
    obtain ⟨h₁, h₂⟩ := keys_spec.2.2 a.1 (List.mem_append_right _ (mem_peerKeys ha))
    obtain ⟨e, -, rfl⟩ := List.mem_map.1 (List.of_mem_zip hp).2
    exact ⟨h₁, h₂, notMem_peerSettings hN peer e a ha⟩

/-- **The text is read back**, if the values of the parameters have no line break. -/
theorem readAssignments_uapiConfiguration (hN : Network.Documented)
    {T : TunnelConfiguration InterfaceConfiguration}
    (hT : ∀ a ∈ present (parameterSettings T.interface), '\n' ∉ a.2)
    (resolvedEndpoints : List (Option Endpoint)) :
    readAssignments '=' '\n' (uapiConfiguration T resolvedEndpoints).1 = settings T resolvedEndpoints :=
  readAssignments_printAssignments _ _ (by decide) (notMem_settings hN hT resolvedEndpoints)

/-- A key of the device has at most one line. -/
lemma filter_settings {T : TunnelConfiguration InterfaceConfiguration} {k : Text} {v : Option Text}
    (h : (k, v) ∈ deviceSettings T) (resolvedEndpoints : List (Option Endpoint)) :
    ((settings T resolvedEndpoints).filter fun a => a.1 = k) = v.toList.map (Prod.mk k) := by
  have hk : k ∈ deviceKeys := List.mem_map_of_mem (f := Prod.fst) h
  have hpeers : (((resolvedPeers T resolvedEndpoints).flatMap fun p => present (peerSettings p.1 p.2)).filter
      fun a => a.1 = k) = [] := by
    refine List.filter_eq_nil_iff.2 fun a ha => ?_
    obtain ⟨p, -, ha⟩ := List.mem_flatMap.1 ha
    simp only [decide_eq_true_eq]
    rintro rfl
    exact keys_spec.2.1 _ hk (mem_peerKeys ha)
  have hnodup : ((deviceSettings T).map Prod.fst).Nodup := keys_spec.1
  rw [settings, List.filter_append, hpeers, List.append_nil]
  exact filter_present hnodup h

end ReadBack

/-! ### The way of a parameter -/

/-- The value for the device is the value of the profile: the same number, or the same text. -/
def Parameter.SameValue (p : Parameter) (v w : Text) : Prop :=
  match p.kind with
  | .number => ∃ n : ℤ, parseSigned v = some n ∧ parseSigned w = some n
  | _ => w = v

/-- Every non-empty value that is assigned to a parameter comes in exactly one line of the text for
the device. -/
def ParametersSurvive (s text : Text) : Prop :=
  ∀ p ∈ parameters, ∀ v ∈ values p.key (interfaceEntries s), v ≠ [] →
    ∃ w, ((readAssignments '=' '\n' text).filter fun a => a.1 = p.uapiKey) = [(p.uapiKey, w)] ∧
      p.SameValue v w

/-- The value of an entry is part of its line. -/
lemma mem_of_readLine {line : Text} {e : Entry} (h : readLine line = some (.entry e)) :
    ∀ c ∈ e.2, c ∈ line := by
  intro c hc
  unfold readLine at h
  dsimp only at h
  split_ifs at h with ht
  · cases h
  · cases hcut : cut '=' (trimWhitespacesAndNewlines (before '#' line)) with
    | none => simp [hcut] at h
    | some r =>
      simp only [hcut, Option.some.injEq, Line.entry.injEq] at h
      obtain ⟨hr, -⟩ := cut_eq_some.1
        (show cut '=' (trimWhitespacesAndNewlines (before '#' line)) = some (r.1, r.2) from hcut)
      rw [← h] at hc
      have hmem : c ∈ trimWhitespacesAndNewlines (before '#' line) := by
        rw [hr]
        exact List.mem_append_right _ (List.mem_cons_of_mem _ (mem_of_mem_trim hc))
      exact mem_of_mem_before (mem_of_mem_trim hmem)

/-- A value of the profile has no line break. -/
lemma notMem_value {s k v : Text} (hv : v ∈ values k (interfaceEntries s)) : '\n' ∉ v := by
  intro hc
  obtain ⟨e, he, rfl⟩ := List.mem_map.1 hv
  obtain ⟨es, hes, hee⟩ := List.mem_flatten.1 (List.mem_filter.1 he).1
  obtain ⟨c, hcs, rfl⟩ := List.mem_map.1 hes
  obtain ⟨line, hline, hread⟩ := List.mem_filterMap.1
    (entry_mem_of_mem_sections (List.mem_filter.1 hcs).1 hee)
  have hnl := notNewline_of_mem_components (List.mem_filter.1 hline).1 (mem_of_readLine hread _ hc)
  exact absurd hnl (by decide)

/-- A value is taken over as it is, or as a number. -/
lemma Parameter.eq_of_value {p : Parameter} {val : Option Text} {w : Text} (h : p.value val = some w) :
    val = some w ∨ ∃ n, w = digits n := by
  unfold Parameter.value at h
  cases hk : p.kind with
  | number =>
    simp only [hk, Option.map_eq_some_iff] at h
    obtain ⟨n, -, hn⟩ := h
    exact Or.inr ⟨_, hn.symm⟩
  | header => exact Or.inl (by simpa only [hk] using h)
  | data =>
    simp only [hk, dataAttribute, Option.filter_eq_some_iff] at h
    exact Or.inl h.1

/-- **When a value is taken over**: a number has to be one of 16 bits, any other value always is. -/
lemma Parameter.value_survives (p : Parameter) {v : Text} (hv : v ≠ []) :
    (∃ w, (p.value (some v)).toList.map (Prod.mk p.uapiKey) = [(p.uapiKey, w)] ∧ p.SameValue v w) ↔
      (p.kind = .number → (parseUInt16 v).isSome) := by
  unfold Parameter.value Parameter.SameValue
  cases p.kind with
  | number =>
    simp only [numberAttribute, Option.bind_some, forall_const]
    cases hn : parseUInt16 v with
    | none => simp
    | some n =>
      have hw : parseSigned (digits n.toNat) = some (n.toNat : ℤ) := parseSigned_description n.toNat
      simp [parseUInt16_eq_some.1 hn, hw]
  | header => simp
  | data => simp [dataAttribute, hv]

section Survive

variable [Network]

lemma parameterSettings_withParameters (i : WgQuick.InterfaceConfiguration) (a : Attributes) :
    parameterSettings (withParameters i a) = parameters.map fun p => (p.uapiKey, p.value (a p.key)) :=
  rfl

/-- An accepted text assigns at most one value to a parameter. -/
lemma joinedValues_of_parse {s : Text} {T : TunnelConfiguration InterfaceConfiguration}
    (hT : amneziaWGKit.parse s = .ok T) {p : Parameter} (hp : p ∈ parameters) {v : Text}
    (hv : v ∈ values p.key (interfaceEntries s)) : joinedValues (values p.key (interfaceEntries s)) = some v := by
  obtain ⟨hlen, -⟩ := interface_of_parse hT
  obtain ⟨hkey, hmany⟩ := parameters_spec.1 p hp
  obtain ⟨w, hw⟩ := List.length_eq_one_iff.1 (le_antisymm (hlen _ hkey hmany) (List.length_pos_of_mem hv))
  rw [hw, List.mem_singleton] at hv
  rw [hw, hv]
  simp [joinedValues]

/-- The parameters of an accepted text. -/
lemma parameterSettings_of_parse {s : Text} {T : TunnelConfiguration InterfaceConfiguration}
    (hT : amneziaWGKit.parse s = .ok T) :
    parameterSettings T.interface = parameters.map fun p =>
      (p.uapiKey, p.value (joinedValues (values p.key (interfaceEntries s)))) := by
  obtain ⟨-, i, hi⟩ := interface_of_parse hT
  rw [hi, parameterSettings_withParameters]
  refine List.map_congr_left fun p hp => ?_
  rw [amneziaWGKit.attributesOf_of_mem (parameters_spec.1 p hp).1]

/-- No value of a parameter has a line break. -/
lemma notMem_parameterSettings {s : Text} {T : TunnelConfiguration InterfaceConfiguration}
    (hT : amneziaWGKit.parse s = .ok T) : ∀ a ∈ present (parameterSettings T.interface), '\n' ∉ a.2 := by
  intro a ha
  rw [mem_present, parameterSettings_of_parse hT] at ha
  obtain ⟨p, hp, ha⟩ := List.mem_map.1 ha
  rcases Parameter.eq_of_value (congrArg Prod.snd ha) with h | ⟨n, h⟩
  · cases hvs : values p.key (interfaceEntries s) with
    | nil => simp [hvs, joinedValues] at h
    | cons v vs =>
      have hv : v ∈ values p.key (interfaceEntries s) := hvs ▸ List.mem_cons_self ..
      rw [joinedValues_of_parse hT hp hv] at h
      exact Option.some.inj h ▸ notMem_value hv
  · exact h ▸ notMem_digits n

/-- **Which profiles lose no parameter.**  For an accepted profile every parameter comes to the
device, if and only if the values of those that are read as numbers are numbers of 16 bits. -/
theorem parametersSurvive_iff [Resolver] (hN : Network.Documented) {s : Text}
    {T : TunnelConfiguration InterfaceConfiguration} (hT : amneziaWGKit.parse s = .ok T)
    (resolvedEndpoints : List (Option Endpoint)) :
    ParametersSurvive s (uapiConfiguration T resolvedEndpoints).1 ↔
      ∀ p ∈ parameters, p.kind = .number → ∀ v ∈ values p.key (interfaceEntries s), v ≠ [] →
        (parseUInt16 v).isSome := by
  have hline : ∀ p ∈ parameters, ∀ v ∈ values p.key (interfaceEntries s),
      ((readAssignments '=' '\n' (uapiConfiguration T resolvedEndpoints).1).filter
        fun a => a.1 = p.uapiKey) = (p.value (some v)).toList.map (Prod.mk p.uapiKey) := by
    intro p hp v hv
    have hmem : (p.uapiKey, p.value (some v)) ∈ deviceSettings T := by
      refine List.mem_append_left _ (List.mem_append_right _ ?_)
      rw [parameterSettings_of_parse hT, ← joinedValues_of_parse hT hp hv]
      exact List.mem_map.2 ⟨p, hp, rfl⟩
    rw [readAssignments_uapiConfiguration hN (notMem_parameterSettings hT), filter_settings hmem]
  constructor
  · intro h p hp hkind v hv hne
    obtain ⟨w, hw, hsame⟩ := h p hp v hv hne
    rw [hline p hp v hv] at hw
    exact (p.value_survives hne).1 ⟨w, hw, hsame⟩ hkind
  · intro h p hp v hv hne
    rw [hline p hp v hv]
    exact (p.value_survives hne).2 fun hkind => h p hp hkind v hv hne

end Survive

/-! ### A profile that loses one -/

section Examples

open scoped FreeVPN.WgQuick.Dotted

/-- A resolver that knows no name: `EAI_NONAME`. -/
local instance noNames : Resolver where
  getaddrinfo _ _ := .error 8

/-- A profile with a junk packet count. -/
def junkPacketProfile (count : String) : Text :=
  ("[Interface]\nPrivateKey=AAAAAAAAAAAAAAAAAAAAAAAAAAAAAAAAAAAAAAAAAAA=\nJc=" ++ count).toList

/-- The count is a number, but not one of 16 bits: the device does not get it. -/
theorem not_parametersSurvive_junkPacketCount :
    ¬∀ (s : Text) (T : TunnelConfiguration InterfaceConfiguration), amneziaWGKit.parse s = .ok T →
      ParametersSurvive s (uapiConfiguration T []).1 := by
  intro h
  have htext : junkPacketProfile "70000" = _ := toList_append_ofList String.toList_ofList _
  have hread : (amneziaWGKit.parse (junkPacketProfile "70000")).toOption.map (fun T =>
      (readAssignments '=' '\n' (uapiConfiguration T []).1).filter
        fun a => a.1 = "jc".toList) = some [] := by
    rw [htext]
    decide +kernel
  have hvalue : "70000".toList ∈ values "jc".toList (interfaceEntries (junkPacketProfile "70000")) := by
    rw [htext]
    decide +kernel
  obtain ⟨T, hT, hline⟩ := Option.map_eq_some_iff.1 hread
  have hparse : amneziaWGKit.parse (junkPacketProfile "70000") = .ok T := toOption_eq_some.1 hT
  obtain ⟨w, hw, -⟩ := h _ T hparse ⟨"jc".toList, "jc".toList, .number⟩ (by decide) _ hvalue (by decide)
  rw [hline] at hw
  cases hw

theorem parametersSurvive_junkPacketCount :
    ∃ T, amneziaWGKit.parse (junkPacketProfile "4") = .ok T ∧
      (ParametersSurvive (junkPacketProfile "4") (uapiConfiguration T []).1 ↔
        ∀ p ∈ parameters, p.kind = .number →
          ∀ v ∈ values p.key (interfaceEntries (junkPacketProfile "4")), v ≠ [] →
            (parseUInt16 v).isSome) := by
  obtain ⟨T, hT⟩ := exists_of_isOk
    (show (amneziaWGKit.parse (junkPacketProfile "4")).isOk = true by decide +kernel)
  exact ⟨T, hT, parametersSurvive_iff Dotted.documented hT []⟩

end Examples

end FreeVPN.AmneziaWG
