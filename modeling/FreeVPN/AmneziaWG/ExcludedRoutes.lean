import FreeVPN.AmneziaWG.Adapter
import FreeVPN.AmneziaWG.Encoding

/-!
# The excluded routes

`generateNetworkSettings` of `PacketTunnelSettingsGenerator`, as far as it keeps addresses out of the
tunnel, beside the endpoints that the same generator writes for the device.  The routes are those of
the first resolution, and the endpoints those of the second.

`keptOut_iff` says for which answers of the second resolution no endpoint comes into the tunnel.
-/

namespace FreeVPN.AmneziaWG

open FreeVPN.Lib FreeVPN.Foundation FreeVPN.WgQuick

/-! ### Routes -/

/-- `NEIPv4Route` -/
structure IPv4Route where
  destinationAddress : Text
  subnetMask : Text

/-- `NEIPv6Route` -/
structure IPv6Route where
  destinationAddress : Text
  networkPrefixLength : UInt8

/-- `"\(subnetMask())"` of an IPv4 range.  A prefix of more than 32 bits is a trap. -/
def subnetMask (networkPrefixLength : UInt8) : Option Text :=
  if networkPrefixLength ≤ 32 then
    let mask : UInt32 :=
      if 0 < networkPrefixLength then 0xffffffff <<< (32 - networkPrefixLength).toUInt32 else 0
    some (joined ['.'] ([mask >>> 24, mask >>> 16, mask >>> 8, mask].map fun n => digits n.toUInt8.toNat))
  else none

/-- The only prefix of an IPv4 address with the mask of a host route is the whole address. -/
lemma subnetMask_eq_some {n : UInt8} {mask : Text} (h : subnetMask n = some mask) :
    mask = "255.255.255.255".toList ↔ n = 32 := by
  have hall : ∀ n : Fin 256, (subnetMask (UInt8.ofNat n.1)).all (fun mask =>
      decide (mask = "255.255.255.255".toList ↔ UInt8.ofNat n.1 = 32)) = true := by
    decide +kernel
  have hn := hall ⟨n.toNat, n.toNat_lt⟩
  rw [UInt8.ofNat_toNat, h] at hn
  exact of_decide_eq_true hn

section Routes

variable [Network]

/-- The host route of a resolved endpoint.  A host that is still a name is a trap. -/
def endpointRoute (endpoint : Endpoint) : Option (IPv4Route ⊕ IPv6Route) :=
  match endpoint.host with
  | .ipv4 address => some (.inl ⟨Network.ipv4Text address, "255.255.255.255".toList⟩)
  | .ipv6 address => some (.inr ⟨Network.ipv6Text address, 128⟩)
  | .name _ => none

/-- The route of an address range. -/
def rangeRoute (addressRange : IPAddressRange) : Option (IPv4Route ⊕ IPv6Route) :=
  match addressRange.address with
  | .ipv4 address => (subnetMask addressRange.networkPrefixLength).map fun mask =>
      .inl ⟨Network.ipv4Text address, mask⟩
  | .ipv6 address => some (.inr ⟨Network.ipv6Text address, addressRange.networkPrefixLength⟩)

/-- `NEDNSSettings` -/
structure DNSSettings where
  servers : List Text
  searchDomains : List Text
  matchDomains : Option (List Text)

/-- `NEPacketTunnelNetworkSettings`, but for the addresses and the included routes. -/
structure NetworkSettings where
  tunnelRemoteAddress : Text
  dnsSettings : Option DNSSettings
  mtu : UInt16
  /-- `ipv4Settings.excludedRoutes` -/
  ipv4ExcludedRoutes : List IPv4Route
  /-- `ipv6Settings.excludedRoutes` -/
  ipv6ExcludedRoutes : List IPv6Route

namespace PacketTunnelSettingsGenerator

/-- `excludedRoutes()`.  `excludeIPs` has those of all the peers, in order. -/
def excludedRoutes (g : PacketTunnelSettingsGenerator) (excludeIPs : List IPAddressRange) :
    Option (List IPv4Route × List IPv6Route) := do
  let endpoints ← (g.resolvedEndpoints.filterMap id).mapM endpointRoute
  let ranges ← excludeIPs.mapM rangeRoute
  return ((endpoints ++ ranges).filterMap Sum.getLeft?, (endpoints ++ ranges).filterMap Sum.getRight?)

/-- `generateNetworkSettings()` -/
def generateNetworkSettings (g : PacketTunnelSettingsGenerator) (excludeIPs : List IPAddressRange) :
    Option NetworkSettings :=
  let interface := g.tunnelConfiguration.interface
  let mtu := interface.mtu.getD 0
  (g.excludedRoutes excludeIPs).map fun routes => {
    tunnelRemoteAddress := "127.0.0.1".toList
    dnsSettings :=
      if interface.dnsSearch.isEmpty && interface.dns.isEmpty then none
      else some {
        servers := interface.dns.map fun server => server.address.text
        searchDomains := interface.dnsSearch
        -- All DNS queries must first go through the tunnel's DNS
        matchDomains := if interface.dns.isEmpty then none else some [[]] }
    mtu := if mtu = 0 then 1280 else mtu
    ipv4ExcludedRoutes := routes.1
    ipv6ExcludedRoutes := routes.2 }

end PacketTunnelSettingsGenerator

/-! ### Host routes -/

/-- What is relied on of printed addresses: they are read as what they are, and nothing in them ends
them within an endpoint. -/
structure Network.Printed : Prop where
  ipv4_text : ∀ a, Network.ipv4 (Network.ipv4Text a) = some a
  ipv6_text : ∀ a, Network.ipv4 (Network.ipv6Text a) = none ∧ Network.ipv6 (Network.ipv6Text a) = some a
  ipv4Text_host : ∀ a, ':' ∉ Network.ipv4Text a ∧ '[' ∉ Network.ipv4Text a
  ipv6Text_host : ∀ a, ']' ∉ Network.ipv6Text a

/-- The route is one of the address alone. -/
def IsHostRoute : IPv4Route ⊕ IPv6Route → IPAddress → Prop
  | .inl r, .ipv4 a => Network.ipv4 r.destinationAddress = some a ∧ r.subnetMask = "255.255.255.255".toList
  | .inr r, .ipv6 a => Network.ipv6 r.destinationAddress = some a ∧ r.networkPrefixLength = 128
  | _, _ => False

/-- The address is covered by a host route in the excluded routes. -/
def NetworkSettings.HasHostRoute (N : NetworkSettings) (a : IPAddress) : Prop :=
  (∃ r ∈ N.ipv4ExcludedRoutes, IsHostRoute (.inl r) a) ∨ ∃ r ∈ N.ipv6ExcludedRoutes, IsHostRoute (.inr r) a

/-- The address is that of a resolved endpoint, or excluded by itself. -/
def PacketTunnelSettingsGenerator.Excludes (g : PacketTunnelSettingsGenerator)
    (excludeIPs : List IPAddressRange) (a : IPAddress) : Prop :=
  (∃ e, some e ∈ g.resolvedEndpoints ∧ e.host = hostOf a) ∨ ⟨a, a.maxNetworkPrefixLength⟩ ∈ excludeIPs

lemma isHostRoute_endpointRoute (hP : Network.Printed) {e : Endpoint} {r : IPv4Route ⊕ IPv6Route}
    (h : endpointRoute e = some r) (a : IPAddress) : IsHostRoute r a ↔ e.host = hostOf a := by
  obtain ⟨host, port⟩ := e
  cases host with
  | name s => cases h
  | ipv4 b =>
    rw [← Option.some.inj h]
    cases a <;> simp [IsHostRoute, hostOf, hP.ipv4_text]
  | ipv6 b =>
    rw [← Option.some.inj h]
    cases a <;> simp [IsHostRoute, hostOf, hP.ipv6_text]

lemma isHostRoute_rangeRoute (hP : Network.Printed) {range : IPAddressRange} {r : IPv4Route ⊕ IPv6Route}
    (h : rangeRoute range = some r) (a : IPAddress) :
    IsHostRoute r a ↔ range = ⟨a, a.maxNetworkPrefixLength⟩ := by
  obtain ⟨address, n⟩ := range
  cases address with
  | ipv4 b =>
    obtain ⟨mask, hmask, rfl⟩ := Option.map_eq_some_iff.1 h
    have hhost := subnetMask_eq_some hmask
    cases a with
    | ipv4 a =>
      simp only [IsHostRoute, hP.ipv4_text, Option.some.injEq, hhost, IPAddressRange.mk.injEq,
        IPAddress.ipv4.injEq]
      rfl
    | ipv6 a => simp [IsHostRoute]
  | ipv6 b =>
    rw [← Option.some.inj h]
    cases a <;> simp [IsHostRoute, hP.ipv6_text, IPAddress.maxNetworkPrefixLength]

/-- **The addresses with a host route** are those of the resolved endpoints, and those excluded by
themselves. -/
theorem hasHostRoute_iff (hP : Network.Printed) {g : PacketTunnelSettingsGenerator}
    {excludeIPs : List IPAddressRange} {N : NetworkSettings} (hN : g.generateNetworkSettings excludeIPs = some N)
    (a : IPAddress) : N.HasHostRoute a ↔ g.Excludes excludeIPs a := by
  obtain ⟨routes, hroutes, rfl⟩ := Option.map_eq_some_iff.1 hN
  obtain ⟨endpoints, hendpoints, hroutes⟩ := Option.bind_eq_some_iff.1 hroutes
  obtain ⟨ranges, hranges, hroutes⟩ := Option.bind_eq_some_iff.1 hroutes
  have hboth : (∃ r ∈ endpoints ++ ranges, IsHostRoute r a) ↔ g.Excludes excludeIPs a := by
    simp only [List.mem_append, or_and_right, exists_or]
    rw [exists_mem_mapM hendpoints fun e r h => isHostRoute_endpointRoute hP h a,
      exists_mem_mapM hranges fun e r h => isHostRoute_rangeRoute hP h a]
    simp [PacketTunnelSettingsGenerator.Excludes, List.mem_filterMap]
  rw [← hboth, ← Option.some.inj hroutes]
  simp only [NetworkSettings.HasHostRoute, List.mem_filterMap]
  constructor
  · rintro (⟨r, ⟨x, hx, hr⟩, h⟩ | ⟨r, ⟨x, hx, hr⟩, h⟩)
    · exact ⟨x, hx, Sum.getLeft?_eq_some_iff.1 hr ▸ h⟩
    · exact ⟨x, hx, Sum.getRight?_eq_some_iff.1 hr ▸ h⟩
  · rintro ⟨r | r, hr, h⟩
    · exact Or.inl ⟨r, ⟨_, hr, rfl⟩, h⟩
    · exact Or.inr ⟨r, ⟨_, hr, rfl⟩, h⟩

/-! ### The endpoints that are written -/

/-- The results of the second resolution, in which each call of `getaddrinfo` has an answer of its own. -/
def reresolutions (answers : ℕ → Resolver) (resolvedEndpoints : List (Option Endpoint)) :
    List (Option (Except DNSResolutionError (Endpoint × Endpoint))) :=
  resolvedEndpoints.mapIdx fun i e => e.map (@reresolveEndpoint _ (answers i))

namespace PacketTunnelSettingsGenerator

variable (g : PacketTunnelSettingsGenerator)

/-- The lines of `uapiConfiguration()` -/
def uapiLines (answers : ℕ → Resolver) : List (Text × Text) :=
  present (deviceSettings g.tunnelConfiguration) ++
    (g.tunnelConfiguration.peers.zip (reresolutions answers g.resolvedEndpoints)).flatMap fun p =>
      present (peerSettings p.1 p.2)

/-- The lines of `endpointUapiConfiguration()` -/
def endpointUapiLines (answers : ℕ → Resolver) : List (Text × Text) :=
  (g.tunnelConfiguration.peers.zip (reresolutions answers g.resolvedEndpoints)).flatMap fun p =>
    present (endpointSettings p.1 p.2)

/-- The endpoint is what the second resolution gives for one of the peers. -/
def Reresolved (answers : ℕ → Resolver) (endpoint : Endpoint) : Prop :=
  ∃ i e a, i < g.tunnelConfiguration.peers.length ∧ g.resolvedEndpoints[i]? = some (some e) ∧
    (answers i).getaddrinfo (hostname e.host) (digits e.port.toNat) = .ok a ∧
      endpoint = { host := hostOf a, port := e.port }

/-- The second resolution stays among the addresses that are excluded. -/
def StaysExcluded (excludeIPs : List IPAddressRange) (answers : ℕ → Resolver) : Prop :=
  ∀ i e a, i < g.tunnelConfiguration.peers.length → g.resolvedEndpoints[i]? = some (some e) →
    (answers i).getaddrinfo (hostname e.host) (digits e.port.toNat) = .ok a → g.Excludes excludeIPs a

/-- With one resolver for all the calls the lines are those of the texts for the device. -/
lemma uapi_eq [R : Resolver] :
    g.uapi = printAssignments '=' '\n' (g.uapiLines fun _ => R) ∧
      g.endpointUapi = printAssignments '=' '\n' (g.endpointUapiLines fun _ => R) := by
  have hconst : reresolutions (fun _ => R) g.resolvedEndpoints =
      g.resolvedEndpoints.map fun e => e.map reresolveEndpoint :=
    List.mapIdx_eq_iff.2 fun i => List.getElem?_map
  simp only [uapiLines, endpointUapiLines, hconst]
  exact ⟨rfl, rfl⟩

lemma notMem_peerLines (hN : Network.Documented) {answers : ℕ → Resolver} {p}
    (hp : p ∈ g.tunnelConfiguration.peers.zip (reresolutions answers g.resolvedEndpoints)) :
    ∀ a ∈ present (peerSettings p.1 p.2), '=' ∉ a.1 ∧ '\n' ∉ a.1 ∧ '\n' ∉ a.2 := by
  intro a ha
  obtain ⟨hsep, heol⟩ := keys_spec.2.2 a.1 (List.mem_append_right _ (mem_peerKeys ha))
  obtain ⟨i, hi, hresult⟩ := List.mem_mapIdx.1 (List.of_mem_zip hp).2
  rw [← hresult] at ha
  exact ⟨hsep, heol, @notMem_peerSettings _ (answers i) hN p.1 _ a ha⟩

/-- **The lines are what the device reads**, if the values of the parameters have no line break. -/
theorem readAssignments_uapiLines (hN : Network.Documented)
    (hT : ∀ a ∈ present (parameterSettings g.tunnelConfiguration.interface), '\n' ∉ a.2)
    (answers : ℕ → Resolver) :
    readAssignments '=' '\n' (printAssignments '=' '\n' (g.uapiLines answers)) = g.uapiLines answers ∧
      readAssignments '=' '\n' (printAssignments '=' '\n' (g.endpointUapiLines answers)) =
        g.endpointUapiLines answers := by
  constructor
  · refine readAssignments_printAssignments _ _ (by decide) fun a ha => ?_
    rcases List.mem_append.1 ha with ha | ha
    · have hkey : a.1 ∈ deviceKeys := List.mem_map_of_mem (f := Prod.fst) (mem_present.1 ha)
      obtain ⟨hsep, heol⟩ := keys_spec.2.2 a.1 (List.mem_append_left _ hkey)
      exact ⟨hsep, heol, notMem_deviceSettings hT a ha⟩
    · obtain ⟨p, hp, ha⟩ := List.mem_flatMap.1 ha
      exact g.notMem_peerLines hN hp a ha
  · refine readAssignments_printAssignments _ _ (by decide) fun a ha => ?_
    obtain ⟨p, hp, ha⟩ := List.mem_flatMap.1 ha
    -- The two lines are among those of the full text.
    have hsubset : ∀ a ∈ endpointSettings p.1 p.2, a ∈ peerSettings p.1 p.2 := by
      intro a ha
      rcases List.mem_pair.1 ha with rfl | rfl
      · exact List.mem_cons_self ..
      · exact List.mem_append_left _ (by simp)
    exact g.notMem_peerLines hN hp a (mem_present.2 (hsubset _ (mem_present.1 ha)))

/-- The results of the second resolution that are endpoints. -/
lemma exists_zip_reresolutions {answers : ℕ → Resolver} {endpoint : Endpoint} :
    (∃ p ∈ g.tunnelConfiguration.peers.zip (reresolutions answers g.resolvedEndpoints),
      ∃ e, p.2 = some (.ok (e, endpoint))) ↔ g.Reresolved answers endpoint := by
  constructor
  · rintro ⟨p, hp, e, he⟩
    obtain ⟨i, hi⟩ := List.mem_iff_getElem?.1 hp
    obtain ⟨hpeer, hresult⟩ := List.getElem?_zip_eq_some.1 hi
    rw [reresolutions, List.getElem?_mapIdx, he] at hresult
    obtain ⟨resolved, hresolved, hmap⟩ := Option.map_eq_some_iff.1 hresult
    obtain ⟨e', rfl, hok⟩ := Option.map_eq_some_iff.1 hmap
    obtain ⟨a, ha, -, rfl⟩ := (@reresolveEndpoint_eq_ok _ (answers i) _ _ _).1 hok
    exact ⟨i, e', a, (List.getElem?_eq_some_iff.1 hpeer).1, hresolved, ha, rfl⟩
  · rintro ⟨i, e, a, hi, he, ha, rfl⟩
    have hok := (@reresolveEndpoint_eq_ok _ (answers i) _ _ _).2 ⟨a, ha, rfl, rfl⟩
    have hresult : (reresolutions answers g.resolvedEndpoints)[i]? =
        some (some (.ok (e, { host := hostOf a, port := e.port }))) := by
      rw [reresolutions, List.getElem?_mapIdx, he]
      exact congrArg (fun r => some (some r)) hok
    exact ⟨(g.tunnelConfiguration.peers[i], _), List.mem_iff_getElem?.2
      ⟨i, List.getElem?_zip_eq_some.2 ⟨List.getElem?_eq_getElem hi, hresult⟩⟩, e, rfl⟩

/-- The endpoints in lines that give a peer the one of its result. -/
lemma mem_valuesOf_flatMap {answers : ℕ → Resolver}
    {lines : PeerConfiguration → Option (Except DNSResolutionError (Endpoint × Endpoint)) →
      List (Text × Option Text)}
    (hlines : ∀ peer result, valuesOf "endpoint".toList (present (lines peer result)) =
      (result.bind fun r => r.toOption.map fun r => r.2.stringRepresentation).toList) {v : Text} :
    v ∈ valuesOf "endpoint".toList
        ((g.tunnelConfiguration.peers.zip (reresolutions answers g.resolvedEndpoints)).flatMap fun p =>
          present (lines p.1 p.2)) ↔
      ∃ endpoint, g.Reresolved answers endpoint ∧ endpoint.stringRepresentation = v := by
  simp only [← exists_zip_reresolutions, mem_valuesOf, List.mem_flatMap]
  simp only [← mem_valuesOf, hlines, Option.mem_toList, Option.bind_eq_some_iff,
    Option.map_eq_some_iff, toOption_eq_some]
  constructor
  · rintro ⟨p, hp, r, hr, ⟨e, endpoint⟩, rfl, hv⟩
    exact ⟨endpoint, ⟨p, hp, e, hr⟩, hv⟩
  · rintro ⟨endpoint, ⟨p, hp, e, hr⟩, hv⟩
    exact ⟨p, hp, _, hr, (e, endpoint), rfl, hv⟩

/-- **The endpoints that are written** are those of the second resolution. -/
theorem mem_valuesOf_uapiLines {answers : ℕ → Resolver} {v : Text} :
    v ∈ valuesOf "endpoint".toList (g.uapiLines answers) ↔
      ∃ endpoint, g.Reresolved answers endpoint ∧ endpoint.stringRepresentation = v := by
  have hdevice : ∀ a ∈ present (deviceSettings g.tunnelConfiguration), a.1 ≠ "endpoint".toList := by
    intro a ha hk
    have hkey : a.1 ∈ deviceKeys := List.mem_map_of_mem (f := Prod.fst) (mem_present.1 ha)
    exact keys_spec.2.1 _ hkey (hk ▸ by decide)
  rw [uapiLines, valuesOf_append, valuesOf_eq_nil hdevice, List.nil_append]
  refine g.mem_valuesOf_flatMap fun peer result => ?_
  have hmem : ("endpoint".toList, result.bind fun r => r.toOption.map fun r => r.2.stringRepresentation) ∈
      peerSettings peer result := List.mem_append_left _ (by simp)
  exact valuesOf_peerSettings (by decide) hmem

theorem mem_valuesOf_endpointUapiLines {answers : ℕ → Resolver} {v : Text} :
    v ∈ valuesOf "endpoint".toList (g.endpointUapiLines answers) ↔
      ∃ endpoint, g.Reresolved answers endpoint ∧ endpoint.stringRepresentation = v := by
  refine g.mem_valuesOf_flatMap fun peer result => ?_
  have hnodup : ((endpointSettings peer result).map Prod.fst).Nodup :=
    show ["public_key".toList, "endpoint".toList].Nodup by decide
  have hmem : ("endpoint".toList, result.bind fun r => r.toOption.map fun r => r.2.stringRepresentation) ∈
      endpointSettings peer result := List.mem_cons_of_mem _ (List.mem_singleton_self _)
  exact valuesOf_present hnodup hmem

end PacketTunnelSettingsGenerator

/-! ### The endpoints are kept out -/

lemma ofText_text (hP : Network.Printed) (a : IPAddress) : IPAddress.ofText a.text = some a := by
  cases a with
  | ipv4 a => simp [IPAddress.ofText, IPAddress.text, hP.ipv4_text]
  | ipv6 a => simp [IPAddress.ofText, IPAddress.text, hP.ipv6_text]

/-- The host part of a written endpoint is the address. -/
lemma parts_stringRepresentation (hP : Network.Printed) (a : IPAddress) (port : UInt16) :
    Endpoint.parts (Endpoint.mk (hostOf a) port).stringRepresentation = some (a.text, digits port.toNat) := by
  cases a with
  | ipv4 a =>
    obtain ⟨hcolon, hbracket⟩ := hP.ipv4Text_host a
    have hcut : cut ':' (Network.ipv4Text a ++ ':' :: digits port.toNat) =
        some (Network.ipv4Text a, digits port.toNat) := cut_append_cons hcolon _
    simp only [Endpoint.stringRepresentation, hostOf, IPAddress.text]
    rw [← hcut]
    cases htext : Network.ipv4Text a with
    | nil => rfl
    | cons c s =>
      rw [htext] at hbracket
      rw [List.cons_append, Endpoint.parts]
      · intro h
        cases h
      · rintro string hc
        exact hbracket ((List.cons.inj hc).1 ▸ List.mem_cons_self ..)
  | ipv6 a =>
    have hcut : cut ']' (Network.ipv6Text a ++ ']' :: ':' :: digits port.toNat) =
        some (Network.ipv6Text a, ':' :: digits port.toNat) := cut_append_cons (hP.ipv6Text_host a) _
    have htext : (Endpoint.mk (hostOf (.ipv6 a)) port).stringRepresentation =
        '[' :: (Network.ipv6Text a ++ ']' :: ':' :: digits port.toNat) := by
      simp [Endpoint.stringRepresentation, hostOf]
    rw [htext, Endpoint.parts, hcut]
    rfl

/-- Every endpoint in the lines is one of an address with a host route. -/
def KeptOut (N : NetworkSettings) (lines : List (Text × Text)) : Prop :=
  ∀ endpoint ∈ valuesOf "endpoint".toList lines, ∃ host port address,
    Endpoint.parts endpoint = some (host, port) ∧ IPAddress.ofText host = some address ∧ N.HasHostRoute address

lemma keptOut_of_mem_valuesOf (hP : Network.Printed) {g : PacketTunnelSettingsGenerator}
    {excludeIPs : List IPAddressRange} {N : NetworkSettings} (hN : g.generateNetworkSettings excludeIPs = some N)
    {answers : ℕ → Resolver} {lines : List (Text × Text)}
    (hlines : ∀ v, v ∈ valuesOf "endpoint".toList lines ↔
      ∃ endpoint, g.Reresolved answers endpoint ∧ endpoint.stringRepresentation = v) :
    KeptOut N lines ↔ g.StaysExcluded excludeIPs answers := by
  constructor
  · intro h i e a hi he ha
    obtain ⟨host, port, address, hparts, haddress, hroute⟩ := h _ ((hlines _).2 ⟨_, ⟨i, e, a, hi, he, ha, rfl⟩, rfl⟩)
    rw [parts_stringRepresentation hP, Option.some.injEq, Prod.mk.injEq] at hparts
    rw [← hparts.1, ofText_text hP] at haddress
    rw [← hasHostRoute_iff hP hN, Option.some.inj haddress]
    exact hroute
  · intro h v hv
    obtain ⟨-, ⟨i, e, a, hi, he, ha, rfl⟩, rfl⟩ := (hlines v).1 hv
    exact ⟨_, _, a, parts_stringRepresentation hP a e.port, ofText_text hP a,
      (hasHostRoute_iff hP hN a).2 (h i e a hi he ha)⟩

/-- **When no endpoint comes into the tunnel**: whatever the second resolution answers is the address of
an endpoint that the first one gave, or excluded by itself. -/
theorem keptOut_iff (hP : Network.Printed) {g : PacketTunnelSettingsGenerator}
    {excludeIPs : List IPAddressRange} {N : NetworkSettings} (hN : g.generateNetworkSettings excludeIPs = some N)
    (answers : ℕ → Resolver) :
    (KeptOut N (g.uapiLines answers) ↔ g.StaysExcluded excludeIPs answers) ∧
      (KeptOut N (g.endpointUapiLines answers) ↔ g.StaysExcluded excludeIPs answers) :=
  ⟨keptOut_of_mem_valuesOf hP hN fun _ => g.mem_valuesOf_uapiLines,
    keptOut_of_mem_valuesOf hP hN fun _ => g.mem_valuesOf_endpointUapiLines⟩

end Routes

/-! ### A resolver of an IPv6-only network -/

section Examples

/-- Dotted quads, and the address `64:ff9b::c000:201` that DNS64 makes of `192.0.2.1`. -/
local instance nat64 : Network where
  IPv4Address := UInt8 × UInt8 × UInt8 × UInt8
  IPv6Address := Unit
  ipv4 := Dotted.network.ipv4
  ipv6 s := if s = "64:ff9b::c000:201".toList then some () else none
  ipv4Text := Dotted.network.ipv4Text
  ipv6Text _ := "64:ff9b::c000:201".toList
  port := Dotted.network.port
  host s :=
    match Dotted.network.ipv4 s with
    | some a => some (.inl a)
    | none => if s = "64:ff9b::c000:201".toList then some (.inr ()) else none

/-- The parts of a dotted quad are its numbers. -/
lemma splitOn_ipv4Text (a : UInt8 × UInt8 × UInt8 × UInt8) :
    (Dotted.network.ipv4Text a).splitOn '.' = [a.1, a.2.1, a.2.2.1, a.2.2.2].map fun n => digits n.toNat := by
  refine List.splitOn_intercalate '.' (fun l hl => ?_) (by simp)
  obtain ⟨n, -, rfl⟩ := List.mem_map.1 hl
  exact fun hdot => absurd (isDigit_of_mem_digits hdot) (by decide)

lemma mem_ipv4Text {a : UInt8 × UInt8 × UInt8 × UInt8} {c : Char} (h : c ∈ Dotted.network.ipv4Text a) :
    c = '.' ∨ c.isDigit := by
  change c ∈ ['.'].intercalate _ at h
  simp only [List.map_cons, List.map_nil, List.intercalate_cons_cons, List.intercalate_singleton,
    List.mem_append, List.mem_singleton] at h
  rcases h with (h | rfl) | (h | rfl) | (h | rfl) | h
  all_goals first
    | exact Or.inl rfl
    | exact Or.inr (isDigit_of_mem_digits h)

lemma nat64_printed : Network.Printed where
  ipv4_text a := by
    have hparts : ((Dotted.network.ipv4Text a).splitOn '.').map parseUInt8 =
        [some a.1, some a.2.1, some a.2.2.1, some a.2.2.2] := by
      rw [splitOn_ipv4Text]
      simp only [List.map_cons, List.map_nil, parseUInt8_digits]
    simp only [Network.ipv4, Network.ipv4Text] at hparts ⊢
    rw [hparts]
    rfl
  ipv6_text _ := ⟨Option.isNone_iff_eq_none.1 (show (Network.ipv4 "64:ff9b::c000:201".toList).isNone by decide), rfl⟩
  ipv4Text_host a := by
    constructor
    all_goals
      intro h
      exact absurd (mem_ipv4Text h) (by decide)
  ipv6Text_host _ := show ']' ∉ "64:ff9b::c000:201".toList by decide

/-- `getaddrinfo` behind DNS64. -/
@[reducible] def dns64 : Resolver where
  getaddrinfo hostname _ := if hostname = "192.0.2.1".toList then .ok (.ipv6 ()) else .error 8

/-- `getaddrinfo` on a network of its own kind: the address that was asked for. -/
@[reducible] def sameAddress : Resolver where
  getaddrinfo _ _ := .ok (.ipv4 (192, 0, 2, 1))

/-- A profile with one peer. -/
def dns64Profile : Text :=
  ("[Interface]\nPrivateKey=AAAAAAAAAAAAAAAAAAAAAAAAAAAAAAAAAAAAAAAAAAA=\n" ++
    "[Peer]\nPublicKey=AQAAAAAAAAAAAAAAAAAAAAAAAAAAAAAAAAAAAAAAAAA=\nEndpoint=192.0.2.1:51820").toList

/-- The generator of a configuration whose endpoints are addresses. -/
def generatorOf (T : TunnelConfiguration InterfaceConfiguration) : PacketTunnelSettingsGenerator :=
  ⟨T, T.peers.map PeerConfiguration.endpoint⟩

/-- The address is `192.0.2.1`. -/
def isSame (a : UInt8 × UInt8 × UInt8 × UInt8) : Bool := a = (192, 0, 2, 1)

/-- The endpoint is `192.0.2.1`. -/
def isSameAddress (e : Endpoint) : Bool :=
  match e.host with
  | .ipv4 a => isSame a
  | .name _ | .ipv6 _ => false

lemma host_eq_of_isSameAddress {e : Endpoint} (h : isSameAddress e) : e.host = hostOf (.ipv4 (192, 0, 2, 1)) := by
  unfold isSameAddress at h
  cases hhost : e.host with
  | ipv4 a =>
    rw [hhost] at h
    have ha : a = (192, 0, 2, 1) := by simpa [isSame] using! h
    exact congrArg Host.ipv4 ha
  | name _ => simp [hhost] at h
  | ipv6 _ => simp [hhost] at h

/-- The only route is that of `192.0.2.1`, the endpoint of every peer, and behind DNS64 the endpoint that is
written is `64:ff9b::c000:201`. -/
lemma exists_dns64 :
    ∃ T, amneziaWGKit.parse dns64Profile = .ok T ∧
      ∃ N, (generatorOf T).generateNetworkSettings [] = some N ∧ N.ipv6ExcludedRoutes = [] ∧
        "[64:ff9b::c000:201]:51820".toList ∈
          valuesOf "endpoint".toList ((generatorOf T).uapiLines fun _ => dns64) ∧
        ∀ e, some e ∈ (generatorOf T).resolvedEndpoints → isSameAddress e := by
  have hrun : ((amneziaWGKit.parse dns64Profile).toOption.any fun T =>
      ((generatorOf T).generateNetworkSettings []).any fun N => N.ipv6ExcludedRoutes.isEmpty &&
        (decide ("[64:ff9b::c000:201]:51820".toList ∈
          valuesOf "endpoint".toList ((generatorOf T).uapiLines fun _ => dns64)) &&
        (generatorOf T).resolvedEndpoints.all fun e => e.all isSameAddress)) = true := by
    have htext : dns64Profile = _ := toList_append_ofList String.toList_ofList _
    rw [htext]
    decide +kernel
  obtain ⟨T, hT, hsettings⟩ := Option.any_eq_true _ _ |>.1 hrun
  obtain ⟨N, hN, hlines⟩ := Option.any_eq_true _ _ |>.1 hsettings
  obtain ⟨hroutes, hlines⟩ := Bool.and_eq_true_iff.1 hlines
  obtain ⟨hmem, hendpoints⟩ := Bool.and_eq_true_iff.1 hlines
  exact ⟨T, toOption_eq_some.1 hT, N, hN, List.isEmpty_iff.1 hroutes, of_decide_eq_true hmem,
    fun e he => List.all_eq_true.1 hendpoints _ he⟩

theorem not_keptOut_dns64 :
    ¬∀ (g : PacketTunnelSettingsGenerator) (excludeIPs : List IPAddressRange) (N : NetworkSettings)
      (answers : ℕ → Resolver), g.generateNetworkSettings excludeIPs = some N →
        KeptOut N (g.uapiLines answers) ∧ KeptOut N (g.endpointUapiLines answers) := by
  intro h
  obtain ⟨T, -, N, hN, hroutes, hmem, -⟩ := exists_dns64
  obtain ⟨host, port, address, hparts, haddress, hroute⟩ := (h _ [] N (fun _ => dns64) hN).1 _ hmem
  have hhost : host = "64:ff9b::c000:201".toList := (congrArg Prod.fst (Option.some.inj hparts)).symm
  have hipv6 : address = .ipv6 () := Option.some.inj (haddress.symm.trans (hhost ▸ rfl))
  rw [hipv6, NetworkSettings.HasHostRoute, hroutes] at hroute
  rcases hroute with ⟨r, -, hr⟩ | ⟨r, hr, -⟩
  · exact hr
  · cases hr

/-- The endpoint is kept out where it is resolved to itself. -/
theorem keptOut_iff_dns64 :
    ∃ T, amneziaWGKit.parse dns64Profile = .ok T ∧ ∃ N, (generatorOf T).generateNetworkSettings [] = some N ∧
      ((KeptOut N ((generatorOf T).uapiLines fun _ => dns64) ↔
          (generatorOf T).StaysExcluded [] fun _ => dns64) ∧
        (KeptOut N ((generatorOf T).endpointUapiLines fun _ => dns64) ↔
          (generatorOf T).StaysExcluded [] fun _ => dns64)) ∧
      KeptOut N ((generatorOf T).uapiLines fun _ => sameAddress) ∧
        KeptOut N ((generatorOf T).endpointUapiLines fun _ => sameAddress) := by
  obtain ⟨T, hT, N, hN, -, -, hendpoints⟩ := exists_dns64
  have hstays : (generatorOf T).StaysExcluded [] fun _ => sameAddress := by
    intro i e a _ he ha
    have hmem := List.mem_of_getElem? he
    exact .inl ⟨e, hmem, (host_eq_of_isSameAddress (hendpoints e hmem)).trans
      (congrArg hostOf (Except.ok.inj ha))⟩
  have hiff := keptOut_iff nat64_printed hN fun _ => sameAddress
  exact ⟨T, hT, N, hN, keptOut_iff nat64_printed hN fun _ => dns64, hiff.1.2 hstays, hiff.2.2 hstays⟩

end Examples

end FreeVPN.AmneziaWG
