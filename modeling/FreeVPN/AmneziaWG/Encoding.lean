import FreeVPN.AmneziaWG.Uapi

/-!
# The text for the device is an encoding

What the lines of `uapiConfiguration` say, whatever text the profile has for a value: one block of
lines for the device, and one for each peer, in order.
-/

namespace FreeVPN.AmneziaWG

open FreeVPN.Lib FreeVPN.Foundation FreeVPN.WgQuick

/-- The lines of the text are those of the assignments, and each is read as the assignment that it is of.
The empty piece is behind the last line. -/
structure Encodes (text : Text) (assignments : List (Text × Text)) : Prop where
  lines : text.splitOn '\n' = (assignments.map fun a => a.1 ++ '=' :: a.2) ++ [[]]
  line : ∀ a ∈ assignments, cut '=' (a.1 ++ '=' :: a.2) = some a

/-- The keys of the lines before those of the allowed addresses. -/
def peerHeadKeys : List Text :=
  ["public_key".toList, "preshared_key".toList, "endpoint".toList, "persistent_keepalive_interval".toList,
    "replace_allowed_ips".toList]

lemma peerHeadKeys_spec : peerHeadKeys.Nodup ∧ "allowed_ip".toList ∉ peerHeadKeys := by decide +kernel

lemma keys_present {l : List (Text × Option Text)} : ((present l).map Prod.fst).Sublist (l.map Prod.fst) := by
  induction l with
  | nil => exact List.Sublist.slnil
  | cons a l ih =>
    obtain ⟨k, v⟩ := a
    cases v with
    | none => exact ih.cons k
    | some v => exact ih.cons_cons k

section Blocks

variable [Network]

/-- The lines of the device: each key comes once, if it has a value. -/
structure IsDeviceBlock (T : TunnelConfiguration InterfaceConfiguration) (block : List (Text × Text)) : Prop where
  keys : (block.map Prod.fst).Sublist deviceKeys
  privateKey : valuesOf "private_key".toList block = [hexKey T.interface.privateKey]
  listenPort : valuesOf "listen_port".toList block = (T.interface.listenPort.map number).toList
  parameters : ∀ a ∈ parameterSettings T.interface, valuesOf a.1 block = a.2.toList
  replacePeers : valuesOf "replace_peers".toList block = if T.peers.isEmpty then [] else ["true".toList]

/-- The lines of a peer: its public key, and then its own values. -/
structure IsPeerBlock [Resolver] (peer : PeerConfiguration) (resolvedEndpoint : Option Endpoint)
    (block : List (Text × Text)) : Prop where
  publicKey : ∃ rest, block = ("public_key".toList, hexKey peer.publicKey) :: rest ∧
    ∀ a ∈ rest, a.1 ∈ peerKeys ∧ a.1 ≠ "public_key".toList
  preSharedKey : valuesOf "preshared_key".toList block = (peer.preSharedKey.map hexKey).toList
  endpoint : valuesOf "endpoint".toList block = ((resolvedEndpoint.bind fun e =>
    (withReresolvedIP e).toOption).map Endpoint.stringRepresentation).toList
  persistentKeepAlive : valuesOf "persistent_keepalive_interval".toList block =
    [number (peer.persistentKeepAlive.getD 0)]
  replaceAllowedIPs : valuesOf "replace_allowed_ips".toList block =
    if peer.allowedIPs.isEmpty then [] else ["true".toList]
  allowedIPs : valuesOf "allowed_ip".toList block = peer.allowedIPs.map IPAddressRange.stringRepresentation

lemma isDeviceBlock (T : TunnelConfiguration InterfaceConfiguration) :
    IsDeviceBlock T (present (deviceSettings T)) := by
  have hnodup : ((deviceSettings T).map Prod.fst).Nodup := keys_spec.1
  have hof : ∀ {k v}, (k, v) ∈ deviceSettings T → valuesOf k (present (deviceSettings T)) = v.toList :=
    fun h => valuesOf_present hnodup h
  have hreplace : ("replace_peers".toList, if T.peers.isEmpty then none else some "true".toList) ∈
      deviceSettings T := List.mem_append_right _ (List.mem_singleton_self _)
  refine ⟨keys_present, hof (List.mem_cons_self ..), hof ?_, ?_, ?_⟩
  · exact List.mem_cons_of_mem _ (List.mem_cons_self ..)
  · intro a ha
    exact hof (List.mem_append_left _ (List.mem_append_right _ ha))
  · rw [hof hreplace]
    split <;> rfl

section Peer

variable {peer : PeerConfiguration} {result : Option (Except DNSResolutionError (Endpoint × Endpoint))}

/-- A line of a peer is one of the first, or one of an allowed address. -/
lemma exists_peerSettings (peer : PeerConfiguration)
    (result : Option (Except DNSResolutionError (Endpoint × Endpoint))) :
    ∃ first : List (Text × Option Text), first.map Prod.fst = peerHeadKeys ∧
      peerSettings peer result = first ++ peer.allowedIPs.map fun r =>
        ("allowed_ip".toList, some r.stringRepresentation) :=
  ⟨_, rfl, rfl⟩

lemma valuesOf_peerSettings {k : Text} {v : Option Text} (hk : k ∈ peerHeadKeys)
    (h : (k, v) ∈ peerSettings peer result) : valuesOf k (present (peerSettings peer result)) = v.toList := by
  obtain ⟨first, hkeys, heq⟩ := exists_peerSettings peer result
  have hne : k ≠ "allowed_ip".toList := fun hk' => peerHeadKeys_spec.2 (hk' ▸ hk)
  rw [heq] at h ⊢
  have hallowed : ∀ a ∈ present (peer.allowedIPs.map fun r =>
      ("allowed_ip".toList, some r.stringRepresentation)), a.1 ≠ k := by
    intro a ha
    obtain ⟨r, -, hr⟩ := List.mem_map.1 (mem_present.1 ha)
    rw [← congrArg Prod.fst hr]
    exact hne.symm
  rw [present, List.filterMap_append, valuesOf_append]
  refine (congrArg₂ (· ++ ·) (valuesOf_present ?_ ?_) (valuesOf_eq_nil hallowed)).trans (List.append_nil _)
  · rw [hkeys]
    exact peerHeadKeys_spec.1
  · refine (List.mem_append.1 h).resolve_right fun h => ?_
    obtain ⟨r, -, hr⟩ := List.mem_map.1 h
    exact hne (congrArg Prod.fst hr).symm

lemma valuesOf_allowedIPs : valuesOf "allowed_ip".toList (present (peerSettings peer result)) =
    peer.allowedIPs.map IPAddressRange.stringRepresentation := by
  obtain ⟨first, hkeys, heq⟩ := exists_peerSettings peer result
  have hfirst : ∀ a ∈ present first, a.1 ≠ "allowed_ip".toList := by
    intro a ha hk
    apply peerHeadKeys_spec.2
    rw [← hkeys, ← hk]
    exact List.mem_map_of_mem (f := Prod.fst) (mem_present.1 ha)
  rw [heq, present, List.filterMap_append, valuesOf_append]
  exact (congrArg₂ (· ++ ·) (valuesOf_eq_nil hfirst) (valuesOf_map _ _ _)).trans (List.nil_append _)

lemma isPeerBlock [Resolver] (peer : PeerConfiguration) (e : Option Endpoint) :
    IsPeerBlock peer e (present (peerSettings peer (e.map reresolveEndpoint))) := by
  refine ⟨⟨present (peerSettings peer (e.map reresolveEndpoint)).tail, rfl, ?_⟩, ?_, ?_, ?_, ?_, valuesOf_allowedIPs⟩
  · intro a ha
    have htail : (peerSettings peer (e.map reresolveEndpoint)).tail.map Prod.fst =
        peerHeadKeys.tail ++ peer.allowedIPs.map fun _ => "allowed_ip".toList := by
      refine List.map_append.trans ?_
      rw [List.map_map]
      rfl
    have hmem : a.1 ∈ peerHeadKeys.tail ++ peer.allowedIPs.map fun _ => "allowed_ip".toList :=
      htail ▸ List.mem_map_of_mem (f := Prod.fst) (mem_present.1 ha)
    refine ⟨mem_peerKeys (List.mem_cons_of_mem _ ha), fun hk => ?_⟩
    rw [hk] at hmem
    rcases List.mem_append.1 hmem with hmem | hmem
    · exact absurd hmem (by decide)
    · obtain ⟨-, -, hallowed⟩ := List.mem_map.1 hmem
      exact absurd hallowed (by decide)
  · exact valuesOf_peerSettings (by decide) (List.mem_append_left _ (by simp))
  · have hmem : ("endpoint".toList, (e.map reresolveEndpoint).bind fun r => r.toOption.map fun r =>
        r.2.stringRepresentation) ∈ peerSettings peer (e.map reresolveEndpoint) :=
      List.mem_append_left _ (by simp)
    rw [valuesOf_peerSettings (by decide) hmem]
    cases e with
    | none => rfl
    | some e =>
      simp only [Option.map_some, Option.bind_some, reresolveEndpoint]
      cases withReresolvedIP e <;> rfl
  · have hmem : ("persistent_keepalive_interval".toList, some (number (peer.persistentKeepAlive.getD 0))) ∈
        peerSettings peer (e.map reresolveEndpoint) := List.mem_append_left _ (by simp)
    rw [valuesOf_peerSettings (by decide) hmem]
    rfl
  · have hmem : ("replace_allowed_ips".toList, if peer.allowedIPs.isEmpty then none else some "true".toList) ∈
        peerSettings peer (e.map reresolveEndpoint) := List.mem_append_left _ (by simp)
    rw [valuesOf_peerSettings (by decide) hmem]
    split <;> rfl

end Peer

/-- **The text for the device is an encoding**: it has the lines of the device, each key at most once,
and then those of the peers, a block for each, whatever the profile has for the values. -/
theorem uapi_encodes [Resolver] (hN : Network.Documented) {s : Text}
    {T : TunnelConfiguration InterfaceConfiguration} (hT : amneziaWGKit.parse s = .ok T)
    {resolvedEndpoints : List (Option Endpoint)} (hlength : resolvedEndpoints.length = T.peers.length) :
    ∃ (device : List (Text × Text)) (peers : List (List (Text × Text))),
      Encodes (uapiConfiguration T resolvedEndpoints).1 (device ++ peers.flatten) ∧ IsDeviceBlock T device ∧
        peers.length = T.peers.length ∧
          List.Forall₂ (fun p block => IsPeerBlock p.1 p.2 block) (T.peers.zip resolvedEndpoints) peers := by
  have hsettings := notMem_settings hN (notMem_parameterSettings hT) resolvedEndpoints
  refine ⟨present (deviceSettings T),
    (T.peers.zip resolvedEndpoints).map fun p => present (peerSettings p.1 (p.2.map reresolveEndpoint)),
    ?_, isDeviceBlock T, ?_, ?_⟩
  · have heq : settings T resolvedEndpoints = present (deviceSettings T) ++
        ((T.peers.zip resolvedEndpoints).map fun p =>
          present (peerSettings p.1 (p.2.map reresolveEndpoint))).flatten := by
      rw [settings, resolvedPeers, List.zip_map_right, List.flatMap_map, List.flatMap_def]
      rfl
    rw [← heq]
    refine ⟨splitOn_printAssignments _ _ (by decide) fun a ha => (hsettings a ha).2, ?_⟩
    intro a ha
    exact cut_append_cons (hsettings a ha).1 a.2
  · rw [List.length_map, List.length_zip, hlength, min_self]
  · rw [List.forall₂_map_right_iff, List.forall₂_same]
    intro p _
    exact isPeerBlock p.1 p.2

end Blocks

section Examples

open scoped FreeVPN.WgQuick.Dotted

attribute [local instance] noNames

/-- A profile with a raw value and two peers, of which one has everything that a peer may have. -/
def twoPeersProfile : Text :=
  ("[Interface]\nPrivateKey=AAAAAAAAAAAAAAAAAAAAAAAAAAAAAAAAAAAAAAAAAAA=\nJc=4\nI1=<b 0xf6ab>\n" ++
    "[Peer]\nPublicKey=AAAAAAAAAAAAAAAAAAAAAAAAAAAAAAAAAAAAAAAAAAA=\n" ++
    "PresharedKey=BBBBBBBBBBBBBBBBBBBBBBBBBBBBBBBBBBBBBBBBBBA=\nAllowedIPs=10.0.0.0/8, 192.168.1.0/24\n" ++
    "Endpoint=203.0.113.1:51820\nPersistentKeepalive=25\n" ++
    "[Peer]\nPublicKey=CCCCCCCCCCCCCCCCCCCCCCCCCCCCCCCCCCCCCCCCCCA=").toList

theorem uapi_encodes_twoPeers : ∃ T, amneziaWGKit.parse twoPeersProfile = .ok T ∧
    T.peers.map (fun p => (p.preSharedKey.isSome, p.endpoint.isSome, p.persistentKeepAlive, p.allowedIPs.length)) =
      [(true, true, some 25, 2), (false, false, none, 0)] ∧
    ∃ (device : List (Text × Text)) (peers : List (List (Text × Text))),
      Encodes (uapiConfiguration T (T.peers.map PeerConfiguration.endpoint)).1 (device ++ peers.flatten) ∧
        valuesOf "i1".toList device = ["<b 0xf6ab>".toList] ∧ IsDeviceBlock T device ∧ peers.length = T.peers.length ∧
          List.Forall₂ (fun p block => IsPeerBlock p.1 p.2 block) (T.peers.zip (T.peers.map PeerConfiguration.endpoint))
            peers := by
  have hcheck : ((amneziaWGKit.parse twoPeersProfile).toOption.any fun T => decide (T.peers.map (fun p =>
      (p.preSharedKey.isSome, p.endpoint.isSome, p.persistentKeepAlive, p.allowedIPs.length)) =
        [(true, true, some 25, 2), (false, false, none, 0)]) &&
      decide (("i1".toList, some "<b 0xf6ab>".toList) ∈ parameterSettings T.interface)) = true := by
    decide +kernel
  obtain ⟨T, hT, hvalues⟩ := Option.any_eq_true _ _ |>.1 hcheck
  obtain ⟨hpeers, hraw⟩ := Bool.and_eq_true_iff.1 hvalues
  have hparse : amneziaWGKit.parse twoPeersProfile = .ok T := toOption_eq_some.1 hT
  obtain ⟨device, peers, htext, hdevice, hlength, hblocks⟩ := uapi_encodes Dotted.documented hparse
    (show (T.peers.map PeerConfiguration.endpoint).length = T.peers.length from List.length_map _)
  exact ⟨T, hparse, of_decide_eq_true hpeers, device, peers, htext, hdevice.parameters _ (of_decide_eq_true hraw), hdevice, hlength,
    hblocks⟩

end Examples

end FreeVPN.AmneziaWG
