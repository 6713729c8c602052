import FreeVPN.AmneziaWG.Configuration
import FreeVPN.Profile.Reserialise
import FreeVPN.Profile.VPNProtocol
import FreeVPN.WgQuick.Readable

/-!
# What is accepted on upload is accepted on start

The validation of a WireGuard text asks for its sections and for the keys in them.  What their values
are, only the tunnel extension finds out: WireGuardKit reads the text that the app prints of a
WireGuard profile, AmneziaWGKit that of an AmneziaWG profile as it is.

`startable_iff` says which valid texts the extension can parse: those whose values can be read.
-/

namespace FreeVPN.Manager

open FreeVPN.Lib FreeVPN.Foundation FreeVPN.WgQuick FreeVPN.Profile

/-! ### The values that are handed over -/

section Values

variable [Network]

/-- What the app hands over of the `[Interface]` sections can be read: of a key that is repeated the
last value, of a list the items before a comment. -/
structure InterfaceStartable (es : List Entry) : Prop where
  privateKey : ∀ v ∈ (values "privatekey".toList es).getLast?, (BaseKey.ofBase64 (strip v)).isSome
  listenPort : ∀ v ∈ (values "listenport".toList es).getLast?, ∀ n ∈ parseInt v, 0 ≤ n ∧ n < 2 ^ 16
  address : ∀ x ∈ (throughComment (values "address".toList es)).flatMap kitItems,
    (IPAddressRange.ofText x).isSome
  mtu : ∀ v ∈ (values "mtu".toList es).getLast?, ∀ n ∈ parseInt v, 0 ≤ n ∧ n < 2 ^ 16

/-- What the app hands over of a `[Peer]` section can be read. -/
structure PeerStartable (es : List Entry) : Prop where
  publicKey : ∀ v ∈ (values "publickey".toList es).getLast?, (BaseKey.ofBase64 (strip v)).isSome
  presharedKey : ∀ v ∈ (values "presharedkey".toList es).getLast?, (BaseKey.ofBase64 (strip v)).isSome
  allowedIPs : ∀ v ∈ (values "allowedips".toList es).getLast?, ∀ x ∈ kitItems v,
    (IPAddressRange.ofText x).isSome
  endpoint : ∀ v ∈ (values "endpoint".toList es).getLast?, (Endpoint.ofText (strip v)).isSome
  persistentKeepalive : ∀ v ∈ (values "persistentkeepalive".toList es).getLast?,
    ∀ n ∈ parseInt v, 0 ≤ n ∧ n < 2 ^ 16

/-- The public key that the app hands over of a `[Peer]` section. -/
def lastPublicKey (es : List Entry) : Option BaseKey :=
  (values "publickey".toList es).getLast?.bind fun v => BaseKey.ofBase64 (strip v)

omit [Network] in
/-- A number is printed as one of 16 bits, if it is one. -/
lemma parseUInt16_printed (o : Option Text) :
    (∀ v ∈ ((o.bind parseInt).map description).toList.map strip, (parseUInt16 v).isSome) ↔
      ∀ v ∈ o, ∀ n ∈ parseInt v, 0 ≤ n ∧ n < 2 ^ 16 := by
  have hnumber : ∀ n : ℤ, (parseUInt16 (description n)).isSome ↔ 0 ≤ n ∧ n < 2 ^ 16 := by
    intro n
    have hn : parseInteger 0 (2 ^ 16 - 1) (description n) = if 0 ≤ n ∧ n ≤ 2 ^ 16 - 1 then some n else none := by
      simp [parseInteger, parseSigned_description, Option.filter]
    rw [parseUInt16, Option.isSome_map, hn]
    split_ifs with h
    · exact iff_of_true rfl ⟨h.1, by omega⟩
    · refine iff_of_false (by simp) fun h' => h ⟨h'.1, by omega⟩
  cases o with
  | none => simp
  | some v =>
    cases hv : parseInt v with
    | none => simp [hv]
    | some n => simp [hv, strip_description, hnumber]

variable (hN : Network.Documented)

include hN

/-- The items of a printed list can be read, if those before a comment can. -/
lemma isSome_printedItems {vs : List Text} (hvs : ∀ v ∈ vs, trimWhitespaces v = v) :
    (∀ x ∈ printedItems normalizeCIDR vs, (IPAddressRange.ofText x).isSome) ↔
      ∀ x ∈ (throughComment vs).flatMap kitItems, (IPAddressRange.ofText x).isSome := by
  rw [← exists_reads_iff, ← exists_reads_iff]
  exact exists_congr fun rs => reads_printedItems hN hvs

/-- **The printed `[Interface]` section can be read**, if its values can. -/
theorem exists_readInterface_iff {es : List Entry} {key : Text}
    (hvs : ∀ k, ∀ v ∈ values k es, OneLine v ∧ trimWhitespaces v = v)
    (hkey : (values "privatekey".toList es).getLast? = some key) :
    (∃ i, wireGuardKit.readInterface ((InterfaceVars.ofEntries es).interfaceConfig key).entries = .ok i) ↔
      InterfaceStartable es := by
  have hone : ∀ k, ∀ v ∈ values k es, OneLine v := fun k v hv => (hvs k v hv).1
  have haddress := items_address_entries hone key
  rw [items_joinedValues] at haddress
  have hitems := isSome_printedItems hN fun v hv => (hvs "address".toList v hv).2
  generalize hc : (InterfaceVars.ofEntries es).interfaceConfig key = c at haddress
  obtain ⟨hv₁, -, -, hv₄, hv₅⟩ := c.values_entries
  have hpk : c.privateKey = key := by rw [← hc]; rfl
  have hmtu : c.mtu = (values "mtu".toList es).getLast?.bind parseInt := by rw [← hc]; rfl
  have hport : c.listenPort = (values "listenport".toList es).getLast?.bind parseInt := by rw [← hc]; rfl
  rw [hpk] at hv₁
  rw [hmtu] at hv₄
  rw [hport] at hv₅
  have hsection : wireGuardKit.SectionReadable .interface c.entries :=
    ⟨fun _ => c.recognized_entries, fun k hk _ => c.length_values_entries k hk⟩
  rw [Kit.exists_readInterface_iff (fun _ h => h) fun _ => Iff.rfl, and_iff_right hsection]
  constructor
  · rintro ⟨h₁, h₂, h₃, h₄⟩
    rw [haddress] at h₃
    rw [hv₁] at h₁
    rw [hv₅] at h₂
    rw [hv₄] at h₄
    refine ⟨?_, (parseUInt16_printed _).1 h₂, hitems.1 h₃, (parseUInt16_printed _).1 h₄⟩
    rw [hkey]
    simpa using h₁
  · rintro ⟨h₁, h₂, h₃, h₄⟩
    rw [hkey] at h₁
    refine ⟨?_, ?_, ?_, ?_⟩
    · rw [hv₁]
      exact ⟨_, List.mem_singleton_self _, h₁ key rfl⟩
    · rw [hv₅]
      exact (parseUInt16_printed _).2 h₂
    · rw [haddress]
      exact hitems.2 h₃
    · rw [hv₄]
      exact (parseUInt16_printed _).2 h₄

/-- **A printed `[Peer]` section can be read**, if its values can. -/
theorem peerReadable_entries_iff {es : List Entry} {p : PeerConfig}
    (hvs : ∀ k, ∀ v ∈ values k es, OneLine v ∧ trimWhitespaces v = v) (hp : peerOf es = some p) :
    PeerReadable p.entries ↔ PeerStartable es := by
  have hone : ∀ k, ∀ v ∈ values k es, OneLine v := fun k v hv => (hvs k v hv).1
  have hallowed := items_allowedIPs_entries hone hp
  rw [items_joinedValues] at hallowed
  have htrim : ∀ v ∈ (values "allowedips".toList es).getLast?.toList, trimWhitespaces v = v :=
    fun v hv => (hvs _ v (List.mem_of_getLast? (Option.mem_toList.1 hv))).2
  have hitems := isSome_printedItems hN htrim
  have hthrough : throughComment (values "allowedips".toList es).getLast?.toList =
      (values "allowedips".toList es).getLast?.toList := by
    cases (values "allowedips".toList es).getLast? <;> simp [throughComment]
  obtain ⟨hv₁, hv₂, -, hv₄, hv₅⟩ := p.values_entries
  obtain ⟨hlast, hpre, hend, -, hnum⟩ := peerOf_eq_some.1 hp
  rw [hthrough] at hitems
  rw [hpre] at hv₂
  rw [hend] at hv₄
  rw [hnum] at hv₅
  constructor
  · rintro ⟨h₁, h₂, h₃, h₄, h₅⟩
    rw [hv₁] at h₁
    rw [hv₂] at h₂
    rw [hallowed] at h₃
    rw [hv₄] at h₄
    rw [hv₅] at h₅
    refine ⟨?_, ?_, ?_, ?_, (parseUInt16_printed _).1 h₅⟩
    · rw [hlast]
      simpa using h₁
    · simpa using h₂
    · exact fun v hv x hx => hitems.1 h₃ x (List.mem_flatMap.2 ⟨v, Option.mem_toList.2 hv, hx⟩)
    · simpa using h₄
  · rintro ⟨h₁, h₂, h₃, h₄, h₅⟩
    rw [hlast] at h₁
    refine ⟨?_, ?_, ?_, ?_, ?_⟩
    · rw [hv₁]
      exact ⟨_, List.mem_singleton_self _, h₁ _ rfl⟩
    · rw [hv₂]
      simpa using h₂
    · rw [hallowed]
      refine hitems.2 fun x hx => ?_
      obtain ⟨v, hv, hx⟩ := List.mem_flatMap.1 hx
      exact h₃ v (Option.mem_toList.1 hv) x hx
    · rw [hv₄]
      simpa using h₄
    · rw [hv₅]
      exact (parseUInt16_printed _).2 h₅

omit [Network] hN in
lemma publicKeyOf_entries {es : List Entry} {p : PeerConfig} (hp : peerOf es = some p) :
    publicKeyOf p.entries = lastPublicKey es := by
  rw [publicKeyOf, lastPublicKey, p.values_entries.1, (peerOf_eq_some.1 hp).publicKey]
  rfl

end Values

/-! ### The two kinds of profiles -/

section Profiles

variable [Network]

/-- What a WireGuard profile must be like for WireGuardKit, which gets what the app prints of it.  A
section without a public key is no peer to the app. -/
structure WireGuardStartable (s : Text) : Prop where
  interface : InterfaceStartable (interfaceEntries s)
  peers : ∀ es ∈ bodies .peer (profileSections s), values "publickey".toList es ≠ [] → PeerStartable es
  distinct : ((bodies .peer (profileSections s)).filterMap lastPublicKey).Nodup

/-- **What WireGuardKit accepts of the app.** -/
theorem exists_parse_toWgQuickConfig_iff (hN : Network.Documented) {s : Text} {c : WireGuardConfig}
    (hc : WireGuardConfig.parse s = .ok c) :
    (∃ T, wireGuardKit.parse c.toWgQuickConfig = .ok T) ↔ WireGuardStartable s := by
  obtain ⟨hkey, hinterface, hpeers, -⟩ := WireGuardConfig.parse_eq_ok.1 hc
  have hi := exists_readInterface_iff hN (fun _ _ hv => interface_value_spec hv) hkey
  rw [← hinterface] at hi
  -- the peers that are printed are those of the sections with a public key
  have hp : (∀ es ∈ c.peers.map PeerConfig.entries,
        wireGuardKit.SectionReadable .peer es ∧ PeerReadable es) ↔
      ∀ es ∈ bodies .peer (profileSections s), values "publickey".toList es ≠ [] → PeerStartable es := by
    rw [List.forall_mem_map, hpeers]
    constructor
    · intro h es hes hne
      obtain ⟨p, hpe⟩ := Option.ne_none_iff_exists'.1 (mt peerOf_eq_none_iff.1 hne)
      exact (peerReadable_entries_iff hN (fun _ _ hv => value_spec hes hv) hpe).1
        (h p (List.mem_filterMap.2 ⟨es, hes, hpe⟩)).2
    · intro h p hmem
      obtain ⟨es, hes, hpe⟩ := List.mem_filterMap.1 hmem
      have hne : values "publickey".toList es ≠ [] := fun hnil => by
        rw [peerOf_eq_none_iff.2 hnil] at hpe
        cases hpe
      exact ⟨⟨fun _ => p.recognized_entries, fun k hk _ => p.length_values_entries k hk⟩,
        (peerReadable_entries_iff hN (fun _ _ hv => value_spec hes hv) hpe).2 (h es hes hne)⟩
  have hkeys : (c.peers.map PeerConfig.entries).filterMap publicKeyOf =
      (bodies .peer (profileSections s)).filterMap lastPublicKey := by
    rw [hpeers, peerConfigs, List.filterMap_map, List.filterMap_filterMap]
    refine List.filterMap_congr fun es _ => ?_
    cases hpe : peerOf es with
    | none =>
      have hnil := peerOf_eq_none_iff.1 hpe
      rw [lastPublicKey, hnil]
      rfl
    | some p => exact publicKeyOf_entries hpe
  have hparse : (∃ T, wireGuardKit.parse c.toWgQuickConfig = .ok T) ↔
      (∃ i, wireGuardKit.readInterface c.interface.entries = .ok i) ∧
      ∃ ps : List PeerConfiguration,
        List.Forall₂ (fun es P => wireGuardKit.readPeer es = .ok P) (c.peers.map PeerConfig.entries) ps ∧
        (ps.map PeerConfiguration.publicKey).Nodup := by
    simp only [parse_toWgQuickConfig wireGuardKit (WireGuardConfig.onOneLine_of_parse hc),
      List.forall₂_map_left_iff]
    constructor
    · rintro ⟨T, hi, hps⟩
      exact ⟨⟨_, hi⟩, T.peers, hps, T.distinct⟩
    · rintro ⟨⟨interface, hi⟩, peers, hps, distinct⟩
      exact ⟨{ interface, peers, distinct }, hi, hps⟩
  rw [hparse, hi, Kit.exists_peers_iff, hp, hkeys]
  constructor
  · rintro ⟨h₁, h₂, h₃⟩
    exact ⟨h₁, h₂, h₃⟩
  · rintro ⟨h₁, h₂, h₃⟩
    exact ⟨h₁, h₂, h₃⟩

/-- **What AmneziaWGKit accepts.**  None of its parameters makes a text unacceptable. -/
lemma exists_parse_amneziaWGKit_iff {s : Text} :
    (∃ T, AmneziaWG.amneziaWGKit.parse s = .ok T) ↔ AmneziaWG.amneziaWGKit.Readable s := by
  refine Kit.exists_parse_iff AmneziaWG.amneziaWGKit ?_ fun a => ?_
  · change standardInterfaceKeys ⊆ AmneziaWG.interfaceSectionKeys
    decide +kernel
  · change (∃ i, AmneziaWG.collateInterface a = .ok i) ↔ _
    simp only [AmneziaWG.collateInterface, map_eq_ok]
    constructor
    · rintro ⟨-, i, hi, -⟩
      exact ⟨i, hi⟩
    · rintro ⟨i, hi⟩
      exact ⟨_, i, hi, rfl⟩

/-- The tunnel extension can parse what it is started with. -/
structure Startable [Unicode] (s : Text) : Prop where
  wireGuard : VPNProtocolType.detect s = .wireGuard →
    ∃ c T, WireGuardConfig.parse s = .ok c ∧ wireGuardKit.parse c.toWgQuickConfig = .ok T
  amneziaWG : VPNProtocolType.detect s = .amneziaWG → ∃ T, AmneziaWG.amneziaWGKit.parse s = .ok T

/-- **Which valid profiles can be started.**  A text that the validation accepts can be parsed by the
extension that it goes to, if and only if its values can be read there.  The texts that are parsed are plain, so
that it is the same to look for scalars and for `Character`s. -/
theorem startable_iff [Unicode] (hN : Network.Documented) {s : Text} (_hs : Plain s)
    (_hprinted : ∀ c, WireGuardConfig.parse s = .ok c → Plain c.toWgQuickConfig)
    (hvalid : WireGuardConfig.validate s = none) :
    Startable s ↔
      (VPNProtocolType.detect s = .wireGuard → WireGuardStartable s) ∧
      (VPNProtocolType.detect s = .amneziaWG → AmneziaWG.amneziaWGKit.Readable s) := by
  obtain ⟨c, hc, -⟩ := WireGuardConfig.validate_eq_none.1 hvalid
  have hwire : (∃ c T, WireGuardConfig.parse s = .ok c ∧ wireGuardKit.parse c.toWgQuickConfig = .ok T) ↔
      WireGuardStartable s := by
    rw [← exists_parse_toWgQuickConfig_iff hN hc]
    constructor
    · rintro ⟨c', T, hc', hT⟩
      obtain rfl : c' = c := Except.ok.inj (hc'.symm.trans hc)
      exact ⟨T, hT⟩
    · rintro ⟨T, hT⟩
      exact ⟨c, T, hc, hT⟩
  rw [← hwire, ← exists_parse_amneziaWGKit_iff]
  constructor
  · rintro ⟨h₁, h₂⟩
    exact ⟨h₁, h₂⟩
  · rintro ⟨h₁, h₂⟩
    exact ⟨h₁, h₂⟩

end Profiles

/-! ### A profile that cannot be started -/

section Examples

open scoped FreeVPN.WgQuick.Dotted

/-- A profile with a private key. -/
def keyProfile (privateKey : String) : Text :=
  ("[Interface]\nPrivateKey=" ++ privateKey ++ "\nAddress=10.0.0.2/32\n" ++
    "[Peer]\nPublicKey=AAAAAAAAAAAAAAAAAAAAAAAAAAAAAAAAAAAAAAAAAAA=").toList

/-- The text is valid, whatever its private key is. -/
theorem not_startable_shortKey : ¬∀ s : Text, WireGuardConfig.validate s = none → Startable s := by
  intro h
  have htext : keyProfile "abc" = _ :=
    toList_append_ofList (toList_append_ofList (toList_append_ofList String.toList_ofList _) _) _
  have hvalid : WireGuardConfig.validate (keyProfile "abc") = none := by
    rw [htext]
    decide +kernel
  have hdetect : VPNProtocolType.detect (keyProfile "abc") = .wireGuard := by
    rw [htext]
    decide +kernel
  obtain ⟨c, T, hc, hT⟩ := (h (keyProfile "abc") hvalid).wireGuard hdetect
  have hrejected : (WireGuardConfig.parse (keyProfile "abc")).toOption.all
      (fun c => (wireGuardKit.parse c.toWgQuickConfig).isOk = false) = true := by
    rw [htext]
    decide +kernel
  rw [hc, Except.toOption, Option.all_some, hT] at hrejected
  cases hrejected

theorem startable_key :
    Startable (keyProfile "AAAAAAAAAAAAAAAAAAAAAAAAAAAAAAAAAAAAAAAAAAA=") ↔
      (VPNProtocolType.detect (keyProfile "AAAAAAAAAAAAAAAAAAAAAAAAAAAAAAAAAAAAAAAAAAA=") = .wireGuard →
        WireGuardStartable (keyProfile "AAAAAAAAAAAAAAAAAAAAAAAAAAAAAAAAAAAAAAAAAAA=")) ∧
      (VPNProtocolType.detect (keyProfile "AAAAAAAAAAAAAAAAAAAAAAAAAAAAAAAAAAAAAAAAAAA=") = .amneziaWG →
        AmneziaWG.amneziaWGKit.Readable (keyProfile "AAAAAAAAAAAAAAAAAAAAAAAAAAAAAAAAAAAAAAAAAAA=")) := by
  have htext : keyProfile "AAAAAAAAAAAAAAAAAAAAAAAAAAAAAAAAAAAAAAAAAAA=" = _ :=
    toList_append_ofList (toList_append_ofList (toList_append_ofList String.toList_ofList _) _) _
  refine startable_iff Dotted.documented (plain _) (fun c _ => plain _) ?_
  rw [htext]
  decide +kernel

end Examples

end FreeVPN.Manager
