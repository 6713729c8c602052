import FreeVPN.AmneziaWG.Uapi
import FreeVPN.Manager.VPNManager

/-!
# The app and the kit agree on what is obfuscated

The app tells an AmneziaWG text by a test of its own: a line begins with one of `interfaceKeys`, and
the next scalar that is no white space is an equals sign.  The kit cuts a line at its number sign,
trims it, and cuts it at its first equals sign.

`hasAWGParams_of_entry` says that the test finds the line of every parameter that the kit reads.
-/

namespace FreeVPN.AmneziaWG

open FreeVPN.Lib FreeVPN.Foundation FreeVPN.WgQuick FreeVPN.Profile FreeVPN.Manager

/-! ### The line of a key -/

/-- What the app sees of the line of an entry: the key, white space, and the equals sign. -/
lemma trimWhitespaces_of_readLine {line : Text} (hline : ∀ c ∈ line, isNewline c = false) {e : Entry}
    (h : readLine line = some (.entry e)) :
    ∃ gap rest, (∀ c ∈ gap, isWhitespace c) ∧ trimWhitespaces line = e.1 ++ gap ++ '=' :: rest := by
  unfold readLine at h
  dsimp only at h
  have hbefore : ∀ c ∈ before '#' line, isNewline c = false := fun c hc => hline c (mem_of_mem_before hc)
  rw [trimWhitespacesAndNewlines_eq hbefore] at h
  split_ifs at h
  · cases h
  cases hcut : cut '=' (trimWhitespaces (before '#' line)) with
  | none => simp [hcut] at h
  | some r =>
    obtain ⟨k, v⟩ := r
    simp only [hcut, Option.some.injEq, Line.entry.injEq] at h
    obtain ⟨htrim, -⟩ := cut_eq_some.1 hcut
    have heq : isWhitespace '=' = false := by decide
    -- the key begins where the trimmed line does
    have hk : k.dropWhile isWhitespace = k := by
      have hdrop := dropWhile_of_trim (trim_trim (p := isWhitespace) (before '#' line))
      rw [show trim isWhitespace (before '#' line) = _ from htrim, dropWhile_append_cons heq] at hdrop
      exact List.append_cancel_right hdrop
    have hkline : ∀ c ∈ k, isNewline c = false := by
      intro c hc
      have hmem : c ∈ trimWhitespaces (before '#' line) := htrim ▸ List.mem_append_left _ hc
      exact hbefore c (mem_of_mem_trim hmem)
    have hkey : e.1 = k.rdropWhile isWhitespace := by
      rw [← h]
      change trimWhitespacesAndNewlines k = _
      rw [trimWhitespacesAndNewlines_eq hkline, trimWhitespaces, trim, hk]
    obtain ⟨u, w, hb, hu, -⟩ := exists_trim isWhitespace (before '#' line)
    obtain ⟨tail, htail⟩ : before '#' line <+: line := List.takeWhile_prefix _
    refine ⟨k.rtakeWhile isWhitespace, (v ++ (w ++ tail)).rdropWhile isWhitespace,
      fun c hc => List.mem_rtakeWhile_imp hc, ?_⟩
    calc trimWhitespaces line
        = trim isWhitespace (u ++ (k ++ '=' :: (v ++ (w ++ tail)))) := by
          rw [← htail, hb, show trim isWhitespace (before '#' line) = _ from htrim]
          simp only [List.append_assoc, List.cons_append]
      _ = k ++ '=' :: (v ++ (w ++ tail)).rdropWhile isWhitespace := by
          rw [trim_append_left hu, trim_split heq, hk]
      _ = e.1 ++ k.rtakeWhile isWhitespace ++ '=' :: (v ++ (w ++ tail)).rdropWhile isWhitespace := by
          rw [hkey, List.rdropWhile_append_rtakeWhile]

/-- **The app finds the line of a key.** -/
theorem hasAWGParams_of_entry {s line : Text} (hline : line ∈ components s) {e : Entry}
    (h : readLine line = some (.entry e)) (hkey : lowercased e.1 ∈ AmneziaWGKeys.interfaceKeys) :
    hasAWGParams s := by
  obtain ⟨gap, rest, hgap, htrim⟩ :=
    trimWhitespaces_of_readLine (fun c hc => notNewline_of_mem_components hline hc) h
  have hlower : lowercased (trimWhitespaces line) =
      lowercased e.1 ++ (gap ++ '=' :: lowercased rest) := by
    rw [htrim, List.append_assoc, lowercased_append, lowercased_append, lowercased_of_isWhitespace hgap]
    rfl
  unfold hasAWGParams
  refine List.any_eq_true.2 ⟨line, hline, List.any_eq_true.2 ⟨_, hkey, ?_⟩⟩
  rw [hlower, Bool.and_eq_true]
  constructor
  · exact hasPrefix_eq_true.2 (List.prefix_append _ _)
  · rw [List.drop_left, trimWhitespaces, trim_append_left hgap, ← List.nil_append ('=' :: _),
      trim_split (by decide)]
    exact hasPrefix_eq_true.2 (List.prefix_append ['='] _)

/-! ### The parameters of an accepted text -/

/-- The app and the kit have the same keys. -/
lemma map_key_parameters : parameters.map Parameter.key = AmneziaWGKeys.interfaceKeys := rfl

/-- A parameter of the interface is set. -/
def HasParameter [Network] (interface : InterfaceConfiguration) : Prop :=
  ∃ a ∈ parameterSettings interface, a.2.isSome

/-- A parameter that is set has been assigned on a line. -/
lemma hasAWGParams_of_parse [Network] {s : Text} {T : TunnelConfiguration InterfaceConfiguration}
    (hT : amneziaWGKit.parse s = .ok T) (hset : HasParameter T.interface) : hasAWGParams s := by
  obtain ⟨a, ha, hsome⟩ := hset
  rw [parameterSettings_of_parse hT] at ha
  obtain ⟨p, hp, rfl⟩ := List.mem_map.1 ha
  have hvalues : values p.key (interfaceEntries s) ≠ [] := by
    intro hnil
    simp only [hnil, joinedValues, if_true] at hsome
    unfold Parameter.value at hsome
    cases hk : p.kind <;> simp [hk, numberAttribute, dataAttribute] at hsome
  obtain ⟨v, hv⟩ := List.exists_mem_of_ne_nil _ hvalues
  obtain ⟨e, he, -⟩ := List.mem_map.1 hv
  obtain ⟨hmem, hkey⟩ := List.mem_filter.1 he
  obtain ⟨es, hes, hee⟩ := List.mem_flatten.1 hmem
  obtain ⟨c, hc, rfl⟩ := List.mem_map.1 hes
  obtain ⟨line, hline, hread⟩ :=
    List.mem_filterMap.1 (entry_mem_of_mem_sections (List.mem_filter.1 hc).1 hee)
  refine hasAWGParams_of_entry (List.mem_filter.1 hline).1 hread ?_
  rw [of_decide_eq_true hkey, ← map_key_parameters]
  exact List.mem_map_of_mem hp

/-! ### The way to the extension -/

/-- The configuration that a profile is started with is one of the Amnezia extension, and has the text
as it is. -/
structure RoutedToAmnezia (keychain : Text → Option Data) (s : Text) (profile : SavedProfile) : Prop where
  configString : profile.configString = s
  configuration : ∃ c, configurationOf keychain profile = some c ∧
    c.providerBundleIdentifier = "com.zacvpn.zacvpn.AmneziaTunnel" ∧
    c.providerConfiguration = { protocolType := "amneziaWG", wgQuickConfig := some s }

lemma routedToAmnezia_of_detect (keychain : Text → Option Data) {s : Text}
    (h : VPNProtocolType.detect s = .amneziaWG) (store : ProfileStore) (id : UUID) (name : Text)
    (username password : Option Text) :
    RoutedToAmnezia keychain s (store.makeProfile id name s username password) := by
  have hprotocol : (store.makeProfile id name s username password).vpnProtocol = .amneziaWG := h
  refine ⟨rfl, ?_⟩
  unfold configurationOf
  rw [hprotocol]
  exact ⟨_, rfl, rfl, rfl⟩

/-- **An obfuscated profile goes to the Amnezia extension.**  If a valid text that the kit accepts has
a parameter of the obfuscation, it is detected as an AmneziaWG text, and the profile that is made of it
is started in the Amnezia extension, with the text as it is. -/
theorem detect_of_parameter [Network] (keychain : Text → Option Data) {s : Text}
    {T : TunnelConfiguration InterfaceConfiguration} (hvalid : WireGuardConfig.validate s = none)
    (hT : amneziaWGKit.parse s = .ok T) (hset : HasParameter T.interface) :
    VPNProtocolType.detect s = .amneziaWG ∧
      ∀ (store : ProfileStore) (id : UUID) (name : Text) (username password : Option Text),
        RoutedToAmnezia keychain s (store.makeProfile id name s username password) := by
  have hdetect : VPNProtocolType.detect s = .amneziaWG := by
    rw [VPNProtocolType.detect, if_pos (isWireGuardFamily_of_validate hvalid),
      if_pos (hasAWGParams_of_parse hT hset)]
  exact ⟨hdetect, routedToAmnezia_of_detect keychain hdetect⟩

section Examples

open scoped FreeVPN.WgQuick.Dotted

/-- A profile with a junk packet count, written with white space and in capitals. -/
def obfuscatedProfile : Text :=
  ("[Interface]\nPrivateKey=AAAAAAAAAAAAAAAAAAAAAAAAAAAAAAAAAAAAAAAAAAA=\nAddress=10.0.0.2/32\n" ++
    " JC = 4 # packets\n[Peer]\nPublicKey=AAAAAAAAAAAAAAAAAAAAAAAAAAAAAAAAAAAAAAAAAAA=").toList

theorem detect_of_parameter_junkPacketCount :
    ∃ T, amneziaWGKit.parse obfuscatedProfile = .ok T ∧
      VPNProtocolType.detect obfuscatedProfile = .amneziaWG ∧
      ∀ (store : ProfileStore) (id : UUID) (name : Text) (username password : Option Text),
        RoutedToAmnezia (fun _ => none) obfuscatedProfile
          (store.makeProfile id name obfuscatedProfile username password) := by
  have htext : obfuscatedProfile = _ := toList_append_ofList String.toList_ofList _
  have hset : (amneziaWGKit.parse obfuscatedProfile).toOption.map (fun T =>
      (parameterSettings T.interface).any fun a => a.2.isSome) = some true := by
    rw [htext]
    decide +kernel
  have hvalid : WireGuardConfig.validate obfuscatedProfile = none := by
    rw [htext]
    decide +kernel
  obtain ⟨T, hT, hany⟩ := Option.map_eq_some_iff.1 hset
  have hparse : amneziaWGKit.parse obfuscatedProfile = .ok T := toOption_eq_some.1 hT
  exact ⟨T, hparse, detect_of_parameter (fun _ => none) hvalid hparse
    (List.any_eq_true.1 hany)⟩

end Examples

end FreeVPN.AmneziaWG
