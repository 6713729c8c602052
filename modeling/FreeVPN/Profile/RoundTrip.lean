import FreeVPN.Profile.TwoReaders

/-!
# Reading a printed profile again

`WireGuardConfig.parse` on what `toWgQuickConfig` prints.  The reader leaves trimmed values, items
without commas and numbers of 64 bits in a configuration (`AsRead`), and every attribute of such a
configuration is read back from its line but one: the `DNS` list.  The reader skips the empty pieces
between the commas of a value and then trims the others, so a piece of blanks becomes an empty item.
Between two items it is printed and read again, at an end of the list it is not.

* `profileSections_toWgQuickConfig` — the sections of a printed text;
* `parse_printed` — what is read again: all but the empty items at the ends of the `DNS` list;
* `readAgain_iff` — when the configuration comes back.
-/

namespace FreeVPN.Profile

open FreeVPN.Lib FreeVPN.Foundation FreeVPN.WgQuick

/-! ### What the reader leaves in a configuration -/

/-- An item of a list: trimmed, and without a comma. -/
def IsItem (v : Text) : Prop := ',' ∉ v ∧ trimWhitespaces v = v

/-- A number that is read back when it is printed. -/
def IsInt (n : ℤ) : Prop := parseInt (description n) = some n

/-- The interface fields as they are read. -/
structure InterfaceConfig.AsRead (i : InterfaceConfig) : Prop where
  privateKey : trimWhitespaces i.privateKey = i.privateKey
  address : ∀ v ∈ i.address, IsItem v ∧ '/' ∈ v
  dns : ∀ v ∈ i.dns, IsItem v
  mtu : ∀ n ∈ i.mtu, IsInt n
  listenPort : ∀ n ∈ i.listenPort, IsInt n

/-- The fields of a peer as they are read. -/
structure PeerConfig.AsRead (p : PeerConfig) : Prop where
  publicKey : trimWhitespaces p.publicKey = p.publicKey
  presharedKey : ∀ v ∈ p.presharedKey, trimWhitespaces v = v
  allowedIPs : ∀ v ∈ p.allowedIPs, IsItem v ∧ '/' ∈ v
  endpoint : ∀ v ∈ p.endpoint, trimWhitespaces v = v
  persistentKeepalive : ∀ n ∈ p.persistentKeepalive, IsInt n

lemma isItem_of_mem_listItems {v x : Text} (hx : x ∈ listItems v) : IsItem x :=
  ⟨(rawItems_spec hx).1, (rawItems_spec hx).2.1⟩

lemma slash_mem_normalizeCIDR (x : Text) : '/' ∈ normalizeCIDR x := by
  unfold normalizeCIDR
  split_ifs with h
  · exact h
  · simp
  · simp

lemma normalizeCIDR_of_slash {x : Text} (h : '/' ∈ x) : normalizeCIDR x = x := by
  rw [normalizeCIDR, if_pos h]

/-- A suffix is neither blank nor does it have a comma. -/
lemma IsItem.normalizeCIDR {x : Text} (h : IsItem x) : IsItem (normalizeCIDR x) := by
  have hsuffix : ∀ t : Text, ',' ∉ '/' :: t → trimWhitespaces ('/' :: t) = '/' :: t →
      IsItem (x ++ '/' :: t) := fun t ht htrim =>
    ⟨fun hm => (List.mem_append.1 hm).elim h.1 ht, trim_append h.2 htrim⟩
  unfold Profile.normalizeCIDR
  split_ifs
  · exact h
  · exact hsuffix "128".toList (by decide) (by decide)
  · exact hsuffix "32".toList (by decide) (by decide)

lemma range_of_mem_listItems {v x : Text} (hx : x ∈ (listItems v).map normalizeCIDR) :
    IsItem x ∧ '/' ∈ x := by
  obtain ⟨w, hw, rfl⟩ := List.mem_map.1 hx
  exact ⟨(isItem_of_mem_listItems hw).normalizeCIDR, slash_mem_normalizeCIDR w⟩

lemma isInt_of_bind {o : Option Text} {n : ℤ} (hn : n ∈ o.bind parseInt) : IsInt n := by
  obtain ⟨v, -, hv⟩ := Option.bind_eq_some_iff.1 hn
  exact parseInt_description hv

/-- **What the reader leaves in a configuration.** -/
theorem WireGuardConfig.asRead_of_parse {s : Text} {c : WireGuardConfig}
    (hc : WireGuardConfig.parse s = .ok c) :
    c.interface.AsRead ∧ (∀ p ∈ c.peers, p.AsRead) ∧ c.peers ≠ [] := by
  obtain ⟨hkey, hinterface, hpeers, hne⟩ := WireGuardConfig.parse_eq_ok.1 hc
  refine ⟨⟨(interface_value_spec (List.mem_of_getLast? hkey)).2, ?_, ?_, ?_, ?_⟩, ?_, hpeers ▸ hne⟩
  · intro x hx
    rw [hinterface] at hx
    obtain ⟨v, -, hx⟩ := List.mem_flatMap.1 hx
    exact range_of_mem_listItems hx
  · intro x hx
    rw [hinterface] at hx
    obtain ⟨v, -, hx⟩ := List.mem_flatMap.1 hx
    exact isItem_of_mem_listItems hx
  · intro n hn
    rw [hinterface] at hn
    exact isInt_of_bind hn
  · intro n hn
    rw [hinterface] at hn
    exact isInt_of_bind hn
  · intro p hp
    rw [hpeers] at hp
    obtain ⟨es, hes, hpe⟩ := List.mem_filterMap.1 hp
    have hval : ∀ {key v}, (values key es).getLast? = some v → trimWhitespaces v = v := fun hv =>
      (value_spec hes (List.mem_of_getLast? hv)).2
    have hread := peerOf_eq_some.1 hpe
    refine ⟨hval hread.publicKey, fun v hv => hval (hread.presharedKey ▸ hv), fun x hx => ?_,
      fun v hv => hval (hread.endpoint ▸ hv), fun n hn => isInt_of_bind (hread.persistentKeepalive ▸ hn)⟩
    obtain ⟨w, -, hx⟩ := hread.exists_of_mem hx
    exact range_of_mem_listItems hx

/-! ### The sections of a printed text -/

/-- An attribute as the app reads it. -/
abbrev trimmed (e : Entry) : Entry := (e.1, trimWhitespaces e.2)

/-- **A printed attribute to the app.** -/
theorem profileLine_printedLine {e : Entry} (he : IsAttribute e) :
    profileLine (printedLine e) = .entry (trimmed e) := by
  obtain ⟨name, v⟩ := e
  obtain ⟨⟨hne, hname⟩, -⟩ := he
  obtain ⟨d, name, rfl⟩ := List.exists_cons_of_ne_nil hne
  have hd := hname d (by simp)
  have hspace : ∀ x ∈ d :: name, isWhitespace x = false := fun x hx =>
    (Bool.or_eq_false_iff.1 (hname x hx).1).1
  have htrim : trimWhitespaces (printedLine (d :: name, v)) =
      (d :: name ++ [' ']) ++ '=' :: (' ' :: v).rdropWhile isWhitespace := by
    have hline : printedLine (d :: name, v) = (d :: name ++ [' ']) ++ '=' :: (' ' :: v) := by
      simp [printedLine]
    have hfront : (d :: name ++ [' ']).dropWhile isWhitespace = d :: name ++ [' '] :=
      List.dropWhile_cons_of_neg (by simp [hspace d (by simp)])
    rw [hline, trimWhitespaces, trim_split (by decide), hfront]
  have hequals : '=' ∉ d :: name ++ [' '] := fun h => by
    simp only [List.mem_append, List.mem_singleton, Char.reduceEq, or_false] at h
    exact (hname '=' h).2.1 rfl
  have hcut := cut_append_cons hequals ((' ' :: v).rdropWhile isWhitespace)
  have hcomment : ¬(trimWhitespaces (printedLine (d :: name, v)) = [] ∨
      hasPrefix (trimWhitespaces (printedLine (d :: name, v))) ['#'] = true) := by
    rw [htrim]
    simp [hasPrefix_eq, List.isPrefixOf, Ne.symm hd.2.2]
  have hkey : trimWhitespaces (d :: name ++ [' ']) = d :: name := by
    rw [trimWhitespaces, trim_append_right (List.forall_mem_singleton.2 rfl)]
    exact trim_eq_self hspace
  have hvalue : trimWhitespaces ((' ' :: v).rdropWhile isWhitespace) = trimWhitespaces v := by
    rw [trimWhitespaces, trim_rdropWhile, show ' ' :: v = [' '] ++ v from rfl,
      trim_append_left (List.forall_mem_singleton.2 rfl)]
  unfold profileLine
  simp only [if_neg hcomment]
  rw [htrim, headerOf_of_cut hcut, hcut]
  simp only [hkey, hvalue]

lemma map_profileLine_printedLine {es : List Entry} (hes : ∀ e ∈ es, IsAttribute e) :
    (es.map printedLine).map profileLine = (es.map trimmed).map .entry := by
  rw [List.map_map, List.map_map]
  exact List.map_congr_left fun e he => profileLine_printedLine (hes e he)

/-- **The sections of a printed text.** -/
theorem profileSections_toWgQuickConfig {c : WireGuardConfig} (hc : c.OnOneLine) :
    profileSections c.toWgQuickConfig = (.interface, c.interface.attributes.map trimmed) ::
      c.peers.map fun p => (.peer, p.attributes.map trimmed) := by
  have hinterface : profileLine "[Interface]".toList = .header .interface := rfl
  have hpeer : profileLine "[Peer]".toList = .header .peer := rfl
  have hpeers : (c.peers.flatMap fun p => "[Peer]".toList :: p.attributes.map printedLine).map
        profileLine =
      (c.peers.map fun p => p.attributes.map trimmed).flatMap
        fun fs => .header Header.peer :: fs.map .entry := by
    rw [List.map_flatMap, List.flatMap_map]
    refine List.flatMap_congr fun p hp => ?_
    rw [List.map_cons, hpeer, map_profileLine_printedLine (PeerConfig.isAttribute (hc.publicKey p hp)
      (hc.presharedKey p hp) (hc.allowedIPs p hp) (hc.endpoint p hp))]
  rw [profileSections_eq, WireGuardConfig.lines_toWgQuickConfig hc, List.map_append, List.map_cons,
    hinterface, hpeers, map_profileLine_printedLine
      (InterfaceConfig.isAttribute hc.privateKey hc.address hc.dns),
    sections_printed, List.map_map]
  rfl

/-! ### The values that come back -/

/-- A list that is printed and read again. -/
lemma listItems_joined {vs : List Text} (hvs : ∀ v ∈ vs, IsItem v) :
    ((if vs = [] then [] else [joined ", ".toList vs]).map trimWhitespaces).flatMap listItems =
      dropBlankHead (dropBlankLast vs) := by
  cases vs using List.reverseRecOn with
  | nil => rfl
  | append_singleton M z =>
    have hz := hvs z (by simp)
    have hz' : trim isWhitespace z = z := hz.2
    have hspace : isWhitespace ' ' = true := by
      decide
    have hread := rawItems_joined (a := ',') (by decide) hspace (fun x hx => hvs x (by simp [hx])) hz.1 (M := M)
    rw [if_neg (by simp), List.map_singleton, List.flatMap_singleton]
    rw [hz'] at hread
    exact hread

/-- A list of address ranges is read back: none of them is blank, and they have their suffixes. -/
lemma ranges_joined {vs : List Text} (hvs : ∀ v ∈ vs, IsItem v ∧ '/' ∈ v) :
    ((if vs = [] then [] else [joined ", ".toList vs]).map trimWhitespaces).flatMap
      (fun v => (listItems v).map normalizeCIDR) = vs := by
  have hne : ∀ v ∈ vs, v ≠ [] := fun v hv => List.ne_nil_of_mem (hvs v hv).2
  have hends : dropBlankHead (dropBlankLast vs) = vs := by
    rw [dropBlankEnds_eq_self]
    exact ⟨fun h => hne [] (List.mem_of_head? h) rfl, fun h => hne [] (List.mem_of_getLast? h) rfl⟩
  rw [← List.map_flatMap, listItems_joined fun v hv => (hvs v hv).1, hends]
  exact (List.map_congr_left fun v hv => normalizeCIDR_of_slash (hvs v hv).2).trans (List.map_id vs)

/-- A number is read back. -/
lemma number_printed {o : Option ℤ} (ho : ∀ n ∈ o, IsInt n) :
    (((o.map description).toList.map trimWhitespaces).getLast?).bind parseInt = o := by
  cases o with
  | none => rfl
  | some n =>
    have hn : parseInt (description n) = some n := ho n rfl
    simp [trimWhitespaces_description, hn]

/-- A value is read back. -/
lemma option_printed {o : Option Text} (ho : ∀ v ∈ o, trimWhitespaces v = v) :
    (o.toList.map trimWhitespaces).getLast? = o := by
  cases o with
  | none => rfl
  | some v => simp [ho v rfl]

/-- **The `[Interface]` section that comes back.** -/
lemma InterfaceConfig.ofEntries_attributes {i : InterfaceConfig} (hi : i.AsRead) :
    InterfaceVars.ofEntries (i.attributes.map trimmed) =
      { privateKey := some i.privateKey
        addresses := i.address
        dnsServers := dropBlankHead (dropBlankLast i.dns)
        mtu := i.mtu
        listenPort := i.listenPort } := by
  obtain ⟨h₁, h₂, h₃, h₄, h₅⟩ := i.values_attributes
  simp only [InterfaceVars.ofEntries, values_map_snd, h₁, h₂, h₃, h₄, h₅, List.map_singleton,
    List.getLast?_singleton, hi.privateKey, ranges_joined hi.address, listItems_joined hi.dns,
    number_printed hi.mtu, number_printed hi.listenPort]

/-- **The `[Peer]` section that comes back.** -/
lemma PeerConfig.peerOf_attributes {p : PeerConfig} (hp : p.AsRead) :
    peerOf (p.attributes.map trimmed) = some p := by
  obtain ⟨h₁, h₂, h₃, h₄, h₅⟩ := p.values_attributes
  -- there is one line of them at most, so that the last is all of them
  have hips : ((((if p.allowedIPs = [] then [] else [joined ", ".toList p.allowedIPs]).map
      trimWhitespaces).getLast?).elim [] fun v => (listItems v).map normalizeCIDR) = p.allowedIPs := by
    have h := ranges_joined hp.allowedIPs
    split_ifs at h ⊢
    · simpa using h
    · simpa using h
  rw [peerOf_eq_some]
  constructor
  · rw [values_map_snd, h₁, List.map_singleton, List.getLast?_singleton, hp.publicKey]
  · rw [values_map_snd, h₂, option_printed hp.presharedKey]
  · rw [values_map_snd, h₄, option_printed hp.endpoint]
  · rw [values_map_snd, h₃, hips]
  · rw [values_map_snd, h₅, number_printed hp.persistentKeepalive]

/-- **A printed configuration is read again**, but for the empty items at the ends of its `DNS`
list. -/
theorem WireGuardConfig.parse_printed {c : WireGuardConfig} (hone : c.OnOneLine)
    (hi : c.interface.AsRead) (hp : ∀ p ∈ c.peers, p.AsRead) (hne : c.peers ≠ []) :
    WireGuardConfig.parse c.toWgQuickConfig = .ok { c with interface := { c.interface with
      dns := dropBlankHead (dropBlankLast c.interface.dns) } } := by
  have hsections := profileSections_toWgQuickConfig hone
  have hinterface : interfaceEntries c.toWgQuickConfig = c.interface.attributes.map trimmed := by
    rw [interfaceEntries, hsections]
    simp [bodies, List.filter_map, Function.comp_def]
  have hpeers : peerConfigs c.toWgQuickConfig = c.peers := by
    have hbodies : bodies .peer (profileSections c.toWgQuickConfig) =
        c.peers.map fun p => p.attributes.map trimmed := by
      rw [hsections]
      simp [bodies, List.filter_map, Function.comp_def]
    rw [peerConfigs, hbodies, List.filterMap_map]
    refine (List.filterMap_congr fun p h => ?_).trans List.filterMap_some
    exact PeerConfig.peerOf_attributes (hp p h)
  rw [WireGuardConfig.parse_eq, hinterface, hpeers, InterfaceConfig.ofEntries_attributes hi]
  simp only [WireGuardConfig.ofVars, hne, if_false, InterfaceVars.interfaceConfig]

/-! ### When a configuration comes back -/

/-- The pieces between the commas of the `DNS` lines. -/
def dnsPieces (s : Text) : List Text := (values "dns".toList (interfaceEntries s)).flatMap (split ',')

/-- Neither the first nor the last of the pieces is blank. -/
structure FilledEnds (s : Text) : Prop where
  first : ∀ piece ∈ (dnsPieces s).head?, trimWhitespaces piece ≠ []
  last : ∀ piece ∈ (dnsPieces s).getLast?, trimWhitespaces piece ≠ []

lemma filledEnds_iff {s : Text} : FilledEnds s ↔
    ((dnsPieces s).map trimWhitespaces).head? ≠ some [] ∧
      ((dnsPieces s).map trimWhitespaces).getLast? ≠ some [] := by
  have hends : ∀ o : Option Text, (∀ piece ∈ o, trimWhitespaces piece ≠ []) ↔
      o.map trimWhitespaces ≠ some [] := fun o => by cases o <;> simp
  rw [List.head?_map, List.getLast?_map, ← hends, ← hends]
  exact ⟨fun h => ⟨h.first, h.last⟩, fun h => ⟨h.1, h.2⟩⟩

/-- **When what is read is printed and read again.**  Both texts are plain, so that it is the same to look for
scalars and for `Character`s. -/
theorem readAgain_iff [Unicode] {s : Text} {c : WireGuardConfig} (_hs : Plain s)
    (_hprinted : Plain c.toWgQuickConfig) (hc : WireGuardConfig.parse s = .ok c) :
    WireGuardConfig.parse c.toWgQuickConfig = .ok c ↔ FilledEnds s := by
  obtain ⟨hi, hp, hne⟩ := WireGuardConfig.asRead_of_parse hc
  obtain ⟨-, hinterface, -, -⟩ := WireGuardConfig.parse_eq_ok.1 hc
  have hdns : c.interface.dns = (dnsPieces s).map trimWhitespaces := by
    rw [hinterface, dnsPieces, List.map_flatMap]
    rfl
  rw [WireGuardConfig.parse_printed (WireGuardConfig.onOneLine_of_parse hc) hi hp hne, filledEnds_iff,
    ← hdns, ← dropBlankEnds_eq_self]
  obtain ⟨⟨key, address, dns, mtu, port⟩, peers⟩ := c
  simp only [Except.ok.injEq, WireGuardConfig.mk.injEq, InterfaceConfig.mk.injEq, true_and, and_true]

/-- A profile with a blank at the end of its search list. -/
def trailingDNS : Text :=
  "[Interface]\nPrivateKey=a\nAddress=10.0.0.2\nDNS=1.1.1.1, ,\n[Peer]\nPublicKey=b".toList

/-- A profile with a blank inside its search list. -/
def innerDNS : Text :=
  "[Interface]\nPrivateKey=a\nAddress=10.0.0.2\nDNS=1.1.1.1, , 9.9.9.9\n[Peer]\nPublicKey=b".toList

theorem readAgain_innerDNS :
    ∃ c, WireGuardConfig.parse innerDNS = .ok c ∧ WireGuardConfig.parse c.toWgQuickConfig = .ok c := by
  have htext : innerDNS = _ := String.toList_ofList
  have haccepted : (WireGuardConfig.parse innerDNS).isOk = true := by
    rw [htext]
    decide +kernel
  obtain ⟨c, hc⟩ := exists_of_isOk haccepted
  have hpieces : dnsPieces innerDNS = ["1.1.1.1".toList, " ".toList, " 9.9.9.9".toList] := by
    rw [htext]
    decide +kernel
  refine ⟨c, hc, (readAgain_iff (plain _) (plain _) hc).2 ⟨?_, ?_⟩⟩
  · rw [hpieces]
    simp only [List.head?_cons, Option.mem_some_iff, forall_eq']
    decide
  · rw [hpieces]
    simp only [List.getLast?_cons_cons, List.getLast?_singleton, Option.mem_some_iff, forall_eq']
    decide

/-- The empty item at the end of the list does not come back. -/
theorem not_readAgain_trailingDNS :
    ¬∀ (s : Text) (c : WireGuardConfig), WireGuardConfig.parse s = .ok c →
      WireGuardConfig.parse c.toWgQuickConfig = .ok c := by
  intro h
  have htext : trailingDNS = _ := String.toList_ofList
  have hread : (WireGuardConfig.parse trailingDNS).toOption.map (fun c => c.interface.dns) =
      some ["1.1.1.1".toList, []] := by
    rw [htext]
    decide +kernel
  have hagain : (WireGuardConfig.parse trailingDNS).toOption.bind (fun c =>
      (WireGuardConfig.parse c.toWgQuickConfig).toOption.map fun d => d.interface.dns) =
      some ["1.1.1.1".toList] := by
    rw [htext]
    decide +kernel
  obtain ⟨c, hc, -⟩ := Option.map_eq_some_iff.1 hread
  replace hc := toOption_eq_some.1 hc
  simp only [hc, h _ c hc, Except.toOption, Option.map_some, Option.bind_some, Option.some.injEq]
    at hread hagain
  rw [hread] at hagain
  exact absurd hagain (by decide)

end FreeVPN.Profile
