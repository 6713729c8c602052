import FreeVPN.Lib.Items
import FreeVPN.Profile.WireGuardConfig

/-!
# The printed configuration to the kit

`toWgQuickConfig` prints a configuration as a text of sections; `parse_toWgQuickConfig` says what
the parsers of the kits read in it.
-/

namespace FreeVPN.Profile

open FreeVPN.Lib FreeVPN.Foundation FreeVPN.WgQuick

/-! ### Values on one line -/

/-- A text without line breaks. -/
def OneLine (s : Text) : Prop := ∀ c ∈ s, isNewline c = false

instance : DecidablePred OneLine := fun s => List.decidableBAll (fun c => isNewline c = false) s

lemma OneLine.append {s t : Text} (hs : OneLine s) (ht : OneLine t) : OneLine (s ++ t) := fun c hc => by
  rcases List.mem_append.1 hc with h | h
  · exact hs c h
  · exact ht c h

lemma OneLine.of_subset {s t : Text} (ht : OneLine t) (h : ∀ c ∈ s, c ∈ t) : OneLine s :=
  fun c hc => ht c (h c hc)

lemma oneLine_description (n : ℤ) : OneLine (description n) := fun c hc => by
  rcases mem_description hc with rfl | h
  · decide
  · exact (Bool.or_eq_false_iff.1 (isWhitespaceOrNewline_of_isDigit h)).2

lemma oneLine_joined {sep : Text} (hsep : OneLine sep) {vs : List Text} (h : ∀ v ∈ vs, OneLine v) :
    OneLine (joined sep vs) := by
  induction vs with
  | nil => intro c hc; simp [joined] at hc
  | cons v vs ih =>
    have hv := h v (by simp)
    have ih := ih fun w hw => h w (by simp [hw])
    cases vs with
    | nil => simpa [joined] using hv
    | cons w vs =>
      rw [joined, List.intercalate_cons_cons]
      exact (hv.append hsep).append ih

/-- All the texts of a configuration are on one line. -/
structure WireGuardConfig.OnOneLine (c : WireGuardConfig) : Prop where
  privateKey : OneLine c.interface.privateKey
  address : ∀ v ∈ c.interface.address, OneLine v
  dns : ∀ v ∈ c.interface.dns, OneLine v
  publicKey : ∀ p ∈ c.peers, OneLine p.publicKey
  presharedKey : ∀ p ∈ c.peers, ∀ v ∈ p.presharedKey, OneLine v
  allowedIPs : ∀ p ∈ c.peers, ∀ v ∈ p.allowedIPs, OneLine v
  endpoint : ∀ p ∈ c.peers, ∀ v ∈ p.endpoint, OneLine v

lemma OneLine.normalizeCIDR {s : Text} (h : OneLine s) : OneLine (normalizeCIDR s) := by
  unfold Profile.normalizeCIDR
  have h₁ : OneLine "/128".toList := by decide +kernel
  have h₂ : OneLine "/32".toList := by decide +kernel
  split_ifs
  · exact h
  · exact h.append h₁
  · exact h.append h₂

lemma OneLine.listItems {s : Text} (h : OneLine s) : ∀ v ∈ listItems s, OneLine v := fun v hv => by
  obtain ⟨w, hw, rfl⟩ := List.mem_map.1 hv
  exact h.of_subset fun c hc => mem_of_mem_pieces hw (mem_of_mem_trim hc)

/-- The value of an entry is on one line and trimmed. -/
lemma entry_spec {line : Text} (hline : OneLine line) {e : Entry} (he : profileLine line = .entry e) :
    OneLine e.2 ∧ trimWhitespaces e.2 = e.2 := by
  obtain ⟨-, key, value, hcut, rfl⟩ := profileLine_eq_entry.1 he
  obtain ⟨hl, -⟩ := cut_eq_some.1 hcut
  have htrim : OneLine (trimWhitespaces line) := hline.of_subset fun c hc => mem_of_mem_trim hc
  refine ⟨htrim.of_subset fun c hc => ?_, trim_trim value⟩
  rw [hl]
  exact List.mem_append_right _ (List.mem_cons_of_mem _ (mem_of_mem_trim hc))

lemma value_spec {s : Text} {h : Header} {es : List Entry} (hes : es ∈ bodies h (profileSections s))
    {key v : Text} (hv : v ∈ values key es) : OneLine v ∧ trimWhitespaces v = v := by
  obtain ⟨⟨h', es'⟩, hc, rfl⟩ := List.mem_map.1 hes
  obtain ⟨e, he, rfl⟩ := List.mem_map.1 hv
  have hmem := entry_mem_of_mem_sections (List.mem_filter.1 hc).1 (List.mem_filter.1 he).1
  obtain ⟨line, hline, hle⟩ := List.mem_map.1 hmem
  exact entry_spec (fun c hc => notNewline_of_mem_components hline hc) hle

lemma values_flatten (key : Text) (ess : List (List Entry)) :
    values key ess.flatten = ess.flatMap (values key) := by
  induction ess with
  | nil => rfl
  | cons es ess ih => rw [List.flatten_cons, values_append, ih, List.flatMap_cons]

lemma interface_value_spec {s key v : Text} (hv : v ∈ values key (interfaceEntries s)) :
    OneLine v ∧ trimWhitespaces v = v := by
  rw [interfaceEntries, values_flatten] at hv
  obtain ⟨es, hes, hv⟩ := List.mem_flatMap.1 hv
  exact value_spec hes hv

/-- What the app reads from a text is on one line each. -/
theorem WireGuardConfig.onOneLine_of_parse {s : Text} {c : WireGuardConfig}
    (hc : WireGuardConfig.parse s = .ok c) : c.OnOneLine := by
  obtain ⟨hkey, hinterface, hpeers, -⟩ := WireGuardConfig.parse_eq_ok.1 hc
  have hi : ∀ {key v}, v ∈ values key (interfaceEntries s) → OneLine v := fun hv =>
    (interface_value_spec hv).1
  have hp : ∀ p ∈ c.peers, ∃ es, peerOf es = some p ∧
      ∀ key, ∀ v ∈ (values key es).getLast?, OneLine v := fun p hp => by
    rw [hpeers] at hp
    obtain ⟨es, hes, hpe⟩ := List.mem_filterMap.1 hp
    exact ⟨es, hpe, fun key v hv => (value_spec hes (List.mem_of_getLast? hv)).1⟩
  have hpeer : ∀ p ∈ c.peers, OneLine p.publicKey ∧ (∀ v ∈ p.presharedKey, OneLine v) ∧
      (∀ v ∈ p.allowedIPs, OneLine v) ∧ ∀ v ∈ p.endpoint, OneLine v := fun p hpm => by
    obtain ⟨es, hpe, hes⟩ := hp p hpm
    have hread := peerOf_eq_some.1 hpe
    refine ⟨hes _ _ hread.publicKey, hread.presharedKey ▸ hes _, fun v hv => ?_, hread.endpoint ▸ hes _⟩
    obtain ⟨w, hlast, hv⟩ := hread.exists_of_mem hv
    obtain ⟨x, hx, rfl⟩ := List.mem_map.1 hv
    exact ((hes _ w hlast).listItems x hx).normalizeCIDR
  refine ⟨hi (List.mem_of_getLast? hkey), ?_, ?_, fun p h => (hpeer p h).1, fun p h => (hpeer p h).2.1,
    fun p h => (hpeer p h).2.2.1, fun p h => (hpeer p h).2.2.2⟩
  · intro v hv
    rw [hinterface] at hv
    obtain ⟨w, hw, hv⟩ := List.mem_flatMap.1 hv
    obtain ⟨x, hx, rfl⟩ := List.mem_map.1 hv
    exact ((hi hw).listItems x hx).normalizeCIDR
  · intro v hv
    rw [hinterface] at hv
    obtain ⟨w, hw, hv⟩ := List.mem_flatMap.1 hv
    exact (hi hw).listItems v hv

/-! ### The attributes that are printed -/

/-- The attribute of a list, if there is something in it. -/
def listAttribute (name : String) (vs : List Text) : List Entry :=
  if vs = [] then [] else [(name.toList, joined ", ".toList vs)]

/-- The attribute of a value, if there is one. -/
def optionAttribute (name : String) (v : Option Text) : List Entry := v.toList.map fun v => (name.toList, v)

/-- The names and values in a printed `[Interface]` section. -/
def InterfaceConfig.attributes (i : InterfaceConfig) : List Entry :=
  ("PrivateKey".toList, i.privateKey) ::
    (listAttribute "Address" i.address ++ listAttribute "DNS" i.dns ++
      optionAttribute "MTU" (i.mtu.map description) ++
      optionAttribute "ListenPort" (i.listenPort.map description))

/-- The names and values in a printed `[Peer]` section. -/
def PeerConfig.attributes (p : PeerConfig) : List Entry :=
  ("PublicKey".toList, p.publicKey) ::
    (optionAttribute "PresharedKey" p.presharedKey ++ listAttribute "AllowedIPs" p.allowedIPs ++
      optionAttribute "Endpoint" p.endpoint ++
      optionAttribute "PersistentKeepalive" (p.persistentKeepalive.map description))

/-- An attribute on its line. -/
def printedLine (e : Entry) : Text := e.1 ++ " = ".toList ++ e.2

lemma map_listAttribute (name : String) (vs : List Text) :
    (listAttribute name vs).map printedLine = listLine name vs := by
  unfold listAttribute listLine
  split_ifs <;> rfl

lemma map_optionAttribute (name : String) (v : Option Text) :
    (optionAttribute name v).map printedLine = optionLine name v := by
  cases v <;> rfl

lemma InterfaceConfig.lines_eq (i : InterfaceConfig) :
    i.lines = "[Interface]".toList :: i.attributes.map printedLine := by
  simp only [InterfaceConfig.attributes, List.map_cons, List.map_append, map_listAttribute,
    map_optionAttribute]
  simp only [InterfaceConfig.lines, List.cons_append, List.nil_append]
  rfl

lemma PeerConfig.lines_eq (p : PeerConfig) :
    p.lines = [] :: "[Peer]".toList :: p.attributes.map printedLine := by
  simp only [PeerConfig.attributes, List.map_cons, List.map_append, map_listAttribute,
    map_optionAttribute]
  simp only [PeerConfig.lines, List.cons_append, List.nil_append]
  rfl

/-- The name of an attribute: no separator of any kind. -/
def IsName (name : Text) : Prop :=
  name ≠ [] ∧ ∀ c ∈ name, isWhitespaceOrNewline c = false ∧ c ≠ '=' ∧ c ≠ '#'

instance : DecidablePred IsName := fun name =>
  have := List.decidableBAll (fun c => isWhitespaceOrNewline c = false ∧ c ≠ '=' ∧ c ≠ '#') name
  inferInstanceAs (Decidable (name ≠ [] ∧ _))

/-- The names that are printed in an `[Interface]` section. -/
def interfaceNames : List Text :=
  ["PrivateKey".toList, "Address".toList, "DNS".toList, "MTU".toList, "ListenPort".toList]

/-- The names that are printed in a `[Peer]` section. -/
def peerNames : List Text :=
  ["PublicKey".toList, "PresharedKey".toList, "AllowedIPs".toList, "Endpoint".toList,
    "PersistentKeepalive".toList]

lemma isName_of_mem_names : ∀ name ∈ interfaceNames ++ peerNames, IsName name := by
  decide +kernel

lemma mem_listAttribute {name : String} {vs : List Text} {e : Entry} (he : e ∈ listAttribute name vs) :
    e = (name.toList, joined ", ".toList vs) := by
  unfold listAttribute at he
  split_ifs at he
  · cases he
  · exact List.mem_singleton.1 he

lemma mem_optionAttribute {name : String} {v : Option Text} {e : Entry}
    (he : e ∈ optionAttribute name v) : ∃ w ∈ v, e = (name.toList, w) := by
  obtain ⟨w, hw, rfl⟩ := List.mem_map.1 he
  exact ⟨w, Option.mem_toList.1 hw, rfl⟩

lemma InterfaceConfig.name_of_mem_attributes (i : InterfaceConfig) :
    ∀ e ∈ i.attributes, e.1 ∈ interfaceNames := by
  simp only [InterfaceConfig.attributes, List.mem_cons, List.mem_append]
  rintro e (rfl | ((he | he) | he) | he)
  · simp [interfaceNames]
  · rw [mem_listAttribute he]
    simp [interfaceNames]
  · rw [mem_listAttribute he]
    simp [interfaceNames]
  · obtain ⟨w, -, rfl⟩ := mem_optionAttribute he
    simp [interfaceNames]
  · obtain ⟨w, -, rfl⟩ := mem_optionAttribute he
    simp [interfaceNames]

lemma PeerConfig.name_of_mem_attributes (p : PeerConfig) : ∀ e ∈ p.attributes, e.1 ∈ peerNames := by
  simp only [PeerConfig.attributes, List.mem_cons, List.mem_append]
  rintro e (rfl | ((he | he) | he) | he)
  · simp [peerNames]
  · obtain ⟨w, -, rfl⟩ := mem_optionAttribute he
    simp [peerNames]
  · rw [mem_listAttribute he]
    simp [peerNames]
  · obtain ⟨w, -, rfl⟩ := mem_optionAttribute he
    simp [peerNames]
  · obtain ⟨w, -, rfl⟩ := mem_optionAttribute he
    simp [peerNames]

lemma oneLine_joined_comma {vs : List Text} (h : ∀ v ∈ vs, OneLine v) : OneLine (joined ", ".toList vs) := by
  apply oneLine_joined _ h
  decide +kernel

/-- An attribute with a proper name and its value on one line. -/
def IsAttribute (e : Entry) : Prop := IsName e.1 ∧ OneLine e.2

lemma InterfaceConfig.isAttribute {i : InterfaceConfig} (hkey : OneLine i.privateKey)
    (haddress : ∀ v ∈ i.address, OneLine v) (hdns : ∀ v ∈ i.dns, OneLine v) :
    ∀ e ∈ i.attributes, IsAttribute e := by
  intro e he
  refine ⟨isName_of_mem_names _ (List.mem_append_left _ (i.name_of_mem_attributes e he)), ?_⟩
  simp only [InterfaceConfig.attributes, List.mem_cons, List.mem_append] at he
  rcases he with rfl | ((he | he) | he) | he
  · exact hkey
  · rw [mem_listAttribute he]
    exact oneLine_joined_comma haddress
  · rw [mem_listAttribute he]
    exact oneLine_joined_comma hdns
  · obtain ⟨w, hw, rfl⟩ := mem_optionAttribute he
    obtain ⟨n, -, rfl⟩ := Option.map_eq_some_iff.1 hw
    exact oneLine_description n
  · obtain ⟨w, hw, rfl⟩ := mem_optionAttribute he
    obtain ⟨n, -, rfl⟩ := Option.map_eq_some_iff.1 hw
    exact oneLine_description n

lemma PeerConfig.isAttribute {p : PeerConfig} (hkey : OneLine p.publicKey)
    (hpre : ∀ v ∈ p.presharedKey, OneLine v) (hips : ∀ v ∈ p.allowedIPs, OneLine v)
    (hend : ∀ v ∈ p.endpoint, OneLine v) : ∀ e ∈ p.attributes, IsAttribute e := by
  intro e he
  refine ⟨isName_of_mem_names _ (List.mem_append_right _ (p.name_of_mem_attributes e he)), ?_⟩
  simp only [PeerConfig.attributes, List.mem_cons, List.mem_append] at he
  rcases he with rfl | ((he | he) | he) | he
  · exact hkey
  · obtain ⟨w, hw, rfl⟩ := mem_optionAttribute he
    exact hpre w hw
  · rw [mem_listAttribute he]
    exact oneLine_joined_comma hips
  · obtain ⟨w, hw, rfl⟩ := mem_optionAttribute he
    exact hend w hw
  · obtain ⟨w, hw, rfl⟩ := mem_optionAttribute he
    obtain ⟨n, -, rfl⟩ := Option.map_eq_some_iff.1 hw
    exact oneLine_description n

/-! ### The lines that are printed -/

/-- A printed line of a section: it is not empty and on one line. -/
def IsPrinted (line : Text) : Prop := line ≠ [] ∧ OneLine line

instance : DecidablePred IsPrinted := fun line => inferInstanceAs (Decidable (line ≠ [] ∧ OneLine line))

lemma IsAttribute.isPrinted {e : Entry} (he : IsAttribute e) : IsPrinted (printedLine e) := by
  have hname : OneLine e.1 := fun c hc => (Bool.or_eq_false_iff.1 (he.1.2 c hc).1).2
  have hsep : OneLine " = ".toList := by
    decide +kernel
  exact ⟨by simp [printedLine], (hname.append hsep).append he.2⟩

/-- **The printed lines**, without the empty ones between the sections. -/
lemma WireGuardConfig.lines_toWgQuickConfig {c : WireGuardConfig} (hc : c.OnOneLine) :
    Foundation.lines c.toWgQuickConfig =
      ("[Interface]".toList :: c.interface.attributes.map printedLine) ++
        c.peers.flatMap fun p => "[Peer]".toList :: p.attributes.map printedLine := by
  have hi : ∀ l ∈ c.interface.lines, IsPrinted l := by
    rw [InterfaceConfig.lines_eq, List.forall_mem_cons, List.forall_mem_map]
    refine ⟨by decide +kernel, fun e he => ?_⟩
    exact (InterfaceConfig.isAttribute hc.privateKey hc.address hc.dns e he).isPrinted
  have hp : ∀ p ∈ c.peers, ∀ l ∈ "[Peer]".toList :: p.attributes.map printedLine, IsPrinted l := by
    intro p hp
    rw [List.forall_mem_cons, List.forall_mem_map]
    refine ⟨by decide +kernel, fun e he => ?_⟩
    exact (PeerConfig.isAttribute (hc.publicKey p hp) (hc.presharedKey p hp) (hc.allowedIPs p hp)
      (hc.endpoint p hp) e he).isPrinted
  have hone : ∀ l ∈ c.interface.lines ++ c.peers.flatMap PeerConfig.lines, OneLine l := by
    intro l hl
    rcases List.mem_append.1 hl with hl | hl
    · exact (hi l hl).2
    · obtain ⟨p, hpm, hl⟩ := List.mem_flatMap.1 hl
      rw [PeerConfig.lines_eq] at hl
      rcases List.mem_cons.1 hl with rfl | hl
      · intro c hc
        cases hc
      · exact (hp p hpm l hl).2
  rw [Foundation.lines, components, WireGuardConfig.toWgQuickConfig, joined,
    splitOnP_intercalate (by decide) hone (by simp [InterfaceConfig.lines]), List.filter_append,
    List.filter_flatMap, ← InterfaceConfig.lines_eq]
  congr 1
  · exact List.filter_eq_self.2 fun l hl => by simpa using (hi l hl).1
  · refine List.flatMap_congr fun p hpm => ?_
    rw [PeerConfig.lines_eq, List.filter_cons_of_neg (by simp)]
    exact List.filter_eq_self.2 fun l hl => by simpa using (hp p hpm l hl).1

/-! ### The values that are printed -/

lemma values_listAttribute (key : Text) (name : String) (vs : List Text) :
    values key (listAttribute name vs) = if lowercased name.toList = key then
      (if vs = [] then [] else [joined ", ".toList vs]) else [] := by
  unfold listAttribute
  split_ifs <;> simp_all [values]

lemma values_optionAttribute (key : Text) (name : String) (v : Option Text) :
    values key (optionAttribute name v) = if lowercased name.toList = key then v.toList else [] := by
  cases v <;> simp [optionAttribute, values_cons]

lemma values_map_snd (f : Text → Text) (key : Text) (es : List Entry) :
    values key (es.map fun e => (e.1, f e.2)) = (values key es).map f := by
  simp [values, List.filter_map, Function.comp_def]

/-- The lowercase names that are printed. -/
lemma lowercased_names :
    lowercased "PrivateKey".toList = "privatekey".toList ∧ lowercased "Address".toList = "address".toList ∧
    lowercased "DNS".toList = "dns".toList ∧ lowercased "MTU".toList = "mtu".toList ∧
    lowercased "ListenPort".toList = "listenport".toList ∧
    lowercased "PublicKey".toList = "publickey".toList ∧
    lowercased "PresharedKey".toList = "presharedkey".toList ∧
    lowercased "AllowedIPs".toList = "allowedips".toList ∧
    lowercased "Endpoint".toList = "endpoint".toList ∧
    lowercased "PersistentKeepalive".toList = "persistentkeepalive".toList := by
  decide

/-- The values of the keys in a printed `[Interface]` section. -/
lemma InterfaceConfig.values_attributes (i : InterfaceConfig) :
    values "privatekey".toList i.attributes = [i.privateKey] ∧
    values "address".toList i.attributes =
      (if i.address = [] then [] else [joined ", ".toList i.address]) ∧
    values "dns".toList i.attributes = (if i.dns = [] then [] else [joined ", ".toList i.dns]) ∧
    values "mtu".toList i.attributes = (i.mtu.map description).toList ∧
    values "listenport".toList i.attributes = (i.listenPort.map description).toList := by
  obtain ⟨h₁, h₂, h₃, h₄, h₅, -⟩ := lowercased_names
  simp only [InterfaceConfig.attributes, values_cons, values_append, values_listAttribute,
    values_optionAttribute, h₁, h₂, h₃, h₄, h₅, String.toList_inj, String.reduceEq, if_true, if_false,
    List.nil_append, List.append_nil, true_and]

/-- The values of the keys in a printed `[Peer]` section. -/
lemma PeerConfig.values_attributes (p : PeerConfig) :
    values "publickey".toList p.attributes = [p.publicKey] ∧
    values "presharedkey".toList p.attributes = p.presharedKey.toList ∧
    values "allowedips".toList p.attributes =
      (if p.allowedIPs = [] then [] else [joined ", ".toList p.allowedIPs]) ∧
    values "endpoint".toList p.attributes = p.endpoint.toList ∧
    values "persistentkeepalive".toList p.attributes =
      (p.persistentKeepalive.map description).toList := by
  obtain ⟨-, -, -, -, -, h₁, h₂, h₃, h₄, h₅⟩ := lowercased_names
  simp only [PeerConfig.attributes, values_cons, values_append, values_listAttribute,
    values_optionAttribute, h₁, h₂, h₃, h₄, h₅, String.toList_inj, String.reduceEq, if_true, if_false,
    List.nil_append, List.append_nil, true_and]

/-! ### The printed lines to the kit -/

/-- A value without its comment. -/
abbrev strip (value : Text) : Text := uncommented isWhitespace '#' value

/-- **A printed attribute to the kit.** -/
theorem readLine_printedLine {e : Entry} (he : IsAttribute e) :
    readLine (printedLine e) = some (.entry (e.1, strip e.2)) := by
  obtain ⟨name, v⟩ := e
  obtain ⟨hname, hv⟩ := he
  have hline : printedLine (name, v) = (name ++ [' ', '=', ' ']) ++ v := by
    simp [printedLine]
  have hcomment : '#' ∉ name ++ [' ', '=', ' '] := by
    simpa using fun h => (hname.2 '#' h).2.2 rfl
  have hequals : '=' ∉ (name ++ [' ']).dropWhile isWhitespaceOrNewline := fun h => by
    have := (List.dropWhile_sublist _).mem h
    simp only [List.mem_append, List.mem_singleton, Char.reduceEq, or_false] at this
    exact (hname.2 '=' this).2.1 rfl
  have htrim : trimWhitespacesAndNewlines (before '#' (printedLine (name, v))) =
      (name ++ [' ']).dropWhile isWhitespaceOrNewline ++
        '=' :: (' ' :: before '#' v).rdropWhile isWhitespaceOrNewline := by
    rw [hline, before_append_of_notMem hcomment, ← trim_split (by decide)]
    simp
  have hkey : trimWhitespacesAndNewlines ((name ++ [' ']).dropWhile isWhitespaceOrNewline) = name := by
    rw [trimWhitespacesAndNewlines, trim_dropWhile, trim_append_right (List.forall_mem_singleton.2 rfl)]
    exact trim_eq_self fun c hc => (hname.2 c hc).1
  have hvalue : trimWhitespacesAndNewlines ((' ' :: before '#' v).rdropWhile isWhitespaceOrNewline) =
      strip v := by
    rw [trimWhitespacesAndNewlines, trim_rdropWhile, show ' ' :: before '#' v = [' '] ++ before '#' v
      from rfl, trim_append_left (List.forall_mem_singleton.2 rfl)]
    exact trimWhitespacesAndNewlines_eq fun c hc => hv c (mem_of_mem_before hc)
  unfold readLine
  simp only [htrim, List.append_eq_nil_iff, reduceCtorEq, and_false, if_false, cut_append_cons hequals,
    hkey, hvalue]

/-- The entry of a list that is printed. -/
def listEntry (name : String) (vs : List Text) : List Entry :=
  if vs = [] then [] else [(name.toList, strip (joined ", ".toList vs))]

/-- The entry of a value that is printed. -/
def optionEntry (name : String) (v : Option Text) : List Entry := v.toList.map fun v => (name.toList, strip v)

/-- What the kit reads in a printed `[Interface]` section. -/
def InterfaceConfig.entries (i : InterfaceConfig) : List Entry :=
  ("PrivateKey".toList, strip i.privateKey) ::
    (listEntry "Address" i.address ++ listEntry "DNS" i.dns ++
      optionEntry "MTU" (i.mtu.map description) ++
      optionEntry "ListenPort" (i.listenPort.map description))

/-- What the kit reads in a printed `[Peer]` section. -/
def PeerConfig.entries (p : PeerConfig) : List Entry :=
  ("PublicKey".toList, strip p.publicKey) ::
    (optionEntry "PresharedKey" p.presharedKey ++ listEntry "AllowedIPs" p.allowedIPs ++
      optionEntry "Endpoint" p.endpoint ++
      optionEntry "PersistentKeepalive" (p.persistentKeepalive.map description))

/-- What the kit reads in the printed lines. -/
def WireGuardConfig.readLines (c : WireGuardConfig) : List (Line Header Entry) :=
  .header .interface :: c.interface.entries.map .entry ++
    c.peers.flatMap fun p => .header .peer :: p.entries.map .entry

/-- An attribute as the kit reads it. -/
abbrev stripped (e : Entry) : Entry := (e.1, strip e.2)

lemma map_stripped_listAttribute (name : String) (vs : List Text) :
    (listAttribute name vs).map stripped = listEntry name vs := by
  unfold listAttribute listEntry
  split_ifs <;> rfl

lemma map_stripped_optionAttribute (name : String) (v : Option Text) :
    (optionAttribute name v).map stripped = optionEntry name v := by
  cases v <;> rfl

lemma InterfaceConfig.entries_eq (i : InterfaceConfig) : i.entries = i.attributes.map stripped := by
  simp only [InterfaceConfig.attributes, List.map_cons, List.map_append, map_stripped_listAttribute,
    map_stripped_optionAttribute]
  rfl

lemma PeerConfig.entries_eq (p : PeerConfig) : p.entries = p.attributes.map stripped := by
  simp only [PeerConfig.attributes, List.map_cons, List.map_append, map_stripped_listAttribute,
    map_stripped_optionAttribute]
  rfl

/-- The values of the keys of a printed `[Interface]` section. -/
lemma InterfaceConfig.values_entries (i : InterfaceConfig) :
    values "privatekey".toList i.entries = [strip i.privateKey] ∧
    values "address".toList i.entries =
      (if i.address = [] then [] else [strip (joined ", ".toList i.address)]) ∧
    values "dns".toList i.entries = (if i.dns = [] then [] else [strip (joined ", ".toList i.dns)]) ∧
    values "mtu".toList i.entries = (i.mtu.map description).toList.map strip ∧
    values "listenport".toList i.entries = (i.listenPort.map description).toList.map strip := by
  obtain ⟨h₁, h₂, h₃, h₄, h₅⟩ := i.values_attributes
  simp only [InterfaceConfig.entries_eq, values_map_snd, h₁, h₂, h₃, h₄, h₅,
    apply_ite (List.map strip), List.map_cons, List.map_nil, and_self]

/-- The values of the keys of a printed `[Peer]` section. -/
lemma PeerConfig.values_entries (p : PeerConfig) :
    values "publickey".toList p.entries = [strip p.publicKey] ∧
    values "presharedkey".toList p.entries = p.presharedKey.toList.map strip ∧
    values "allowedips".toList p.entries =
      (if p.allowedIPs = [] then [] else [strip (joined ", ".toList p.allowedIPs)]) ∧
    values "endpoint".toList p.entries = p.endpoint.toList.map strip ∧
    values "persistentkeepalive".toList p.entries =
      (p.persistentKeepalive.map description).toList.map strip := by
  obtain ⟨h₁, h₂, h₃, h₄, h₅⟩ := p.values_attributes
  simp only [PeerConfig.entries_eq, values_map_snd, h₁, h₂, h₃, h₄, h₅,
    apply_ite (List.map strip), List.map_cons, List.map_nil, and_self]

lemma InterfaceConfig.length_values_entries (i : InterfaceConfig) :
    ∀ k ∈ standardInterfaceKeys, (values k i.entries).length ≤ 1 := by
  obtain ⟨h₁, h₂, h₃, h₄, h₅⟩ := i.values_entries
  simp only [standardInterfaceKeys, List.mem_cons, List.not_mem_nil, or_false]
  rintro k (rfl | rfl | rfl | rfl | rfl)
  · simp [h₁, -String.reduceToList]
  · cases hp : i.listenPort <;> simp [h₅, hp, -String.reduceToList]
  · rw [h₂]
    split_ifs <;> simp
  · rw [h₃]
    split_ifs <;> simp
  · cases hm : i.mtu <;> simp [h₄, hm, -String.reduceToList]

lemma PeerConfig.length_values_entries (p : PeerConfig) :
    ∀ k ∈ peerSectionKeys, (values k p.entries).length ≤ 1 := by
  obtain ⟨h₁, h₂, h₃, h₄, h₅⟩ := p.values_entries
  simp only [peerSectionKeys, List.mem_cons, List.not_mem_nil, or_false]
  rintro k (rfl | rfl | rfl | rfl | rfl)
  · simp [h₁, -String.reduceToList]
  · cases hp : p.presharedKey <;> simp [h₂, hp, -String.reduceToList]
  · rw [h₃]
    split_ifs <;> simp
  · cases he : p.endpoint <;> simp [h₄, he, -String.reduceToList]
  · cases hk : p.persistentKeepalive <;> simp [h₅, hk, -String.reduceToList]

lemma InterfaceConfig.recognized_entries (i : InterfaceConfig) :
    ∀ e ∈ i.entries, lowercased e.1 ∈ standardInterfaceKeys := by
  have hnames : ∀ name ∈ interfaceNames, lowercased name ∈ standardInterfaceKeys := by
    decide
  rw [InterfaceConfig.entries_eq, List.forall_mem_map]
  exact fun e he => hnames _ (i.name_of_mem_attributes e he)

lemma PeerConfig.recognized_entries (p : PeerConfig) :
    ∀ e ∈ p.entries, lowercased e.1 ∈ peerSectionKeys := by
  have hnames : ∀ name ∈ peerNames, lowercased name ∈ peerSectionKeys := by
    decide
  rw [PeerConfig.entries_eq, List.forall_mem_map]
  exact fun e he => hnames _ (p.name_of_mem_attributes e he)

lemma reads_attributes {es : List Entry} (hes : ∀ e ∈ es, IsAttribute e) :
    Reads readLine (es.map printedLine) ((es.map stripped).map .entry) := by
  induction es with
  | nil => exact .nil
  | cons e es ih =>
    rw [List.forall_mem_cons] at hes
    exact .cons (readLine_printedLine hes.1) (ih hes.2)

/-- **The printed text to the kit**, line by line. -/
theorem WireGuardConfig.reads_toWgQuickConfig {c : WireGuardConfig} (hc : c.OnOneLine) :
    Reads readLine (Foundation.lines c.toWgQuickConfig) c.readLines := by
  have hinterface : readLine "[Interface]".toList = some (.header .interface) := rfl
  have hpeer : readLine "[Peer]".toList = some (.header .peer) := rfl
  rw [WireGuardConfig.lines_toWgQuickConfig hc, WireGuardConfig.readLines, InterfaceConfig.entries_eq]
  apply List.rel_append
  · exact .cons hinterface (reads_attributes
      (InterfaceConfig.isAttribute hc.privateKey hc.address hc.dns))
  · have hall : ∀ ps : List PeerConfig, (∀ p ∈ ps, p ∈ c.peers) →
        Reads readLine (ps.flatMap fun p => "[Peer]".toList :: p.attributes.map printedLine)
          (ps.flatMap fun p => .header .peer :: p.entries.map .entry) := by
      intro ps hps
      induction ps with
      | nil => exact .nil
      | cons p ps ih =>
        have hp := hps p (by simp)
        rw [List.flatMap_cons, List.flatMap_cons, PeerConfig.entries_eq]
        apply List.rel_append
        · exact .cons hpeer (reads_attributes (PeerConfig.isAttribute (hc.publicKey p hp)
            (hc.presharedKey p hp) (hc.allowedIPs p hp) (hc.endpoint p hp)))
        · exact ih fun q hq => hps q (by simp [hq])
    exact hall c.peers fun p h => h

/-! ### The sections that are printed -/

lemma sections_entries_append {β γ : Type*} (es : List γ) (ls : List (Line β γ)) :
    sections (es.map .entry ++ ls) = (es ++ (sections ls).1, (sections ls).2) := by
  induction es with
  | nil => rfl
  | cons e es ih => simp [sections, ih]

lemma sections_printed (es : List Entry) (ess : List (List Entry)) :
    sections (.header Header.interface :: es.map .entry ++
        ess.flatMap fun fs => .header Header.peer :: fs.map .entry) =
      ([], (.interface, es) :: ess.map fun fs => (.peer, fs)) := by
  have hpeers : sections (ess.flatMap fun fs => Line.header Header.peer :: fs.map .entry) =
      ([], ess.map fun fs => (.peer, fs)) := by
    induction ess with
    | nil => rfl
    | cons fs ess ih => simp [sections, sections_entries_append, ih]
  simp [sections, sections_entries_append, hpeers]

lemma WireGuardConfig.sections_readLines (c : WireGuardConfig) :
    sections c.readLines =
      ([], (.interface, c.interface.entries) :: c.peers.map fun p => (.peer, p.entries)) := by
  have h := sections_printed c.interface.entries (c.peers.map PeerConfig.entries)
  rwa [List.flatMap_map, List.map_map] at h

lemma WireGuardConfig.dropLastHeader_readLines (c : WireGuardConfig) :
    dropLastHeader c.readLines = c.readLines := by
  have hlast : ∃ ls e, c.readLines = ls ++ [.entry e] := by
    have hcons : ∀ (h : Header) (es : List Entry), es ≠ [] → ∃ ls e,
        Line.header h :: es.map .entry = ls ++ [.entry e] := by
      intro h es hes
      obtain ⟨es', e, rfl⟩ := (List.eq_nil_or_concat' es).resolve_left hes
      exact ⟨.header h :: es'.map .entry, e, by simp⟩
    obtain ⟨i, ps⟩ := c
    cases ps using List.reverseRecOn with
    | nil =>
      obtain ⟨ls, e, h⟩ := hcons .interface i.entries (by simp [InterfaceConfig.entries])
      exact ⟨ls, e, by simpa [WireGuardConfig.readLines] using h⟩
    | append_singleton ps p =>
      obtain ⟨ls, e, h⟩ := hcons .peer p.entries (by simp [PeerConfig.entries])
      refine ⟨WireGuardConfig.readLines ⟨i, ps⟩ ++ ls, e, ?_⟩
      rw [List.append_assoc, ← h]
      simp [WireGuardConfig.readLines]
  obtain ⟨ls, e, h⟩ := hlast
  rw [h, dropLastHeader, dropLastIf_concat]
  rfl

/-- **What the kits make of a printed configuration.** -/
theorem parse_toWgQuickConfig [Network] {I : Type} (kit : Kit I) {c : WireGuardConfig} (hc : c.OnOneLine)
    {T : TunnelConfiguration I} :
    kit.parse c.toWgQuickConfig = .ok T ↔
      kit.readInterface c.interface.entries = .ok T.interface ∧
      List.Forall₂ (fun p P => kit.readPeer (PeerConfig.entries p) = .ok P) c.peers T.peers := by
  have hreads := WireGuardConfig.reads_toWgQuickConfig hc
  have hbodies : bodies .interface (sections c.readLines).2 = [c.interface.entries] ∧
      bodies .peer (sections c.readLines).2 = c.peers.map PeerConfig.entries := by
    rw [WireGuardConfig.sections_readLines]
    constructor <;> simp [bodies, List.filter_map, Function.comp_def]
  rw [kit.parse_eq_ok]
  constructor
  · rintro ⟨ls, hls, h⟩
    obtain rfl := hls.unique hreads
    rw [WireGuardConfig.dropLastHeader_readLines] at h
    obtain ⟨es, hes, hi⟩ := h.interface
    have hp := h.peers
    rw [hbodies.1, List.cons.injEq] at hes
    rw [hbodies.2, List.forall₂_map_left_iff] at hp
    exact ⟨hes.1 ▸ hi, hp⟩
  · rintro ⟨hi, hp⟩
    refine ⟨_, hreads, ?_⟩
    rw [WireGuardConfig.dropLastHeader_readLines]
    refine ⟨⟨noAttributes, ?_⟩, ⟨_, hbodies.1, hi⟩, ?_⟩
    · rw [WireGuardConfig.sections_readLines]
      rfl
    · rw [hbodies.2, List.forall₂_map_left_iff]
      exact hp

end FreeVPN.Profile
