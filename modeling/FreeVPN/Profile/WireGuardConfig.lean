import FreeVPN.WgQuick.Sections

/-!
# WireGuard profiles in the app

`WireGuardConfig.swift`: the app's own reader of `.conf` texts, the printer of what is handed to the
tunnel extension, and the validation of an uploaded text.

`parse_eq` says what the reader makes of a text in the terms of its sections: the fields of an
`[Interface]` section come from all the sections of that name together, those of a peer from one
`[Peer]` section, and a section without a `PublicKey` is no peer.
-/

namespace FreeVPN.Profile

open FreeVPN.Lib FreeVPN.Foundation FreeVPN.WgQuick

/-! ### The configuration -/

/-- `WireGuardConfig.InterfaceConfig` -/
structure InterfaceConfig where
  privateKey : Text
  address : List Text
  dns : List Text
  mtu : Option ℤ
  listenPort : Option ℤ
  deriving DecidableEq

/-- `WireGuardConfig.PeerConfig` -/
structure PeerConfig where
  publicKey : Text
  presharedKey : Option Text
  endpoint : Option Text
  allowedIPs : List Text
  persistentKeepalive : Option ℤ
  deriving DecidableEq

/-- `WireGuardConfig` -/
structure WireGuardConfig where
  interface : InterfaceConfig
  peers : List PeerConfig
  deriving DecidableEq

/-- `WireGuardConfig.ConfigError` -/
inductive ConfigError
  | missingPrivateKey
  | missingInterface
  | missingPeer
  | invalidFormat
  | missingAddress
  | missingPublicKey
  | emptyConfig
  deriving DecidableEq

/-- `errorDescription` -/
def ConfigError.errorDescription : ConfigError → String
  | .missingPrivateKey => "Missing PrivateKey in [Interface] section"
  | .missingInterface => "Missing [Interface] section"
  | .missingPeer => "Missing [Peer] section"
  | .invalidFormat => "Invalid configuration format"
  | .missingAddress => "Missing Address in [Interface] section"
  | .missingPublicKey => "A [Peer] section is missing a PublicKey"
  | .emptyConfig => "The configuration is empty"

/-- `userFriendlyMessage` -/
def ConfigError.userFriendlyMessage : ConfigError → String
  | .missingPrivateKey => "Your profile is missing a PrivateKey in the [Interface] section. This is required to establish a WireGuard connection."
  | .missingInterface => "This doesn't look like a valid WireGuard profile. It must contain an [Interface] section."
  | .missingPeer => "Your profile is missing a [Peer] section. At least one peer (server) is required."
  | .invalidFormat => "This file doesn't appear to be a valid WireGuard configuration. Please check the format and try again."
  | .missingAddress => "Your profile is missing an Address in the [Interface] section. This is the VPN IP address assigned to your device."
  | .missingPublicKey => "One of the [Peer] sections is missing a PublicKey. Each peer must have a PublicKey."
  | .emptyConfig => "The uploaded file appears to be empty. Please select a valid WireGuard .conf file."

/-! ### Parsing -/

/-- `normalizeCIDR`: appends a default CIDR suffix if missing. -/
def normalizeCIDR (addr : Text) : Text :=
  if '/' ∈ addr then addr
  else if ':' ∈ addr then addr ++ "/128".toList else addr ++ "/32".toList

/-- `value.split(separator: ",").map { $0.trimmingCharacters(in: .whitespaces) }` -/
def listItems (value : Text) : List Text := (split ',' value).map trimWhitespaces

/-- The sections of the reader. -/
inductive Section
  | none
  | interface
  | peer
  deriving DecidableEq

/-- The interface fields read so far. -/
structure InterfaceVars where
  privateKey : Option Text := .none
  addresses : List Text := []
  dnsServers : List Text := []
  mtu : Option ℤ := .none
  listenPort : Option ℤ := .none

/-- The fields of the peer being read. -/
structure PeerVars where
  currentPeerPublicKey : Option Text := .none
  currentPeerPresharedKey : Option Text := .none
  currentPeerEndpoint : Option Text := .none
  currentPeerAllowedIPs : List Text := []
  currentPeerPersistentKeepalive : Option ℤ := .none

/-- The variables of the reader. -/
structure Parsing where
  peers : List PeerConfig := []
  currentSection : Section := .none
  peer : PeerVars := {}
  interface : InterfaceVars := {}

/-- `finalizePeer` -/
def PeerVars.finalizePeer (p : PeerVars) : Option PeerConfig :=
  p.currentPeerPublicKey.map fun publicKey =>
    { publicKey
      presharedKey := p.currentPeerPresharedKey
      endpoint := p.currentPeerEndpoint
      allowedIPs := p.currentPeerAllowedIPs
      persistentKeepalive := p.currentPeerPersistentKeepalive }

/-- `if let peer = finalizePeer() { peers.append(peer) }` -/
def Parsing.savePeer (p : Parsing) : Parsing := { p with peers := p.peers ++ p.peer.finalizePeer.toList }

/-- A section header. -/
def Parsing.startSection (p : Parsing) (s : Section) : Parsing :=
  { p.savePeer with currentSection := s, peer := {} }

/-- `case .interface` -/
def InterfaceVars.read (v : InterfaceVars) (key value : Text) : InterfaceVars :=
  if key = "privatekey".toList then { v with privateKey := some value }
  else if key = "address".toList then
    { v with addresses := v.addresses ++ (listItems value).map normalizeCIDR }
  else if key = "dns".toList then { v with dnsServers := v.dnsServers ++ listItems value }
  else if key = "mtu".toList then { v with mtu := parseInt value }
  else if key = "listenport".toList then { v with listenPort := parseInt value }
  else v

/-- `case .peer` -/
def PeerVars.read (v : PeerVars) (key value : Text) : PeerVars :=
  if key = "publickey".toList then { v with currentPeerPublicKey := some value }
  else if key = "presharedkey".toList then { v with currentPeerPresharedKey := some value }
  else if key = "endpoint".toList then { v with currentPeerEndpoint := some value }
  else if key = "allowedips".toList then
    { v with currentPeerAllowedIPs := (listItems value).map normalizeCIDR }
  else if key = "persistentkeepalive".toList then
    { v with currentPeerPersistentKeepalive := parseInt value }
  else v

/-- `switch currentSection` -/
def Parsing.read (p : Parsing) (key value : Text) : Parsing :=
  match p.currentSection with
  | .interface => { p with interface := p.interface.read key value }
  | .peer => { p with peer := p.peer.read key value }
  | .none => p

/-- The body of the loop over the lines. -/
def Parsing.parseLine (p : Parsing) (line : Text) : Parsing :=
  let trimmed := trimWhitespaces line
  if trimmed = [] ∨ hasPrefix trimmed ['#'] then p
  else if lowercased trimmed = "[interface]".toList then p.startSection .interface
  else if lowercased trimmed = "[peer]".toList then p.startSection .peer
  else match cut '=' trimmed with
    | some (key, value) => p.read (lowercased (trimWhitespaces key)) (trimWhitespaces value)
    | none => p

/-- `InterfaceConfig(privateKey: key, …)` -/
def InterfaceVars.interfaceConfig (v : InterfaceVars) (key : Text) : InterfaceConfig where
  privateKey := key
  address := v.addresses
  dns := v.dnsServers
  mtu := v.mtu
  listenPort := v.listenPort

/-- The configuration, when the loop has found what it must have. -/
def WireGuardConfig.ofVars (v : InterfaceVars) (peers : List PeerConfig) :
    Except ConfigError WireGuardConfig :=
  match v.privateKey with
  | none => .error .missingPrivateKey
  | some key =>
    if peers = [] then .error .missingPeer else .ok { interface := v.interfaceConfig key, peers }

/-- `WireGuardConfig.parse(from:)` -/
def WireGuardConfig.parse (configString : Text) : Except ConfigError WireGuardConfig :=
  let p := ((components configString).foldl Parsing.parseLine {}).savePeer
  WireGuardConfig.ofVars p.interface p.peers

/-! ### Printing -/

/-- `"name = value"` -/
def attributeLine (name : String) (value : Text) : Text := name.toList ++ " = ".toList ++ value

/-- A line that is left out when there is nothing to print. -/
def listLine (name : String) (values : List Text) : List Text :=
  if values = [] then [] else [attributeLine name (joined ", ".toList values)]

/-- A line that is left out when there is no value. -/
def optionLine (name : String) (value : Option Text) : List Text :=
  value.toList.map (attributeLine name)

/-- The lines of the `[Interface]` section. -/
def InterfaceConfig.lines (i : InterfaceConfig) : List Text :=
  ["[Interface]".toList, attributeLine "PrivateKey" i.privateKey] ++
    listLine "Address" i.address ++ listLine "DNS" i.dns ++
    optionLine "MTU" (i.mtu.map description) ++ optionLine "ListenPort" (i.listenPort.map description)

/-- The lines of a `[Peer]` section. -/
def PeerConfig.lines (p : PeerConfig) : List Text :=
  [[], "[Peer]".toList, attributeLine "PublicKey" p.publicKey] ++
    optionLine "PresharedKey" p.presharedKey ++ listLine "AllowedIPs" p.allowedIPs ++
    optionLine "Endpoint" p.endpoint ++
    optionLine "PersistentKeepalive" (p.persistentKeepalive.map description)

/-- `toWgQuickConfig` -/
def WireGuardConfig.toWgQuickConfig (c : WireGuardConfig) : Text :=
  joined ['\n'] (c.interface.lines ++ c.peers.flatMap PeerConfig.lines)

/-! ### Validation -/

/-- `WireGuardConfig.validate`: a user-friendly error message, or nil if valid. -/
def WireGuardConfig.validate (configString : Text) : Option String :=
  let trimmed := trimWhitespacesAndNewlines configString
  if trimmed = [] then some ConfigError.emptyConfig.userFriendlyMessage
  else match WireGuardConfig.parse trimmed with
    | .error error => some error.userFriendlyMessage
    | .ok config =>
      if config.interface.address = [] then some ConfigError.missingAddress.userFriendlyMessage
      else (config.peers.findIdx? fun peer => trimWhitespaces peer.publicKey = []).map fun i =>
        "Peer #" ++ toString (i + 1) ++ " is missing a PublicKey."

/-- `displayName()`: a short name derived from the endpoint or the address. -/
def WireGuardConfig.displayName (c : WireGuardConfig) : Text :=
  match c.peers.head?.bind PeerConfig.endpoint with
  | some endpoint => before ':' endpoint
  | none => c.interface.address.head?.getD "Unknown".toList

/-! ### The sections of a profile -/

/-- What a line is to the reader. -/
def profileLine (line : Text) : Line Header Entry :=
  let trimmed := trimWhitespaces line
  if trimmed = [] ∨ hasPrefix trimmed ['#'] then .blank
  else match headerOf trimmed with
    | some h => .header h
    | none => match cut '=' trimmed with
      | some (key, value) => .entry (trimWhitespaces key, trimWhitespaces value)
      | none => .blank

lemma profileLine_eq_header {line : Text} {h : Header} :
    profileLine line = .header h ↔ lowercased (trimWhitespaces line) = h.word := by
  unfold profileLine
  dsimp only
  rw [← headerOf_eq_some]
  split_ifs with hblank
  · -- a header is neither blank nor a comment
    have hword : ∀ h : Header, h.word ≠ [] ∧ hasPrefix h.word ['#'] = false := by
      intro h
      cases h <;> decide
    simp only [false_iff]
    intro hh
    rw [headerOf_eq_some] at hh
    rcases hblank with hb | hb
    · exact (hword h).1 (by rw [← hh, hb, lowercased_nil])
    · rw [← hasPrefix_lowercased (by decide), hh, (hword h).2] at hb
      cases hb
  · cases headerOf (trimWhitespaces line) with
    | some h' => simp
    | none => cases cut '=' (trimWhitespaces line) <;> simp

lemma profileLine_eq_entry {line : Text} {e : Entry} :
    profileLine line = .entry e ↔ hasPrefix (trimWhitespaces line) ['#'] = false ∧
      ∃ key value, cut '=' (trimWhitespaces line) = some (key, value) ∧
        e = (trimWhitespaces key, trimWhitespaces value) := by
  unfold profileLine
  dsimp only
  generalize trimWhitespaces line = t
  cases hcut : cut '=' t with
  | none =>
    split_ifs
    · simp
    · cases headerOf t <;> simp
  | some r =>
    have hne : t ≠ [] := fun h => by simp [h, cut] at hcut
    simp only [headerOf_of_cut hcut, hne, false_or]
    split_ifs with hcomment
    · simp [hcomment]
    · simp only [Line.entry.injEq, Bool.eq_false_iff.2 hcomment, true_and, Option.some.injEq]
      constructor
      · rintro rfl
        exact ⟨r.1, r.2, rfl, rfl⟩
      · rintro ⟨key, value, rfl, rfl⟩
        rfl

/-- The sections of a text. -/
def profileSections (configString : Text) : List (Header × List Entry) :=
  (sections ((components configString).map profileLine)).2

/-- The interface fields that the entries of the `[Interface]` sections make. -/
def InterfaceVars.ofEntries (es : List Entry) : InterfaceVars where
  privateKey := (values "privatekey".toList es).getLast?
  addresses := (values "address".toList es).flatMap fun v => (listItems v).map normalizeCIDR
  dnsServers := (values "dns".toList es).flatMap listItems
  mtu := (values "mtu".toList es).getLast?.bind parseInt
  listenPort := (values "listenport".toList es).getLast?.bind parseInt

/-- The fields that the entries of a `[Peer]` section make. -/
def PeerVars.ofEntries (es : List Entry) : PeerVars where
  currentPeerPublicKey := (values "publickey".toList es).getLast?
  currentPeerPresharedKey := (values "presharedkey".toList es).getLast?
  currentPeerEndpoint := (values "endpoint".toList es).getLast?
  currentPeerAllowedIPs :=
    (values "allowedips".toList es).getLast?.elim [] fun v => (listItems v).map normalizeCIDR
  currentPeerPersistentKeepalive := (values "persistentkeepalive".toList es).getLast?.bind parseInt

lemma InterfaceVars.read_ofEntries (es : List Entry) (e : Entry) :
    (InterfaceVars.ofEntries es).read (lowercased e.1) e.2 = InterfaceVars.ofEntries (es ++ [e]) := by
  unfold InterfaceVars.read
  split_ifs with h₁ h₂ h₃ h₄ h₅ <;>
    simp [InterfaceVars.ofEntries, values_concat, String.toList_inj, -String.reduceToList, *]

lemma PeerVars.read_ofEntries (es : List Entry) (e : Entry) :
    (PeerVars.ofEntries es).read (lowercased e.1) e.2 = PeerVars.ofEntries (es ++ [e]) := by
  unfold PeerVars.read
  split_ifs with h₁ h₂ h₃ h₄ h₅ <;>
    simp [PeerVars.ofEntries, values_concat, String.toList_inj, -String.reduceToList, *]

lemma InterfaceVars.foldl_read (es fs : List Entry) :
    fs.foldl (fun v e => v.read (lowercased e.1) e.2) (InterfaceVars.ofEntries es) =
      InterfaceVars.ofEntries (es ++ fs) := by
  induction fs generalizing es with
  | nil => simp
  | cons f fs ih =>
    rw [List.foldl_cons, InterfaceVars.read_ofEntries, ih, List.append_assoc, List.singleton_append]

lemma PeerVars.foldl_read (es fs : List Entry) :
    fs.foldl (fun v e => v.read (lowercased e.1) e.2) (PeerVars.ofEntries es) =
      PeerVars.ofEntries (es ++ fs) := by
  induction fs generalizing es with
  | nil => simp
  | cons f fs ih =>
    rw [List.foldl_cons, PeerVars.read_ofEntries, ih, List.append_assoc, List.singleton_append]

/-- The section that a header starts. -/
def sectionOf : Header → Section
  | .interface => .interface
  | .peer => .peer

/-- The body of the loop, on a line that has been read. -/
def Parsing.step (p : Parsing) : Line Header Entry → Parsing
  | .blank => p
  | .header h => p.startSection (sectionOf h)
  | .entry e => p.read (lowercased e.1) e.2

lemma Parsing.parseLine_eq (p : Parsing) (line : Text) : p.parseLine line = p.step (profileLine line) := by
  unfold Parsing.parseLine profileLine headerOf
  dsimp only
  split_ifs
  · rfl
  · rfl
  · rfl
  · cases cut '=' (trimWhitespaces line) <;> rfl

/-- The reader in a section. -/
def Parsing.readBody (p : Parsing) (c : Header × List Entry) : Parsing :=
  c.2.foldl (fun p e => p.read (lowercased e.1) e.2)
    { p with currentSection := sectionOf c.1, peer := {} }

lemma Parsing.readBody_interface {p : Parsing} {es : List Entry}
    (hp : p.interface = InterfaceVars.ofEntries es) (fs : List Entry) :
    (p.readBody (.interface, fs)).savePeer =
      { p with currentSection := .interface, peer := {},
               interface := InterfaceVars.ofEntries (es ++ fs) } := by
  have hfold : ∀ (fs : List Entry) (q : Parsing), q.currentSection = .interface →
      fs.foldl (fun p e => p.read (lowercased e.1) e.2) q =
        { q with interface := fs.foldl (fun v e => v.read (lowercased e.1) e.2) q.interface } := by
    intro fs
    induction fs with
    | nil => intro q _; rfl
    | cons f fs ih =>
      intro q hq
      have hread : q.read (lowercased f.1) f.2 =
          { q with interface := q.interface.read (lowercased f.1) f.2 } := by
        simp [Parsing.read, hq]
      rw [List.foldl_cons, List.foldl_cons, hread]
      exact ih _ hq
  unfold Parsing.readBody
  rw [hfold fs _ rfl]
  simp [Parsing.savePeer, PeerVars.finalizePeer, sectionOf, hp, InterfaceVars.foldl_read]

lemma Parsing.readBody_peer (p : Parsing) (fs : List Entry) :
    (p.readBody (.peer, fs)).savePeer =
      { p with currentSection := .peer, peer := PeerVars.ofEntries fs,
               peers := p.peers ++ (PeerVars.ofEntries fs).finalizePeer.toList } := by
  have hfold : ∀ (fs : List Entry) (q : Parsing), q.currentSection = .peer →
      fs.foldl (fun p e => p.read (lowercased e.1) e.2) q =
        { q with peer := fs.foldl (fun v e => v.read (lowercased e.1) e.2) q.peer } := by
    intro fs
    induction fs with
    | nil => intro q _; rfl
    | cons f fs ih =>
      intro q hq
      have hread : q.read (lowercased f.1) f.2 =
          { q with peer := q.peer.read (lowercased f.1) f.2 } := by
        simp [Parsing.read, hq]
      rw [List.foldl_cons, List.foldl_cons, hread]
      exact ih _ hq
  have hempty : ({} : PeerVars) = PeerVars.ofEntries [] := rfl
  unfold Parsing.readBody
  rw [hfold fs _ rfl]
  simp [Parsing.savePeer, sectionOf, hempty, PeerVars.foldl_read]

/-- The peer that a `[Peer]` section makes, if it has a public key. -/
def peerOf (es : List Entry) : Option PeerConfig := (PeerVars.ofEntries es).finalizePeer

/-- A peer with what the entries of its section give it. -/
structure PeerConfig.ReadFrom (p : PeerConfig) (es : List Entry) : Prop where
  publicKey : (values "publickey".toList es).getLast? = some p.publicKey
  presharedKey : p.presharedKey = (values "presharedkey".toList es).getLast?
  endpoint : p.endpoint = (values "endpoint".toList es).getLast?
  allowedIPs : p.allowedIPs =
    (values "allowedips".toList es).getLast?.elim [] fun v => (listItems v).map normalizeCIDR
  persistentKeepalive : p.persistentKeepalive =
    (values "persistentkeepalive".toList es).getLast?.bind parseInt

/-- **What a `[Peer]` section makes.** -/
theorem peerOf_eq_some {es : List Entry} {p : PeerConfig} : peerOf es = some p ↔ p.ReadFrom es := by
  rw [peerOf, PeerVars.finalizePeer, Option.map_eq_some_iff]
  constructor
  · rintro ⟨publicKey, hkey, rfl⟩
    exact ⟨hkey, rfl, rfl, rfl, rfl⟩
  · rintro ⟨hkey, h₁, h₂, h₃, h₄⟩
    obtain ⟨publicKey, presharedKey, endpoint, allowedIPs, persistentKeepalive⟩ := p
    subst h₁ h₂ h₃ h₄
    exact ⟨publicKey, hkey, rfl⟩

lemma peerOf_eq_none_iff {es : List Entry} : peerOf es = none ↔ values "publickey".toList es = [] := by
  rw [peerOf, PeerVars.finalizePeer, Option.map_eq_none_iff]
  exact List.getLast?_eq_none_iff

lemma PeerConfig.ReadFrom.exists_of_mem {p : PeerConfig} {es : List Entry} (h : p.ReadFrom es) {x : Text}
    (hx : x ∈ p.allowedIPs) :
    ∃ v, (values "allowedips".toList es).getLast? = some v ∧ x ∈ (listItems v).map normalizeCIDR := by
  rw [h.allowedIPs] at hx
  cases hlast : (values "allowedips".toList es).getLast? with
  | none => simp only [hlast, Option.elim_none, List.not_mem_nil] at hx
  | some v => exact ⟨v, rfl, by simpa only [hlast, Option.elim_some] using hx⟩

/-- The entries of the `[Interface]` sections. -/
def interfaceEntries (s : Text) : List Entry := (bodies .interface (profileSections s)).flatten

/-- The peers of a profile. -/
def peerConfigs (s : Text) : List PeerConfig := (bodies .peer (profileSections s)).filterMap peerOf

/-- **What the reader makes of a profile.** -/
theorem WireGuardConfig.parse_eq (s : Text) :
    WireGuardConfig.parse s =
      WireGuardConfig.ofVars (InterfaceVars.ofEntries (interfaceEntries s)) (peerConfigs s) := by
  have hrun : ∀ (cs : List (Header × List Entry)) (p : Parsing) (es : List Entry),
      p.interface = InterfaceVars.ofEntries es →
      (cs.foldl (fun p c => (p.readBody c).savePeer) p).interface =
          InterfaceVars.ofEntries (es ++ (bodies .interface cs).flatten) ∧
        (cs.foldl (fun p c => (p.readBody c).savePeer) p).peers =
          p.peers ++ (bodies .peer cs).filterMap peerOf := by
    intro cs
    induction cs with
    | nil => intro p es hp; simp [bodies, hp]
    | cons c cs ih =>
      intro p es hp
      obtain ⟨h, fs⟩ := c
      cases h with
      | interface =>
        rw [List.foldl_cons, Parsing.readBody_interface hp]
        have := ih { p with currentSection := .interface, peer := {},
                            interface := InterfaceVars.ofEntries (es ++ fs) } (es ++ fs) rfl
        simpa [bodies_cons] using this
      | peer =>
        rw [List.foldl_cons, Parsing.readBody_peer]
        have := ih { p with currentSection := .peer, peer := PeerVars.ofEntries fs,
                            peers := p.peers ++ (PeerVars.ofEntries fs).finalizePeer.toList } es hp
        refine ⟨by simpa [bodies_cons] using this.1, this.2.trans ?_⟩
        rw [bodies_cons, if_pos rfl, List.filterMap_cons]
        unfold peerOf
        cases (PeerVars.ofEntries fs).finalizePeer <;> simp
  have hskip : ∀ (es : List Entry) (p : Parsing), p.currentSection = .none →
      es.foldl (fun p e => p.read (lowercased e.1) e.2) p = p := by
    intro es
    induction es with
    | nil => intro p _; rfl
    | cons e es ih =>
      intro p hp
      have hread : p.read (lowercased e.1) e.2 = p := by simp [Parsing.read, hp]
      rw [List.foldl_cons, hread, ih p hp]
  have hloop : ((components s).foldl Parsing.parseLine {}).savePeer =
      (profileSections s).foldl (fun p c => (p.readBody c).savePeer) {} := by
    have hlines : (components s).foldl Parsing.parseLine {} =
        ((components s).map profileLine).foldl Parsing.step {} := by
      have hline : Parsing.parseLine = fun p line => p.step (profileLine line) :=
        funext fun p => funext (Parsing.parseLine_eq p)
      rw [List.foldl_map, hline]
    have hheader : ∀ (p : Parsing) h, p.step (.header h) = p.startSection (sectionOf h) := fun _ _ => rfl
    have hentry : ∀ (p : Parsing) e, p.step (.entry e) = p.read (lowercased e.1) e.2 := fun _ _ => rfl
    rw [hlines, foldl_sections (fun _ => rfl) hheader hentry, hskip _ _ rfl]
    exact @foldl_close _ _ Parsing.savePeer Parsing.readBody (profileSections s) {}
  obtain ⟨hi, hp⟩ := hrun (profileSections s) {} [] rfl
  rw [WireGuardConfig.parse, hloop, hi, hp]
  simp [interfaceEntries, peerConfigs]

lemma WireGuardConfig.ofVars_eq_ok {v : InterfaceVars} {ps : List PeerConfig} {c : WireGuardConfig} :
    WireGuardConfig.ofVars v ps = .ok c ↔
      v.privateKey = some c.interface.privateKey ∧
      c.interface = v.interfaceConfig c.interface.privateKey ∧ c.peers = ps ∧ ps ≠ [] := by
  obtain ⟨i, qs⟩ := c
  unfold WireGuardConfig.ofVars
  cases v.privateKey with
  | none => simp
  | some key =>
    by_cases hp : ps = []
    · simp [hp]
    · simp only [hp, if_false, Except.ok.injEq, WireGuardConfig.mk.injEq, Option.some.injEq]
      constructor
      · rintro ⟨rfl, rfl⟩
        exact ⟨rfl, rfl, rfl, hp⟩
      · rintro ⟨rfl, hi, rfl, -⟩
        exact ⟨hi.symm, rfl⟩

/-- What a profile must have to be read. -/
theorem WireGuardConfig.parse_eq_ok {s : Text} {c : WireGuardConfig} :
    WireGuardConfig.parse s = .ok c ↔
      (values "privatekey".toList (interfaceEntries s)).getLast? = some c.interface.privateKey ∧
      c.interface = (InterfaceVars.ofEntries (interfaceEntries s)).interfaceConfig c.interface.privateKey ∧
      c.peers = peerConfigs s ∧ peerConfigs s ≠ [] := by
  rw [WireGuardConfig.parse_eq, WireGuardConfig.ofVars_eq_ok]
  rfl

end FreeVPN.Profile
