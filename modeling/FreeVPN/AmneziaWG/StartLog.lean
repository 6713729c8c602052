import FreeVPN.AmneziaWG.Secrets
import FreeVPN.AmneziaWG.Uapi
import FreeVPN.Foundation.Characters
import FreeVPN.Foundation.Description
import FreeVPN.Manager.VPNManager

/-!
# What the Amnezia extension logs when it starts

`startTunnel` of `AmneziaTunnelProvider` appends to the log that the app shows: the lines of the text,
with those of two keys left out, and the parsed configuration, or the error of the parser with the
value that it stumbled over.

`startTunnel_eq_iff` says for which texts that differ in their keys the log is the same.
-/

namespace FreeVPN.AmneziaWG

open FreeVPN.Lib FreeVPN.Foundation FreeVPN.WgQuick FreeVPN.Manager

/-! ### The messages -/

/-- A row of the text, in the log. -/
def rawLine (line : Text) : Option Text :=
  let trimmed := trimWhitespaces line
  let lower := lowercased trimmed
  if hasPrefix lower "privatekey".toList then some "AWG raw: PrivateKey = [REDACTED]".toList
  else if hasPrefix lower "headerprotectionkey".toList then
    some "AWG raw: HeaderProtectionKey = [REDACTED]".toList
  else if trimmed ≠ [] then some ("AWG raw: ".toList ++ trimmed)
  else none

/-- The name of the case of an error. -/
def caseName : ParseError → String
  | .invalidLine _ => "invalidLine"
  | .noInterface => "noInterface"
  | .multipleInterfaces => "multipleInterfaces"
  | .interfaceHasNoPrivateKey => "interfaceHasNoPrivateKey"
  | .interfaceHasInvalidPrivateKey _ => "interfaceHasInvalidPrivateKey"
  | .interfaceHasInvalidListenPort _ => "interfaceHasInvalidListenPort"
  | .interfaceHasInvalidAddress _ => "interfaceHasInvalidAddress"
  | .interfaceHasInvalidMTU _ => "interfaceHasInvalidMTU"
  | .interfaceHasUnrecognizedKey _ => "interfaceHasUnrecognizedKey"
  | .peerHasNoPublicKey => "peerHasNoPublicKey"
  | .peerHasInvalidPublicKey _ => "peerHasInvalidPublicKey"
  | .peerHasInvalidPreSharedKey _ => "peerHasInvalidPreSharedKey"
  | .peerHasInvalidAllowedIP _ => "peerHasInvalidAllowedIP"
  | .peerHasInvalidEndpoint _ => "peerHasInvalidEndpoint"
  | .peerHasInvalidPersistentKeepAlive _ => "peerHasInvalidPersistentKeepAlive"
  | .peerHasUnrecognizedKey _ => "peerHasUnrecognizedKey"
  | .multiplePeersWithSamePublicKey => "multiplePeersWithSamePublicKey"
  | .multipleEntriesForKey _ => "multipleEntriesForKey"

/-- The associated value of an error. -/
def associatedValue : ParseError → Option Text
  | .noInterface | .multipleInterfaces | .interfaceHasNoPrivateKey | .peerHasNoPublicKey
  | .multiplePeersWithSamePublicKey => none
  | .invalidLine s | .interfaceHasInvalidPrivateKey s | .interfaceHasInvalidListenPort s
  | .interfaceHasInvalidAddress s | .interfaceHasInvalidMTU s | .interfaceHasUnrecognizedKey s
  | .peerHasInvalidPublicKey s | .peerHasInvalidPreSharedKey s | .peerHasInvalidAllowedIP s
  | .peerHasInvalidEndpoint s | .peerHasInvalidPersistentKeepAlive s | .peerHasUnrecognizedKey s
  | .multipleEntriesForKey s => some s

/-- `"\(error)"` -/
def errorDescription (error : ParseError) : Text :=
  (caseName error).toList ++ (associatedValue error).elim [] fun s => '(' :: debugDescription s ++ [')']

/-- `if let value { … }`, a message or a part of one. -/
def optionMessage (label : String) (value : Option Text) : List Text :=
  value.toList.map fun value => label.toList ++ value

section Messages

variable [Network]

/-- The messages about the interface. -/
def interfaceMessages (iface : InterfaceConfiguration) : List Text :=
  let hasAnyAWGParam := iface.junkPacketCount.isSome || iface.initPacketMagicHeader.isSome
  let awg31Params :=
    (if iface.headerProtectionKey.isSome then ["HeaderProtectionKey".toList] else []) ++
    optionMessage "ContentPaddingAddition=" iface.contentPaddingAddition ++
    optionMessage "RekeyAfterTime=" iface.rekeyAfterTime ++
    optionMessage "RekeyTimeout=" iface.rekeyTimeout ++
    optionMessage "RejectAfterTime=" iface.rejectAfterTime ++
    optionMessage "KeepaliveTimeout=" iface.keepaliveTimeout ++
    optionMessage "MaxHandshakeAttempts=" iface.maxHandshakeAttempts ++
    optionMessage "RandomTrailers=" iface.randomTrailers ++
    optionMessage "DisableCookies=" iface.disableCookies
  ["AWG interface: addresses=".toList ++
      arrayDescription (iface.addresses.map IPAddressRange.stringRepresentation),
    "AWG interface: dns=".toList ++ arrayDescription (iface.dns.map fun server => server.address.text),
    "AWG interface: mtu=".toList ++ (iface.mtu.map number).getD "auto".toList,
    "AWG obfuscation params present: ".toList ++ (if hasAnyAWGParam then "true" else "false").toList] ++
  optionMessage "AWG Jc=" (iface.junkPacketCount.map number) ++
  optionMessage "AWG Jmin=" (iface.junkPacketMinSize.map number) ++
  optionMessage "AWG Jmax=" (iface.junkPacketMaxSize.map number) ++
  optionMessage "AWG S1=" (iface.initPacketJunkSize.map number) ++
  optionMessage "AWG S2=" (iface.responsePacketJunkSize.map number) ++
  optionMessage "AWG S3=" (iface.cookiePacketJunkSize.map number) ++
  optionMessage "AWG S4=" (iface.transportPacketJunkSize.map number) ++
  optionMessage "AWG H1=" iface.initPacketMagicHeader ++
  optionMessage "AWG H2=" iface.responsePacketMagicHeader ++
  optionMessage "AWG H3=" iface.underloadPacketMagicHeader ++
  optionMessage "AWG H4=" iface.transportPacketMagicHeader ++
  optionMessage "AWG I1=" iface.initPacketData1 ++
  optionMessage "AWG I2=" iface.initPacketData2 ++
  optionMessage "AWG I3=" iface.initPacketData3 ++
  optionMessage "AWG I4=" iface.initPacketData4 ++
  optionMessage "AWG I5=" iface.initPacketData5 ++
  if awg31Params = [] then [] else ["AWG 3.1 params: ".toList ++ joined ", ".toList awg31Params]

/-- The messages about a peer. -/
def peerMessages (peer : PeerConfiguration) (idx : ℕ) : List Text :=
  let label := "AWG peer[".toList ++ digits idx
  [label ++ "]: endpoint=".toList ++ (peer.endpoint.map Endpoint.stringRepresentation).getD "none".toList,
    label ++ "]: allowedIPs=".toList ++
      arrayDescription (peer.allowedIPs.map IPAddressRange.stringRepresentation),
    label ++ "]: keepalive=".toList ++ (peer.persistentKeepAlive.map number).getD "none".toList]

/-- `logInterface` -/
def logInterface (tunnelConfig : TunnelConfiguration InterfaceConfiguration) : List Text :=
  interfaceMessages tunnelConfig.interface ++
    tunnelConfig.peers.zipIdx.flatMap fun p => peerMessages p.1 p.2

/-- The messages after the text has been parsed, or not. -/
def parseMessages :
    Except ParseError (TunnelConfiguration InterfaceConfiguration) → List Text
  | .error error => ["ERROR: Failed to parse AmneziaWG config: ".toList ++ errorDescription error]
  | .ok tunnelConfig => logInterface tunnelConfig ++ ["AWG starting adapter...".toList]

/-- `startTunnel`: the messages up to the start of the adapter. -/
def startTunnel [Characters] (providerConfiguration : Option ProviderConfiguration) : List Text :=
  "AmneziaWG tunnel extension starting".toList :: match providerConfiguration with
    | none => ["ERROR: Missing provider configuration".toList]
    | some providerConfig => match providerConfig.wgQuickConfig with
      | none => ["ERROR: Missing AmneziaWG configuration".toList]
      | some wgQuickConfig =>
        ("AmneziaWG config received (".toList ++ digits (count wgQuickConfig) ++ " chars)".toList) ::
          (wgQuickConfig.splitOn '\n').filterMap rawLine ++ parseMessages (amneziaWGKit.parse wgQuickConfig)

end Messages

/-! ### The rows in two runs -/

/-- A row that is left out. -/
def isRedacted (line : Text) : Bool :=
  hasPrefix (lowercased (trimWhitespaces line)) "privatekey".toList ||
    hasPrefix (lowercased (trimWhitespaces line)) "headerprotectionkey".toList

/-- The rows of the two texts. -/
lemma SameButSecrets.rows {s t : Text} (h : SameButSecrets s t) :
    List.Forall₂ SameButSecrets (s.splitOn '\n') (t.splitOn '\n') := by
  have hbreak : ∀ {line : Text}, (∀ c ∈ line, isNewline c = false) → '\n' ∉ line := fun hline hmem =>
    absurd (hline _ hmem) (by decide)
  induction h with
  | last h =>
    rw [List.splitOn_eq_singleton (hbreak h.oneLine.1), List.splitOn_eq_singleton (hbreak h.oneLine.2)]
    exact .cons (.last h) .nil
  | @line line line' s t c h hc _ ih =>
    by_cases hrow : c = '\n'
    · subst hrow
      rw [List.splitOn_append_cons_self, List.splitOn_append_cons_self,
        List.splitOn_eq_singleton (hbreak h.oneLine.1), List.splitOn_eq_singleton (hbreak h.oneLine.2)]
      exact .cons (.last h) ih
    · -- another line break does not end the row
      obtain ⟨r, rs, hs⟩ := List.exists_cons_of_ne_nil (List.splitOn_ne_nil '\n' s)
      obtain ⟨r', rs', ht⟩ := List.exists_cons_of_ne_nil (List.splitOn_ne_nil '\n' t)
      rw [hs, ht] at ih
      obtain ⟨hr, hrs⟩ := List.forall₂_cons.1 ih
      have happend : ∀ {line s r : Text} {rs : List Text}, (∀ c ∈ line, isNewline c = false) →
          s.splitOn '\n' = r :: rs → (line ++ c :: s).splitOn '\n' = (line ++ c :: r) :: rs := by
        intro line s r rs hline hs
        rw [List.splitOn_eq_splitOnP] at hs
        have hfirst : (line ++ [c]).splitOn '\n' = [] ++ [line ++ [c]] := by
          refine List.splitOn_eq_singleton fun hmem => ?_
          rcases List.mem_append.1 hmem with hmem | hmem
          · exact hbreak hline hmem
          · exact hrow (List.mem_singleton.1 hmem).symm
        rw [List.splitOn_eq_splitOnP] at hfirst
        have hsplit := splitOnP_append hfirst hs
        rw [List.append_assoc, List.append_assoc] at hsplit
        rw [List.splitOn_eq_splitOnP]
        exact hsplit
      rw [happend h.oneLine.1 hs, happend h.oneLine.2 ht]
      exact .cons (.line h hc hr) hrs

/-- Where two texts begin to differ: behind an equals sign or a line break. -/
lemma SameButSecrets.eq_or {s t : Text} (h : SameButSecrets s t) :
    s = t ∨ ∃ u c v v', s = u ++ c :: v ∧ t = u ++ c :: v' ∧ (c = '=' ∨ isNewline c) := by
  cases h with
  | last h =>
    cases h with
    | same => exact Or.inl rfl
    | secret => exact Or.inr ⟨_, '=', _, _, rfl, rfl, Or.inl rfl⟩
  | @line line line' s t c h hc _ =>
    cases h with
    | same => exact Or.inr ⟨line, c, s, t, rfl, rfl, Or.inr hc⟩
    | @secret name gap rest value value' =>
      refine Or.inr ⟨name, '=', gap ++ value ++ rest ++ c :: s, gap ++ value' ++ rest ++ c :: t, ?_, ?_, Or.inl rfl⟩
      · simp
      · simp

lemma white_of_break {c : Char} (hc : c = '=' ∨ isNewline c) :
    isWhitespace c = false ∧ lowercaseMapping c = [c] ∧ c ∉ "privatekey".toList ∧
      c ∉ "headerprotectionkey".toList := by
  have hletters : (("privatekey".toList ++ "headerprotectionkey".toList).all fun c => !isNewline c) = true := by
    decide +kernel
  have hletter : ∀ c ∈ "privatekey".toList ++ "headerprotectionkey".toList, isNewline c = false := by
    intro c hmem
    simpa using List.all_eq_true.1 hletters c hmem
  rcases hc with rfl | hc
  · decide
  · refine ⟨isWhitespace_of_isNewline hc, lowercaseMapping_of_isNewline hc, fun hmem => ?_, fun hmem => ?_⟩
    · rw [hletter c (List.mem_append_left _ hmem)] at hc
      cases hc
    · rw [hletter c (List.mem_append_right _ hmem)] at hc
      cases hc

/-- How a row begins is decided before the first equals sign. -/
lemma hasPrefix_trim {u v key : Text} {c : Char} (hwhite : isWhitespace c = false)
    (hlower : lowercaseMapping c = [c]) (hkey : c ∉ key) :
    hasPrefix (lowercased (trimWhitespaces (u ++ c :: v))) key =
      hasPrefix (lowercased (u.dropWhile isWhitespace)) key := by
  have hsplit : lowercased (trimWhitespaces (u ++ c :: v)) =
      lowercased (u.dropWhile isWhitespace) ++ c :: lowercased (v.rdropWhile isWhitespace) := by
    rw [trimWhitespaces, trim_split hwhite, lowercased_append]
    congr 1
    rw [lowercased, List.flatMap_cons, hlower]
    rfl
  rw [Bool.eq_iff_iff, hasPrefix_eq_true, hasPrefix_eq_true, hsplit]
  exact prefix_append_cons_iff hkey

/-- The two rows are left out for the same key, and are blank, or not. -/
lemma SameButSecrets.begins {r r' : Text} (h : SameButSecrets r r') :
    (∀ key ∈ ["privatekey".toList, "headerprotectionkey".toList],
      hasPrefix (lowercased (trimWhitespaces r)) key = hasPrefix (lowercased (trimWhitespaces r')) key) ∧
    (trimWhitespaces r = [] ↔ trimWhitespaces r' = []) := by
  rcases h.eq_or with rfl | ⟨u, c, v, v', rfl, rfl, hc⟩
  · exact ⟨fun _ _ => rfl, Iff.rfl⟩
  · obtain ⟨hwhite, hlower, hprivate, hheader⟩ := white_of_break hc
    constructor
    · intro key hkey
      have hkey : c ∉ key := by
        rcases List.mem_cons.1 hkey with rfl | hkey
        · exact hprivate
        · exact List.mem_singleton.1 hkey ▸ hheader
      rw [hasPrefix_trim hwhite hlower hkey, hasPrefix_trim hwhite hlower hkey]
    · have hne : ∀ w : Text, trimWhitespaces (u ++ c :: w) ≠ [] := by
        intro w
        rw [trimWhitespaces, trim_split hwhite]
        simp
      exact iff_of_false (hne v) (hne v')

lemma IsValue.rdropWhile {value : Text} (h : IsValue value) : value.rdropWhile isWhitespace = value := by
  have htrim : trim isWhitespace value = value := h.trimmed
  rw [trim, dropWhile_of_trim htrim] at htrim
  exact htrim

/-- A value that is shown can be told from another one. -/
lemma SameButSecrets.eq_of_rdropWhile {s t : Text} (h : SameButSecrets s t)
    (heq : s.rdropWhile isWhitespace = t.rdropWhile isWhitespace) : s = t := by
  have hlength : ∀ {line line' : Text}, SameButSecret line line' → line.length = line'.length := fun h =>
    (SameButSecrets.last h).length_eq
  induction h with
  | last h =>
    cases h with
    | same => rfl
    | secret hframe hvalue hvalue' hlen =>
      rw [rdropWhile_append_cons (by decide), rdropWhile_append_cons (by decide)] at heq
      have heq := (List.cons.inj (List.append_cancel_left heq)).2
      rw [eq_of_rdropWhile_eq hvalue.rdropWhile hvalue'.rdropWhile hlen heq]
  | line h hc _ ih =>
    have hwhite := isWhitespace_of_isNewline hc
    rw [rdropWhile_append_cons hwhite, rdropWhile_append_cons hwhite] at heq
    obtain ⟨hline, hrest⟩ := List.append_inj heq (hlength h)
    rw [hline, ih (List.cons.inj hrest).2]

lemma SameButSecrets.eq_of_trim {r r' : Text} (h : SameButSecrets r r')
    (heq : trimWhitespaces r = trimWhitespaces r') : r = r' := by
  rcases h.eq_or with rfl | ⟨u, c, v, v', rfl, rfl, hc⟩
  · rfl
  · obtain ⟨hwhite, -⟩ := white_of_break hc
    rw [trimWhitespaces, trimWhitespaces, trim_split hwhite, trim_split hwhite] at heq
    refine h.eq_of_rdropWhile ?_
    rw [rdropWhile_append_cons hwhite, rdropWhile_append_cons hwhite, List.append_cancel_left heq]

/-- **A row in two runs.**  What is logged of it is the same, if it is the same or left out. -/
theorem SameButSecrets.rawLine {r r' : Text} (h : SameButSecrets r r') :
    (AmneziaWG.rawLine r).isSome = (AmneziaWG.rawLine r').isSome ∧
      (AmneziaWG.rawLine r = AmneziaWG.rawLine r' ↔ r = r' ∨ isRedacted r) := by
  obtain ⟨hkeys, hblank⟩ := h.begins
  have hprivate := hkeys "privatekey".toList (by decide)
  have hheader := hkeys "headerprotectionkey".toList (by decide)
  unfold AmneziaWG.rawLine isRedacted
  dsimp only
  rw [← hprivate, ← hheader]
  split_ifs with h₁ h₂ h₃ h₄ h₄
  · exact ⟨rfl, iff_of_true rfl (Or.inr (by rw [h₁]; rfl))⟩
  · exact ⟨rfl, iff_of_true rfl (Or.inr (by rw [h₂, Bool.or_true]))⟩
  · refine ⟨rfl, ?_⟩
    rw [Option.some.injEq, List.append_cancel_left_eq, Bool.eq_false_iff.2 h₁, Bool.eq_false_iff.2 h₂]
    constructor
    · exact fun heq => Or.inl (h.eq_of_trim heq)
    · rintro (rfl | hfalse)
      · rfl
      · cases hfalse
  · exact absurd (hblank.2 (not_not.1 h₄)) h₃
  · exact absurd (hblank.1 (not_not.1 h₃)) h₄
  · have hr : r = r' := h.eq_of_trim (by rw [not_not.1 h₃, not_not.1 h₄])
    exact ⟨rfl, iff_of_true rfl (Or.inl hr)⟩

/-! ### The log in two runs -/

section Runs

variable [Network]

/-- The two configurations are logged alike. -/
lemma interfaceMessages_congr {i i' : InterfaceConfiguration} (h : SameInterface i i') :
    interfaceMessages i = interfaceMessages i' := by
  obtain ⟨k, p, rfl⟩ : ∃ k p, i' = { i with privateKey := k, headerProtectionKey := p } := ⟨_, _, h.eq⟩
  have hsome : i.headerProtectionKey.isSome = p.isSome := h.isSome
  unfold interfaceMessages
  rw [hsome]

lemma peerMessages_congr {ps ps' : List PeerConfiguration} (h : List.Forall₂ SamePeer ps ps') (n : ℕ) :
    (ps.zipIdx n).flatMap (fun p => peerMessages p.1 p.2) =
      (ps'.zipIdx n).flatMap fun p => peerMessages p.1 p.2 := by
  induction h generalizing n with
  | nil => rfl
  | @cons p p' ps ps' hp _ ih =>
    have hpeer : peerMessages p n = peerMessages p' n := by
      rw [hp]
      rfl
    rw [List.zipIdx_cons, List.zipIdx_cons, List.flatMap_cons, List.flatMap_cons, ih, hpeer]

lemma logInterface_congr {T T' : TunnelConfiguration InterfaceConfiguration} (h : SameConfiguration T T') :
    logInterface T = logInterface T' := by
  rw [logInterface, logInterface, interfaceMessages_congr h.interface, peerMessages_congr h.peers]

/-- Both texts are parsed, or both fail with the same kind of error. -/
def SameOutcome : Except ParseError (TunnelConfiguration InterfaceConfiguration) →
    Except ParseError (TunnelConfiguration InterfaceConfiguration) → Prop
  | .ok _, .ok _ => True
  | .error e, .error e' => caseName e = caseName e'
  | _, _ => False

/-- Two texts that are parsed end alike. -/
lemma sameOutcome_of_isOk {x y : Except ParseError (TunnelConfiguration InterfaceConfiguration)}
    (hx : x.isOk = true) (hy : y.isOk = true) : SameOutcome x y := by
  obtain ⟨T, rfl⟩ := exists_of_isOk hx
  obtain ⟨T', rfl⟩ := exists_of_isOk hy
  trivial

omit [Network] in
/-- Two errors of a key of the same kind are told apart by their values. -/
lemma errorDescription_inj {e e' : ParseError} (hkey : IsKeyError e ∨ IsKeyError e')
    (hname : caseName e = caseName e') : errorDescription e = errorDescription e' ↔ e = e' := by
  refine ⟨fun h => ?_, fun h => h ▸ rfl⟩
  have hvalue : ∀ {s s' : Text}, '(' :: debugDescription s ++ [')'] = '(' :: debugDescription s' ++ [')'] →
      s = s' := fun heq =>
    debugDescription_inj.1 (List.append_cancel_right (List.cons.inj heq).2)
  unfold errorDescription at h
  rw [hname] at h
  have h := List.append_cancel_left h
  rcases hkey with hkey | hkey
  · cases e with
    | interfaceHasInvalidPrivateKey s =>
      cases e' <;> simp only [caseName, String.reduceEq] at hname
      rw [hvalue h]
    | peerHasInvalidPreSharedKey s =>
      cases e' <;> simp only [caseName, String.reduceEq] at hname
      rw [hvalue h]
    | _ => exact hkey.elim
  · cases e' with
    | interfaceHasInvalidPrivateKey s =>
      cases e <;> simp only [caseName, String.reduceEq] at hname
      rw [hvalue h]
    | peerHasInvalidPreSharedKey s =>
      cases e <;> simp only [caseName, String.reduceEq] at hname
      rw [hvalue h]
    | _ => exact hkey.elim

/-- The messages about the parsed texts. -/
lemma parseMessages_eq_iff {x y : Except ParseError (TunnelConfiguration InterfaceConfiguration)}
    (hagree : Agree IsKeyError SameConfiguration x y) (hsame : SameOutcome x y) :
    parseMessages x = parseMessages y ↔
      ∀ e e', x = .error e → y = .error e' → IsKeyError e ∨ IsKeyError e' → e = e' := by
  cases x with
  | ok T =>
    cases y with
    | error e => exact hsame.elim
    | ok T' =>
      refine iff_of_true ?_ fun e e' he => nomatch he
      rcases hagree.cases_eq with ⟨_, _, hT, hT', h⟩ | ⟨e, he, -⟩ | ⟨e, -, he⟩ | ⟨e, -, he⟩
      · cases hT
        cases hT'
        rw [parseMessages, parseMessages, logInterface_congr h]
      · cases he
      · cases he
      · cases he
  | error e =>
    cases y with
    | ok T' => exact hsame.elim
    | error e' =>
      have hmessage : parseMessages (.error e) = parseMessages (.error e') ↔
          errorDescription e = errorDescription e' := by
        rw [parseMessages, parseMessages, List.singleton_inj, List.append_cancel_left_eq]
      have hname : caseName e = caseName e' := hsame
      rw [hmessage]
      constructor
      · intro h f f' hf hf' hkey
        cases hf
        cases hf'
        exact (errorDescription_inj hkey hname).1 h
      · intro h
        rcases hagree.cases_eq with ⟨_, _, hT, -⟩ | ⟨f, hf, hf'⟩ | ⟨f, hkey, hf⟩ | ⟨f, hkey, hf⟩
        · cases hT
        · cases hf
          cases hf'
          rfl
        · cases hf
          rw [h e e' rfl rfl (Or.inl hkey)]
        · cases hf
          rw [h e e' rfl rfl (Or.inr hkey)]

/-- What the extension is started with. -/
def amneziaProvider (wgQuickConfig : Text) : Option ProviderConfiguration :=
  some { protocolType := "amneziaWG", wgQuickConfig := some wgQuickConfig }

variable [Characters]

/-- What the log does not tell: the texts have as many `Character`s, every row that differs begins with
one of the two keys that are left out, and a key that cannot be read is the same in both. -/
structure Hidden (s t : Text) : Prop where
  count : count s = count t
  rows : List.Forall₂ (fun row row' => row = row' ∨ isRedacted row) (s.splitOn '\n') (t.splitOn '\n')
  keys : ∀ e e', amneziaWGKit.parse s = .error e → amneziaWGKit.parse t = .error e' →
    IsKeyError e ∨ IsKeyError e' → e = e'

/-- **When the log keeps the keys.**  For two texts that are the same but for the values of their keys,
and end alike in the parser, the same messages are logged, if and only if the keys are hidden. -/
theorem startTunnel_eq_iff {s t : Text} (h : SameButSecrets s t)
    (hsame : SameOutcome (amneziaWGKit.parse s) (amneziaWGKit.parse t)) :
    startTunnel (amneziaProvider s) = startTunnel (amneziaProvider t) ↔ Hidden s t := by
  have hrows : List.Forall₂ (fun r r' => rawLine r = rawLine r' ↔ r = r' ∨ isRedacted r) (s.splitOn '\n')
      (t.splitOn '\n') := h.rows.imp fun _ _ hr => hr.rawLine.2
  have hsome : List.Forall₂ (fun r r' => (rawLine r).isSome = (rawLine r').isSome) (s.splitOn '\n')
      (t.splitOn '\n') := h.rows.imp fun _ _ hr => hr.rawLine.1
  have hraw : (s.splitOn '\n').filterMap rawLine = (t.splitOn '\n').filterMap rawLine ↔
      List.Forall₂ (fun row row' => row = row' ∨ isRedacted row) (s.splitOn '\n') (t.splitOn '\n') := by
    rw [filterMap_eq_filterMap_iff hsome]
    exact ⟨List.Forall₂.mp (fun _ _ => Iff.mp) hrows, List.Forall₂.mp (fun _ _ => Iff.mpr) hrows⟩
  have hreceived : ∀ n : ℕ, "AmneziaWG config received (".toList ++ digits n ++ " chars)".toList =
      "AmneziaWG config received (".toList ++ (digits n ++ " chars)".toList) := fun n => List.append_assoc ..
  have hparse := parseMessages_eq_iff (agree_parse h) hsame
  simp only [startTunnel, amneziaProvider]
  constructor
  · intro heq
    obtain ⟨hcount, hrest⟩ := List.cons.inj (List.cons.inj heq).2
    obtain ⟨hrows, hmessages⟩ := List.append_inj hrest (length_filterMap_eq hsome)
    have hcount := List.append_cancel_left (List.append_cancel_right hcount)
    exact ⟨digits_inj.1 hcount, hraw.1 hrows, hparse.1 hmessages⟩
  · rintro ⟨hcount, hrows, hkeys⟩
    rw [hcount, hraw.2 hrows, hparse.2 hkeys]

end Runs

/-! ### A key that is logged -/

section Examples

open scoped FreeVPN.WgQuick.Dotted FreeVPN.Foundation.Ascii

/-- A key of 32 bytes, all but the first of which are zero. -/
def keyText (first : Char) : Text := first :: (List.replicate 42 'A' ++ ['='])

/-- A profile with two keys. -/
def keyProfile (privateKey presharedKey : Char) : Text :=
  "[Interface]".toList ++ '\n' ::
    ("PrivateKey".toList ++ '=' :: ([' '] ++ keyText privateKey ++ []) ++ '\n' ::
      ("[Peer]".toList ++ '\n' :: ("PublicKey=".toList ++ keyText 'C' ++ '\n' ::
        ("PresharedKey".toList ++ '=' :: ([' '] ++ keyText presharedKey ++ [])))))

lemma isValue_keyText : ∀ first ∈ ['A', 'B'], IsValue (keyText first) := by
  have hall : (['A', 'B'].all fun first => trimWhitespaces (keyText first) = keyText first &&
      !(keyText first).contains '#' && (keyText first).all fun c => !isNewline c) = true := by
    decide +kernel
  intro first hfirst
  have h := List.all_eq_true.1 hall first hfirst
  simp only [Bool.and_eq_true, decide_eq_true_eq, Bool.not_eq_true', List.contains_iff_mem,
    ← Bool.not_eq_true, List.all_eq_true] at h
  exact ⟨h.1.1, h.1.2, fun c hc => Bool.eq_false_iff.2 (h.2 c hc)⟩

/-- Two of these profiles differ in their keys only. -/
lemma sameButSecrets_keyProfile {a b c d : Char} (ha : a ∈ ['A', 'B']) (hb : b ∈ ['A', 'B'])
    (hc : c ∈ ['A', 'B']) (hd : d ∈ ['A', 'B']) : SameButSecrets (keyProfile a c) (keyProfile b d) := by
  have hline : ∀ line : Text, (line.all fun c => !isNewline c) = true → SameButSecret line line :=
    fun line hall => .same fun c hc => by simpa using List.all_eq_true.1 hall c hc
  have hsecret : ∀ name ∈ ["PrivateKey".toList, "PresharedKey".toList], ∀ a ∈ ['A', 'B'], ∀ b ∈ ['A', 'B'],
      SameButSecret (name ++ '=' :: ([' '] ++ keyText a ++ [])) (name ++ '=' :: ([' '] ++ keyText b ++ [])) := by
    have hnames : (["PrivateKey".toList, "PresharedKey".toList].all fun name =>
        secretKeys.contains (lowercased (trimWhitespaces name)) && name.all fun c => !isNewline c) = true := by
      decide +kernel
    intro name hname a ha b hb
    have h := List.all_eq_true.1 hnames name hname
    simp only [Bool.and_eq_true, Bool.not_eq_true', List.contains_iff_mem, List.all_eq_true] at h
    exact .secret ⟨h.1, h.2, List.all_eq_true.1 (by decide), rfl, nofun⟩ (isValue_keyText a ha) (isValue_keyText b hb) rfl
  refine .line (hline _ (by decide +kernel)) (by decide) ?_
  refine .line (hsecret _ (by decide) a ha b hb) (by decide) ?_
  refine .line (hline _ (by decide +kernel)) (by decide) ?_
  refine .line (hline _ (by decide +kernel)) (by decide) ?_
  exact .last (hsecret _ (by decide) c hc d hd)

/-- The row of a `PresharedKey` is logged as it stands. -/
theorem not_startTunnel_presharedKey :
    ¬∀ s t : Text, SameButSecrets s t → SameOutcome (amneziaWGKit.parse s) (amneziaWGKit.parse t) →
      startTunnel (amneziaProvider s) = startTunnel (amneziaProvider t) := by
  intro h
  have hsame : SameOutcome (amneziaWGKit.parse (keyProfile 'A' 'A')) (amneziaWGKit.parse (keyProfile 'A' 'B')) :=
    sameOutcome_of_isOk (by decide +kernel) (by decide +kernel)
  have hlog : startTunnel (amneziaProvider (keyProfile 'A' 'A')) ≠
      startTunnel (amneziaProvider (keyProfile 'A' 'B')) := by decide +kernel
  exact hlog (h _ _ (sameButSecrets_keyProfile (by decide) (by decide) (by decide) (by decide)) hsame)

/-- That of a `PrivateKey` is not. -/
theorem startTunnel_privateKey :
    startTunnel (amneziaProvider (keyProfile 'A' 'A')) = startTunnel (amneziaProvider (keyProfile 'B' 'A')) := by
  have hparse : ∀ a ∈ ['A', 'B'], (amneziaWGKit.parse (keyProfile a 'A')).isOk = true :=
    List.all_eq_true.1 (by decide +kernel)
  refine (startTunnel_eq_iff (sameButSecrets_keyProfile (by decide) (by decide) (by decide) (by decide))
    (sameOutcome_of_isOk (hparse 'A' (by decide)) (hparse 'B' (by decide)))).2 ⟨by decide +kernel, ?_, ?_⟩
  · decide +kernel
  · intro e e' he
    obtain ⟨T, hT⟩ := exists_of_isOk (hparse 'A' (by decide))
    rw [hT] at he
    cases he

end Examples

end FreeVPN.AmneziaWG
