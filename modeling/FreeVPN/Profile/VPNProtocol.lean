import FreeVPN.Profile.WireGuardConfig

/-!
# Protocols

`VPNProtocol.swift`: how the app tells the protocol of an uploaded text, and what it asks of an
OpenVPN text.  `isWireGuardFamily_of_validate` says that the validation of WireGuard texts implies
the test by which the app tells that a text is one.
-/

namespace FreeVPN.Profile

open FreeVPN.Lib FreeVPN.Foundation FreeVPN.WgQuick

/-! ### Detection -/

/-- `AmneziaWGKeys.interfaceKeys` -/
def AmneziaWGKeys.interfaceKeys : List Text :=
  ["jc".toList, "jmin".toList, "jmax".toList,
    "s1".toList, "s2".toList, "s3".toList, "s4".toList,
    "h1".toList, "h2".toList, "h3".toList, "h4".toList,
    "i1".toList, "i2".toList, "i3".toList, "i4".toList, "i5".toList,
    "headerprotectionkey".toList, "contentpaddingaddition".toList,
    "rekeyaftertime".toList, "rekeytimeout".toList, "rejectaftertime".toList,
    "keepalivetimeout".toList, "maxhandshakeattempts".toList,
    "randomtrailers".toList, "disablecookies".toList]

/-- `VPNProtocolType` -/
inductive VPNProtocolType
  | wireGuard
  | openVPN
  | amneziaWG
  deriving DecidableEq

/-- `rawValue` -/
def VPNProtocolType.rawValue : VPNProtocolType → String
  | .wireGuard => "wireGuard"
  | .openVPN => "openVPN"
  | .amneziaWG => "amneziaWG"

/-- `displayName` -/
def VPNProtocolType.displayName : VPNProtocolType → String
  | .wireGuard => "WireGuard"
  | .openVPN => "OpenVPN"
  | .amneziaWG => "AmneziaWG"

section Detection

variable [Unicode]

/-- `lower.contains("[interface]") && lower.contains("[peer]") && lower.contains("privatekey")` -/
def isWireGuardFamily (configString : Text) : Bool :=
  let lower := lowercased configString
  contains lower "[interface]".toList && contains lower "[peer]".toList &&
    contains lower "privatekey".toList

/-- `hasAWGParams`: a line assigns one of the AmneziaWG keys. -/
def hasAWGParams (configString : Text) : Bool :=
  (components configString).any fun line =>
    let trimmed := lowercased (trimWhitespaces line)
    AmneziaWGKeys.interfaceKeys.any fun key =>
      hasPrefix trimmed key && hasPrefix (trimWhitespaces (trimmed.drop key.length)) ['=']

/-- `hasClient`: a line is the `client` directive. -/
def hasClient (lower : Text) : Bool :=
  (components lower).any fun line => trimWhitespaces line = "client".toList

/-- `lower.contains("remote ") || lower.contains("<ca>") || hasClient` -/
def looksLikeOpenVPN (configString : Text) : Bool :=
  let lower := lowercased configString
  contains lower "remote ".toList || contains lower "<ca>".toList || hasClient lower

/-- `VPNProtocolType.detect(from:)` -/
def VPNProtocolType.detect (configString : Text) : VPNProtocolType :=
  if isWireGuardFamily configString then
    if hasAWGParams configString then .amneziaWG else .wireGuard
  else if looksLikeOpenVPN configString then .openVPN
  else .wireGuard

end Detection

/-! ### OpenVPN texts -/

namespace OpenVPNConfig

/-- `OpenVPNConfig.validate` -/
def validate [Unicode] (configString : Text) : Option String :=
  let trimmed := trimWhitespacesAndNewlines configString
  if trimmed = [] then some "The configuration is empty."
  else
    let lower := lowercased trimmed
    if !contains lower "remote ".toList then
      some "Missing 'remote' directive. An OpenVPN config must specify at least one remote server."
    else
      let hasInlineCA := contains lower "<ca>".toList
      let hasCAFile := (components lower).any fun line => hasPrefix (trimWhitespaces line) "ca ".toList
      if !hasInlineCA && !hasCAFile then
        some "Missing CA certificate. An OpenVPN config must include a <ca> block or 'ca' file reference."
      else none

/-- The endpoint that a line of `extractEndpoint` gives. -/
def endpointOfLine (line : Text) : Option Text :=
  let trimmed := trimWhitespaces line
  if hasPrefix (lowercased trimmed) "remote ".toList then
    match splitMax ' ' 3 trimmed with
    | _ :: host :: port :: _ => some (host ++ ':' :: port)
    | [_, host] => some host
    | _ => none
  else none

/-- `extractEndpoint(from:)` -/
def extractEndpoint (configString : Text) : Option Text :=
  (components configString).findSome? endpointOfLine

/-- `requiresAuth` -/
def requiresAuth (configString : Text) : Bool :=
  (components configString).any fun line =>
    hasPrefix (lowercased (trimWhitespaces line)) "auth-user-pass".toList

/-- `displayName(from:)` -/
def displayName (configString : Text) : Text :=
  match extractEndpoint configString with
  | some endpoint => before ':' endpoint
  | none => "OpenVPN".toList

end OpenVPNConfig

/-! ### White space around a text -/

lemma profileLine_congr {line line' : Text} (h : trimWhitespaces line = trimWhitespaces line') :
    profileLine line = profileLine line' := by
  unfold profileLine
  rw [h]

/-- White space around a text does not count. -/
lemma profileSections_trim (s : Text) : profileSections (trimWhitespacesAndNewlines s) = profileSections s := by
  have hlines : ∀ x, (components x).map profileLine = ((components x).map trimWhitespaces).map profileLine := by
    intro x
    rw [List.map_map]
    exact List.map_congr_left fun line _ => profileLine_congr (trim_trim line).symm
  have hblank : ∀ ls : List Text, (∀ l ∈ ls, l = []) → ∀ line ∈ ls.map profileLine, line = .blank := by
    intro ls hls line hline
    obtain ⟨l, hl, rfl⟩ := List.mem_map.1 hline
    rw [hls l hl]
    rfl
  obtain ⟨us, vs, hs, hus, hvs⟩ := map_trim_components s
  unfold profileSections
  rw [hlines, hlines s, hs, List.map_append, List.map_append, sections_blank_append (hblank us hus),
    sections_append_blank (hblank vs hvs)]

lemma WireGuardConfig.parse_trim (s : Text) :
    WireGuardConfig.parse (trimWhitespacesAndNewlines s) = WireGuardConfig.parse s := by
  rw [WireGuardConfig.parse_eq, WireGuardConfig.parse_eq, interfaceEntries, peerConfigs,
    profileSections_trim, interfaceEntries, peerConfigs]

/-! ### Valid WireGuard texts -/

/-- **What the validation asks for**: the text can be read, with an address and with no peer whose
public key is blank. -/
theorem WireGuardConfig.validate_eq_none {s : Text} :
    WireGuardConfig.validate s = none ↔ ∃ c, WireGuardConfig.parse s = .ok c ∧
      c.interface.address ≠ [] ∧ ∀ p ∈ c.peers, trimWhitespaces p.publicKey ≠ [] := by
  unfold WireGuardConfig.validate
  dsimp only
  rw [← WireGuardConfig.parse_trim s]
  split_ifs with hblank
  · have hempty : WireGuardConfig.parse [] = .error .missingPrivateKey := rfl
    rw [hblank, hempty]
    simp
  · cases WireGuardConfig.parse (trimWhitespacesAndNewlines s) with
    | error e => simp
    | ok c => by_cases haddress : c.interface.address = [] <;> simp [haddress]

/-- The lines of a text are its parts. -/
lemma infix_of_profileLine {s : Text} {x : Line Header Entry} (h : x ∈ (components s).map profileLine) :
    ∃ line, line <:+: s ∧ profileLine line = x := by
  obtain ⟨line, hline, hx⟩ := List.mem_map.1 h
  exact ⟨line, infix_of_mem_splitOnP hline, hx⟩

/-- The header of a section is in the text. -/
lemma infix_of_word {s : Text} {h : Header} (hb : bodies h (profileSections s) ≠ []) :
    h.word <:+: lowercased s := by
  obtain ⟨es, hes⟩ := List.exists_mem_of_ne_nil _ hb
  obtain ⟨c, hcs, -⟩ := List.mem_map.1 hes
  obtain ⟨hc, hch⟩ := List.mem_filter.1 hcs
  obtain ⟨line, hline, hx⟩ := infix_of_profileLine (header_mem_of_mem_sections hc)
  rw [of_decide_eq_true hch] at hx
  rw [← profileLine_eq_header.1 hx]
  exact lowercased_infix ((infix_of_trim _ line).trans hline)

/-- The key of an entry is in the text. -/
lemma infix_of_key {s : Text} {h : Header} {es : List Entry} (hes : es ∈ bodies h (profileSections s))
    {key : Text} (hv : values key es ≠ []) : key <:+: lowercased s := by
  obtain ⟨v, hv⟩ := List.exists_mem_of_ne_nil _ hv
  obtain ⟨e, hev, -⟩ := List.mem_map.1 hv
  obtain ⟨he, hk⟩ := List.mem_filter.1 hev
  rw [← of_decide_eq_true hk]
  obtain ⟨c, hc, rfl⟩ := List.mem_map.1 hes
  obtain ⟨line, hline, hx⟩ :=
    infix_of_profileLine (entry_mem_of_mem_sections (List.mem_filter.1 hc).1 he)
  obtain ⟨-, k, value, hcut, hek⟩ := profileLine_eq_entry.1 hx
  obtain ⟨hr, -⟩ := cut_eq_some.1 hcut
  have hkey : e.1 <:+: trimWhitespaces line := by
    rw [hek, hr]
    exact (infix_of_trim _ k).trans (List.prefix_append k _).isInfix
  exact lowercased_infix (hkey.trans ((infix_of_trim _ line).trans hline))

/-- **A valid WireGuard text is one of the WireGuard family.** -/
theorem isWireGuardFamily_of_validate {s : Text} (h : WireGuardConfig.validate s = none) :
    isWireGuardFamily s := by
  obtain ⟨c, hc, -⟩ := WireGuardConfig.validate_eq_none.1 h
  obtain ⟨hkey, -, -, hpeers⟩ := WireGuardConfig.parse_eq_ok.1 hc
  -- the private key is an entry of an `[Interface]` section
  obtain ⟨e, he, hek⟩ : ∃ e ∈ interfaceEntries s,
      lowercased e.1 = "privatekey".toList := by
    obtain ⟨e, he, -⟩ := List.mem_map.1 (List.mem_of_getLast? hkey)
    exact ⟨e, (List.mem_filter.1 he).1, of_decide_eq_true (List.mem_filter.1 he).2⟩
  obtain ⟨es, hes, hee⟩ := List.mem_flatten.1 he
  have hvalues : values "privatekey".toList es ≠ [] :=
    List.ne_nil_of_mem (List.mem_map.2 ⟨e, List.mem_filter.2 ⟨hee, decide_eq_true hek⟩, rfl⟩)
  have hpeer : bodies .peer (profileSections s) ≠ [] := fun hnil =>
    hpeers (by rw [peerConfigs, hnil, List.filterMap_nil])
  simp only [isWireGuardFamily, Bool.and_eq_true, contains_eq_true]
  exact ⟨⟨infix_of_word (List.ne_nil_of_mem hes), infix_of_word hpeer⟩, infix_of_key hes hvalues⟩

end FreeVPN.Profile
