import FreeVPN.WgQuick.Sections

/-!
# Tunnel configurations of AmneziaWGKit

The kit is WireGuardKit with more keys in the `[Interface]` section and no complaint about unknown
ones.  `parameters` lists its keys beside those of WireGuard, the keys under which they go to the
device, and how a value is taken over: as a 16-bit number, as it is, or as it is unless it is empty.

`collateInterface_eq_ok` says what the attributes of an `[Interface]` section become; none of the
parameters makes it fail.
-/

namespace FreeVPN.AmneziaWG

open FreeVPN.Lib FreeVPN.Foundation FreeVPN.WgQuick

/-! ### The parameters -/

/-- How the value of a parameter is taken over. -/
inductive Kind
  /-- `UInt16(val)` -/
  | number
  /-- `val` -/
  | header
  /-- `val`, if it is not empty -/
  | data
  deriving DecidableEq

/-- A parameter of the obfuscation. -/
structure Parameter where
  /-- Its key in the `[Interface]` section. -/
  key : Text
  /-- Its key for the device. -/
  uapiKey : Text
  kind : Kind
  deriving DecidableEq

/-- The AmneziaWG keys. -/
def parameters : List Parameter :=
  [⟨"jc".toList, "jc".toList, .number⟩, ⟨"jmin".toList, "jmin".toList, .number⟩,
    ⟨"jmax".toList, "jmax".toList, .number⟩, ⟨"s1".toList, "s1".toList, .number⟩,
    ⟨"s2".toList, "s2".toList, .number⟩, ⟨"s3".toList, "s3".toList, .number⟩,
    ⟨"s4".toList, "s4".toList, .number⟩, ⟨"h1".toList, "h1".toList, .header⟩,
    ⟨"h2".toList, "h2".toList, .header⟩, ⟨"h3".toList, "h3".toList, .header⟩,
    ⟨"h4".toList, "h4".toList, .header⟩, ⟨"i1".toList, "i1".toList, .data⟩,
    ⟨"i2".toList, "i2".toList, .data⟩, ⟨"i3".toList, "i3".toList, .data⟩,
    ⟨"i4".toList, "i4".toList, .data⟩, ⟨"i5".toList, "i5".toList, .data⟩,
    ⟨"headerprotectionkey".toList, "header_protection_key".toList, .data⟩,
    ⟨"contentpaddingaddition".toList, "content_padding_addition".toList, .data⟩,
    ⟨"rekeyaftertime".toList, "rekey_after_time".toList, .data⟩,
    ⟨"rekeytimeout".toList, "rekey_timeout".toList, .data⟩,
    ⟨"rejectaftertime".toList, "reject_after_time".toList, .data⟩,
    ⟨"keepalivetimeout".toList, "keepalive_timeout".toList, .data⟩,
    ⟨"maxhandshakeattempts".toList, "max_handshake_attempts".toList, .data⟩,
    ⟨"randomtrailers".toList, "random_trailers".toList, .data⟩,
    ⟨"disablecookies".toList, "disable_cookies".toList, .data⟩]

/-- `interfaceSectionKeys` -/
def interfaceSectionKeys : List Text :=
  ["privatekey".toList, "listenport".toList, "address".toList, "dns".toList, "mtu".toList,
    "jc".toList, "jmin".toList, "jmax".toList, "s1".toList, "s2".toList, "s3".toList, "s4".toList,
    "h1".toList, "h2".toList, "h3".toList, "h4".toList,
    "i1".toList, "i2".toList, "i3".toList, "i4".toList, "i5".toList,
    "headerprotectionkey".toList, "contentpaddingaddition".toList,
    "rekeyaftertime".toList, "rekeytimeout".toList, "rejectaftertime".toList,
    "keepalivetimeout".toList, "maxhandshakeattempts".toList,
    "randomtrailers".toList, "disablecookies".toList]

/-! ### The configuration -/

section Configuration

variable [Network]

/-- `InterfaceConfiguration` -/
structure InterfaceConfiguration extends WgQuick.InterfaceConfiguration where
  junkPacketCount : Option UInt16
  junkPacketMinSize : Option UInt16
  junkPacketMaxSize : Option UInt16
  initPacketJunkSize : Option UInt16
  responsePacketJunkSize : Option UInt16
  cookiePacketJunkSize : Option UInt16
  transportPacketJunkSize : Option UInt16
  initPacketMagicHeader : Option Text
  responsePacketMagicHeader : Option Text
  underloadPacketMagicHeader : Option Text
  transportPacketMagicHeader : Option Text
  initPacketData1 : Option Text
  initPacketData2 : Option Text
  initPacketData3 : Option Text
  initPacketData4 : Option Text
  initPacketData5 : Option Text
  headerProtectionKey : Option Text
  contentPaddingAddition : Option Text
  rekeyAfterTime : Option Text
  rekeyTimeout : Option Text
  rejectAfterTime : Option Text
  keepaliveTimeout : Option Text
  maxHandshakeAttempts : Option Text
  randomTrailers : Option Text
  disableCookies : Option Text

/-- `if let val = attributes[key] { … = UInt16(val) }` -/
def numberAttribute (val : Option Text) : Option UInt16 := val.bind parseUInt16

/-- `if let val = attributes[key], !val.isEmpty { … = val }` -/
def dataAttribute (val : Option Text) : Option Text := val.filter fun val => val ≠ []

/-- The parameters of an interface, from its attributes. -/
def withParameters (interface : WgQuick.InterfaceConfiguration) (attributes : Attributes) :
    InterfaceConfiguration :=
  { interface with
    junkPacketCount := numberAttribute (attributes "jc".toList)
    junkPacketMinSize := numberAttribute (attributes "jmin".toList)
    junkPacketMaxSize := numberAttribute (attributes "jmax".toList)
    initPacketJunkSize := numberAttribute (attributes "s1".toList)
    responsePacketJunkSize := numberAttribute (attributes "s2".toList)
    cookiePacketJunkSize := numberAttribute (attributes "s3".toList)
    transportPacketJunkSize := numberAttribute (attributes "s4".toList)
    initPacketMagicHeader := attributes "h1".toList
    responsePacketMagicHeader := attributes "h2".toList
    underloadPacketMagicHeader := attributes "h3".toList
    transportPacketMagicHeader := attributes "h4".toList
    initPacketData1 := dataAttribute (attributes "i1".toList)
    initPacketData2 := dataAttribute (attributes "i2".toList)
    initPacketData3 := dataAttribute (attributes "i3".toList)
    initPacketData4 := dataAttribute (attributes "i4".toList)
    initPacketData5 := dataAttribute (attributes "i5".toList)
    headerProtectionKey := dataAttribute (attributes "headerprotectionkey".toList)
    contentPaddingAddition := dataAttribute (attributes "contentpaddingaddition".toList)
    rekeyAfterTime := dataAttribute (attributes "rekeyaftertime".toList)
    rekeyTimeout := dataAttribute (attributes "rekeytimeout".toList)
    rejectAfterTime := dataAttribute (attributes "rejectaftertime".toList)
    keepaliveTimeout := dataAttribute (attributes "keepalivetimeout".toList)
    maxHandshakeAttempts := dataAttribute (attributes "maxhandshakeattempts".toList)
    randomTrailers := dataAttribute (attributes "randomtrailers".toList)
    disableCookies := dataAttribute (attributes "disablecookies".toList) }

/-- `collate(interfaceAttributes:)`: as in WireGuardKit, and the parameters. -/
def collateInterface (attributes : Attributes) : Except ParseError InterfaceConfiguration :=
  (WgQuick.collateInterface attributes).map fun interface => withParameters interface attributes

/-- The parser of AmneziaWGKit. -/
def amneziaWGKit : Kit InterfaceConfiguration where
  interfaceSectionKeys := interfaceSectionKeys
  strict := false
  collate := collateInterface

end Configuration

/-! ### What is assigned -/

/-- The value with which a parameter is taken over. -/
def Parameter.value (p : Parameter) (val : Option Text) : Option Text :=
  match p.kind with
  | .number => (numberAttribute val).map fun n => digits n.toNat
  | .header => val
  | .data => dataAttribute val

/-- The entries of the `[Interface]` sections of a text. -/
def interfaceEntries (s : Text) : List Entry :=
  (bodies .interface (sections ((lines s).filterMap readLine)).2).flatten

lemma parameters_spec :
    (∀ p ∈ parameters, p.key ∈ interfaceSectionKeys ∧ p.key ∉ keysWithMultipleEntriesAllowed) ∧
      (parameters.map Parameter.uapiKey).Nodup := by
  decide +kernel

/-- **The interface of an accepted text** comes from the entries of its `[Interface]` section. -/
theorem interface_of_parse [Network] {s : Text} {T : TunnelConfiguration InterfaceConfiguration}
    (h : amneziaWGKit.parse s = .ok T) :
    (∀ k ∈ interfaceSectionKeys, k ∉ keysWithMultipleEntriesAllowed →
        (values k (interfaceEntries s)).length ≤ 1) ∧
      ∃ interface, T.interface =
        withParameters interface (amneziaWGKit.attributesOf .interface (interfaceEntries s)) := by
  obtain ⟨ls, hls, hcol⟩ := amneziaWGKit.parse_eq_ok.1 h
  obtain ⟨es, hes, hi⟩ := hcol.interface
  have hentries : interfaceEntries s = es := by
    rw [interfaceEntries, hls.filterMap_eq]
    rcases dropLastIf_spec (fun l : Line Header Entry => l.getHeader.isSome) ls with hdrop | ⟨x, hx, hdrop⟩
    · rw [dropLastHeader, hdrop] at hes
      rw [hes, List.flatten_singleton]
    · obtain ⟨h, rfl⟩ : ∃ h, x = .header h := by
        cases x with
        | header h => exact ⟨h, rfl⟩
        | blank => cases hx
        | entry e => cases hx
      rw [hdrop, sections_concat_header]
      rw [dropLastHeader] at hes
      simp only [bodies, List.filter_append, List.map_append, List.flatten_append] at hes ⊢
      rw [hes]
      cases h <;> simp
  obtain ⟨-, hlen, hcollate⟩ := amneziaWGKit.readInterface_eq_ok.1 hi
  obtain ⟨interface, -, hT⟩ := map_eq_ok.1 hcollate
  rw [hentries]
  exact ⟨hlen, interface, hT.symm⟩

end FreeVPN.AmneziaWG
