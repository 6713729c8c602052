import FreeVPN.Lib.Sections
import FreeVPN.WgQuick.Types

/-!
# The wg-quick parser of the kits

`TunnelConfiguration(fromWgQuickConfig:)`.  WireGuardKit and AmneziaWGKit carry one parser each,
with the same loop: they differ in the keys of the `[Interface]` section, in what they do with a key
that is none of them, and in what they collate from the attributes.  `Kit` holds these differences.

* `Kit.parseLine`, `Kit.parseLines` — the loop over the lines;
* `collateInterface`, `collatePeer` — what the attributes of a section become;
* `Kit.parse` — the whole initialiser.
-/

namespace FreeVPN.WgQuick

open FreeVPN.Lib FreeVPN.Foundation

/-! ### Errors and states -/

/-- `ParseError`, the cases that the parser throws. -/
inductive ParseError
  | invalidLine (line : Text)
  | noInterface
  | multipleInterfaces
  | interfaceHasNoPrivateKey
  | interfaceHasInvalidPrivateKey (s : Text)
  | interfaceHasInvalidListenPort (s : Text)
  | interfaceHasInvalidAddress (s : Text)
  | interfaceHasInvalidMTU (s : Text)
  | interfaceHasUnrecognizedKey (key : Text)
  | peerHasNoPublicKey
  | peerHasInvalidPublicKey (s : Text)
  | peerHasInvalidPreSharedKey (s : Text)
  | peerHasInvalidAllowedIP (s : Text)
  | peerHasInvalidEndpoint (s : Text)
  | peerHasInvalidPersistentKeepAlive (s : Text)
  | peerHasUnrecognizedKey (key : Text)
  | multiplePeersWithSamePublicKey
  | multipleEntriesForKey (key : Text)

/-- `ParserState` -/
inductive ParserState
  | inInterfaceSection
  | inPeerSection
  | notInASection
  deriving DecidableEq

/-- `attributes`: the entries of the current section by their lowercase keys. -/
abbrev Attributes := Text → Option Text

/-- `attributes.removeAll()` -/
def noAttributes : Attributes := fun _ => none

/-- `keysWithMultipleEntriesAllowed` -/
def keysWithMultipleEntriesAllowed : List Text := ["address".toList, "allowedips".toList, "dns".toList]

/-- `interfaceSectionKeys` of WireGuardKit -/
def standardInterfaceKeys : List Text :=
  ["privatekey".toList, "listenport".toList, "address".toList, "dns".toList, "mtu".toList]

/-- `peerSectionKeys` -/
def peerSectionKeys : List Text :=
  ["publickey".toList, "presharedkey".toList, "allowedips".toList, "endpoint".toList,
    "persistentkeepalive".toList]

/-! ### Configurations -/

section Configurations

variable [Network]

/-- `InterfaceConfiguration` of WireGuardKit -/
structure InterfaceConfiguration where
  privateKey : BaseKey
  addresses : List IPAddressRange := []
  listenPort : Option UInt16 := none
  mtu : Option UInt16 := none
  dns : List DNSServer := []
  dnsSearch : List Text := []

/-- `PeerConfiguration` -/
structure PeerConfiguration where
  publicKey : BaseKey
  preSharedKey : Option BaseKey := none
  allowedIPs : List IPAddressRange := []
  endpoint : Option Endpoint := none
  persistentKeepAlive : Option UInt16 := none

/-- `TunnelConfiguration`.  Its initialiser traps on two peers with one public key. -/
structure TunnelConfiguration (I : Type) where
  interface : I
  peers : List PeerConfiguration
  distinct : (peers.map PeerConfiguration.publicKey).Nodup

/-! ### Collating the attributes of a section -/

/-- `guard let value = read(string) else { throw error(string) }` -/
def reading {α : Type} (read : Text → Option α) (error : Text → ParseError) (string : Text) :
    Except ParseError α :=
  match read string with
  | some value => .ok value
  | none => .error (error string)

/-- `if let string = attributes[key] { … }` -/
def optionally {α : Type} (read : Text → Option α) (error : Text → ParseError) :
    Option Text → Except ParseError (Option α)
  | some string => (reading read error string).map some
  | none => .ok none

/-- `splitToArray(trimmingCharacters: .whitespacesAndNewlines)`; none for an absent attribute. -/
def splitToArray (string : Text) : List Text := (split ',' string).map trimWhitespacesAndNewlines

/-- The items of an attribute, none when it is absent. -/
def items (string : Option Text) : List Text := string.elim [] splitToArray

/-- `collate(interfaceAttributes:)` of WireGuardKit -/
def collateInterface (attributes : Attributes) : Except ParseError InterfaceConfiguration := do
  let privateKeyString ← match attributes "privatekey".toList with
    | some privateKeyString => .ok privateKeyString
    | none => .error .interfaceHasNoPrivateKey
  let privateKey ← reading BaseKey.ofBase64 .interfaceHasInvalidPrivateKey privateKeyString
  let listenPort ← optionally parseUInt16 .interfaceHasInvalidListenPort (attributes "listenport".toList)
  let addresses ← (items (attributes "address".toList)).mapM
    (reading IPAddressRange.ofText .interfaceHasInvalidAddress)
  let mtu ← optionally parseUInt16 .interfaceHasInvalidMTU (attributes "mtu".toList)
  let dnsStrings := items (attributes "dns".toList)
  return {
    privateKey, addresses, listenPort, mtu
    dns := dnsStrings.filterMap DNSServer.ofText
    dnsSearch := dnsStrings.filter fun s => (DNSServer.ofText s).isNone }

/-- `collate(peerAttributes:)` -/
def collatePeer (attributes : Attributes) : Except ParseError PeerConfiguration := do
  let publicKeyString ← match attributes "publickey".toList with
    | some publicKeyString => .ok publicKeyString
    | none => .error .peerHasNoPublicKey
  let publicKey ← reading BaseKey.ofBase64 .peerHasInvalidPublicKey publicKeyString
  let preSharedKey ←
    optionally BaseKey.ofBase64 .peerHasInvalidPreSharedKey (attributes "presharedkey".toList)
  let allowedIPs ← (items (attributes "allowedips".toList)).mapM
    (reading IPAddressRange.ofText .peerHasInvalidAllowedIP)
  let endpoint ← optionally Endpoint.ofText .peerHasInvalidEndpoint (attributes "endpoint".toList)
  let persistentKeepAlive ← optionally parseUInt16 .peerHasInvalidPersistentKeepAlive
    (attributes "persistentkeepalive".toList)
  return { publicKey, preSharedKey, allowedIPs, endpoint, persistentKeepAlive }

/-! ### The loop over the lines -/

/-- What the parsers of the two kits differ in. -/
structure Kit (I : Type) where
  /-- `interfaceSectionKeys` -/
  interfaceSectionKeys : List Text
  /-- Is an unrecognised key an error?  Otherwise it is removed from the attributes. -/
  strict : Bool
  /-- `collate(interfaceAttributes:)` -/
  collate : Attributes → Except ParseError I

/-- The variables of the loop. -/
structure Loop (I : Type) where
  interfaceConfiguration : Option I := none
  peerConfigurations : List PeerConfiguration := []
  parserState : ParserState := .notInASection
  attributes : Attributes := noAttributes

/-- A key that the section does not recognise. -/
def unrecognized (strict : Bool) (error : ParseError) (attributes : Attributes) (key : Text) :
    Except ParseError Attributes :=
  if strict then .error error else .ok (Function.update attributes key none)

variable {I : Type} (kit : Kit I)

/-- A line with an attribute. -/
def Kit.readAttribute (parserState : ParserState) (attributes : Attributes)
    (keyWithCase value : Text) : Except ParseError Attributes := do
  let key := lowercased keyWithCase
  let attributes ← match attributes key with
    | some presentValue =>
      if key ∈ keysWithMultipleEntriesAllowed then
        .ok (Function.update attributes key (some (presentValue ++ ',' :: value)))
      else .error (.multipleEntriesForKey keyWithCase)
    | none => .ok (Function.update attributes key (some value))
  match parserState with
  | .inInterfaceSection =>
    if key ∈ kit.interfaceSectionKeys then .ok attributes
    else unrecognized kit.strict (.interfaceHasUnrecognizedKey keyWithCase) attributes key
  | .inPeerSection =>
    if key ∈ peerSectionKeys then .ok attributes
    else unrecognized kit.strict (.peerHasUnrecognizedKey keyWithCase) attributes key
  | .notInASection => .ok attributes

/-- The previous section has ended: its attributes are collated. -/
def Kit.endSection (l : Loop I) : Except ParseError (Loop I) :=
  match l.parserState with
  | .inInterfaceSection => do
    let interface ← kit.collate l.attributes
    if l.interfaceConfiguration.isSome then .error .multipleInterfaces
    else .ok { l with interfaceConfiguration := some interface }
  | .inPeerSection => do
    let peer ← collatePeer l.attributes
    return { l with peerConfigurations := l.peerConfigurations ++ [peer] }
  | .notInASection => .ok l

/-- `if !trimmedLine.isEmpty { … }` -/
def Kit.readContent (l : Loop I) (line trimmedLine : Text) : Except ParseError (Loop I) :=
  if trimmedLine = [] then .ok l
  else match cut '=' trimmedLine with
    | some (keyWithCase, value) =>
      (kit.readAttribute l.parserState l.attributes (trimWhitespacesAndNewlines keyWithCase)
        (trimWhitespacesAndNewlines value)).map fun attributes => { l with attributes }
    | none =>
      if lowercased trimmedLine ≠ "[interface]".toList ∧ lowercased trimmedLine ≠ "[peer]".toList then
        .error (.invalidLine line)
      else .ok l

/-- A section header starts a section. -/
def Loop.startSection (l : Loop I) (lowercasedLine : Text) : Loop I :=
  if lowercasedLine = "[interface]".toList then
    { l with parserState := .inInterfaceSection, attributes := noAttributes }
  else if lowercasedLine = "[peer]".toList then
    { l with parserState := .inPeerSection, attributes := noAttributes }
  else l

/-- The body of the loop. -/
def Kit.parseLine (isLastLine : Bool) (l : Loop I) (line : Text) : Except ParseError (Loop I) :=
  let trimmedLine := trimWhitespacesAndNewlines (before '#' line)
  let lowercasedLine := lowercased trimmedLine
  kit.readContent l line trimmedLine >>= fun l =>
    (if isLastLine ∨ lowercasedLine = "[interface]".toList ∨ lowercasedLine = "[peer]".toList then
      kit.endSection l
    else .ok l).map fun l => l.startSection lowercasedLine

/-- The loop. -/
def Kit.parseLines : Loop I → List Text → Except ParseError (Loop I)
  | l, [] => .ok l
  | l, line :: lines => do
    let l ← kit.parseLine lines.isEmpty l line
    Kit.parseLines l lines

/-- What the initialiser makes of the results of the loop. -/
def TunnelConfiguration.ofLoop (l : Loop I) : Except ParseError (TunnelConfiguration I) :=
  if distinct : (l.peerConfigurations.map PeerConfiguration.publicKey).Nodup then
    match l.interfaceConfiguration with
    | some interface => .ok { interface, peers := l.peerConfigurations, distinct }
    | none => .error .noInterface
  else .error .multiplePeersWithSamePublicKey

/-- `TunnelConfiguration.init(fromWgQuickConfig:called:)` -/
def Kit.parse (wgQuickConfig : Text) : Except ParseError (TunnelConfiguration I) := do
  let l ← kit.parseLines {} (lines wgQuickConfig)
  TunnelConfiguration.ofLoop l

/-- The parser of WireGuardKit. -/
def wireGuardKit : Kit InterfaceConfiguration where
  interfaceSectionKeys := standardInterfaceKeys
  strict := true
  collate := collateInterface

end Configurations

end FreeVPN.WgQuick
