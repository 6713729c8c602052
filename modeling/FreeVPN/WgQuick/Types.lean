import FreeVPN.Foundation.Text

/-!
# Keys, addresses and endpoints

The value types that the two WireGuard kits build a tunnel from, and the readers of their textual
forms: `BaseKey` (with the base64 decoder of `key.c`), `IPAddressRange`, `DNSServer` and `Endpoint`.

IP addresses, ports and hosts are read by Apple's Network framework, which is not part of the
repository.  `Network` stands for it; what the code relies on is stated by `Network.Documented`.
-/

namespace FreeVPN.WgQuick

open FreeVPN.Lib FreeVPN.Foundation

/-! ### Keys -/

/-- `WG_KEY_LEN` -/
abbrev keyLength : ℕ := 32

/-- `WG_KEY_LEN_BASE64`, without the terminating zero. -/
abbrev keyLengthBase64 : ℕ := 44

/-- A private, public or pre-shared key. -/
structure BaseKey where
  /-- Raw key representation. -/
  rawValue : List UInt8
  /-- `init?(rawValue:)` takes data of `WG_KEY_LEN` bytes only. -/
  count_eq : rawValue.length = keyLength
  deriving DecidableEq

/-- The six bits of a base64 character. -/
def base64Value (c : Char) : Option ℕ :=
  if 'A' ≤ c ∧ c ≤ 'Z' then some (c.toNat - 65)
  else if 'a' ≤ c ∧ c ≤ 'z' then some (c.toNat - 71)
  else if '0' ≤ c ∧ c ≤ '9' then some (c.toNat + 4)
  else if c = '+' then some 62
  else if c = '/' then some 63
  else none

/-- `decode_base64`: the 24 bits of four characters. -/
def decodeBase64 (a b c d : Char) : Option ℕ := do
  let a ← base64Value a
  let b ← base64Value b
  let c ← base64Value c
  let d ← base64Value d
  return a * 2 ^ 18 + b * 2 ^ 12 + c * 2 ^ 6 + d

/-- The loop of `key_from_base64`: groups of four characters, the last of them padded. -/
def decodeGroups : Text → Option (List UInt8)
  | [a, b, c, '='] => do
    let val ← decodeBase64 a b c 'A'
    if val % 2 ^ 8 = 0 then some [UInt8.ofNat (val / 2 ^ 16), UInt8.ofNat (val / 2 ^ 8)] else none
  | a :: b :: c :: d :: rest => do
    let val ← decodeBase64 a b c d
    let bytes ← decodeGroups rest
    return UInt8.ofNat (val / 2 ^ 16) :: UInt8.ofNat (val / 2 ^ 8) :: UInt8.ofNat val :: bytes
  | _ => none

/-- `init?(base64Key:)`.  The text reaches `key_from_base64` as a C string, which ends at the first
zero. -/
def BaseKey.ofBase64 (base64Key : Text) : Option BaseKey :=
  let base64 := before '\x00' base64Key
  if base64.length = keyLengthBase64 then
    (decodeGroups base64).bind fun bytes =>
      if h : bytes.length = keyLength then some ⟨bytes, h⟩ else none
  else none

/-! ### The Network framework -/

/-- Apple's Network framework, as far as the kits use it. -/
class Network where
  /-- `IPv4Address` -/
  IPv4Address : Type
  /-- `IPv6Address` -/
  IPv6Address : Type
  /-- `IPv4Address.init?(_: String)` -/
  ipv4 : Text → Option IPv4Address
  /-- `IPv6Address.init?(_: String)` -/
  ipv6 : Text → Option IPv6Address
  /-- `"\(address)"` -/
  ipv4Text : IPv4Address → Text
  /-- `"\(address)"` -/
  ipv6Text : IPv6Address → Text
  /-- `NWEndpoint.Port.init?(_: String)` -/
  port : Text → Option UInt16
  /-- `NWEndpoint.Host.init(_: String)`: an address when the text is one, else a name. -/
  host : Text → Option (IPv4Address ⊕ IPv6Address)

/-- What the kits rely on: an IPv6 literal has a colon, and printed addresses have no newline. -/
structure Network.Documented [Network] : Prop where
  ipv6_colon : ∀ {s a}, Network.ipv6 s = some a → ':' ∈ s
  ipv4Text_line : ∀ a, ∀ c ∈ Network.ipv4Text a, isNewline c = false
  ipv6Text_line : ∀ a, ∀ c ∈ Network.ipv6Text a, isNewline c = false

/-! ### Dotted quads -/

namespace Dotted

/-- The part of the Network framework that reads and prints dotted quads: what the concrete
configurations of this development need. -/
scoped instance network : Network where
  IPv4Address := UInt8 × UInt8 × UInt8 × UInt8
  IPv6Address := Empty
  ipv4 s := match (s.splitOn '.').map parseUInt8 with
    | [some a, some b, some c, some d] => some (a, b, c, d)
    | _ => none
  ipv6 _ := none
  ipv4Text a := joined ['.'] ([a.1, a.2.1, a.2.2.1, a.2.2.2].map fun n => digits n.toNat)
  ipv6Text a := a.elim
  port := parseUInt16
  host _ := none

lemma documented : Network.Documented where
  ipv6_colon h := nomatch h
  ipv4Text_line a c hc := by
    have hdigit : ∀ n : ℕ, ∀ c ∈ digits n, isNewline c = false := fun n c h =>
      (Bool.or_eq_false_iff.1 (isWhitespaceOrNewline_of_isDigit (isDigit_of_mem_digits h))).2
    change c ∈ joined ['.'] ([a.1, a.2.1, a.2.2.1, a.2.2.2].map fun n => digits n.toNat) at hc
    simp only [joined, List.map_cons, List.map_nil, List.intercalate_cons_cons,
      List.intercalate_singleton, List.mem_append, List.mem_singleton] at hc
    rcases hc with (h | rfl) | (h | rfl) | (h | rfl) | h
    · exact hdigit _ c h
    · decide
    · exact hdigit _ c h
    · decide
    · exact hdigit _ c h
    · decide
    · exact hdigit _ c h
  ipv6Text_line := nofun

end Dotted

/-! ### IP addresses -/

variable [Network]

/-- `IPAddress` -/
inductive IPAddress
  | ipv4 (a : Network.IPv4Address)
  | ipv6 (a : Network.IPv6Address)

/-- `"\(address)"` -/
def IPAddress.text : IPAddress → Text
  | .ipv4 a => Network.ipv4Text a
  | .ipv6 a => Network.ipv6Text a

/-- The order in which the kits try the two kinds of addresses. -/
def IPAddress.ofText (s : Text) : Option IPAddress :=
  match Network.ipv4 s with
  | some a => some (.ipv4 a)
  | none => (Network.ipv6 s).map .ipv6

/-- `maxNetworkPrefixLength` -/
def IPAddress.maxNetworkPrefixLength : IPAddress → UInt8
  | .ipv4 _ => 32
  | .ipv6 _ => 128

/-! ### Address ranges -/

/-- `IPAddressRange` -/
structure IPAddressRange where
  address : IPAddress
  networkPrefixLength : UInt8

/-- `IPAddressRange.init?(from:)` -/
def IPAddressRange.ofText (string : Text) : Option IPAddressRange :=
  match cutLast '/' string with
  | some (addressString, networkPrefixLengthSubstring) =>
    (IPAddress.ofText addressString).bind fun address =>
      if networkPrefixLengthSubstring = [] then none
      else (parseUInt8 networkPrefixLengthSubstring).map fun npl =>
        ⟨address, min npl address.maxNetworkPrefixLength⟩
  | none =>
    (IPAddress.ofText string).map fun address => ⟨address, address.maxNetworkPrefixLength⟩

/-- `IPAddressRange.stringRepresentation` -/
def IPAddressRange.stringRepresentation (r : IPAddressRange) : Text :=
  r.address.text ++ '/' :: digits r.networkPrefixLength.toNat

/-! ### DNS servers -/

/-- `DNSServer` -/
structure DNSServer where
  address : IPAddress

/-- `DNSServer.init?(from:)` -/
def DNSServer.ofText (addressString : Text) : Option DNSServer := (IPAddress.ofText addressString).map .mk

/-! ### Endpoints -/

/-- `NWEndpoint.Host` -/
inductive Host
  | name (hostname : Text)
  | ipv4 (a : Network.IPv4Address)
  | ipv6 (a : Network.IPv6Address)

/-- `NWEndpoint.Host.init(_:)` -/
def Host.ofText (s : Text) : Host :=
  match Network.host s with
  | some (.inl a) => .ipv4 a
  | some (.inr a) => .ipv6 a
  | none => .name s

/-- `Endpoint` -/
structure Endpoint where
  host : Host
  port : UInt16

/-- `CharacterSet.urlHostAllowed` -/
def isURLHostAllowed (c : Char) : Bool := c.isAlphanum || c ∈ "!$&'()*+,-.:;=[]_~".toList

/-- The host and port parts of an endpoint text. -/
def Endpoint.parts : Text → Option (Text × Text)
  | [] => none
  | '[' :: string =>
    -- IPv6-style endpoint, like `[::1]:80`
    (cut ']' string).bind fun r =>
      match r.2 with
      | ':' :: port => some (r.1, port)
      | _ => none
  | string => cut ':' string

/-- `Endpoint.init?(from:)` -/
def Endpoint.ofText (string : Text) : Option Endpoint :=
  (Endpoint.parts string).bind fun r =>
    (Network.port r.2).bind fun endpointPort =>
      if r.1.all isURLHostAllowed then some ⟨Host.ofText r.1, endpointPort⟩ else none

/-- `Endpoint.stringRepresentation` -/
def Endpoint.stringRepresentation (e : Endpoint) : Text :=
  match e.host with
  | .name hostname => hostname ++ ':' :: digits e.port.toNat
  | .ipv4 address => Network.ipv4Text address ++ ':' :: digits e.port.toNat
  | .ipv6 address => '[' :: Network.ipv6Text address ++ "]:".toList ++ digits e.port.toNat

end FreeVPN.WgQuick
