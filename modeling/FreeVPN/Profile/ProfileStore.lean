import FreeVPN.Profile.VPNProtocol

/-!
# The store of profiles

`ProfileStore.swift`.  The date a profile was added on, which nothing reads, is left out; `UUID()` is
a parameter of `addProfile`.
-/

namespace FreeVPN.Profile

open FreeVPN.Lib FreeVPN.Foundation

/-- `UUID` -/
abbrev UUID := BitVec 128

/-- `SavedProfile` -/
structure SavedProfile where
  id : UUID
  name : Text
  configString : Text
  endpoint : Option Text
  address : Option Text
  protocolType : Option VPNProtocolType
  username : Option Text
  password : Option Text
  deriving DecidableEq

/-- `vpnProtocol` -/
def SavedProfile.vpnProtocol (p : SavedProfile) : VPNProtocolType := p.protocolType.getD .wireGuard

/-- `requiresAuth` -/
def SavedProfile.requiresAuth (p : SavedProfile) : Bool :=
  p.vpnProtocol = .openVPN && OpenVPNConfig.requiresAuth p.configString

/-- `ProfileStore` -/
structure ProfileStore where
  profiles : List SavedProfile := []
  selectedProfileID : Option UUID := none
  deriving DecidableEq

namespace ProfileStore

/-- The error of the validation that goes with a protocol. -/
def validationError (detectedProtocol : VPNProtocolType) (configString : Text) : Option String :=
  match detectedProtocol with
  | .wireGuard | .amneziaWG => WireGuardConfig.validate configString
  | .openVPN => OpenVPNConfig.validate configString

/-- The profile that `addProfile` makes. -/
def makeProfile (s : ProfileStore) (id : UUID) (name configString : Text)
    (username password : Option Text) : SavedProfile :=
  let detectedProtocol := VPNProtocolType.detect configString
  let config := (WireGuardConfig.parse configString).toOption
  let displayName := match detectedProtocol with
    | .wireGuard | .amneziaWG => (config.map WireGuardConfig.displayName).getD
        ("Profile ".toList ++ digits (s.profiles.length + 1))
    | .openVPN => OpenVPNConfig.displayName configString
  { id
    name := if name = [] then displayName else name
    configString
    endpoint := match detectedProtocol with
      | .wireGuard | .amneziaWG => (config.bind fun c => c.peers.head?).bind PeerConfig.endpoint
      | .openVPN => OpenVPNConfig.extractEndpoint configString
    address := match detectedProtocol with
      | .wireGuard | .amneziaWG => config.bind fun c => c.interface.address.head?
      | .openVPN => none
    protocolType := some detectedProtocol
    username, password }

/-- `addProfile`: an error message, or nil on success. -/
def addProfile (s : ProfileStore) (id : UUID) (name configString : Text)
    (username password : Option Text) : Option String × ProfileStore :=
  match validationError (VPNProtocolType.detect configString) configString with
  | some error => (some error, s)
  | none =>
    let profile := s.makeProfile id name configString username password
    let profiles := s.profiles ++ [profile]
    (none, { profiles, selectedProfileID :=
      if profiles.length = 1 then some profile.id else s.selectedProfileID })

/-- `removeProfile` -/
def removeProfile (s : ProfileStore) (profile : SavedProfile) : ProfileStore :=
  let profiles := s.profiles.filter fun p => p.id ≠ profile.id
  { profiles, selectedProfileID :=
    if s.selectedProfileID = some profile.id then profiles.head?.map SavedProfile.id
    else s.selectedProfileID }

/-- `selectProfile` -/
def selectProfile (s : ProfileStore) (profile : SavedProfile) : ProfileStore :=
  { s with selectedProfileID := some profile.id }

/-- `profiles[index] = …` at the first profile with an id. -/
def modifyFirst (s : ProfileStore) (id : UUID) (f : SavedProfile → SavedProfile) : ProfileStore :=
  match s.profiles.findIdx? fun p => p.id = id with
  | some index => { s with profiles := s.profiles.modify index f }
  | none => s

/-- `renameProfile` -/
def renameProfile (s : ProfileStore) (profile : SavedProfile) (newName : Text) : ProfileStore :=
  s.modifyFirst profile.id fun p => { p with name := newName }

/-- `updateCredentials` -/
def updateCredentials (s : ProfileStore) (profile : SavedProfile) (username password : Text) :
    ProfileStore :=
  s.modifyFirst profile.id fun p =>
    { p with username := if username = [] then none else some username
             password := if password = [] then none else some password }

/-! ### What `addProfile` does -/

section AddProfile

variable (s : ProfileStore) (id : UUID) (name : Text) {configString : Text}
  (username password : Option Text)

/-- A refused profile leaves the store as it is. -/
lemma addProfile_of_error {error : String}
    (h : validationError (VPNProtocolType.detect configString) configString = some error) :
    s.addProfile id name configString username password = (some error, s) := by
  simp [addProfile, h]

lemma eq_of_addProfile (h : (s.addProfile id name configString username password).1.isSome) :
    (s.addProfile id name configString username password).2 = s := by
  unfold addProfile at h ⊢
  cases hv : validationError (VPNProtocolType.detect configString) configString with
  | some error => rfl
  | none => simp [hv] at h

/-- An accepted profile is appended. -/
lemma addProfile_of_valid
    (h : validationError (VPNProtocolType.detect configString) configString = none) :
    (s.addProfile id name configString username password).1 = none ∧
      (s.addProfile id name configString username password).2.profiles =
        s.profiles ++ [s.makeProfile id name configString username password] := by
  simp [addProfile, h]

end AddProfile

/-! ### What the other operations keep -/

/-- Profiles with another id are kept. -/
lemma mem_removeProfile {s : ProfileStore} {p profile : SavedProfile} (hp : p ∈ s.profiles)
    (hne : p.id ≠ profile.id) : p ∈ (s.removeProfile profile).profiles := by
  simp [removeProfile, hp, hne]

lemma selectedProfileID_removeProfile {s : ProfileStore} {profile : SavedProfile}
    (h : s.selectedProfileID ≠ some profile.id) :
    (s.removeProfile profile).selectedProfileID = s.selectedProfileID := by
  simp [removeProfile, h]

@[simp] lemma selectedProfileID_modifyFirst (s : ProfileStore) (id : UUID) (f : SavedProfile → SavedProfile) :
    (s.modifyFirst id f).selectedProfileID = s.selectedProfileID := by
  unfold modifyFirst
  split <;> rfl

/-- The ids stay as they are. -/
lemma map_id_modifyFirst (s : ProfileStore) (id : UUID) {f : SavedProfile → SavedProfile}
    (hf : ∀ p, (f p).id = p.id) :
    (s.modifyFirst id f).profiles.map SavedProfile.id = s.profiles.map SavedProfile.id := by
  unfold modifyFirst
  split
  · refine List.ext_getElem (by simp) fun i h₁ h₂ => ?_
    rw [List.getElem_map, List.getElem_map, List.getElem_modify]
    split_ifs
    · exact hf _
    · rfl
  · rfl

lemma modifyFirst_eq_self {s : ProfileStore} {id : UUID} {f : SavedProfile → SavedProfile}
    (h : ∀ p ∈ s.profiles, p.id = id → f p = p) : s.modifyFirst id f = s := by
  unfold modifyFirst
  cases hindex : s.profiles.findIdx? fun p => p.id = id with
  | none => rfl
  | some index =>
    obtain ⟨hlt, hid, -⟩ := List.findIdx?_eq_some_iff_getElem.1 hindex
    have hsame : s.profiles.modify index f = s.profiles := by
      refine List.ext_getElem? fun i => ?_
      rw [List.getElem?_modify]
      by_cases hi : index = i
      · subst hi
        rw [List.getElem?_eq_getElem hlt]
        simp [h _ (List.getElem_mem hlt) (of_decide_eq_true hid)]
      · cases s.profiles[i]? <;> simp [hi]
    simp only [hsame]

lemma mem_modifyFirst {s : ProfileStore} {id : UUID} {f : SavedProfile → SavedProfile} {p : SavedProfile}
    (hp : p ∈ s.profiles) (hne : p.id ≠ id) : p ∈ (s.modifyFirst id f).profiles := by
  unfold modifyFirst
  split
  · rename_i index hindex
    obtain ⟨hlt, hid, -⟩ := List.findIdx?_eq_some_iff_getElem.1 hindex
    obtain ⟨i, hi, rfl⟩ := List.getElem_of_mem hp
    have hi' : index ≠ i := fun h => hne (by simpa [h] using hid)
    refine List.mem_iff_getElem.2 ⟨i, by simpa using hi, ?_⟩
    rw [List.getElem_modify_ne _ _ hi']
  · exact hp

end ProfileStore

end FreeVPN.Profile
