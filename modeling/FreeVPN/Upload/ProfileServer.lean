import FreeVPN.Profile.ProfileStore

/-!
# The upload server

`ProfileServer.swift`: the form fields of a posted body, and what the server makes of them: an answer
page, and the profile that it forwards to `onProfileReceived`, from where `ContentView` hands it to
`ProfileStore.addProfile`.

The server tests and validates the text by itself before it answers.  `agrees_iff` says for which
bodies its answer is what the store does.
-/

namespace FreeVPN.Upload

open FreeVPN.Lib FreeVPN.Foundation FreeVPN.Profile

/-! ### Form fields -/

/-- The value of a hexadecimal digit. -/
def hexValue (c : Char) : Option ℕ :=
  if '0' ≤ c ∧ c ≤ '9' then some (c.toNat - 48)
  else if 'a' ≤ c ∧ c ≤ 'f' then some (c.toNat - 87)
  else if 'A' ≤ c ∧ c ≤ 'F' then some (c.toNat - 55)
  else none

/-- The bytes that a percent-encoded text stands for. -/
def percentDecode : Text → Option (List UInt8)
  | [] => some []
  | '%' :: a :: b :: s => do
    let hi ← hexValue a
    let lo ← hexValue b
    let bytes ← percentDecode s
    return UInt8.ofNat (16 * hi + lo) :: bytes
  | '%' :: _ => none
  | c :: s => (percentDecode s).map fun bytes => String.utf8EncodeChar c ++ bytes

/-- `removingPercentEncoding`: nil unless the bytes are UTF-8. -/
def removingPercentEncoding (s : Text) : Option Text :=
  (percentDecode s).bind fun bytes => (String.fromUTF8? ⟨bytes.toArray⟩).map String.toList

/-- The body of the loop: the field that a pair sets. -/
def formField (pair : Text) : Text × Text :=
  let parts := splitMax '=' 1 pair
  let key := parts.head?.getD []
  let rawValue := parts[1]?.getD []
  (key, (removingPercentEncoding (rawValue.map fun c => if c = '+' then ' ' else c)).getD rawValue)

/-- `parseFormParams` -/
def parseFormParams (body : Text) : Text → Option Text :=
  (body.splitOn '&').foldl (fun result pair =>
    Function.update result (formField pair).1 (some (formField pair).2)) fun _ => none

/-- `(params[key] ?? "").trimmingCharacters(in: .whitespacesAndNewlines)` -/
def formValue (params : Text → Option Text) (key : String) : Text :=
  trimWhitespacesAndNewlines ((params key.toList).getD [])

/-! ### The answer -/

/-- The pages that a posted body is answered with. -/
inductive Answer
  | errorPage (message : String)
  | successPage (profileName : Text) (protocolName : String)
  deriving DecidableEq

/-- What `onProfileReceived` is called with. -/
structure Received where
  name : Text
  config : Text
  username : Option Text
  password : Option Text

/-- The error of the validation that the server makes. -/
def validationError (configValue : Text) : Option String :=
  let isWireGuardFamily := isWireGuardFamily configValue
  let isOpenVPN := !isWireGuardFamily && looksLikeOpenVPN configValue
  if isWireGuardFamily then WireGuardConfig.validate configValue
  else if isOpenVPN then OpenVPNConfig.validate configValue
  else none

/-- `protocolName` -/
def protocolName (configValue : Text) : String :=
  let isWireGuardFamily := isWireGuardFamily configValue
  let isOpenVPN := !isWireGuardFamily && looksLikeOpenVPN configValue
  let isAmneziaWG := isWireGuardFamily && hasAWGParams configValue
  if isAmneziaWG then "AmneziaWG" else if isOpenVPN then "OpenVPN" else "WireGuard"

/-- `value.isEmpty ? nil : value` -/
def nonEmpty (value : Text) : Option Text := if value = [] then none else some value

/-- `processUploadBody`: the page, and what is forwarded. -/
def processUploadBody (body : Text) : Answer × Option Received :=
  let params := parseFormParams body
  let configValue := formValue params "config"
  let profileName := formValue params "name"
  if configValue = [] then (.errorPage "No configuration provided.", none)
  else match validationError configValue with
    | some validationError => (.errorPage validationError, none)
    | none =>
      (.successPage ((nonEmpty profileName).getD "Unnamed".toList) (protocolName configValue),
        some {
          name := profileName
          config := configValue
          username := nonEmpty (formValue params "username")
          password := nonEmpty (formValue params "password") })

/-- `profileStore.addProfile(name: name, configString: config, …)` in `startServer` -/
def Received.add (r : Received) (store : ProfileStore) (id : UUID) : Option String × ProfileStore :=
  store.addProfile id r.name r.config r.username r.password

/-! ### The answer and the store -/

/-- The profile is accepted and appended to the store. -/
def Received.Added (r : Received) (store : ProfileStore) (id : UUID) (p : SavedProfile) : Prop :=
  (r.add store id).1 = none ∧ (r.add store id).2.profiles = store.profiles ++ [p]

/-- The answer agrees with the store: a success page for a profile that is added, with the name of
its protocol, and for no other. -/
structure Agrees (store : ProfileStore) (id : UUID) (body : Text) : Prop where
  success : (∃ profileName protocolName, (processUploadBody body).1 = .successPage profileName protocolName) ↔
    ∃ r p, (processUploadBody body).2 = some r ∧ r.Added store id p
  protocolName : ∀ profileName protocolName r p,
    (processUploadBody body).1 = .successPage profileName protocolName →
      (processUploadBody body).2 = some r → r.Added store id p →
        p.protocolType.map VPNProtocolType.displayName = some protocolName

/-- The server validates a text as the store does, if it is of either kind. -/
lemma validationError_eq {c : Text} (h : isWireGuardFamily c ∨ looksLikeOpenVPN c) :
    validationError c = ProfileStore.validationError (VPNProtocolType.detect c) c := by
  unfold validationError VPNProtocolType.detect
  cases hw : isWireGuardFamily c with
  | true => cases hasAWGParams c <;> rfl
  | false =>
    have ho : looksLikeOpenVPN c = true := h.resolve_left (by simp [hw])
    simp [ho, ProfileStore.validationError]

lemma protocolName_eq (c : Text) : protocolName c = (VPNProtocolType.detect c).displayName := by
  unfold protocolName VPNProtocolType.detect
  cases isWireGuardFamily c <;> cases hasAWGParams c <;> cases looksLikeOpenVPN c <;> rfl

/-- A text of neither kind is taken for a WireGuard text by the store, which refuses it. -/
lemma exists_validationError {c : Text} (hw : isWireGuardFamily c = false)
    (ho : looksLikeOpenVPN c = false) :
    ∃ error, ProfileStore.validationError (VPNProtocolType.detect c) c = some error := by
  have hdetect : VPNProtocolType.detect c = .wireGuard := by simp [VPNProtocolType.detect, hw, ho]
  rw [hdetect]
  change ∃ error, WireGuardConfig.validate c = some error
  cases hv : WireGuardConfig.validate c with
  | some error => exact ⟨error, rfl⟩
  | none => simp [isWireGuardFamily_of_validate hv] at hw

section Add

variable {r : Received} (store : ProfileStore) (id : UUID)

lemma Received.added_iff {p : SavedProfile}
    (h : ProfileStore.validationError (VPNProtocolType.detect r.config) r.config = none) :
    r.Added store id p ↔ p = store.makeProfile id r.name r.config r.username r.password := by
  obtain ⟨h₁, h₂⟩ := store.addProfile_of_valid id r.name r.username r.password h
  simp only [Received.Added, Received.add, h₁, h₂, true_and, List.append_cancel_left_eq, List.cons.injEq,
    and_true, eq_comm]

lemma Received.not_added {error : String}
    (h : ProfileStore.validationError (VPNProtocolType.detect r.config) r.config = some error)
    (p : SavedProfile) : ¬r.Added store id p := by
  rintro ⟨h₁, -⟩
  rw [Received.add, store.addProfile_of_error id r.name r.username r.password h] at h₁
  cases h₁

end Add

/-- **When the answer agrees with the store.**  The answer to a body agrees with the store if and only
if its configuration is empty, or passes one of the two tests for a kind of text: what passes neither
is answered with the success page and is refused by the store. -/
theorem agrees_iff (store : ProfileStore) (id : UUID) (body : Text) :
    Agrees store id body ↔
      formValue (parseFormParams body) "config" = [] ∨
      isWireGuardFamily (formValue (parseFormParams body) "config") ∨
      looksLikeOpenVPN (formValue (parseFormParams body) "config") := by
  generalize hc : formValue (parseFormParams body) "config" = c
  by_cases hempty : c = []
  · have hbody : processUploadBody body = (.errorPage "No configuration provided.", none) := by
      simp only [processUploadBody, hc, hempty, if_true]
    refine iff_of_true ⟨?_, ?_⟩ (Or.inl hempty) <;> simp [hbody]
  cases hv : validationError c with
  | some error =>
    -- an error page, and nothing forwarded
    have hbody : processUploadBody body = (.errorPage error, none) := by
      simp only [processUploadBody, hc, hempty, if_false, hv]
    refine iff_of_true ⟨?_, ?_⟩ (Or.inr ?_)
    · simp [hbody]
    · simp [hbody]
    · unfold validationError at hv
      by_contra hno
      obtain ⟨hw, ho⟩ := not_or.1 hno
      simp [Bool.eq_false_iff.2 hw, Bool.eq_false_iff.2 ho] at hv
  | none =>
    obtain ⟨n, r, hbody, hr⟩ : ∃ n r,
        processUploadBody body = (.successPage n (protocolName c), some r) ∧ r.config = c := by
      simp only [processUploadBody, hc, hempty, if_false, hv]
      exact ⟨_, _, rfl, rfl⟩
    by_cases hkind : isWireGuardFamily c ∨ looksLikeOpenVPN c
    · have hvalid : ProfileStore.validationError (VPNProtocolType.detect r.config) r.config = none := by
        rw [hr, ← validationError_eq hkind, hv]
      refine iff_of_true ⟨?_, ?_⟩ (Or.inr hkind)
      · simp only [hbody]
        exact iff_of_true ⟨_, _, rfl⟩ ⟨r, _, rfl, (r.added_iff store id hvalid).2 rfl⟩
      · intro profileName name r' p hpage hforward hadded
        simp only [hbody, Answer.successPage.injEq, Option.some.injEq] at hpage hforward
        obtain ⟨-, rfl⟩ := hpage
        subst hforward
        rw [(r.added_iff store id hvalid).1 hadded, protocolName_eq, ← hr]
        rfl
    · obtain ⟨hw, ho⟩ := not_or.1 hkind
      obtain ⟨error, herror⟩ :=
        exists_validationError (Bool.eq_false_iff.2 hw) (Bool.eq_false_iff.2 ho)
      refine iff_of_false (fun h => ?_) fun h => h.elim hempty hkind
      obtain ⟨r', p, hforward, hadded⟩ := h.success.1 ⟨n, protocolName c, by rw [hbody]⟩
      simp only [hbody, Option.some.injEq] at hforward
      subst hforward
      exact r.not_added store id (hr ▸ herror) p hadded

/-- The page says that the profile has been added, and the store has refused it. -/
theorem not_agrees_hello : ¬∀ (store : ProfileStore) (id : UUID) (body : Text), Agrees store id body := by
  intro h
  have hpage : (processUploadBody "config=hello".toList).1 =
      .successPage "Unnamed".toList "WireGuard" := by decide +kernel
  have hrefused : (processUploadBody "config=hello".toList).2.all
      (fun r => (r.add {} 0).1.isSome) = true := by decide +kernel
  obtain ⟨r, p, hr, hadded, -⟩ := (h {} 0 "config=hello".toList).success.1 ⟨_, _, hpage⟩
  rw [hr, Option.all_some, hadded] at hrefused
  cases hrefused

end FreeVPN.Upload
