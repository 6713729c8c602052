import FreeVPN.Lib.Runs
import FreeVPN.Profile.ProfileStore

/-!
# The store and its storage

`save`, `load` and `migrateFromFileIfNeeded` of `ProfileStore.swift`, and the operations as the app
issues them, each with its `save`; `onProfileReceived` of `ContentView` selects an uploaded profile three
seconds later, when others of them can have come in between.

* `valid_of_run` — when the selection stays that of a stored profile, and the store survives relaunch;
* `preserved_iff` — when data that could not be decoded are still there.
-/

namespace FreeVPN.Profile

open FreeVPN.Lib FreeVPN.Foundation

/-! ### Storage -/

/-- `JSONEncoder` and `JSONDecoder` for profiles, with data of a type `D`, and the strings of `UUID`.
They give back what they were given. -/
structure Coders (D : Type*) where
  encode : List SavedProfile → D
  decode : D → Option (List SavedProfile)
  uuidString : UUID → Text
  uuid : Text → Option UUID
  decode_encode : ∀ profiles, decode (encode profiles) = some profiles
  uuid_uuidString : ∀ id, uuid (uuidString id) = some id

/-- What is stored: two keys of `UserDefaults`, and the file of earlier versions. -/
structure Storage (D : Type*) where
  savedProfiles : Option D := none
  selectedProfileID : Option Text := none
  /-- `vpn_profiles.json` -/
  legacyFile : Option D := none

section Persistence

variable {D : Type*} (c : Coders D)

/-- `save` -/
def ProfileStore.save (s : ProfileStore) (storage : Storage D) : Storage D :=
  { storage with
    savedProfiles := some (c.encode s.profiles)
    selectedProfileID := s.selectedProfileID.map c.uuidString }

/-- `migrateFromFileIfNeeded`, where the file can be removed or not. -/
def migrateFromFileIfNeeded (removeItem : Bool) (storage : Storage D) : Storage D :=
  match storage.savedProfiles, storage.legacyFile with
  | none, some data =>
    if (c.decode data).isSome then
      { storage with savedProfiles := some data, legacyFile := if removeItem then none else some data }
    else storage
  | _, _ => storage

/-- The store that the keys of `UserDefaults` hold: an empty one when the data do not decode. -/
def Storage.store (storage : Storage D) : ProfileStore :=
  match storage.savedProfiles.bind c.decode with
  | none => {}
  | some profiles =>
    { profiles
      selectedProfileID :=
        ((storage.selectedProfileID.bind c.uuid).filter fun id => profiles.any fun p => p.id = id).or
          (profiles.head?.map SavedProfile.id) }

/-- The app while it runs: the store, what is stored, and the uploaded profiles whose `selectProfile` is
still to come. -/
structure Launched (D : Type*) where
  store : ProfileStore
  storage : Storage D
  uploads : List SavedProfile := []

/-- `load`, when the app is launched. -/
def launch (removeItem : Bool) (storage : Storage D) : Launched D where
  store := (migrateFromFileIfNeeded c removeItem storage).store c
  storage := migrateFromFileIfNeeded c removeItem storage

/-! ### Operations -/

/-- What the app does with the store. -/
inductive Operation
  | upload (id : UUID) (name configString : Text) (username password : Option Text)
  /-- The delayed `selectProfile`. -/
  | selectUploaded (i : ℕ)
  | selectProfile (profile : SavedProfile)
  | removeProfile (profile : SavedProfile)
  | renameProfile (profile : SavedProfile) (newName : Text)
  | updateCredentials (profile : SavedProfile) (username password : Text)
  | relaunch (removeItem : Bool)

/-- The store has been changed, and is saved. -/
def Launched.saved (l : Launched D) (store : ProfileStore) : Launched D :=
  { l with store, storage := store.save c l.storage }

/-- `guard let index = profiles.firstIndex(where: …) else { return }` -/
def Launched.savedIfFound (l : Launched D) (profile : SavedProfile) (store : ProfileStore) : Launched D :=
  if l.store.profiles.any fun p => p.id = profile.id then l.saved c store else l

/-- `onProfileReceived`, up to the animation. -/
def Launched.upload (l : Launched D) (id : UUID) (name configString : Text)
    (username password : Option Text) : Launched D :=
  match l.store.addProfile id name configString username password with
  | (some _, _) => l
  | (none, store) => { l.saved c store with uploads := l.uploads ++ store.profiles.getLast?.toList }

/-- One operation.  `UUID()` is new, and the profile that is tapped is one of the list. -/
def Launched.step (l : Launched D) : Operation → Option (Launched D)
  | .upload id name configString username password =>
    if ∀ p ∈ l.store.profiles ++ l.uploads, p.id ≠ id then
      some (l.upload c id name configString username password)
    else none
  | .selectUploaded i => l.uploads[i]?.map fun profile =>
    { l.saved c (l.store.selectProfile profile) with uploads := l.uploads.eraseIdx i }
  | .selectProfile profile =>
    if profile ∈ l.store.profiles then some (l.saved c (l.store.selectProfile profile)) else none
  | .removeProfile profile => some (l.saved c (l.store.removeProfile profile))
  | .renameProfile profile newName =>
    some (l.savedIfFound c profile (l.store.renameProfile profile newName))
  | .updateCredentials profile username password =>
    some (l.savedIfFound c profile (l.store.updateCredentials profile username password))
  | .relaunch removeItem => some (launch c removeItem l.storage)

variable {c}

/-! ### A valid selection -/

/-- The ids are distinct, and the selection is that of a stored profile, if there is one. -/
structure ProfileStore.Valid (s : ProfileStore) : Prop where
  ids : (s.profiles.map SavedProfile.id).Nodup
  none_iff : s.selectedProfileID = none ↔ s.profiles = []
  stored : ∀ id ∈ s.selectedProfileID, id ∈ s.profiles.map SavedProfile.id

namespace ProfileStore

variable {s : ProfileStore}

lemma Valid.addProfile (h : s.Valid) {id : UUID} (hid : ∀ p ∈ s.profiles, p.id ≠ id)
    (name configString : Text) (username password : Option Text) :
    (s.addProfile id name configString username password).2.Valid := by
  unfold ProfileStore.addProfile
  cases validationError (VPNProtocolType.detect configString) configString with
  | some error => exact h
  | none =>
    generalize hprofile : s.makeProfile id name configString username password = profile
    have hprofileId : profile.id = id := by rw [← hprofile]; rfl
    have hids : ((s.profiles ++ [profile]).map SavedProfile.id).Nodup := by
      rw [List.map_append, List.nodup_append]
      refine ⟨h.ids, by simp, ?_⟩
      intro a ha b hb
      obtain ⟨p, hp, rfl⟩ := List.mem_map.1 ha
      rw [List.map_singleton, List.mem_singleton, hprofileId] at hb
      rw [hb]
      exact hid p hp
    cases hprofiles : s.profiles with
    | nil =>
      refine ⟨hprofiles ▸ hids, ?_, ?_⟩ <;> simp
    | cons q qs =>
      have hlength : ((q :: qs) ++ [profile]).length ≠ 1 := by simp
      have hselected : s.selectedProfileID ≠ none := by
        intro hnone
        rw [h.none_iff, hprofiles] at hnone
        cases hnone
      dsimp only
      rw [if_neg hlength]
      refine ⟨hprofiles ▸ hids, ?_, ?_⟩
      · simp [hselected]
      · intro id' hid'
        have := h.stored id' hid'
        rw [hprofiles] at this
        rw [List.map_append]
        exact List.mem_append_left _ this

lemma Valid.removeProfile (h : s.Valid) (profile : SavedProfile) : (s.removeProfile profile).Valid := by
  have hids : ((s.removeProfile profile).profiles.map SavedProfile.id).Nodup :=
    h.ids.sublist (List.filter_sublist.map _)
  by_cases hselected : s.selectedProfileID = some profile.id
  · refine ⟨hids, ?_, ?_⟩
    · simp [ProfileStore.removeProfile, hselected]
    · intro id hid
      simp only [ProfileStore.removeProfile, hselected, if_true] at hid ⊢
      obtain ⟨p, hp, rfl⟩ := Option.map_eq_some_iff.1 hid
      exact List.mem_map_of_mem (List.mem_of_mem_head? hp)
  · have hsame := selectedProfileID_removeProfile hselected
    have hkept : ∀ id ∈ s.selectedProfileID, id ∈ (s.removeProfile profile).profiles.map SavedProfile.id := by
      intro id hid
      obtain ⟨p, hp, rfl⟩ := List.mem_map.1 (h.stored id hid)
      refine List.mem_map_of_mem (mem_removeProfile hp ?_)
      intro heq
      rw [← heq] at hselected
      exact hselected hid
    refine ⟨hids, ?_, fun id hid => hkept id (hsame ▸ hid)⟩
    rw [hsame]
    constructor
    · intro hnone
      rw [ProfileStore.removeProfile, h.none_iff.1 hnone]
      rfl
    · intro hnil
      rw [Option.eq_none_iff_forall_ne_some]
      intro id hid
      have := hkept id hid
      rw [hnil] at this
      cases this

lemma Valid.selectProfile (h : s.Valid) {profile : SavedProfile}
    (hprofile : profile.id ∈ s.profiles.map SavedProfile.id) : (s.selectProfile profile).Valid := by
  refine ⟨h.ids, ?_, ?_⟩
  · refine iff_of_false (by simp [ProfileStore.selectProfile]) ?_
    intro hnil
    rw [show s.profiles = [] from hnil] at hprofile
    cases hprofile
  · rintro id ⟨⟩
    exact hprofile

lemma Valid.modifyFirst (h : s.Valid) (id : UUID) {f : SavedProfile → SavedProfile}
    (hf : ∀ p, (f p).id = p.id) : (s.modifyFirst id f).Valid := by
  have hids := s.map_id_modifyFirst id hf
  refine ⟨hids ▸ h.ids, ?_, ?_⟩
  · rw [selectedProfileID_modifyFirst, h.none_iff, ← List.map_eq_nil_iff (f := SavedProfile.id), ← hids,
      List.map_eq_nil_iff]
  · rw [selectedProfileID_modifyFirst, hids]
    exact h.stored

end ProfileStore

/-! ### Loading -/

/-- **What has been saved is loaded**, when the selection is valid. -/
lemma store_save {s : ProfileStore} (h : s.Valid) (storage : Storage D) : (s.save c storage).store c = s := by
  obtain ⟨profiles, selectedProfileID⟩ := s
  unfold Storage.store
  rw [ProfileStore.save, Option.bind_some, c.decode_encode]
  dsimp only
  congr 1
  cases selectedProfileID with
  | none =>
    have hnil : profiles = [] := h.none_iff.1 rfl
    rw [hnil]
    rfl
  | some id =>
    obtain ⟨p, hp, hid⟩ := List.mem_map.1 (h.stored id rfl)
    have hany : (profiles.any fun p => p.id = id) = true := List.any_eq_true.2 ⟨p, hp, decide_eq_true hid⟩
    rw [Option.map_some, Option.bind_some, c.uuid_uuidString, Option.filter_some, hany, if_pos rfl, Option.some_or]

section Migration

variable (removeItem : Bool) (storage : Storage D)

lemma selectedProfileID_migrate :
    (migrateFromFileIfNeeded c removeItem storage).selectedProfileID = storage.selectedProfileID := by
  unfold migrateFromFileIfNeeded
  split
  · split <;> rfl
  · rfl

/-- The data of the file are taken when there are none under the key, and they decode. -/
lemma savedProfiles_migrate : (migrateFromFileIfNeeded c removeItem storage).savedProfiles =
    storage.savedProfiles.or (storage.legacyFile.filter fun data => (c.decode data).isSome) := by
  unfold migrateFromFileIfNeeded
  split
  · rename_i data hnone hfile
    rw [hnone, hfile, Option.none_or, Option.filter_some]
    split
    · rfl
    · exact hnone
  · rename_i hno
    cases hsaved : storage.savedProfiles with
    | some data => rw [Option.some_or]
    | none =>
      cases hfile : storage.legacyFile with
      | some data => exact absurd hfile (hno data hsaved)
      | none => rfl

/-- The file is removed only when its data decode. -/
lemma legacyFile_migrate {data : D} :
    ((migrateFromFileIfNeeded c removeItem storage).legacyFile = some data → storage.legacyFile = some data) ∧
      (storage.legacyFile = some data → c.decode data = none →
        (migrateFromFileIfNeeded c removeItem storage).legacyFile = some data) := by
  unfold migrateFromFileIfNeeded
  split
  · rename_i data' hnone hfile
    split
    · rename_i hdecode
      refine ⟨?_, ?_⟩
      · intro h
        rw [hfile]
        exact ((Option.ite_none_left_eq_some ..).1 h).2
      · intro h hundecodable
        rw [hfile] at h
        obtain rfl := Option.some.inj h
        rw [hundecodable] at hdecode
        cases hdecode
    · exact ⟨id, fun h _ => h⟩
  · exact ⟨id, fun h _ => h⟩

/-- A second launch finds the store of the first. -/
lemma launch_launch (removeItem' : Bool) :
    (launch c removeItem' (launch c removeItem storage).storage).store =
      (launch c removeItem storage).store := by
  have hstorage : (launch c removeItem storage).storage = migrateFromFileIfNeeded c removeItem storage := rfl
  have hsaved : (migrateFromFileIfNeeded c removeItem' (migrateFromFileIfNeeded c removeItem storage)).savedProfiles =
      (migrateFromFileIfNeeded c removeItem storage).savedProfiles := by
    rw [savedProfiles_migrate, savedProfiles_migrate]
    cases hfirst : storage.savedProfiles.or (storage.legacyFile.filter fun data => (c.decode data).isSome) with
    | some data => rfl
    | none =>
      -- a file that does not decode, if any, is still the same
      obtain ⟨-, hfile⟩ := Option.or_eq_none_iff.1 hfirst
      rw [Option.none_or, Option.filter_eq_none_iff]
      intro data hdata
      exact Option.filter_eq_none_iff.1 hfile data ((legacyFile_migrate removeItem storage).1 hdata)
  rw [hstorage]
  unfold launch Storage.store
  rw [hsaved, selectedProfileID_migrate]

end Migration

/-- Distinct ids make a valid store. -/
lemma valid_store {storage : Storage D} (h : ∀ profiles ∈ storage.savedProfiles.bind c.decode,
    (profiles.map SavedProfile.id).Nodup) : (storage.store c).Valid := by
  unfold Storage.store
  cases hprofiles : storage.savedProfiles.bind c.decode with
  | none => exact ⟨by simp, by simp, by simp⟩
  | some profiles =>
    refine ⟨h profiles hprofiles, ?_, ?_⟩
    · dsimp only
      rw [Option.or_eq_none_iff, Option.map_eq_none_iff, List.head?_eq_none_iff]
      constructor
      · exact And.right
      · intro hnil
        refine ⟨?_, hnil⟩
        rw [Option.filter_eq_none_iff, hnil]
        simp
    · intro id hid
      rcases Option.or_eq_some_iff.1 hid with hid | ⟨-, hid⟩
      · obtain ⟨-, hany⟩ := Option.filter_eq_some_iff.1 hid
        obtain ⟨p, hp, hpid⟩ := List.any_eq_true.1 hany
        exact List.mem_map.2 ⟨p, hp, of_decide_eq_true hpid⟩
      · obtain ⟨p, hp, rfl⟩ := Option.map_eq_some_iff.1 hid
        exact List.mem_map_of_mem (List.mem_of_mem_head? hp)

/-! ### Runs -/

/-- The data that are stored, under the key or in the file, have distinct ids if they decode. -/
def Storage.DistinctIDs (c : Coders D) (storage : Storage D) : Prop :=
  ∀ data, storage.savedProfiles = some data ∨ storage.legacyFile = some data →
    ∀ profiles ∈ c.decode data, (profiles.map SavedProfile.id).Nodup

/-- The selection is valid, and a launch restores the store. -/
structure Launched.Valid (c : Coders D) (l : Launched D) : Prop where
  store : l.store.Valid
  restored : ∀ removeItem, (launch c removeItem l.storage).store = l.store

/-- A delayed `selectProfile` finds its profile in the store. -/
def Launched.SelectsStored (l : Launched D) : Operation → Prop
  | .selectUploaded i => ∀ profile ∈ l.uploads[i]?, profile.id ∈ l.store.profiles.map SavedProfile.id
  | _ => True

instance (l : Launched D) : ∀ op, Decidable (l.SelectsStored op)
  | .selectUploaded i => inferInstanceAs (Decidable (∀ profile ∈ l.uploads[i]?, _))
  | .upload _ _ _ _ _ | .selectProfile _ | .removeProfile _ | .renameProfile _ _
  | .updateCredentials _ _ _ | .relaunch _ => isTrue trivial

lemma valid_launch {storage : Storage D} (h : storage.DistinctIDs c) (removeItem : Bool) :
    (launch c removeItem storage).Valid c := by
  refine ⟨valid_store ?_, launch_launch removeItem storage⟩
  intro profiles hprofiles
  obtain ⟨data, hdata, hdecode⟩ := Option.bind_eq_some_iff.1 hprofiles
  rw [savedProfiles_migrate] at hdata
  refine h data ?_ profiles hdecode
  rcases Option.or_eq_some_iff.1 hdata with hdata | ⟨-, hdata⟩
  · exact Or.inl hdata
  · exact Or.inr (Option.filter_eq_some_iff.1 hdata).1

lemma valid_saved {l : Launched D} {store : ProfileStore} (h : store.Valid) : (l.saved c store).Valid c := by
  refine ⟨h, fun removeItem => ?_⟩
  have hsame : migrateFromFileIfNeeded c removeItem (store.save c l.storage) = store.save c l.storage := rfl
  change (migrateFromFileIfNeeded c removeItem (store.save c l.storage)).store c = store
  rw [hsame, store_save h]

lemma Launched.Valid.savedIfFound {l : Launched D} (h : l.Valid c) (profile : SavedProfile)
    {store : ProfileStore} (hstore : store.Valid) : (l.savedIfFound c profile store).Valid c := by
  unfold Launched.savedIfFound
  split
  · exact valid_saved hstore
  · exact h

lemma Launched.Valid.step {l l' : Launched D} {op : Operation} (h : l.Valid c) (hop : l.SelectsStored op)
    (hstep : l.step c op = some l') : l'.Valid c := by
  cases op with
  | upload id name configString username password =>
    simp only [Launched.step] at hstep
    split_ifs at hstep with hnew
    obtain rfl := Option.some.inj hstep
    have hadd := h.store.addProfile (fun p hp => hnew p (List.mem_append_left _ hp)) name configString
      username password
    unfold Launched.upload
    split
    · exact h
    · rename_i store heq
      rw [heq] at hadd
      exact ⟨hadd, (valid_saved hadd).restored⟩
  | selectUploaded i =>
    obtain ⟨profile, hprofile, rfl⟩ := Option.map_eq_some_iff.1 hstep
    have hselect := h.store.selectProfile (hop profile hprofile)
    exact ⟨hselect, (valid_saved hselect).restored⟩
  | selectProfile profile =>
    simp only [Launched.step] at hstep
    split_ifs at hstep with hmem
    obtain rfl := Option.some.inj hstep
    exact valid_saved (h.store.selectProfile (List.mem_map_of_mem hmem))
  | removeProfile profile =>
    obtain rfl := Option.some.inj hstep
    exact valid_saved (h.store.removeProfile profile)
  | renameProfile profile newName =>
    obtain rfl := Option.some.inj hstep
    exact h.savedIfFound profile (h.store.modifyFirst _ fun _ => rfl)
  | updateCredentials profile username password =>
    obtain rfl := Option.some.inj hstep
    exact h.savedIfFound profile (h.store.modifyFirst _ fun _ => rfl)
  | relaunch removeItem =>
    obtain rfl := Option.some.inj hstep
    refine ⟨h.restored removeItem ▸ h.store, launch_launch removeItem l.storage⟩

/-- **The selection stays valid, and the store survives relaunch**, in every run in which each delayed
`selectProfile` finds its profile in the store. -/
theorem valid_of_run {storage : Storage D} (hids : storage.DistinctIDs c) (removeItem : Bool)
    {ops : List Operation} {l : Launched D}
    (hstored : Along (Launched.step c) Launched.SelectsStored (launch c removeItem storage) ops)
    (hrun : run (Launched.step c) (launch c removeItem storage) ops = some l) : l.Valid c :=
  run_invariant (fun _ _ _ h hop hstep => h.step hop hstep) (valid_launch hids removeItem) hstored hrun

/-! ### Data that do not decode -/

/-- Data that do not decode are still where they were. -/
structure Storage.Preserved (c : Coders D) (before after : Storage D) : Prop where
  savedProfiles : ∀ data, before.savedProfiles = some data → c.decode data = none →
    after.savedProfiles = some data
  legacyFile : ∀ data, before.legacyFile = some data → c.decode data = none → after.legacyFile = some data

/-- The operation saves an empty store, if it can come then: all but a refused upload and what looks for
a profile by its id. -/
def Operation.saves : Operation → Bool
  | .upload _ _ configString _ _ =>
    (ProfileStore.validationError (VPNProtocolType.detect configString) configString).isNone
  | .selectUploaded _ | .selectProfile _ | .removeProfile _ => true
  | .renameProfile _ _ | .updateCredentials _ _ _ | .relaunch _ => false

/-- **What a step does to the storage**: nothing, a `save`, or a migration. -/
lemma storage_step {l l' : Launched D} {op : Operation} (hstep : l.step c op = some l') :
    l'.storage = l.storage ∨ (∃ store : ProfileStore, l'.storage = store.save c l.storage) ∨
      ∃ removeItem, l'.storage = migrateFromFileIfNeeded c removeItem l.storage := by
  have hfound : ∀ profile store, (l.savedIfFound c profile store).storage = l.storage ∨
      ∃ store' : ProfileStore, (l.savedIfFound c profile store).storage = store'.save c l.storage := by
    intro profile store
    unfold Launched.savedIfFound
    split
    · exact Or.inr ⟨store, rfl⟩
    · exact Or.inl rfl
  cases op with
  | upload id name configString username password =>
    simp only [Launched.step] at hstep
    split_ifs at hstep
    obtain rfl := Option.some.inj hstep
    unfold Launched.upload
    split
    · exact Or.inl rfl
    · exact Or.inr (Or.inl ⟨_, rfl⟩)
  | selectUploaded i =>
    obtain ⟨profile, -, rfl⟩ := Option.map_eq_some_iff.1 hstep
    exact Or.inr (Or.inl ⟨_, rfl⟩)
  | selectProfile profile =>
    simp only [Launched.step] at hstep
    split_ifs at hstep
    obtain rfl := Option.some.inj hstep
    exact Or.inr (Or.inl ⟨_, rfl⟩)
  | removeProfile profile =>
    obtain rfl := Option.some.inj hstep
    exact Or.inr (Or.inl ⟨_, rfl⟩)
  | renameProfile profile newName =>
    obtain rfl := Option.some.inj hstep
    exact (hfound profile _).imp_right Or.inl
  | updateCredentials profile username password =>
    obtain rfl := Option.some.inj hstep
    exact (hfound profile _).imp_right Or.inl
  | relaunch removeItem =>
    obtain rfl := Option.some.inj hstep
    exact Or.inr (Or.inr ⟨removeItem, rfl⟩)

/-- The file is left alone by every step, if its data do not decode. -/
lemma legacyFile_step {l l' : Launched D} {op : Operation} {data : D} (hdata : c.decode data = none)
    (h : l.storage.legacyFile = some data) (hstep : l.step c op = some l') :
    l'.storage.legacyFile = some data := by
  rcases storage_step hstep with heq | ⟨store, heq⟩ | ⟨removeItem, heq⟩
  · rw [heq, h]
  · rw [heq]
    exact h
  · rw [heq]
    exact (legacyFile_migrate removeItem l.storage).2 h hdata

/-- The data under the key decode. -/
def Launched.Decodes (c : Coders D) (l : Launched D) : Prop :=
  ∃ data ∈ l.storage.savedProfiles, (c.decode data).isSome

lemma decodes_saved (l : Launched D) (store : ProfileStore) : (l.saved c store).Decodes c :=
  ⟨_, rfl, by rw [c.decode_encode]; rfl⟩

lemma Launched.Decodes.step {l l' : Launched D} {op : Operation} (h : l.Decodes c)
    (hstep : l.step c op = some l') : l'.Decodes c := by
  obtain ⟨data, hdata, hdecode⟩ := h
  rcases storage_step hstep with heq | ⟨store, heq⟩ | ⟨removeItem, heq⟩
  · exact ⟨data, heq ▸ hdata, hdecode⟩
  · exact ⟨_, by rw [heq]; rfl, by rw [c.decode_encode]; rfl⟩
  · refine ⟨data, ?_, hdecode⟩
    rw [heq, savedProfiles_migrate, Option.mem_def.1 hdata]
    rfl

/-- Nothing has been loaded, since the data under the key do not decode. -/
structure Launched.Failed (l : Launched D) (data : D) : Prop where
  savedProfiles : l.storage.savedProfiles = some data
  store : l.store = {}
  uploads : l.uploads = []

lemma failed_launch {data : D} (hdata : c.decode data = none) {storage : Storage D}
    (h : storage.savedProfiles = some data) (removeItem : Bool) :
    (launch c removeItem storage).Failed data := by
  have hsaved : (migrateFromFileIfNeeded c removeItem storage).savedProfiles = some data := by
    rw [savedProfiles_migrate, h]
    rfl
  refine ⟨hsaved, ?_, rfl⟩
  change (migrateFromFileIfNeeded c removeItem storage).store c = {}
  unfold Storage.store
  rw [hsaved, Option.bind_some, hdata]

lemma Launched.Failed.step {data : D} (hdata : c.decode data = none) {l l' : Launched D} {op : Operation}
    (h : l.Failed data) (hstep : l.step c op = some l') :
    if op.saves then l'.Decodes c else l'.Failed data := by
  have hfound : ∀ profile store, l.savedIfFound c profile store = l := by
    intro profile store
    rw [Launched.savedIfFound, h.store]
    rfl
  cases op with
  | upload id name configString username password =>
    simp only [Launched.step] at hstep
    split_ifs at hstep
    obtain rfl := Option.some.inj hstep
    cases hvalid : ProfileStore.validationError (VPNProtocolType.detect configString) configString with
    | some error =>
      rw [Operation.saves, hvalid, Launched.upload,
        l.store.addProfile_of_error id name username password hvalid]
      exact h
    | none =>
      rw [Operation.saves, hvalid, Launched.upload, ProfileStore.addProfile, hvalid]
      exact decodes_saved l _
  | selectUploaded i =>
    simp [Launched.step, h.uploads] at hstep
  | selectProfile profile =>
    simp [Launched.step, h.store] at hstep
  | removeProfile profile =>
    obtain rfl := Option.some.inj hstep
    exact decodes_saved l _
  | renameProfile profile newName =>
    obtain rfl := Option.some.inj hstep
    rw [hfound]
    exact h
  | updateCredentials profile username password =>
    obtain rfl := Option.some.inj hstep
    rw [hfound]
    exact h
  | relaunch removeItem =>
    obtain rfl := Option.some.inj hstep
    exact failed_launch hdata h.savedProfiles removeItem

/-- The data stay until the first operation that saves. -/
lemma Launched.Failed.run {data : D} (hdata : c.decode data = none) {l l' : Launched D} {ops : List Operation}
    (h : l.Failed data) (hrun : run (Launched.step c) l ops = some l') :
    if ops.any Operation.saves then l'.Decodes c else l'.Failed data := by
  induction ops generalizing l with
  | nil =>
    obtain rfl := Option.some.inj hrun
    exact h
  | cons op ops ih =>
    obtain ⟨l₁, hstep, hrun⟩ := run_cons.1 hrun
    have hfirst := h.step hdata hstep
    cases hsaves : op.saves with
    | true =>
      rw [hsaves, if_pos rfl] at hfirst
      rw [List.any_cons, hsaves, Bool.true_or, if_pos rfl]
      exact run_invariant_of_step (fun _ _ _ h hs => h.step hs) hfirst hrun
    | false =>
      rw [hsaves, if_neg Bool.false_ne_true] at hfirst
      rw [List.any_cons, hsaves, Bool.false_or]
      exact ih hfirst hrun

/-- **When data that could not be decoded are still there**: after a launch and any operations, if and
only if the data under the key, if any, decode, or no operation saves. -/
theorem preserved_iff {storage : Storage D} {removeItem : Bool} {ops : List Operation} {l : Launched D}
    (hrun : run (Launched.step c) (launch c removeItem storage) ops = some l) :
    storage.Preserved c l.storage ↔
      (∀ data ∈ storage.savedProfiles, (c.decode data).isSome) ∨ ∀ op ∈ ops, op.saves = false := by
  have hfailed : ∀ data, storage.savedProfiles = some data → c.decode data = none →
      if ops.any Operation.saves then l.Decodes c else l.Failed data := by
    intro data hsaved hdata
    exact (failed_launch hdata hsaved removeItem).run hdata hrun
  constructor
  · intro h
    by_contra hno
    push Not at hno
    obtain ⟨⟨data, hsaved, hundecodable⟩, op, hop, hsaves⟩ := hno
    have hdata : c.decode data = none := by simpa using hundecodable
    have hend := hfailed data hsaved hdata
    rw [List.any_eq_true.2 ⟨op, hop, by simpa using hsaves⟩, if_pos rfl] at hend
    obtain ⟨data', hdata', hdecode⟩ := hend
    rw [h.savedProfiles data hsaved hdata] at hdata'
    obtain rfl := Option.some.inj hdata'
    rw [hdata] at hdecode
    cases hdecode
  · intro h
    refine ⟨?_, ?_⟩
    · intro data hsaved hdata
      have hend := hfailed data hsaved hdata
      rcases h with hdecodes | hno
      · have hdecode := hdecodes data hsaved
        rw [hdata] at hdecode
        cases hdecode
      · rw [List.any_eq_false.2 fun op hop => by simp [hno op hop], if_neg Bool.false_ne_true] at hend
        exact hend.savedProfiles
    · intro data hfile hdata
      exact run_invariant_of_step (P := fun l : Launched D => l.storage.legacyFile = some data)
        (fun _ _ _ h hs => legacyFile_step hdata h hs)
        ((legacyFile_migrate removeItem storage).2 hfile hdata) hrun

end Persistence

/-! ### An upload that is removed at once, and an upload over old data -/

/-- Data that decode, or not: profiles, or none. -/
def plainCoders : Coders (Option (List SavedProfile)) where
  encode := some
  decode := id
  uuidString id := digits id.toNat
  uuid s := (parseDigits s).map fun n => BitVec.ofNat 128 n
  decode_encode _ := rfl
  uuid_uuidString id := by simp [parseDigits_digits]

/-- The upload of an OpenVPN profile. -/
def uploadFirst : Operation := .upload 1 "a".toList "remote a\n<ca>\n</ca>".toList none none

/-- The profile that it becomes. -/
def firstProfile : SavedProfile :=
  ProfileStore.makeProfile {} 1 "a".toList "remote a\n<ca>\n</ca>".toList none none

/-- A profile that is removed before its `selectProfile` comes is selected. -/
theorem not_valid_removedUpload :
    ¬∀ (D : Type) (c : Coders D) (storage : Storage D) (removeItem : Bool) (ops : List Operation)
      (l : Launched D), storage.DistinctIDs c →
      run (Launched.step c) (launch c removeItem storage) ops = some l → l.Valid c := by
  intro h
  have hrun : (run (Launched.step plainCoders) (launch plainCoders true {})
      [uploadFirst, .removeProfile firstProfile, .selectUploaded 0]).any
        (fun l => l.store.profiles.isEmpty && l.store.selectedProfileID.isSome) = true := by decide +kernel
  obtain ⟨l, hl, hstate⟩ := Option.any_eq_true _ _ |>.1 hrun
  simp only [Bool.and_eq_true, List.isEmpty_iff] at hstate
  have hvalid := h _ plainCoders {} true _ l (by rintro data (⟨⟨⟩⟩ | ⟨⟨⟩⟩)) hl
  rw [hvalid.store.none_iff.2 hstate.1] at hstate
  cases hstate.2

theorem valid_selectedUpload :
    ∃ l, run (Launched.step plainCoders) (launch plainCoders true {}) [uploadFirst, .selectUploaded 0] =
      some l ∧ l.Valid plainCoders := by
  have hrun : (run (Launched.step plainCoders) (launch plainCoders true {})
      [uploadFirst, .selectUploaded 0]).isSome = true := by decide +kernel
  obtain ⟨l, hl⟩ := Option.isSome_iff_exists.1 hrun
  refine ⟨l, hl, valid_of_run ?_ true (by decide +kernel) hl⟩
  rintro data (⟨⟨⟩⟩ | ⟨⟨⟩⟩)

/-- The data of a store that could not be loaded are replaced by the next upload. -/
theorem not_preserved_upload :
    ¬∀ (D : Type) (c : Coders D) (storage : Storage D) (removeItem : Bool) (ops : List Operation)
      (l : Launched D), run (Launched.step c) (launch c removeItem storage) ops = some l →
      storage.Preserved c l.storage := by
  intro h
  have hrun : (run (Launched.step plainCoders) (launch plainCoders true { savedProfiles := some none })
      [uploadFirst]).any (fun l => l.storage.savedProfiles ≠ some none) = true := by decide +kernel
  obtain ⟨l, hl, hstate⟩ := Option.any_eq_true _ _ |>.1 hrun
  exact of_decide_eq_true hstate ((h _ plainCoders _ true _ l hl).savedProfiles none rfl rfl)

theorem preserved_relaunch :
    ∃ l, run (Launched.step plainCoders) (launch plainCoders true { savedProfiles := some none })
      [.relaunch true] = some l ∧
      ({ savedProfiles := some none } : Storage (Option (List SavedProfile))).Preserved plainCoders l.storage := by
  let storage : Storage (Option (List SavedProfile)) := { savedProfiles := some none }
  have hrun : run (Launched.step plainCoders) (launch plainCoders true storage) [.relaunch true] =
      some (launch plainCoders true (launch plainCoders true storage).storage) := rfl
  refine ⟨_, hrun, (preserved_iff hrun).2 (Or.inr ?_)⟩
  intro op hop
  obtain rfl := List.mem_singleton.1 hop
  rfl

end FreeVPN.Profile
