import FreeVPN.Lib.Runs
import FreeVPN.Manager.VPNManager
import FreeVPN.Upload.ProfileServer

/-!
# The profile that is shown as active

`ContentView` takes the selected profile for the one that is tunnelled.  The app below has the store,
the manager, and the connection state that the notifications leave behind; beside it stands the
system with the status of the connection and the configuration that the tunnel was started from.

An action is run to completion.  What the system does while `connectToProfile` waits for it is part of
the action: a list of status changes and notifications.

* `App.step` — one action;
* `App.careful` — the steps after which the shown profile is still the tunnelled one;
* `shown_of_run` — what holds after every run of such steps.
-/

namespace FreeVPN.Session

open FreeVPN.Lib FreeVPN.Foundation FreeVPN.Profile FreeVPN.Manager FreeVPN.Upload

/-! ### The app and the system -/

/-- The app and the system beside it. -/
structure App where
  store : ProfileStore := {}
  manager : VPNManager := {}
  connectionState : ConnectionState := .invalid
  /-- The status of the connection in the system. -/
  status : Status := .invalid
  /-- The configuration that the last tunnel was started from. -/
  startedFrom : Option TunnelProtocol := none
  deriving DecidableEq

/-- What the system does by itself. -/
inductive SystemStep
  | status (s : Status)
  /-- `NEVPNStatusDidChange` arrives. -/
  | notification
  deriving DecidableEq

/-- `isActiveOrTransitioning` -/
def App.isActive (a : App) : Bool := a.connectionState.isActiveOrTransitioning

/-- `isProfileActive(_:)` -/
def App.isProfileActive (a : App) (profile : SavedProfile) : Bool :=
  some profile.id = a.store.selectedProfileID && a.connectionState = .connected

/-- `isProfileTransitioning(_:)` -/
def App.isProfileTransitioning (a : App) (profile : SavedProfile) : Bool :=
  some profile.id = a.store.selectedProfileID &&
    (a.connectionState = .connecting || a.connectionState = .reasserting)

/-- `updateConnectionState`, as far as the connection state goes. -/
def App.updateConnectionState (a : App) : App :=
  { a with connectionState :=
      if a.manager.tunnelManager.isNone then .invalid else a.status.connectionState }

/-- A step of the system.  It starts no tunnel: one that is down stays down, and one that is going
down does not come up again. -/
def App.system (a : App) : SystemStep → Option App
  | .status s => if a.status.isUp ∨ s.isDown then some { a with status := s } else none
  | .notification => some a.updateConnectionState

/-- What happens in the system while a `connectToProfile` waits for it. -/
structure Course where
  /-- During `disconnectAndWait`. -/
  waiting : List SystemStep := []
  /-- During `saveToPreferences` and `loadFromPreferences`. -/
  saving : List SystemStep := []
  answers : Answers := {}
  startVPNTunnel : Except StartFailure Unit := .ok ()

/-- `disconnectAndWait`, if there is something to disconnect, and the awaits of `configure`. -/
def App.await (a : App) (course : Course) : Option App :=
  (if a.isActive then run App.system a course.waiting else some a).bind fun a =>
    run App.system a course.saving

/-- `connect`: the system starts a tunnel from the configuration that is saved, unless there is one. -/
def App.connect (a : App) (startVPNTunnel : Except StartFailure Unit) : App :=
  let (manager, called) := a.manager.connect startVPNTunnel
  if called && startVPNTunnel.isOk && a.status.isDown then
    { a with manager, status := .connecting, startedFrom := manager.saved }
  else { a with manager }

section Keychain

variable (keychain : Text → Option Data)

/-- `configure` -/
def App.configure (a : App) (answers : Answers) (profile : SavedProfile) : App :=
  let a := { a with manager := a.manager.configure keychain answers profile }
  -- a call that has got to its end has no error message
  if a.manager.errorMessage.isNone then a.updateConnectionState else a

/-- `connectToProfile` -/
def App.connectToProfile (a : App) (profile : SavedProfile) (course : Course) : Option App :=
  (a.await course).map fun a => (a.configure keychain course.answers profile).connect course.startVPNTunnel

/-! ### Actions -/

/-- What the user does, and what the system does in between. -/
inductive Action
  | tap (profile : SavedProfile) (course : Course)
  | upload (id : UUID) (received : Received)
  | delete (profile : SavedProfile)
  | editCredentials (profile : SavedProfile) (username password : Text) (course : Course)
  | system (s : SystemStep)

/-- `handleProfileTap`.  The button is disabled while a tunnel is going down. -/
def App.handleProfileTap (a : App) (profile : SavedProfile) (course : Course) : Option App :=
  if a.connectionState = .disconnecting then none
  else if a.isProfileActive profile || a.isProfileTransitioning profile then some a
  else { a with store := a.store.selectProfile profile }.connectToProfile keychain profile course

/-- `onProfileReceived`, with the delayed `selectProfile`. -/
def App.upload (a : App) (id : UUID) (received : Received) : App :=
  let (error, store) := received.add a.store id
  match error, store.profiles.getLast? with
  | none, some profile => { a with store := store.selectProfile profile }
  | _, _ => { a with store }

/-- The "Delete" button; its `disconnect()` is a request to the system. -/
def App.delete (a : App) (profile : SavedProfile) : App :=
  { a with store := a.store.removeProfile profile }

/-- The profile with the same id after the credentials have been changed. -/
def App.editedProfile (a : App) (profile : SavedProfile) : SavedProfile :=
  (a.store.profiles.find? fun p => p.id = profile.id).getD profile

/-- The "Save" button of the credentials. -/
def App.editCredentials (a : App) (profile : SavedProfile) (username password : Text) (course : Course) :
    Option App :=
  let a := { a with store := a.store.updateCredentials profile username password }
  if a.isProfileActive profile then a.connectToProfile keychain (a.editedProfile profile) course
  else some a

/-- One action.  The profiles that the user acts on are those of the list, and `UUID()` is new. -/
def App.step (a : App) : Action → Option App
  | .tap profile course =>
    if profile ∈ a.store.profiles then a.handleProfileTap keychain profile course else none
  | .upload id received =>
    if ∀ p ∈ a.store.profiles, p.id ≠ id then some (a.upload id received) else none
  | .delete profile => if profile ∈ a.store.profiles then some (a.delete profile) else none
  | .editCredentials profile username password course =>
    if profile ∈ a.store.profiles ∧ profile.requiresAuth then
      a.editCredentials keychain profile username password course
    else none
  | .system s => a.system s

/-! ### What is shown -/

/-- The selected profile is in the store, and the tunnel was started from its configuration. -/
def App.Shown (a : App) : Prop :=
  ∃ p ∈ a.store.profiles, a.store.selectedProfileID = some p.id ∧
    (configurationOf keychain p).isSome ∧ a.startedFrom = configurationOf keychain p

instance (a : App) : Decidable (a.Shown keychain) :=
  inferInstanceAs (Decidable (∃ p ∈ a.store.profiles, _ ∧ _ ∧ _))

/-- There is no tunnel up or coming up, for the app or for the system. -/
def App.isQuiet (a : App) : Bool := !a.isActive && !a.status.isUp

/-- The invariant: a tunnel that is up, for the app or for the system, is that of the selected
profile. -/
def App.Inv (a : App) : Prop := a.isQuiet = false → a.Shown keychain

/-- A `connectToProfile` that leaves no other tunnel: the old one is down when the wait is over, and
what is saved then is the profile's configuration. -/
def App.connectsOwn (a : App) (profile : SavedProfile) (course : Course) : Bool :=
  (a.await course).all fun a => !a.isActive && a.status.isDown &&
    (a.manager.tunnelManager.isNone || (configurationOf keychain profile).any fun c =>
      course.answers.saveToPreferences.isOk || a.manager.saved = some c)

/-- The dialog has the credentials that the profile has already. -/
def App.keepsCredentials (a : App) (profile : SavedProfile) (username password : Text) : Bool :=
  a.store.profiles.all fun p => p.id ≠ profile.id ||
    (p.username = (if username = [] then none else some username) &&
      p.password = if password = [] then none else some password)

/-- The steps that keep the invariant. -/
def App.careful (a : App) : Action → Bool
  | .tap profile course =>
    a.isProfileActive profile || a.isProfileTransitioning profile ||
      { a with store := a.store.selectProfile profile }.connectsOwn keychain profile course
  | .upload id received => a.isQuiet || (received.add a.store id).1.isSome
  | .delete profile => a.isQuiet || a.store.selectedProfileID ≠ some profile.id
  | .editCredentials profile username password course =>
    let b := { a with store := a.store.updateCredentials profile username password }
    if a.isProfileActive profile then b.connectsOwn keychain (b.editedProfile profile) course
    else a.isQuiet || a.store.selectedProfileID ≠ some profile.id || a.keepsCredentials profile username password
  | .system _ => true

variable {keychain}

/-! ### One step -/

/-- The system does not touch what the app keeps. -/
lemma run_system_frame {a b : App} {ss : List SystemStep} (h : run App.system a ss = some b) :
    b.store = a.store ∧ b.manager = a.manager ∧ b.startedFrom = a.startedFrom := by
  refine run_invariant_of_step (P := fun b : App => b.store = a.store ∧ b.manager = a.manager ∧
    b.startedFrom = a.startedFrom) ?_ ⟨rfl, rfl, rfl⟩ h
  rintro u s v hu hs
  cases s with
  | status s =>
    simp only [App.system] at hs
    split_ifs at hs
    exact Option.some.inj hs ▸ hu
  | notification => exact Option.some.inj hs ▸ hu

lemma await_frame {a b : App} {course : Course} (h : a.await course = some b) :
    b.store = a.store ∧ b.manager = a.manager ∧ b.startedFrom = a.startedFrom := by
  obtain ⟨u, hu, hb⟩ := Option.bind_eq_some_iff.1 h
  obtain ⟨h₁, h₂, h₃⟩ := run_system_frame hb
  split_ifs at hu
  · obtain ⟨h₄, h₅, h₆⟩ := run_system_frame hu
    exact ⟨h₁.trans h₄, h₂.trans h₅, h₃.trans h₆⟩
  · obtain rfl := Option.some.inj hu
    exact ⟨h₁, h₂, h₃⟩

lemma isQuiet_eq_false {a : App} : a.isQuiet = false ↔ a.isActive = true ∨ a.status.isUp = true := by
  unfold App.isQuiet
  cases a.isActive <;> cases a.status.isUp <;> simp

/-- After `updateConnectionState` the app is active only if the system is. -/
lemma isUp_of_updateConnectionState {a : App} (h : a.updateConnectionState.isActive = true) :
    a.status.isUp = true := by
  unfold App.updateConnectionState App.isActive at h
  split_ifs at h
  · cases h
  · rwa [isActiveOrTransitioning_connectionState] at h

/-- A step of the system keeps the invariant. -/
lemma App.Inv.system {a b : App} (ha : a.Inv keychain) {s : SystemStep} (h : a.system s = some b) :
    b.Inv keychain := by
  cases s with
  | status s =>
    simp only [App.system] at h
    split_ifs at h with hup
    obtain rfl := Option.some.inj h
    intro hquiet
    refine ha (isQuiet_eq_false.2 ?_)
    rcases isQuiet_eq_false.1 hquiet with hactive | hs
    · exact Or.inl hactive
    · exact Or.inr (hup.resolve_right fun hdown => by simp [Status.isUp_eq_false_of_isDown hdown] at hs)
  | notification =>
    obtain rfl := Option.some.inj h
    intro hquiet
    refine ha (isQuiet_eq_false.2 (Or.inr ?_))
    rcases isQuiet_eq_false.1 hquiet with hactive | hup
    · exact isUp_of_updateConnectionState hactive
    · exact hup

/-- `configure` touches the manager and the connection state only. -/
lemma configure_frame (a : App) (answers : Answers) (profile : SavedProfile) :
    (a.configure keychain answers profile).store = a.store ∧
      (a.configure keychain answers profile).status = a.status ∧
      (a.configure keychain answers profile).manager = a.manager.configure keychain answers profile ∧
      ((a.configure keychain answers profile).isActive = true → a.isActive = true ∨ a.status.isUp = true) := by
  unfold App.configure
  dsimp only
  split_ifs
  · refine ⟨rfl, rfl, rfl, fun h => Or.inr ?_⟩
    exact isUp_of_updateConnectionState
      (a := { a with manager := a.manager.configure keychain answers profile }) h
  · exact ⟨rfl, rfl, rfl, Or.inl⟩

/-- **A careful `connectToProfile` shows its profile.** -/
lemma inv_connectToProfile {a b : App} {profile : SavedProfile} {course : Course}
    (hmem : profile ∈ a.store.profiles) (hselected : a.store.selectedProfileID = some profile.id)
    (hown : a.connectsOwn keychain profile course)
    (h : a.connectToProfile keychain profile course = some b) : b.Inv keychain := by
  obtain ⟨u, hu, rfl⟩ := Option.map_eq_some_iff.1 h
  obtain ⟨hstore, -, -⟩ := await_frame hu
  simp only [App.connectsOwn, hu, Option.all_some, Bool.and_eq_true, Bool.or_eq_true,
    Bool.not_eq_true', Option.any_eq_true, Option.isNone_iff_eq_none, decide_eq_true_eq] at hown
  obtain ⟨⟨hinactive, hdown⟩, hsaved⟩ := hown
  have hup := Status.isUp_eq_false_of_isDown hdown
  obtain ⟨h₁, h₂, h₃, h₄⟩ := @configure_frame keychain u course.answers profile
  have hinactive' : (u.configure keychain course.answers profile).isActive = false := by
    refine Bool.eq_false_iff.2 fun hactive => ?_
    rcases h₄ hactive with h | h
    · rw [hinactive] at h
      cases h
    · rw [hup] at h
      cases h
  generalize u.configure keychain course.answers profile = v at *
  intro hquiet
  unfold App.connect at hquiet ⊢
  dsimp only at hquiet ⊢
  split_ifs at hquiet ⊢ with hstart
  · -- the system has started a tunnel, from what is saved
    simp only [Bool.and_eq_true, VPNManager.connect_calls, h₃] at hstart
    obtain ⟨c, hc, hown⟩ := VPNManager.saved_configure keychain hsaved hstart.1.1
    refine ⟨profile, ?_, ?_, by rw [hc]; rfl, ?_⟩
    · rw [h₁, hstore]
      exact hmem
    · rw [h₁, hstore]
      exact hselected
    · rw [VPNManager.connect_saved, h₃, hc]
      exact hown
  · rcases isQuiet_eq_false.1 hquiet with h | h
    · exact absurd (hinactive'.symm.trans h) (by decide)
    · rw [h₂, hup] at h
      cases h

/-- An invariant that only the store can break. -/
lemma App.Inv.of_store {a : App} (ha : a.Inv keychain) {store : ProfileStore}
    (h : a.isQuiet = false → a.Shown keychain → { a with store := store }.Shown keychain) :
    { a with store := store }.Inv keychain :=
  fun hquiet => h hquiet (ha hquiet)

/-- The profile that is connected after its credentials have been changed. -/
lemma editedProfile_spec {a : App} {profile : SavedProfile} (hmem : profile ∈ a.store.profiles)
    (username password : Text) :
    let b := { a with store := a.store.updateCredentials profile username password }
    b.editedProfile profile ∈ b.store.profiles ∧ (b.editedProfile profile).id = profile.id := by
  intro b
  have hids : b.store.profiles.map SavedProfile.id = a.store.profiles.map SavedProfile.id :=
    ProfileStore.map_id_modifyFirst _ _ fun _ => rfl
  have hid : profile.id ∈ b.store.profiles.map SavedProfile.id := by
    rw [hids]
    exact List.mem_map_of_mem hmem
  obtain ⟨q, hq, hqid⟩ := List.mem_map.1 hid
  cases hfind : b.store.profiles.find? fun p => p.id = profile.id with
  | none => exact absurd (List.find?_eq_none.1 hfind q hq) (by simp [hqid])
  | some p =>
    rw [App.editedProfile, hfind]
    exact ⟨List.mem_of_find?_eq_some hfind, by simpa using List.find?_some hfind⟩

/-- To save the credentials that a profile has changes nothing. -/
lemma updateCredentials_of_keeps {a : App} {profile : SavedProfile} {username password : Text}
    (h : a.keepsCredentials profile username password = true) :
    a.store.updateCredentials profile username password = a.store := by
  refine ProfileStore.modifyFirst_eq_self fun p hp hid => ?_
  have hkeep := List.all_eq_true.1 h p hp
  simp only [hid, ne_eq, not_true_eq_false, decide_false, Bool.false_or, Bool.and_eq_true, decide_eq_true_eq] at hkeep
  rw [← hkeep.1, ← hkeep.2]

/-- An upload that is accepted comes while nothing is connected, and one that is refused changes nothing. -/
lemma App.Inv.upload {a : App} (ha : a.Inv keychain) {id : UUID} {received : Received}
    (hc : a.careful keychain (.upload id received)) : (a.upload id received).Inv keychain := by
  by_cases hrefused : (received.add a.store id).1.isSome
  · have hsame : (received.add a.store id).2 = a.store :=
      ProfileStore.eq_of_addProfile a.store id _ _ _ hrefused
    have hupload : a.upload id received = a := by
      unfold App.upload
      obtain ⟨error, herror⟩ := Option.isSome_iff_exists.1 hrefused
      simp [herror, hsame]
    rw [hupload]
    exact ha
  · simp only [App.careful, Bool.or_eq_true] at hc
    have hstill : (a.upload id received).isQuiet = a.isQuiet := by
      unfold App.upload
      dsimp only
      split <;> rfl
    intro hquiet
    rw [hstill, hc.resolve_right hrefused] at hquiet
    cases hquiet

/-- **One step.** -/
theorem App.Inv.step {a b : App} {act : Action} (ha : a.Inv keychain) (hc : a.careful keychain act)
    (h : a.step keychain act = some b) : b.Inv keychain := by
  cases act with
  | tap profile course =>
    simp only [App.step] at h
    split_ifs at h with hmem
    unfold App.handleProfileTap at h
    split_ifs at h with hdisc hpressed
    · exact Option.some.inj h ▸ ha
    · simp only [App.careful, hpressed, Bool.false_or] at hc
      exact inv_connectToProfile (a := { a with store := a.store.selectProfile profile }) hmem rfl hc h
  | upload id received =>
    simp only [App.step] at h
    split_ifs at h with hnew
    obtain rfl := Option.some.inj h
    exact ha.upload hc
  | delete profile =>
    simp only [App.step] at h
    split_ifs at h with hmem
    obtain rfl := Option.some.inj h
    refine ha.of_store fun hquiet => ?_
    rintro ⟨p, hp, hselected, hstarted⟩
    simp only [App.careful, hquiet, Bool.false_or, decide_eq_true_eq] at hc
    refine ⟨p, ProfileStore.mem_removeProfile hp fun hid => hc (hselected.trans (by rw [hid])), ?_, hstarted⟩
    rw [ProfileStore.selectedProfileID_removeProfile hc]
    exact hselected
  | editCredentials profile username password course =>
    simp only [App.step] at h
    split_ifs at h with hmem
    unfold App.editCredentials at h
    dsimp only at h
    simp only [App.careful] at hc
    have hid : (a.store.updateCredentials profile username password).selectedProfileID =
        a.store.selectedProfileID := ProfileStore.selectedProfileID_modifyFirst ..
    have hactive : { a with store := a.store.updateCredentials profile username password }.isProfileActive
        profile = a.isProfileActive profile := by
      simp only [App.isProfileActive, hid]
    rw [hactive] at h
    split_ifs at h hc with hshown
    · obtain ⟨hmem', hid'⟩ := editedProfile_spec hmem.1 username password
      refine inv_connectToProfile hmem' ?_ hc h
      rw [hid', hid]
      simp only [App.isProfileActive, Bool.and_eq_true, decide_eq_true_eq] at hshown
      exact hshown.1.symm
    · obtain rfl := Option.some.inj h
      by_cases hkeep : a.keepsCredentials profile username password = true
      · rw [updateCredentials_of_keeps hkeep]
        exact ha
      refine ha.of_store fun hquiet => ?_
      rintro ⟨p, hp, hselected, hstarted⟩
      simp only [hquiet, Bool.false_or, Bool.or_eq_true, decide_eq_true_eq] at hc
      exact ⟨p, ProfileStore.mem_modifyFirst hp fun hpid => hc.resolve_right hkeep (hselected.trans (by rw [hpid])),
        hid.trans hselected, hstarted⟩
  | system s => exact ha.system h

/-- **The profile that is shown as active is the tunnelled one**, after every run of careful steps:
where no profile is uploaded and selected, and the selected one is neither deleted nor gets other credentials, while
a tunnel is up or coming up, and every `connectToProfile` finds the old tunnel down and what is saved
its own. -/
theorem shown_of_run {a b : App} {acts : List Action}
    (ha : a.isQuiet = true ∨ a.Shown keychain)
    (hcareful : Along (App.step keychain) (fun a act => a.careful keychain act = true) a acts)
    (hrun : run (App.step keychain) a acts = some b) (hb : b.isActive = true) : b.Shown keychain := by
  have hinv : a.Inv keychain := fun hquiet =>
    ha.resolve_left fun h => by rw [h] at hquiet; cases hquiet
  exact run_invariant (fun a act b ha hc hs => ha.step hc hs) hinv hcareful hrun
    (isQuiet_eq_false.2 (Or.inl hb))

end Keychain

/-! ### An upload while a tunnel is up -/

/-- The upload of an OpenVPN profile for a host. -/
def upload (host : String) : Received where
  name := host.toList
  config := ("remote " ++ host ++ " 1194\n<ca>\n</ca>").toList
  username := none
  password := none

/-- The profile that it becomes. -/
def uploaded (id : UUID) (host : String) : SavedProfile :=
  ProfileStore.makeProfile {} id (upload host).name (upload host).config none none

/-- A first profile is uploaded and connected. -/
def connectFirst : List Action :=
  [.upload 1 (upload "a"), .tap (uploaded 1 "a") {}, .system (.status .connected), .system .notification]

/-- A second profile that is uploaded then is shown as active, and the tunnel is that of the first. -/
theorem not_shown_upload :
    ¬∀ (keychain : Text → Option Data) (acts : List Action) (b : App),
      run (App.step keychain) {} acts = some b → b.isActive = true → b.Shown keychain := by
  intro h
  have hrun : (run (App.step fun _ => none) {} (connectFirst ++ [.upload 2 (upload "b")])).any
      (fun b => b.isActive && !decide (b.Shown fun _ => none)) = true := by decide +kernel
  obtain ⟨b, hb, hshown⟩ := Option.any_eq_true _ _ |>.1 hrun
  simp only [Bool.and_eq_true, Bool.not_eq_true', decide_eq_false_iff_not] at hshown
  exact hshown.2 (h _ _ b hb hshown.1)

theorem shown_connectFirst :
    ∃ b, run (App.step fun _ => none) {} connectFirst = some b ∧ b.isActive = true ∧
      b.Shown fun _ => none := by
  have hrun : (run (App.step fun _ => none) {} connectFirst).any (fun b => b.isActive) = true := by
    decide +kernel
  obtain ⟨b, hb, hactive⟩ := Option.any_eq_true _ _ |>.1 hrun
  exact ⟨b, hb, hactive, shown_of_run (a := {}) (Or.inl rfl) (by decide +kernel) hb hactive⟩

end FreeVPN.Session
