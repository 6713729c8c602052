import FreeVPN.Lib.Runs
import FreeVPN.Manager.VPNManager

/-!
# Successive taps

Every tap on a profile starts a `connectToProfile` task of its own: `disconnectAndWait`, `configure`,
`connect`.  The tasks run on the main actor, one at a time from await to await, in any order, and
nothing cancels the earlier ones.  All of them use one `tunnelManager`; while there is none, each
makes a manager of its own.

Saving and loading succeed.  A save takes the configuration that the manager has when it is called; it
gets into the preferences at a later moment (`commit`), and the task goes on after that.

* `MainActor.step` — one stretch of a task, a commit, a tap, or a change of the connection;
* `MainActor.careful` — the steps of tasks that no later tap has overtaken;
* `lastTapWins_of_run` — who wins in the runs of such steps.
-/

namespace FreeVPN.Session

open FreeVPN.Lib FreeVPN.Foundation FreeVPN.Profile FreeVPN.Manager

/-! ### Tasks -/

/-- Where a `connectToProfile` task is suspended. -/
inductive Stage
  | created
  /-- In the loop of `disconnectAndWait`, in an iteration. -/
  | sleeping (iteration : ℕ)
  /-- In `saveToPreferences`, before the configuration has got there. -/
  | saving (manager : ℕ) (snapshot : TunnelProtocol)
  /-- In `saveToPreferences`, after that. -/
  | saved (manager : ℕ)
  /-- In `loadFromPreferences`. -/
  | loading (manager : ℕ)
  | finished
  deriving DecidableEq

/-- The task has got its configuration into the preferences. -/
def Stage.committed : Stage → Bool
  | .saved _ | .loading _ | .finished => true
  | _ => false

/-- A `connectToProfile` task. -/
structure ConnectTask where
  profile : SavedProfile
  stage : Stage := .created
  deriving DecidableEq

/-- What the tasks share. -/
structure MainActor where
  selectedProfileID : Option UUID := none
  /-- The manager objects. -/
  managers : List TunnelManager := []
  /-- `tunnelManager`, by its place among the managers. -/
  tunnelManager : Option ℕ := none
  connectionState : ConnectionState := .invalid
  status : Status := .invalid
  /-- The tasks in the order of the taps. -/
  tasks : List ConnectTask := []
  /-- The configuration that `startVPNTunnel` was last called with. -/
  lastStarted : Option TunnelProtocol := none
  deriving DecidableEq

namespace MainActor

/-- The configuration that the preferences have for a manager. -/
def savedAt (s : MainActor) (manager : ℕ) : Option TunnelProtocol :=
  s.managers[manager]?.bind TunnelManager.saved

/-- The configuration that is saved in the tunnel manager. -/
def saved (s : MainActor) : Option TunnelProtocol := s.tunnelManager.bind s.savedAt

/-- A task goes on to the next await. -/
def setStage (s : MainActor) (i : ℕ) (stage : Stage) : MainActor :=
  { s with tasks := s.tasks.modify i fun t => { t with stage } }

/-- `updateConnectionState`, as far as the connection state goes. -/
def updateConnectionState (s : MainActor) : MainActor :=
  { s with connectionState :=
      if s.tunnelManager.isNone then .invalid else s.status.connectionState }

/-- `connect` -/
def connect (s : MainActor) : MainActor :=
  if s.tunnelManager.isNone then s else { s with lastStarted := s.saved }

/-- `tunnelManager ?? NETunnelProviderManager()` -/
def currentManager (s : MainActor) : ℕ × List TunnelManager :=
  match s.tunnelManager with
  | some manager => (manager, s.managers)
  | none => (s.managers.length, s.managers ++ [{}])

/-- `loadFromPreferences` has succeeded: the rest of `saveTunnelConfiguration`, and `connect`. -/
def finish (s : MainActor) (i manager : ℕ) : MainActor :=
  let s := { s with
    managers := s.managers.modify manager fun m => { m with protocolConfiguration := m.saved }
    tunnelManager := some manager }
  s.updateConnectionState.connect.setStage i .finished

section Keychain

variable (keychain : Text → Option Data)

/-- `configure` up to `saveToPreferences`; a text that cannot be parsed leads to `connect` at once. -/
def configure (s : MainActor) (i : ℕ) (profile : SavedProfile) : MainActor :=
  match configurationOf keychain profile with
  | none => s.connect.setStage i .finished
  | some c =>
    let (manager, managers) := s.currentManager
    { s with managers := managers.modify manager fun m =>
        { m with protocolConfiguration := some c } }.setStage i (.saving manager c)

/-- The loop of `disconnectAndWait`, at an iteration. -/
def wait (s : MainActor) (i : ℕ) (profile : SavedProfile) (iteration : ℕ) : MainActor :=
  if iteration < 50 ∧ s.connectionState ≠ .disconnected ∧ s.connectionState ≠ .invalid then
    s.setStage i (.sleeping iteration)
  else s.configure keychain i profile

/-- A task goes on. -/
def resume (s : MainActor) (i : ℕ) : Option MainActor :=
  s.tasks[i]?.bind fun t => match t.stage with
    | .created => some (if s.connectionState.isActiveOrTransitioning then s.wait keychain i t.profile 0
        else s.configure keychain i t.profile)
    | .sleeping iteration => some (s.wait keychain i t.profile (iteration + 1))
    | .saved manager => some (s.setStage i (.loading manager))
    | .loading manager => some (s.finish i manager)
    | _ => none

/-- The configuration of a task gets into the preferences. -/
def commit (s : MainActor) (i : ℕ) : Option MainActor :=
  s.tasks[i]?.bind fun t => match t.stage with
    | .saving manager snapshot =>
      some ({ s with managers := s.managers.modify manager fun m =>
        { m with saved := some snapshot } }.setStage i (.saved manager))
    | _ => none

/-- A tap on the profile that is active or transitioning, which only asks the system to disconnect. -/
def isDisconnectTap (s : MainActor) (profile : SavedProfile) : Bool :=
  some profile.id = s.selectedProfileID && s.connectionState.isActiveOrTransitioning

/-- `handleProfileTap`.  The button is disabled while a tunnel is going down. -/
def tap (s : MainActor) (profile : SavedProfile) : Option MainActor :=
  if s.connectionState = .disconnecting then none
  else if s.isDisconnectTap profile then some s
  else some { s with selectedProfileID := some profile.id, tasks := s.tasks ++ [{ profile }] }

/-- What can happen. -/
inductive Event
  | tap (profile : SavedProfile)
  | resume (i : ℕ)
  | commit (i : ℕ)
  | status (s : Status)
  | notification
  deriving DecidableEq

/-- One step. -/
def step (s : MainActor) : Event → Option MainActor
  | .tap profile => s.tap profile
  | .resume i => s.resume keychain i
  | .commit i => s.commit i
  | .status status => some { s with status }
  | .notification => some s.updateConnectionState

/-- A task that was started after the `i`-th has got its configuration into the preferences. -/
def overtaken (s : MainActor) (i : ℕ) : Bool :=
  (s.tasks.drop (i + 1)).any fun t => t.stage.committed && (configurationOf keychain t.profile).isSome

/-- The steps after which the last tap still wins: no task that has been overtaken saves its configuration
or goes on to start the tunnel. -/
def careful (s : MainActor) : Event → Bool
  | .resume i => match s.tasks[i]?.map ConnectTask.stage with
    | some (.loading _) => !s.overtaken keychain i
    | _ => true
  | .commit i => !s.overtaken keychain i
  | _ => true

/-- What is saved and what has been started last is the configuration of the last task, whose profile
is the selected one. -/
def LastTapWins (s : MainActor) : Prop :=
  ∀ t, s.tasks.getLast? = some t → s.selectedProfileID = some t.profile.id ∧
    (configurationOf keychain t.profile).isSome ∧
    s.saved = configurationOf keychain t.profile ∧ s.lastStarted = configurationOf keychain t.profile

instance (s : MainActor) : Decidable (s.LastTapWins keychain) :=
  inferInstanceAs (Decidable (∀ t ∈ s.tasks.getLast?, _))

/-- All tasks have finished. -/
def isDone (s : MainActor) : Bool := s.tasks.all fun t => t.stage = .finished

/-! ### The invariant -/

/-- A task waits with the configuration of its profile, and for a manager that there is. -/
structure Sound (s : MainActor) (t : ConnectTask) : Prop where
  saving : ∀ m c, t.stage = .saving m c → m < s.managers.length ∧ configurationOf keychain t.profile = some c
  manager : ∀ m, t.stage = .saved m ∨ t.stage = .loading m → m < s.managers.length
  isSome : ∀ m, t.stage = .saved m ∨ t.stage = .loading m → (configurationOf keychain t.profile).isSome

/-- What a task has committed is still there; what it has started is still the last. -/
structure Holds (s : MainActor) (t : ConnectTask) : Prop where
  saved : ∀ m, t.stage = .saved m ∨ t.stage = .loading m → s.savedAt m = configurationOf keychain t.profile
  finished : t.stage = .finished →
    s.saved = configurationOf keychain t.profile ∧ s.lastStarted = configurationOf keychain t.profile

/-- The task has got its configuration into the preferences. -/
def HasSaved (t : ConnectTask) : Prop := t.stage.committed ∧ (configurationOf keychain t.profile).isSome

/-- The invariant: of the tasks that have got their configurations there, the one of the latest tap holds. -/
structure Inv (s : MainActor) : Prop where
  manager : ∀ m, s.tunnelManager = some m → m < s.managers.length
  sound : ∀ (i : ℕ) t, s.tasks[i]? = some t → Sound keychain s t
  selected : ∀ t, s.tasks.getLast? = some t → s.selectedProfileID = some t.profile.id
  latest : ∀ (i : ℕ) t, s.tasks[i]? = some t → HasSaved keychain t → s.overtaken keychain i = false →
    Holds keychain s t

/-- Nothing that has been saved has changed, and nothing else has been started. -/
structure Frame (s s' : MainActor) : Prop where
  savedAt : ∀ m < s.managers.length, s'.savedAt m = s.savedAt m
  saved : s'.saved = s.saved
  lastStarted : s'.lastStarted = s.lastStarted ∨ s'.lastStarted = s.saved

variable {keychain}

lemma overtaken_eq_false {s : MainActor} {i : ℕ} :
    s.overtaken keychain i = false ↔ ∀ (j : ℕ) t, i < j → s.tasks[j]? = some t → ¬HasSaved keychain t := by
  unfold overtaken HasSaved
  simp only [List.any_eq_false, Bool.and_eq_true]
  constructor
  · intro h j t hij ht
    refine h t (List.mem_iff_getElem?.2 ⟨j - (i + 1), ?_⟩)
    rw [List.getElem?_drop, show i + 1 + (j - (i + 1)) = j by omega, ht]
  · intro h t ht
    obtain ⟨k, hk⟩ := List.mem_iff_getElem?.1 ht
    rw [List.getElem?_drop] at hk
    exact h _ t (by omega) hk

lemma Frame.holds {s s' : MainActor} (h : Frame s s') {t : ConnectTask} (hs : Sound keychain s t)
    (ht : Holds keychain s t) : Holds keychain s' t where
  saved m hm := (h.savedAt m (hs.manager m hm)).trans (ht.saved m hm)
  finished hf := by
    obtain ⟨h₁, h₂⟩ := ht.finished hf
    exact ⟨h.saved.trans h₁, h.lastStarted.elim (fun heq => heq.trans h₂) fun heq => heq.trans h₁⟩

lemma Sound.mono {s s' : MainActor} (h : s.managers.length ≤ s'.managers.length) {t : ConnectTask}
    (ht : Sound keychain s t) : Sound keychain s' t where
  saving m c hm := ⟨lt_of_lt_of_le (ht.saving m c hm).1 h, (ht.saving m c hm).2⟩
  manager m hm := lt_of_lt_of_le (ht.manager m hm) h
  isSome := ht.isSome

/-- **A task goes on.**  Either nothing that was saved or started changes, or the task is the latest
to have committed. -/
lemma Inv.advance {s s' : MainActor} (h : Inv keychain s) {i : ℕ} {t : ConnectTask} {stage : Stage}
    (ht : s.tasks[i]? = some t) (htasks : s'.tasks = (s.setStage i stage).tasks)
    (hselected : s'.selectedProfileID = s.selectedProfileID)
    (hmanager : ∀ m, s'.tunnelManager = some m → m < s'.managers.length)
    (hlength : s.managers.length ≤ s'.managers.length)
    (hsound : Sound keychain s' { t with stage }) (hmono : t.stage.committed → stage.committed)
    (hholds : HasSaved keychain { t with stage } → s.overtaken keychain i = false → Holds keychain s' { t with stage })
    (hcases : Frame s s' ∨ (HasSaved keychain { t with stage } ∧ s.overtaken keychain i = false)) :
    Inv keychain s' := by
  have hget : ∀ j : ℕ, s'.tasks[j]? = s.tasks[j]?.map fun u => if i = j then { u with stage } else u := by
    intro j
    rw [htasks]
    simp only [setStage, List.getElem?_modify, Option.map_eq_map]
  have hi : s'.tasks[i]? = some { t with stage } := by simp [hget, ht]
  have hne : ∀ j : ℕ, j ≠ i → s'.tasks[j]? = s.tasks[j]? := fun j hj => by simp [hget, Ne.symm hj]
  refine ⟨hmanager, fun j u hu => ?_, fun u hu => ?_, fun j u hu hcommitted hlatest => ?_⟩
  · by_cases hj : j = i
    · subst hj
      rw [hi] at hu
      exact Option.some.inj hu ▸ hsound
    · rw [hne j hj] at hu
      exact (h.sound j u hu).mono hlength
  · rw [List.getLast?_eq_getElem?, htasks] at hu
    have hlen : (s.setStage i stage).tasks.length = s.tasks.length := by simp [setStage]
    rw [hlen, ← htasks, hget] at hu
    obtain ⟨v, hv, rfl⟩ := Option.map_eq_some_iff.1 hu
    have := h.selected v (by rw [List.getLast?_eq_getElem?, hv])
    rw [hselected, this]
    split_ifs <;> rfl
  · rw [overtaken_eq_false] at hlatest
    by_cases hj : j = i
    · subst hj
      obtain rfl := Option.some.inj (hi.symm.trans hu)
      refine hholds hcommitted (overtaken_eq_false.2 fun k v hk hv => hlatest k v hk ?_)
      rw [hne k (by omega), hv]
    · rw [hne j hj] at hu
      rcases hcases with hframe | ⟨hstage, hover⟩
      · refine hframe.holds (h.sound j u hu) (h.latest j u hu hcommitted (overtaken_eq_false.2 ?_))
        intro k v hk hv
        by_cases hki : k = i
        · subst hki
          obtain rfl := Option.some.inj (ht.symm.trans hv)
          exact fun hc => hlatest k _ hk hi ⟨hmono hc.1, hc.2⟩
        · exact hlatest k v hk (by rw [hne k hki, hv])
      · -- a task before the one that goes on is overtaken, and there is none committed behind it
        rcases Nat.lt_or_ge j i with hlt | hge
        · exact absurd hstage (hlatest i _ hlt hi)
        · exact absurd hcommitted (overtaken_eq_false.1 hover j u (by omega) hu)

/-- Nothing changes for the managers there are, if the tunnel manager stays. -/
lemma Frame.of_savedAt {s s' : MainActor} (hmanager : ∀ m, s.tunnelManager = some m → m < s.managers.length)
    (hsame : s'.tunnelManager = s.tunnelManager) (hsaved : ∀ m < s.managers.length, s'.savedAt m = s.savedAt m)
    (hstarted : s'.lastStarted = s.lastStarted ∨ s'.lastStarted = s.saved) : Frame s s' where
  savedAt := hsaved
  saved := by
    change s'.tunnelManager.bind s'.savedAt = s.tunnelManager.bind s.savedAt
    rw [hsame]
    cases hm : s.tunnelManager with
    | none => rfl
    | some m => exact hsaved m (hmanager m hm)
  lastStarted := hstarted

/-- A change that leaves the preferences alone. -/
lemma savedAt_modify (ms : List TunnelManager) (n m : ℕ) {f : TunnelManager → TunnelManager}
    (hf : ∀ x, (f x).saved = x.saved) :
    (ms.modify n f)[m]?.bind TunnelManager.saved = ms[m]?.bind TunnelManager.saved := by
  rw [List.getElem?_modify]
  cases ms[m]? with
  | none => rfl
  | some x =>
    simp only [Option.map_eq_map, Option.map_some, Option.bind_some]
    split_ifs
    · exact hf x
    · rfl

/-! ### One step -/

/-- Without a configuration of its own a task starts what is saved. -/
lemma Inv.connect {s : MainActor} (h : Inv keychain s) {i : ℕ} {t : ConnectTask} (ht : s.tasks[i]? = some t)
    (hnone : configurationOf keychain t.profile = none) : Inv keychain (s.connect.setStage i .finished) := by
  have hframe : s.connect.tasks = s.tasks ∧ s.connect.managers = s.managers ∧
      s.connect.tunnelManager = s.tunnelManager ∧ s.connect.selectedProfileID = s.selectedProfileID ∧
      (s.connect.lastStarted = s.lastStarted ∨ s.connect.lastStarted = s.saved) := by
    unfold MainActor.connect
    split_ifs <;> simp
  obtain ⟨htasks, hmanagers, hmanager, hselected, hstarted⟩ := hframe
  have htasks' : (s.connect.setStage i .finished).tasks = (s.setStage i .finished).tasks := by
    simp [setStage, htasks]
  refine h.advance ht htasks' hselected ?_ (by simp [setStage, hmanagers])
    ⟨?_, ?_, ?_⟩ (fun _ => rfl) (fun hsaved => ?_) (Or.inl ?_)
  · simpa [setStage, hmanagers, hmanager] using h.manager
  · intro m c hm
    cases hm
  · rintro m (hm | hm) <;> cases hm
  · rintro m (hm | hm) <;> cases hm
  · have hsome : (configurationOf keychain t.profile).isSome := hsaved.2
    rw [hnone] at hsome
    cases hsome
  · refine Frame.of_savedAt h.manager hmanager (fun m _ => ?_) hstarted
    simp [savedAt, setStage, hmanagers]

/-- `configure` up to the save changes nothing that is saved. -/
lemma Inv.configure {s : MainActor} (h : Inv keychain s) {i : ℕ} {t : ConnectTask}
    (ht : s.tasks[i]? = some t) (hstage : t.stage.committed = false) :
    Inv keychain (s.configure keychain i t.profile) := by
  cases hc : configurationOf keychain t.profile with
  | none =>
    unfold MainActor.configure
    rw [hc]
    exact h.connect ht hc
  | some c =>
    have hcurrent : s.currentManager.1 < s.currentManager.2.length ∧
        s.managers.length ≤ s.currentManager.2.length ∧
        ∀ m < s.managers.length, s.currentManager.2[m]? = s.managers[m]? := by
      unfold currentManager
      cases hm : s.tunnelManager with
      | none =>
        refine ⟨by simp, by simp, fun m hlt => ?_⟩
        simp [List.getElem?_append_left hlt]
      | some m => exact ⟨h.manager m hm, le_rfl, fun m _ => rfl⟩
    obtain ⟨hlt, hle, hget⟩ := hcurrent
    unfold MainActor.configure
    rw [hc]
    refine h.advance ht rfl rfl ?_ ?_ ⟨?_, ?_, ?_⟩ ?_ ?_ (Or.inl ?_)
    · intro m hm
      have := h.manager m hm
      simp only [setStage, List.length_modify]
      omega
    · simpa [setStage] using hle
    · rintro m c' hm
      obtain ⟨rfl, rfl⟩ := Stage.saving.inj hm
      exact ⟨lt_of_lt_of_eq hlt (List.length_modify ..).symm, hc⟩
    · rintro m (hm | hm) <;> cases hm
    · rintro m (hm | hm) <;> cases hm
    · intro hcommitted
      rw [hstage] at hcommitted
      cases hcommitted
    · intro hsaved
      cases hsaved.1
    · refine Frame.of_savedAt h.manager rfl (fun m hlt => ?_) (Or.inl rfl)
      have hsaved := savedAt_modify s.currentManager.2 s.currentManager.1 m
        (f := fun x => { x with protocolConfiguration := some c }) fun _ => rfl
      rw [hget m hlt] at hsaved
      exact hsaved

lemma Inv.wait {s : MainActor} (h : Inv keychain s) {i : ℕ} {t : ConnectTask}
    (ht : s.tasks[i]? = some t) (hstage : t.stage.committed = false) (iteration : ℕ) :
    Inv keychain (s.wait keychain i t.profile iteration) := by
  unfold MainActor.wait
  split_ifs
  · refine h.advance ht rfl rfl h.manager le_rfl ⟨?_, ?_, ?_⟩ ?_ ?_
      (Or.inl (Frame.of_savedAt h.manager rfl (fun _ _ => rfl) (Or.inl rfl)))
    · rintro m c hm
      cases hm
    · rintro m (hm | hm) <;> cases hm
    · rintro m (hm | hm) <;> cases hm
    · intro hcommitted
      rw [hstage] at hcommitted
      cases hcommitted
    · intro hsaved
      cases hsaved.1
  · exact h.configure ht hstage

/-- A commit of a task that has not been overtaken. -/
lemma Inv.commit {s s' : MainActor} (h : Inv keychain s) {i : ℕ} (hover : s.overtaken keychain i = false)
    (hs : s.commit i = some s') : Inv keychain s' := by
  obtain ⟨t, ht, hs⟩ := Option.bind_eq_some_iff.1 hs
  have hsound := h.sound i t ht
  cases hstage : t.stage with
  | saving m c =>
    simp only [hstage, Option.some.injEq] at hs
    subst hs
    obtain ⟨hlt, hc⟩ := hsound.saving m c hstage
    have hsaved : ({ s with managers := s.managers.modify m fun x => { x with saved := some c } }.setStage i
        (.saved m)).savedAt m = some c := by
      simp [savedAt, setStage, List.getElem?_eq_getElem hlt]
    have hisSome : (configurationOf keychain t.profile).isSome := by
      rw [hc]
      rfl
    refine h.advance ht rfl rfl ?_ (by simp [setStage]) ⟨?_, ?_, fun _ _ => hisSome⟩
      (by simp [hstage, Stage.committed]) (fun _ _ => ⟨?_, ?_⟩) (Or.inr ⟨⟨rfl, hisSome⟩, hover⟩)
    · simpa [setStage] using h.manager
    · rintro m' c' hm
      cases hm
    · rintro m' (hm | hm)
      · obtain rfl := Stage.saved.inj hm
        simpa [setStage] using hlt
      · cases hm
    · rintro m' (hm | hm)
      · obtain rfl := Stage.saved.inj hm
        exact hsaved.trans hc.symm
      · cases hm
    · intro hm
      cases hm
  | created => simp [hstage] at hs
  | sleeping _ => simp [hstage] at hs
  | saved _ => simp [hstage] at hs
  | loading _ => simp [hstage] at hs
  | finished => simp [hstage] at hs

/-- The end of a task that has not been overtaken. -/
lemma Inv.finish {s : MainActor} (h : Inv keychain s) {i m : ℕ} {t : ConnectTask}
    (ht : s.tasks[i]? = some t) (hstage : t.stage = .loading m) (hover : s.overtaken keychain i = false) :
    Inv keychain (s.finish i m) := by
  have hsound := h.sound i t ht
  have hlt := hsound.manager m (Or.inr hstage)
  have hisSome := hsound.isSome m (Or.inr hstage)
  have hsaved := (h.latest i t ht ⟨by rw [hstage]; rfl, hisSome⟩ hover).saved m (Or.inr hstage)
  have hmanager : (s.finish i m).tunnelManager = some m := by
    simp [MainActor.finish, updateConnectionState, MainActor.connect, setStage]
  have hmanagers : (s.finish i m).managers =
      s.managers.modify m fun x => { x with protocolConfiguration := x.saved } := by
    simp [MainActor.finish, updateConnectionState, MainActor.connect, setStage]
  have hkeep : (s.finish i m).savedAt m = s.savedAt m := by
    unfold savedAt
    rw [hmanagers]
    exact savedAt_modify s.managers m m fun _ => rfl
  have hstarted : (s.finish i m).lastStarted = (s.finish i m).saved := by
    simp [MainActor.finish, updateConnectionState, MainActor.connect, setStage, saved, savedAt]
  have hfinish : (s.finish i m).saved = configurationOf keychain t.profile := by
    unfold saved
    rw [hmanager, Option.bind_some, hkeep, hsaved]
  refine h.advance ht ?_ ?_ ?_ ?_ (?_ : Sound keychain _ { t with stage := .finished }) (fun _ => rfl)
    (fun _ _ => ⟨?_, fun _ => ⟨hfinish, hstarted.trans hfinish⟩⟩) (Or.inr ⟨⟨rfl, hisSome⟩, hover⟩)
  · simp [MainActor.finish, updateConnectionState, MainActor.connect, setStage]
  · simp [MainActor.finish, updateConnectionState, MainActor.connect, setStage]
  · intro m' hm
    rw [hmanager] at hm
    rw [← Option.some.inj hm, hmanagers, List.length_modify]
    exact hlt
  · rw [hmanagers, List.length_modify]
  · refine ⟨?_, ?_, fun _ _ => hisSome⟩
    · rintro m' c hm
      cases hm
    · rintro m' (hm | hm) <;> cases hm
  · rintro m' (hm | hm) <;> cases hm

/-- A task goes on, and does not start the tunnel once it has been overtaken. -/
lemma Inv.resume {s s' : MainActor} (h : Inv keychain s) {i : ℕ}
    (hc : s.careful keychain (.resume i) = true) (hs : s.resume keychain i = some s') :
    Inv keychain s' := by
  obtain ⟨t, ht, hs⟩ := Option.bind_eq_some_iff.1 hs
  have hsound := h.sound i t ht
  have hnew : t.stage = .created ∨ (∃ n, t.stage = .sleeping n) → t.stage.committed = false := by
    rintro (hstage | ⟨n, hstage⟩) <;> rw [hstage] <;> rfl
  cases hstage : t.stage with
  | created =>
    simp only [hstage, Option.some.injEq] at hs
    subst hs
    have hcommitted := hnew (Or.inl hstage)
    split_ifs
    · exact h.wait ht hcommitted 0
    · exact h.configure ht hcommitted
  | sleeping n =>
    simp only [hstage, Option.some.injEq] at hs
    subst hs
    exact h.wait ht (hnew (Or.inr ⟨n, hstage⟩)) (n + 1)
  | saving m c => simp [hstage] at hs
  | saved m =>
    simp only [hstage, Option.some.injEq] at hs
    subst hs
    have hcommitted : t.stage.committed = true := by rw [hstage]; rfl
    have hisSome := hsound.isSome m (Or.inl hstage)
    refine h.advance ht rfl rfl h.manager le_rfl ⟨?_, ?_, fun _ _ => hisSome⟩ (fun _ => rfl)
      (fun _ hover => ⟨?_, ?_⟩) (Or.inl (Frame.of_savedAt h.manager rfl (fun _ _ => rfl) (Or.inl rfl)))
    · rintro m' c hm
      cases hm
    · rintro m' (hm | hm)
      · cases hm
      · exact Stage.loading.inj hm ▸ hsound.manager m (Or.inl hstage)
    · rintro m' (hm | hm)
      · cases hm
      · exact Stage.loading.inj hm ▸ (h.latest i t ht ⟨hcommitted, hisSome⟩ hover).saved m (Or.inl hstage)
    · intro hm
      cases hm
  | loading m =>
    simp only [hstage, Option.some.injEq] at hs
    subst hs
    refine h.finish ht hstage ?_
    simpa [careful, ht, hstage] using hc
  | finished => simp [hstage] at hs

/-- A tap adds a task that has not committed. -/
lemma Inv.tap {s s' : MainActor} (h : Inv keychain s) {profile : SavedProfile}
    (hs : s.tap profile = some s') : Inv keychain s' := by
  unfold MainActor.tap at hs
  split_ifs at hs with hdown hdisconnect
  · exact Option.some.inj hs ▸ h
  obtain rfl := Option.some.inj hs
  have hget : ∀ (i : ℕ) t, (s.tasks ++ [{ profile := profile }])[i]? = some t →
      s.tasks[i]? = some t ∨ t = { profile := profile } := by
    intro i t ht
    rw [List.getElem?_append] at ht
    split_ifs at ht with hi
    · exact Or.inl ht
    · exact Or.inr (List.mem_singleton.1 (List.mem_of_getElem? ht))
  refine ⟨h.manager, fun i t ht => ?_, fun t ht => ?_, fun i t ht hcommitted hover => ?_⟩
  · rcases hget i t ht with ht | rfl
    · refine Sound.mono ?_ (h.sound i t ht)
      exact le_rfl
    · refine ⟨fun m c hm => ?_, ?_, ?_⟩
      · cases hm
      · rintro m (hm | hm) <;> cases hm
      · rintro m (hm | hm) <;> cases hm
  · rw [List.getLast?_append, List.getLast?_singleton] at ht
    exact Option.some.inj ht ▸ rfl
  · rcases hget i t ht with ht' | rfl
    · refine Frame.holds ?_ (h.sound i t ht')
        (h.latest i t ht' hcommitted (overtaken_eq_false.2 fun j u hij hu => ?_))
      · exact ⟨fun _ _ => rfl, rfl, Or.inl rfl⟩
      refine overtaken_eq_false.1 hover j u hij ?_
      rw [List.getElem?_append_left (List.getElem?_eq_some_iff.1 hu).1, hu]
    · cases hcommitted.1

/-- A change of the connection leaves tasks and preferences alone. -/
lemma Inv.of_connection {s : MainActor} (h : Inv keychain s) (status : Status)
    (connectionState : ConnectionState) : Inv keychain { s with status, connectionState } := by
  refine ⟨h.manager, fun i t ht => ?_, h.selected, fun i t ht hcommitted hover => ?_⟩
  · refine Sound.mono ?_ (h.sound i t ht)
    exact le_rfl
  · refine Frame.holds ?_ (h.sound i t ht) (h.latest i t ht hcommitted hover)
    exact ⟨fun _ _ => rfl, rfl, Or.inl rfl⟩

/-- **One step.** -/
lemma Inv.step {s s' : MainActor} {e : Event} (h : Inv keychain s)
    (hc : s.careful keychain e = true) (hs : s.step keychain e = some s') : Inv keychain s' := by
  cases e with
  | tap profile => exact h.tap hs
  | resume i => exact h.resume hc hs
  | commit i => exact h.commit (by simpa [careful] using hc) hs
  | status status => exact Option.some.inj hs ▸ h.of_connection status s.connectionState
  | notification => exact Option.some.inj hs ▸ h.of_connection s.status _

/-! ### Runs -/

lemma Inv.lastTapWins {s : MainActor} (h : Inv keychain s) (hdone : s.isDone = true)
    (hlast : ∀ t, s.tasks.getLast? = some t → (configurationOf keychain t.profile).isSome) :
    s.LastTapWins keychain := by
  intro t ht
  have hi : s.tasks[s.tasks.length - 1]? = some t := by rw [← ht, List.getLast?_eq_getElem?]
  have hfinished : t.stage = .finished :=
    of_decide_eq_true (List.all_eq_true.1 hdone t (List.mem_of_getElem? hi))
  have hover : s.overtaken keychain (s.tasks.length - 1) = false := by
    refine overtaken_eq_false.2 fun j u hj hu => ?_
    have := (List.getElem?_eq_some_iff.1 hu).1
    omega
  have hholds := h.latest _ t hi ⟨by rw [hfinished]; rfl, hlast t ht⟩ hover
  exact ⟨h.selected t ht, hlast t ht, hholds.finished hfinished⟩

/-- **The last tap wins** in every run where the profile that is tapped last can be configured, and no task
saves or starts after a task of a later tap has saved. -/
theorem lastTapWins_of_run {a b : MainActor} {events : List Event} (htasks : a.tasks = [])
    (hmanager : ∀ m, a.tunnelManager = some m → m < a.managers.length)
    (hcareful : Along (MainActor.step keychain) (fun s e => s.careful keychain e = true) a events)
    (hrun : run (MainActor.step keychain) a events = some b) (hdone : b.isDone = true)
    (hlast : ∀ t, b.tasks.getLast? = some t → (configurationOf keychain t.profile).isSome) :
    b.LastTapWins keychain := by
  have hinv : Inv keychain a := by
    refine ⟨hmanager, fun i t ht => ?_, fun t ht => ?_, fun i t ht => ?_⟩ <;> simp [htasks] at ht
  exact (run_invariant (fun s e s' h hc hs => h.step hc hs) hinv hcareful hrun).lastTapWins hdone hlast

end Keychain

end MainActor

/-! ### Two taps while a tunnel goes down -/

open MainActor.Event in
/-- A first profile is tapped and connected. -/
def tapFirst : List MainActor.Event :=
  [tap (openVPNProfile 1 "a"), resume 0, commit 0, resume 0, resume 0, status .connected, notification]

/-- Two more profiles are tapped.  The task of the first waits for the tunnel to go down; that of the
second, which comes when it has, does not wait, and is done when the other one wakes up. -/
theorem not_lastTapWins_twoTaps :
    ¬∀ (keychain : Text → Option Data) (events : List MainActor.Event) (b : MainActor),
      run (MainActor.step keychain) {} events = some b → b.isDone = true → b.LastTapWins keychain := by
  intro h
  have hrun : (run (MainActor.step fun _ => none) {} (tapFirst ++
      [.tap (openVPNProfile 2 "b"), .resume 1, .status .disconnected, .notification,
        .tap (openVPNProfile 3 "c"), .resume 2, .commit 2, .resume 2, .resume 2,
        .resume 1, .commit 1, .resume 1, .resume 1])).any
      (fun b => b.isDone && !decide (b.LastTapWins fun _ => none)) = true := by decide +kernel
  obtain ⟨b, hb, hwins⟩ := Option.any_eq_true _ _ |>.1 hrun
  simp only [Bool.and_eq_true, Bool.not_eq_true', decide_eq_false_iff_not] at hwins
  exact hwins.2 (h _ _ b hb hwins.1)

/-- The tasks of two taps, the first of which has saved before the second one does. -/
theorem lastTapWins_inTurn :
    ∃ b : MainActor, run (MainActor.step fun _ => none) {} (tapFirst ++
        [.tap (openVPNProfile 2 "b"), .resume 1, .status .disconnected, .notification, .resume 1,
          .tap (openVPNProfile 3 "c"), .commit 1, .resume 2, .resume 1, .resume 1,
          .commit 2, .resume 2, .resume 2]) = some b ∧
      b.isDone = true ∧ b.LastTapWins fun _ => none := by
  have hrun : (run (MainActor.step fun _ => none) {} (tapFirst ++
        [.tap (openVPNProfile 2 "b"), .resume 1, .status .disconnected, .notification, .resume 1,
          .tap (openVPNProfile 3 "c"), .commit 1, .resume 2, .resume 1, .resume 1,
          .commit 2, .resume 2, .resume 2])).any (fun b => b.isDone &&
        b.tasks.getLast?.all fun t => (configurationOf (fun _ => none) t.profile).isSome) = true := by decide +kernel
  obtain ⟨b, hb, hend⟩ := Option.any_eq_true _ _ |>.1 hrun
  obtain ⟨hdone, hlast⟩ := Bool.and_eq_true_iff.1 hend
  exact ⟨b, hb, hdone, MainActor.lastTapWins_of_run (a := {}) rfl (by simp) (by decide +kernel) hb hdone
    fun t ht => by simpa [ht] using hlast⟩

end FreeVPN.Session
