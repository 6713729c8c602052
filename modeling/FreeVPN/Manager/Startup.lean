import Mathlib.Data.List.Nodup
import FreeVPN.Lib.Runs
import FreeVPN.Manager.VPNManager

/-!
# Loading the manager while a profile is configured

`VPNManager.init` starts a task with `loadExistingManager`, and the app can call `configure` before that
task has finished.  Both are suspended while the system reads or writes the preferences, and both read
and assign `tunnelManager`.

* `Startup.step` — what the two tasks and the system do, in any order;
* `displacesNothing_iff` — in which runs the manager that `configure` has saved is the one that is kept,
  and no second configuration comes into being.
-/

namespace FreeVPN.Manager

open FreeVPN.Lib FreeVPN.Profile

/-! ### The preferences -/

/-- `NETunnelProviderProtocol`, of which the loop reads the bundle identifier. -/
structure StoredProtocol where
  providerBundleIdentifier : Option String
  deriving DecidableEq

/-- `NETunnelProviderManager`.  Managers are counted. -/
structure StoredManager where
  id : ℕ
  protocolConfiguration : Option StoredProtocol
  deriving DecidableEq

/-- `knownTunnelBundleIdentifiers` -/
def knownTunnelBundleIdentifiers : List String :=
  [tunnelBundleIdentifier .wireGuard, tunnelBundleIdentifier .amneziaWG]

/-- The app's own configurations; the loop takes the others for stale ones. -/
def StoredManager.isOwn (m : StoredManager) : Bool :=
  match m.protocolConfiguration with
  | some proto => knownTunnelBundleIdentifiers.contains (proto.providerBundleIdentifier.getD "")
  | none => true

/-- The own configurations in the preferences. -/
def ownIds (ms : List StoredManager) : List ℕ := ms.filterMap fun m => if m.isOwn then some m.id else none

/-- A manager is saved: in the place of its configuration, or as a new one. -/
def write (ms : List StoredManager) (m : StoredManager) : List StoredManager :=
  if ms.any fun x => x.id = m.id then ms.map fun x => if x.id = m.id then m else x else ms ++ [m]

lemma write_of_mem {ms : List StoredManager} {m x : StoredManager} (hx : x ∈ ms) (hid : x.id = m.id) :
    write ms m = ms.map fun x => if x.id = m.id then m else x :=
  if_pos (List.any_eq_true.2 ⟨x, hx, decide_eq_true hid⟩)

lemma write_of_fresh {ms : List StoredManager} {m : StoredManager} (h : ∀ x ∈ ms, x.id ≠ m.id) :
    write ms m = ms ++ [m] := by
  refine if_neg fun hany => ?_
  obtain ⟨x, hx, hid⟩ := List.any_eq_true.1 hany
  exact h x hx (of_decide_eq_true hid)

/-- An own configuration is saved over an own one. -/
lemma ownIds_map {ms : List StoredManager} {m : StoredManager} (hm : m.isOwn = true)
    (h : ∀ x ∈ ms, x.id = m.id → x.isOwn = true) :
    ownIds (ms.map fun x => if x.id = m.id then m else x) = ownIds ms := by
  unfold ownIds
  rw [List.filterMap_map]
  refine List.filterMap_congr fun x hx => ?_
  by_cases hid : x.id = m.id
  · simp [hid, hm, h x hx hid]
  · simp [hid]

/-- A stale configuration is removed. -/
lemma ownIds_filter {ms : List StoredManager} {id : ℕ} (h : ∀ x ∈ ms, x.id = id → x.isOwn = false) :
    ownIds (ms.filter fun x => x.id ≠ id) = ownIds ms := by
  unfold ownIds
  rw [List.filterMap_filter]
  refine List.filterMap_congr fun x hx => ?_
  by_cases hid : x.id = id
  · simp [hid, h x hx hid]
  · simp [hid]

/-! ### The two tasks -/

/-- How far `loadExistingManager` has come. -/
inductive LoadStage
  /-- `loadAllFromPreferences` has been called. -/
  | loading
  /-- It has its answer. -/
  | loaded (managers : List StoredManager)
  /-- `removeFromPreferences` of a stale manager has been called. -/
  | removing (manager : StoredManager) (managers : List StoredManager)
  | removed (managers : List StoredManager)
  | finished
  | failed
  deriving DecidableEq

/-- How far `saveTunnelConfiguration` has come with its manager. -/
inductive ConfigureStage
  | idle
  /-- `saveToPreferences` has been called. -/
  | saving (manager : StoredManager)
  | saved (manager : StoredManager)
  /-- `loadFromPreferences` has been called. -/
  | reading (manager : StoredManager)
  | finished (manager : StoredManager)
  | failed
  deriving DecidableEq

/-- The preferences, and `VPNManager` while it starts. -/
structure Startup where
  preferences : List StoredManager
  /-- The managers that there have been. -/
  nextId : ℕ
  tunnelManager : Option ℕ := none
  load : LoadStage := .loading
  configure : ConfigureStage := .idle
  deriving DecidableEq

namespace Startup

/-- The app is started, with these configurations in the preferences. -/
def init (preferences : List (Option StoredProtocol)) : Startup where
  preferences := preferences.zipIdx.map fun p => ⟨p.2, p.1⟩
  nextId := preferences.length

/-- The loop of `loadExistingManager`, up to the next suspension. -/
def loop (s : Startup) : List StoredManager → Startup
  | [] => { s with load := .finished }
  | manager :: managers =>
    if manager.isOwn then { s with load := .finished, tunnelManager := some manager.id }
    else { s with load := .removing manager managers }

/-- What can happen next. -/
inductive Action
  /-- The system reads the preferences, in some order. -/
  | answerLoad (managers : List StoredManager)
  | failLoad
  | resumeLoad
  /-- The system removes a configuration, or does not; the error is ignored. -/
  | answerRemove (isRemoved : Bool)
  /-- `saveTunnelConfiguration` is called. -/
  | startConfigure (protocolType : VPNProtocolType)
  | answerSave
  | failConfigure
  | resumeSave
  | resumeRead
  deriving DecidableEq

/-- `tunnelManager ?? NETunnelProviderManager()`, with its new configuration. -/
def manager (s : Startup) (protocolType : VPNProtocolType) : StoredManager where
  id := s.tunnelManager.getD s.nextId
  protocolConfiguration := some { providerBundleIdentifier := some (tunnelBundleIdentifier protocolType) }

/-- One step. -/
def step (s : Startup) : Action → Option Startup
  | .answerLoad managers =>
    if s.load = .loading ∧ managers.Perm s.preferences then some { s with load := .loaded managers } else none
  | .failLoad => if s.load = .loading then some { s with load := .failed } else none
  | .resumeLoad => match s.load with
    | .loaded managers | .removed managers => some (s.loop managers)
    | _ => none
  | .answerRemove isRemoved => match s.load with
    | .removing manager managers => some { s with
        load := .removed managers
        preferences := if isRemoved then s.preferences.filter fun x => x.id ≠ manager.id else s.preferences }
    | _ => none
  | .startConfigure protocolType =>
    if s.configure = .idle then
      some { s with configure := .saving (s.manager protocolType), nextId := s.nextId + 1 }
    else none
  | .answerSave => match s.configure with
    | .saving manager => some { s with configure := .saved manager, preferences := write s.preferences manager }
    | _ => none
  | .failConfigure => match s.configure with
    | .saving _ | .reading _ => some { s with configure := .failed }
    | _ => none
  | .resumeSave => match s.configure with
    | .saved manager => some { s with configure := .reading manager }
    | _ => none
  | .resumeRead => match s.configure with
    | .reading manager => some { s with configure := .finished manager, tunnelManager := some manager.id }
    | _ => none

/-- The manager that `configure` has saved is `tunnelManager`, and there is one configuration at most if
there has been one at most. -/
structure DisplacesNothing (n : ℕ) (s : Startup) (manager : StoredManager) : Prop where
  tunnelManager : s.tunnelManager = some manager.id
  single : n ≤ 1 → (ownIds s.preferences).length ≤ 1

/-- What the loop would make the `tunnelManager`. -/
def adoptee : List StoredManager → Option ℕ
  | manager :: _ => if manager.isOwn then some manager.id else none
  | [] => none

/-- The managers that the loop has still before it. -/
def pending (s : Startup) : List StoredManager :=
  match s.load with
  | .loaded managers | .removed managers => managers
  | .removing manager managers => manager :: managers
  | .loading | .finished | .failed => []

/-- `configure` does not begin without a manager while there is one in the preferences, and the loop does
not replace the manager that `configure` has saved. -/
def Careful (s : Startup) : Action → Prop
  | .startConfigure _ => s.tunnelManager = none → (ownIds s.preferences).length ≠ 1
  | .resumeLoad => match s.configure with
    | .finished manager => ∀ id ∈ adoptee s.pending, id = manager.id
    | _ => True
  | _ => True

instance (s : Startup) : DecidablePred s.Careful
  | .startConfigure _ => inferInstanceAs (Decidable (s.tunnelManager = none → (ownIds s.preferences).length ≠ 1))
  | .resumeLoad => match hconfigure : s.configure with
    | .finished manager => decidable_of_iff (∀ id ∈ adoptee s.pending, id = manager.id) (by simp [Careful, hconfigure])
    | .idle | .saving _ | .saved _ | .reading _ | .failed => isTrue (by simp [Careful, hconfigure])
  | .answerLoad _ | .failLoad | .answerRemove _ | .answerSave | .failConfigure | .resumeSave | .resumeRead =>
    isTrue trivial

/-! ### What the tasks leave each other -/

/-- What the loop has still before it are the configurations in the preferences, or have been. -/
structure Consistent (preferences : List StoredManager) (nextId : ℕ) (pending : List StoredManager) : Prop where
  nodup : (preferences.map StoredManager.id).Nodup
  lt : ∀ m ∈ preferences, m.id < nextId
  pendingLt : ∀ m ∈ pending, m.id < nextId
  agrees : ∀ m ∈ pending, ∀ x ∈ preferences, x.id = m.id → x.isOwn = m.isOwn
  present : ∀ m ∈ pending, m.isOwn = true → ∃ x ∈ preferences, x.id = m.id

/-- An own configuration is in the preferences under this number. -/
structure Holds (preferences : List StoredManager) (id : ℕ) : Prop where
  mem : ∃ x ∈ preferences, x.id = id
  isOwn : ∀ x ∈ preferences, x.id = id → x.isOwn = true

section Consistent

variable {preferences pending : List StoredManager} {nextId : ℕ} {manager : StoredManager}

/-- The system reads the preferences. -/
lemma Consistent.read (h : Consistent preferences nextId pending) {managers : List StoredManager}
    (hperm : managers.Perm preferences) : Consistent preferences nextId managers := by
  refine ⟨h.nodup, h.lt, fun m hm => h.lt m (hperm.subset hm), ?_, fun m hm _ => ⟨m, hperm.subset hm, rfl⟩⟩
  intro m hm x hx hid
  rw [List.inj_on_of_nodup_map h.nodup hx (hperm.subset hm) hid]

lemma Consistent.subset (h : Consistent preferences nextId pending) {managers : List StoredManager}
    (hsub : managers ⊆ pending) : Consistent preferences nextId managers :=
  ⟨h.nodup, h.lt, fun m hm => h.pendingLt m (hsub hm), fun m hm => h.agrees m (hsub hm),
    fun m hm => h.present m (hsub hm)⟩

lemma Consistent.mono (h : Consistent preferences nextId pending) {nextId' : ℕ} (hle : nextId ≤ nextId') :
    Consistent preferences nextId' pending :=
  ⟨h.nodup, fun m hm => (h.lt m hm).trans_le hle, fun m hm => (h.pendingLt m hm).trans_le hle, h.agrees, h.present⟩

/-- The loop takes over a manager. -/
lemma Consistent.holds (h : Consistent preferences nextId (manager :: pending)) (hown : manager.isOwn = true) :
    Holds preferences manager.id := by
  refine ⟨h.present manager (List.mem_cons_self ..) hown, fun x hx hid => ?_⟩
  rw [h.agrees manager (List.mem_cons_self ..) x hx hid, hown]

/-- A stale configuration is removed. -/
lemma Consistent.remove (h : Consistent preferences nextId (manager :: pending)) (hstale : manager.isOwn = false) :
    Consistent (preferences.filter fun x => x.id ≠ manager.id) nextId pending := by
  have hsub : (preferences.filter fun x => x.id ≠ manager.id) ⊆ preferences := List.filter_sublist.subset
  refine ⟨(List.Sublist.map _ List.filter_sublist).nodup h.nodup, fun m hm => h.lt m (hsub hm),
    fun m hm => h.pendingLt m (List.mem_cons_of_mem _ hm), ?_, ?_⟩
  · intro m hm x hx
    exact h.agrees m (List.mem_cons_of_mem _ hm) x (hsub hx)
  · intro m hm hown
    obtain ⟨x, hx, hid⟩ := h.present m (List.mem_cons_of_mem _ hm) hown
    refine ⟨x, List.mem_filter.2 ⟨hx, decide_eq_true fun hstaleId => ?_⟩, hid⟩
    -- an own configuration has another number than the stale one
    have hsame := h.agrees manager (List.mem_cons_self ..) x hx hstaleId
    rw [h.agrees m (List.mem_cons_of_mem _ hm) x hx hid, hown, hstale] at hsame
    cases hsame

lemma ownIds_remove (h : Consistent preferences nextId (manager :: pending)) (hstale : manager.isOwn = false) :
    ownIds (preferences.filter fun x => x.id ≠ manager.id) = ownIds preferences :=
  ownIds_filter fun x hx hid => (h.agrees manager (List.mem_cons_self ..) x hx hid).trans hstale

/-- A new manager is saved. -/
lemma Consistent.append (h : Consistent preferences nextId pending) (hlt : manager.id < nextId)
    (hfresh : ∀ m ∈ preferences, m.id ≠ manager.id) (hpending : ∀ m ∈ pending, m.id ≠ manager.id) :
    Consistent (preferences ++ [manager]) nextId pending := by
  refine ⟨?_, ?_, h.pendingLt, ?_, ?_⟩
  · rw [List.map_append, List.map_singleton, List.nodup_append]
    refine ⟨h.nodup, List.nodup_singleton _, ?_⟩
    rintro id hid id' hid' rfl
    obtain ⟨m, hm, hmid⟩ := List.mem_map.1 hid
    exact hfresh m hm (hmid.trans (List.mem_singleton.1 hid'))
  · intro m hm
    rcases List.mem_append.1 hm with hm | hm
    · exact h.lt m hm
    · rw [List.mem_singleton.1 hm]
      exact hlt
  · intro m hm x hx hid
    rcases List.mem_append.1 hx with hx | hx
    · exact h.agrees m hm x hx hid
    · rw [List.mem_singleton.1 hx] at hid
      exact absurd hid.symm (hpending m hm)
  · intro m hm hown
    obtain ⟨x, hx, hid⟩ := h.present m hm hown
    exact ⟨x, List.mem_append_left _ hx, hid⟩

/-- The manager is saved over its old configuration. -/
lemma Holds.write (h : Holds preferences manager.id) (hown : manager.isOwn = true) :
    Holds (write preferences manager) manager.id ∧ ownIds (write preferences manager) = ownIds preferences := by
  obtain ⟨⟨x, hx, hid⟩, hall⟩ := h
  rw [write_of_mem hx hid]
  refine ⟨⟨⟨manager, List.mem_map.2 ⟨x, hx, if_pos hid⟩, rfl⟩, ?_⟩, ownIds_map hown hall⟩
  intro y hy hyid
  obtain ⟨z, hz, rfl⟩ := List.mem_map.1 hy
  split_ifs at hyid ⊢ with hzid
  · exact hown
  · exact absurd hyid hzid

end Consistent

/-- The actions of `loadExistingManager` and of the system for it. -/
def Action.isLoad : Action → Bool
  | .answerLoad _ | .failLoad | .resumeLoad | .answerRemove _ => true
  | .startConfigure _ | .answerSave | .failConfigure | .resumeSave | .resumeRead => false

/-- The loop removes stale managers, and those before it are in the preferences or have been. -/
structure Base (s : Startup) : Prop where
  consistent : Consistent s.preferences s.nextId s.pending
  stale : ∀ manager managers, s.load = .removing manager managers → manager.isOwn = false

/-- All that an action of `loadExistingManager` can do. -/
structure LoadStep (s : Startup) (a : Action) (t : Startup) : Prop where
  configure : t.configure = s.configure
  nextId : t.nextId = s.nextId
  own : ownIds t.preferences = ownIds s.preferences
  base : t.Base
  preferences : t.preferences ⊆ s.preferences
  pending : ∀ m ∈ t.pending, m ∈ s.pending ∨ m ∈ s.preferences
  load : s.load ≠ .finished
  tunnelManager : t.tunnelManager = s.tunnelManager ∨ ∃ id, a = .resumeLoad ∧ adoptee s.pending = some id ∧
    t.tunnelManager = some id ∧ t.load = .finished ∧ Holds t.preferences id

lemma loadStep_loop {s : Startup} (h : s.Base) (hload : s.load ≠ .finished) {managers : List StoredManager}
    (hpending : s.pending = managers) : LoadStep s .resumeLoad (s.loop managers) := by
  have hnil : Consistent s.preferences s.nextId [] := h.consistent.subset (List.nil_subset _)
  cases managers with
  | nil =>
    have hbase : Base { s with load := .finished } := ⟨hnil, fun _ _ h => nomatch h⟩
    exact ⟨rfl, rfl, rfl, hbase, List.Subset.refl _, fun m hm => absurd hm List.not_mem_nil, hload, Or.inl rfl⟩
  | cons manager managers =>
    have hconsistent := h.consistent
    rw [hpending] at hconsistent
    simp only [Startup.loop]
    split_ifs with hown
    · have hbase : Base { s with load := .finished, tunnelManager := some manager.id } :=
        ⟨hnil, fun _ _ h => nomatch h⟩
      refine ⟨rfl, rfl, rfl, hbase, List.Subset.refl _, fun m hm => absurd hm List.not_mem_nil, hload, ?_⟩
      exact Or.inr ⟨manager.id, rfl, by rw [hpending, adoptee, if_pos hown], rfl, rfl, hconsistent.holds hown⟩
    · have hbase : Base { s with load := .removing manager managers } := by
        refine ⟨hconsistent, fun manager' managers' hremoving => ?_⟩
        obtain ⟨rfl, -⟩ := LoadStage.removing.inj hremoving
        exact Bool.not_eq_true _ ▸ hown
      refine ⟨rfl, rfl, rfl, hbase, List.Subset.refl _, fun m hm => Or.inl ?_, hload, Or.inl rfl⟩
      rw [hpending]
      exact hm

/-- **A step of `loadExistingManager`.** -/
lemma loadStep {s t : Startup} {a : Action} (h : s.Base) (ha : a.isLoad = true) (hstep : s.step a = some t) :
    LoadStep s a t := by
  cases a with
  | answerLoad managers =>
    obtain ⟨⟨hload, hperm⟩, hstep⟩ := (Option.ite_none_right_eq_some ..).1 hstep
    obtain rfl := Option.some.inj hstep
    have hbase : Base { s with load := .loaded managers } := ⟨h.consistent.read hperm, fun _ _ h => nomatch h⟩
    exact ⟨rfl, rfl, rfl, hbase, List.Subset.refl _, fun m hm => Or.inr (hperm.subset hm),
      hload ▸ LoadStage.noConfusion, Or.inl rfl⟩
  | failLoad =>
    obtain ⟨hload, hstep⟩ := (Option.ite_none_right_eq_some ..).1 hstep
    obtain rfl := Option.some.inj hstep
    have hbase : Base { s with load := .failed } :=
      ⟨h.consistent.subset (List.nil_subset _), fun _ _ h => nomatch h⟩
    exact ⟨rfl, rfl, rfl, hbase, List.Subset.refl _, fun m hm => absurd hm List.not_mem_nil,
      hload ▸ LoadStage.noConfusion, Or.inl rfl⟩
  | resumeLoad =>
    simp only [step] at hstep
    split at hstep
    · rename_i managers hload
      obtain rfl := Option.some.inj hstep
      exact loadStep_loop h (hload ▸ LoadStage.noConfusion) (by rw [pending, hload])
    · rename_i managers hload
      obtain rfl := Option.some.inj hstep
      exact loadStep_loop h (hload ▸ LoadStage.noConfusion) (by rw [pending, hload])
    · cases hstep
  | answerRemove isRemoved =>
    simp only [step] at hstep
    split at hstep
    · rename_i manager managers hload
      obtain rfl := Option.some.inj hstep
      have hpending : s.pending = manager :: managers := by rw [pending, hload]
      have hconsistent := h.consistent
      rw [hpending] at hconsistent
      have hrest : ∀ m ∈ managers, m ∈ s.pending ∨ m ∈ s.preferences := by
        intro m hm
        rw [hpending]
        exact Or.inl (List.mem_cons_of_mem _ hm)
      have hload' : s.load ≠ .finished := hload ▸ LoadStage.noConfusion
      cases isRemoved with
      | false =>
        have hbase : Base { s with load := .removed managers } :=
          ⟨hconsistent.subset (List.subset_cons_self ..), fun _ _ h => nomatch h⟩
        exact ⟨rfl, rfl, rfl, hbase, List.Subset.refl _, hrest, hload', Or.inl rfl⟩
      | true =>
        have hstale := h.stale manager managers hload
        have hbase : Base { s with
            load := .removed managers
            preferences := s.preferences.filter fun x => x.id ≠ manager.id } :=
          ⟨hconsistent.remove hstale, fun _ _ h => nomatch h⟩
        exact ⟨rfl, rfl, ownIds_remove hconsistent hstale, hbase, List.filter_sublist.subset, hrest, hload',
          Or.inl rfl⟩
    · cases hstep
  | startConfigure protocolType => cases ha
  | answerSave => cases ha
  | failConfigure => cases ha
  | resumeSave => cases ha
  | resumeRead => cases ha

/-- All that an action of `saveTunnelConfiguration` can do. -/
inductive ConfigureStep (s : Startup) : Action → Startup → Prop
  | start (protocolType : VPNProtocolType) (hidle : s.configure = .idle) :
    ConfigureStep s (.startConfigure protocolType)
      { s with configure := .saving (s.manager protocolType), nextId := s.nextId + 1 }
  | save (manager : StoredManager) (hsaving : s.configure = .saving manager) :
    ConfigureStep s .answerSave
      { s with configure := .saved manager, preferences := write s.preferences manager }
  | fail (hrunning : s.configure ≠ .idle ∧ ∀ manager, s.configure ≠ .finished manager) :
    ConfigureStep s .failConfigure { s with configure := .failed }
  | goOn (manager : StoredManager) (hsaved : s.configure = .saved manager) :
    ConfigureStep s .resumeSave { s with configure := .reading manager }
  | finish (manager : StoredManager) (hreading : s.configure = .reading manager) :
    ConfigureStep s .resumeRead
      { s with configure := .finished manager, tunnelManager := some manager.id }

/-- **A step of `saveTunnelConfiguration`.** -/
lemma configureStep {s t : Startup} {a : Action} (ha : a.isLoad = false) (hstep : s.step a = some t) :
    ConfigureStep s a t := by
  cases a with
  | answerLoad managers => cases ha
  | failLoad => cases ha
  | resumeLoad => cases ha
  | answerRemove isRemoved => cases ha
  | startConfigure protocolType =>
    obtain ⟨hidle, hstep⟩ := (Option.ite_none_right_eq_some ..).1 hstep
    obtain rfl := Option.some.inj hstep
    exact .start protocolType hidle
  | answerSave =>
    simp only [step] at hstep
    split at hstep
    · rename_i manager hsaving
      obtain rfl := Option.some.inj hstep
      exact .save manager hsaving
    · cases hstep
  | failConfigure =>
    simp only [step] at hstep
    split at hstep
    · rename_i manager hsaving
      obtain rfl := Option.some.inj hstep
      exact .fail (by simp [hsaving])
    · rename_i manager hreading
      obtain rfl := Option.some.inj hstep
      exact .fail (by simp [hreading])
    · cases hstep
  | resumeSave =>
    simp only [step] at hstep
    split at hstep
    · rename_i manager hsaved
      obtain rfl := Option.some.inj hstep
      exact .goOn manager hsaved
    · cases hstep
  | resumeRead =>
    simp only [step] at hstep
    split at hstep
    · rename_i manager hreading
      obtain rfl := Option.some.inj hstep
      exact .finish manager hreading
    · cases hstep

/-! ### Which manager `configure` has -/

/-- `configure` has not been called. -/
structure Idle (n : ℕ) (s : Startup) : Prop where
  base : s.Base
  configure : s.configure = .idle
  own : (ownIds s.preferences).length = n
  adopted : ∀ id, s.tunnelManager = some id → s.load = .finished ∧ Holds s.preferences id

/-- The manager that had been loaded, at a stage of `configure`. -/
def AdoptedAt (s : Startup) : ConfigureStage → Prop
  | .idle => False
  | .saving manager | .saved manager | .reading manager | .finished manager =>
    manager.isOwn = true ∧ Holds s.preferences manager.id ∧ s.tunnelManager = some manager.id
  | .failed => True

/-- `configure` has found the manager that had been loaded. -/
structure Adopted (n : ℕ) (s : Startup) : Prop where
  load : s.load = .finished
  own : (ownIds s.preferences).length = n
  configure : s.AdoptedAt s.configure

/-- A new manager, at a stage of `configure`. -/
def FreshAt (n : ℕ) (s : Startup) : ConfigureStage → Prop
  | .idle => False
  | .saving manager => manager.isOwn = true ∧ manager.id < s.nextId ∧ (ownIds s.preferences).length = n ∧
    (∀ m ∈ s.preferences, m.id ≠ manager.id) ∧ ∀ m ∈ s.pending, m.id ≠ manager.id
  | .saved _ | .reading _ | .finished _ => (ownIds s.preferences).length = n + 1
  | .failed => True

/-- `configure` has made a manager of its own. -/
structure Fresh (n : ℕ) (s : Startup) : Prop where
  base : s.Base
  configure : s.FreshAt n s.configure

lemma isOwn_manager (s : Startup) (protocolType : VPNProtocolType) : (s.manager protocolType).isOwn = true := by
  cases protocolType <;> rfl

lemma ownIds_append (ms : List StoredManager) {m : StoredManager} (hm : m.isOwn = true) :
    (ownIds (ms ++ [m])).length = (ownIds ms).length + 1 := by
  simp [ownIds, hm]

/-- **`configure` is called**, with the manager that has been loaded or with a new one. -/
lemma Idle.startConfigure {n : ℕ} {s t : Startup} (h : Idle n s) {protocolType : VPNProtocolType}
    (hstep : s.step (.startConfigure protocolType) = some t) :
    (s.tunnelManager ≠ none ∧ Adopted n t) ∨ (s.tunnelManager = none ∧ Fresh n t) := by
  obtain ⟨-, hstep⟩ := (Option.ite_none_right_eq_some ..).1 hstep
  obtain rfl := Option.some.inj hstep
  cases htunnel : s.tunnelManager with
  | some id =>
    obtain ⟨hload, hholds⟩ := h.adopted id htunnel
    have hid : (s.manager protocolType).id = id := by rw [manager, htunnel, Option.getD_some]
    refine Or.inl ⟨Option.some_ne_none _, hload, h.own, s.isOwn_manager protocolType, ?_, ?_⟩
    · rw [hid]
      exact hholds
    · rw [hid]
  | none =>
    have hid : (s.manager protocolType).id = s.nextId := by rw [manager, htunnel, Option.getD_none]
    have hconsistent := h.base.consistent
    refine Or.inr ⟨rfl, ⟨hconsistent.mono (Nat.le_succ _), h.base.stale⟩, s.isOwn_manager protocolType, ?_, h.own,
      ?_, ?_⟩
    · rw [hid]
      exact Nat.lt_succ_self _
    · rw [hid]
      exact fun m hm => (hconsistent.lt m hm).ne
    · rw [hid]
      exact fun m hm => (hconsistent.pendingLt m hm).ne

/-- A step of `loadExistingManager` before `configure` is called. -/
lemma Idle.load {n : ℕ} {s t : Startup} (h : Idle n s) {a : Action} (hstep : LoadStep s a t) : Idle n t := by
  refine ⟨hstep.base, hstep.configure.trans h.configure, ?_, ?_⟩
  · rw [hstep.own]
    exact h.own
  · intro id hid
    rcases hstep.tunnelManager with hsame | ⟨id', -, -, hid', hload, hholds⟩
    · exact absurd (h.adopted id (hsame.symm.trans hid)).1 hstep.load
    · obtain rfl : id' = id := Option.some.inj (hid'.symm.trans hid)
      exact ⟨hload, hholds⟩

/-- A step of `loadExistingManager` when `configure` has a manager of its own. -/
lemma Fresh.load {n : ℕ} {s t : Startup} (h : Fresh n s) {a : Action} (hstep : LoadStep s a t) : Fresh n t := by
  refine ⟨hstep.base, ?_⟩
  have hstage := h.configure
  rw [hstep.configure]
  cases hconfigure : s.configure with
  | idle =>
    rw [hconfigure] at hstage
    exact hstage
  | saving manager =>
    rw [hconfigure] at hstage
    obtain ⟨hown, hlt, hlength, hpreferences, hpending⟩ := hstage
    refine ⟨hown, hstep.nextId.symm ▸ hlt, hstep.own.symm ▸ hlength, fun m hm => hpreferences m (hstep.preferences hm),
      fun m hm => ?_⟩
    rcases hstep.pending m hm with hm | hm
    · exact hpending m hm
    · exact hpreferences m hm
  | saved manager =>
    rw [hconfigure] at hstage
    exact (congrArg List.length hstep.own).trans hstage
  | reading manager =>
    rw [hconfigure] at hstage
    exact (congrArg List.length hstep.own).trans hstage
  | finished manager =>
    rw [hconfigure] at hstage
    exact (congrArg List.length hstep.own).trans hstage
  | failed => trivial

/-- **One step** when `configure` has a manager of its own. -/
lemma Fresh.step {n : ℕ} {s t : Startup} (h : Fresh n s) {a : Action} (hstep : s.step a = some t) : Fresh n t := by
  have hstage := h.configure
  cases ha : a.isLoad with
  | true => exact h.load (loadStep h.base ha hstep)
  | false =>
    cases configureStep ha hstep with
    | start protocolType hidle =>
      rw [hidle] at hstage
      exact hstage.elim
    | save manager hsaving =>
      rw [hsaving] at hstage
      obtain ⟨hown, hlt, hlength, hpreferences, hpending⟩ := hstage
      have hwrite := write_of_fresh hpreferences
      refine ⟨⟨?_, h.base.stale⟩, ?_⟩
      · simp only [hwrite]
        exact h.base.consistent.append hlt hpreferences hpending
      · simp only [FreshAt, hwrite, ownIds_append _ hown, hlength]
    | fail hrunning => exact ⟨⟨h.base.consistent, h.base.stale⟩, trivial⟩
    | goOn manager hsaved =>
      rw [hsaved] at hstage
      exact ⟨⟨h.base.consistent, h.base.stale⟩, hstage⟩
    | finish manager hreading =>
      rw [hreading] at hstage
      exact ⟨⟨h.base.consistent, h.base.stale⟩, hstage⟩

/-- `loadExistingManager` has nothing to do any more. -/
lemma step_of_finished {s : Startup} (hload : s.load = .finished) {a : Action} (ha : a.isLoad = true) :
    s.step a = none := by
  cases a with
  | answerLoad managers => simp [step, hload]
  | failLoad => simp [step, hload]
  | resumeLoad => simp [step, hload]
  | answerRemove isRemoved => simp [step, hload]
  | startConfigure protocolType => cases ha
  | answerSave => cases ha
  | failConfigure => cases ha
  | resumeSave => cases ha
  | resumeRead => cases ha

/-- **One step** when `configure` has the manager that had been loaded. -/
lemma Adopted.step {n : ℕ} {s t : Startup} (h : Adopted n s) {a : Action} (hstep : s.step a = some t) :
    Adopted n t := by
  have hstage := h.configure
  cases ha : a.isLoad with
  | true =>
    rw [step_of_finished h.load ha] at hstep
    cases hstep
  | false =>
    cases configureStep ha hstep with
    | start protocolType hidle =>
      rw [hidle] at hstage
      exact hstage.elim
    | save manager hsaving =>
      rw [hsaving] at hstage
      obtain ⟨hown, hholds, htunnel⟩ := hstage
      obtain ⟨hholds', hids⟩ := hholds.write hown
      exact ⟨h.load, hids.symm ▸ h.own, hown, hholds', htunnel⟩
    | fail hrunning => exact ⟨h.load, h.own, trivial⟩
    | goOn manager hsaved =>
      rw [hsaved] at hstage
      exact ⟨h.load, h.own, hstage⟩
    | finish manager hreading =>
      rw [hreading] at hstage
      exact ⟨h.load, h.own, hstage.1, hstage.2.1, rfl⟩

/-! ### Whole runs -/

/-- `loadExistingManager` does not change what `configure` has come to. -/
lemma configure_of_load {s t : Startup} {a : Action} (ha : a.isLoad = true) (hstep : s.step a = some t) :
    t.configure = s.configure := by
  have hloop : ∀ managers, (s.loop managers).configure = s.configure := by
    intro managers
    cases managers with
    | nil => rfl
    | cons manager managers =>
      simp only [loop]
      split_ifs <;> rfl
  cases a with
  | answerLoad managers =>
    obtain ⟨-, hstep⟩ := (Option.ite_none_right_eq_some ..).1 hstep
    obtain rfl := Option.some.inj hstep
    rfl
  | failLoad =>
    obtain ⟨-, hstep⟩ := (Option.ite_none_right_eq_some ..).1 hstep
    obtain rfl := Option.some.inj hstep
    rfl
  | resumeLoad =>
    simp only [step] at hstep
    split at hstep
    · obtain rfl := Option.some.inj hstep
      exact hloop _
    · obtain rfl := Option.some.inj hstep
      exact hloop _
    · cases hstep
  | answerRemove isRemoved =>
    simp only [step] at hstep
    split at hstep
    · obtain rfl := Option.some.inj hstep
      rfl
    · cases hstep
  | startConfigure protocolType => cases ha
  | answerSave => cases ha
  | failConfigure => cases ha
  | resumeSave => cases ha
  | resumeRead => cases ha

/-- `configure` has not been called before a step that does not call it. -/
lemma idle_of_step {s t : Startup} {a : Action} (hstep : s.step a = some t) (ht : t.configure = .idle) :
    s.configure = .idle ∧ a.isLoad = true := by
  cases ha : a.isLoad with
  | true => exact ⟨(configure_of_load ha hstep).symm.trans ht, rfl⟩
  | false => cases configureStep ha hstep <;> cases ht

/-- When `configure` has finished, it has just assigned its manager, or had finished before. -/
lemma finished_of_step {s t : Startup} {a : Action} (hstep : s.step a = some t) {manager : StoredManager}
    (ht : t.configure = .finished manager) : a.isLoad = true ∨ t.tunnelManager = some manager.id := by
  cases ha : a.isLoad with
  | true => exact Or.inl rfl
  | false =>
    cases configureStep ha hstep with
    | start protocolType hidle => cases ht
    | save manager' hsaving => cases ht
    | fail hrunning => cases ht
    | goOn manager' hsaved => cases ht
    | finish manager' hreading =>
      obtain rfl := ConfigureStage.finished.inj ht
      exact Or.inr rfl

/-- Nothing happens any more. -/
lemma step_of_both {s : Startup} (hload : s.load = .finished) {manager : StoredManager}
    (hconfigure : s.configure = .finished manager) (a : Action) : s.step a = none := by
  cases ha : a.isLoad with
  | true => exact step_of_finished hload ha
  | false =>
    cases hstep : s.step a with
    | none => rfl
    | some t =>
      cases configureStep ha hstep with
      | start protocolType hidle => cases hconfigure.symm.trans hidle
      | save manager' hsaving => cases hconfigure.symm.trans hsaving
      | fail hrunning => exact absurd hconfigure (hrunning.2 manager)
      | goOn manager' hsaved => cases hconfigure.symm.trans hsaved
      | finish manager' hreading => cases hconfigure.symm.trans hreading

/-- The loop takes over a manager. -/
lemma step_of_adoptee {s t : Startup} {id : ℕ} (hadoptee : adoptee s.pending = some id)
    (hstep : s.step .resumeLoad = some t) : t = { s with load := .finished, tunnelManager := some id } := by
  have hloop : ∀ managers, s.pending = managers →
      s.loop managers = { s with load := .finished, tunnelManager := some id } := by
    intro managers hpending
    rw [hpending] at hadoptee
    cases managers with
    | nil => cases hadoptee
    | cons manager managers =>
      obtain ⟨hown, hid⟩ := (Option.ite_none_right_eq_some ..).1 hadoptee
      simp only [loop, if_pos hown, Option.some.inj hid]
  simp only [step] at hstep
  split at hstep
  · rename_i managers hload
    obtain rfl := Option.some.inj hstep
    exact hloop managers (by rw [pending, hload])
  · rename_i managers hload
    obtain rfl := Option.some.inj hstep
    exact hloop managers (by rw [pending, hload])
  · cases hstep

/-- The app has just been started. -/
lemma idle_init (preferences : List (Option StoredProtocol)) :
    Idle (ownIds (init preferences).preferences).length (init preferences) := by
  refine ⟨⟨⟨?_, ?_, fun m hm => absurd hm List.not_mem_nil, fun m hm => absurd hm List.not_mem_nil,
    fun m hm => absurd hm List.not_mem_nil⟩, fun _ _ h => nomatch h⟩, rfl, rfl, fun _ h => nomatch h⟩
  · simp only [init, List.map_map]
    exact List.zipIdx_map_snd 0 preferences ▸ List.nodup_range'
  · intro m hm
    obtain ⟨p, hp, rfl⟩ := List.mem_map.1 hm
    have hlt := List.snd_lt_add_of_mem_zipIdx hp
    rwa [Nat.zero_add] at hlt

/-- As long as `configure` has not been called. -/
lemma idle_of_run {preferences : List (Option StoredProtocol)} {as : List Action} {s : Startup}
    (hrun : run step (init preferences) as = some s) (hs : s.configure = .idle) :
    Idle (ownIds (init preferences).preferences).length s := by
  refine run_invariant_of_step (P := fun s => s.configure = .idle →
    Idle (ownIds (init preferences).preferences).length s) ?_ (fun _ => idle_init preferences) hrun hs
  intro u a v hu hstep hv
  obtain ⟨hidle, ha⟩ := idle_of_step hstep hv
  exact (hu hidle).load (loadStep (hu hidle).base ha hstep)

/-- Where the two tasks are, in a careful run of an app with `n` configurations. -/
def Safe (n : ℕ) (s : Startup) : Prop :=
  Idle n s ∨ Adopted n s ∨ (Fresh n s ∧ n ≠ 1 ∧
    ∀ manager, s.configure = .finished manager → s.tunnelManager = some manager.id)

/-- **One careful step.** -/
lemma Safe.step {n : ℕ} {s t : Startup} (h : Safe n s) {a : Action} (hcareful : s.Careful a)
    (hstep : s.step a = some t) : Safe n t := by
  rcases h with hidle | hadopted | ⟨hfresh, hn, htunnel⟩
  · by_cases ht : t.configure = .idle
    · exact Or.inl (hidle.load (loadStep hidle.base (idle_of_step hstep ht).2 hstep))
    · cases a with
      | startConfigure protocolType =>
        rcases hidle.startConfigure hstep with ⟨-, hadopted⟩ | ⟨hnone, hfresh⟩
        · exact Or.inr (Or.inl hadopted)
        · refine Or.inr (Or.inr ⟨hfresh, hidle.own ▸ hcareful hnone, fun manager hfinished => ?_⟩)
          exact (finished_of_step hstep hfinished).resolve_left Bool.false_ne_true
      | answerLoad | failLoad | resumeLoad | answerRemove =>
        exact absurd ((loadStep hidle.base rfl hstep).configure.trans hidle.configure) ht
      | answerSave | failConfigure | resumeSave | resumeRead =>
        simp only [Startup.step, hidle.configure] at hstep
        cases hstep
  · exact Or.inr (Or.inl (hadopted.step hstep))
  · refine Or.inr (Or.inr ⟨hfresh.step hstep, hn, fun manager hfinished => ?_⟩)
    rcases finished_of_step hstep hfinished with ha | hdone
    · have hload := loadStep hfresh.base ha hstep
      have hbefore := hload.configure.symm.trans hfinished
      rcases hload.tunnelManager with hsame | ⟨id, rfl, hadoptee, hid, -, -⟩
      · exact hsame.trans (htunnel manager hbefore)
      · simp only [Careful, hbefore] at hcareful
        rw [hid, hcareful id hadoptee]
    · exact hdone

/-- **When loading displaces nothing.**  When both tasks have finished, the manager that `configure` has
saved is kept, and no second configuration has come into being, if and only if `configure` was not called
before the loop had taken over the only configuration of the app, and the loop took over no other manager
after `configure` had finished. -/
theorem displacesNothing_iff {preferences : List (Option StoredProtocol)} {as : List Action} {t : Startup}
    {manager : StoredManager} (hrun : run step (init preferences) as = some t) (hload : t.load = .finished)
    (hconfigure : t.configure = .finished manager) :
    DisplacesNothing (ownIds (init preferences).preferences).length t manager ↔
      Along step Careful (init preferences) as := by
  constructor
  · intro h
    refine along_iff.2 fun before a after s heq hs => ?_
    subst heq
    obtain ⟨u, hu, -, hafter⟩ := exists_step_of_run hrun hs
    cases a with
    | startConfigure protocolType =>
      intro hnone hone
      have hidle := idle_of_run hs ((Option.ite_none_right_eq_some ..).1 hu).1
      rcases hidle.startConfigure hu with ⟨hsome, -⟩ | ⟨-, hfresh⟩
      · exact hsome hnone
      · have hend := (run_invariant_of_step (fun s a t hs => hs.step) hfresh hafter).configure
        rw [hconfigure] at hend
        have hsingle := h.single (hidle.own.symm.trans hone).le
        rw [hidle.own.symm.trans hone] at hend
        have htwo : (ownIds t.preferences).length = 2 := hend
        omega
    | resumeLoad =>
      simp only [Careful]
      split
      · rename_i manager' hfinished
        intro id hadoptee
        obtain rfl := step_of_adoptee hadoptee hu
        -- the run ends here
        cases after with
        | nil =>
          obtain rfl := Option.some.inj hafter
          obtain rfl := ConfigureStage.finished.inj (hfinished.symm.trans hconfigure)
          exact Option.some.inj h.tunnelManager
        | cons b after =>
          obtain ⟨v, hv, -⟩ := run_cons.1 hafter
          have hnone := step_of_both (s := { s with load := .finished, tunnelManager := some id }) rfl hfinished b
          rw [hnone] at hv
          cases hv
      · exact True.intro
    | answerLoad | failLoad | answerRemove | answerSave | failConfigure | resumeSave | resumeRead => exact True.intro
  · intro h
    have hsafe : Safe (ownIds (init preferences).preferences).length t :=
      run_invariant (fun s a t hs hc => hs.step hc) (Or.inl (idle_init preferences)) h hrun
    rcases hsafe with hidle | hadopted | ⟨hfresh, hn, htunnel⟩
    · rw [hidle.configure] at hconfigure
      cases hconfigure
    · have hend := hadopted.configure
      rw [hconfigure] at hend
      exact ⟨hend.2.2, fun hle => hadopted.own.le.trans hle⟩
    · have hend := hfresh.configure
      rw [hconfigure] at hend
      refine ⟨htunnel manager hconfigure, fun hle => ?_⟩
      have hlength : (ownIds t.preferences).length = (ownIds (init preferences).preferences).length + 1 := hend
      omega

/-- A manager of the Packet Tunnel. -/
def packetTunnel (id : ℕ) : StoredManager where
  id := id
  protocolConfiguration := some { providerBundleIdentifier := some (tunnelBundleIdentifier .wireGuard) }

/-- A profile is configured while the preferences are loaded. -/
theorem not_displacesNothing_loading :
    ¬∀ (preferences : List (Option StoredProtocol)) (as : List Action) (t : Startup) (manager : StoredManager),
      run step (init preferences) as = some t → t.load = .finished → t.configure = .finished manager →
      DisplacesNothing (ownIds (init preferences).preferences).length t manager := by
  intro h
  have hdisplaces := h [(packetTunnel 0).protocolConfiguration] [.answerLoad [packetTunnel 0], .startConfigure .openVPN,
    .answerSave, .resumeSave, .resumeRead, .resumeLoad] _ _ rfl rfl rfl
  exact absurd hdisplaces.tunnelManager (by decide)

/-- The configuration of an old version, and one of the Packet Tunnel. -/
def updated : List (Option StoredProtocol) :=
  [some { providerBundleIdentifier := none }, (packetTunnel 1).protocolConfiguration]

/-- The old one is removed, the other one is taken over, and then a profile is configured. -/
def inOrder : List Action :=
  [.answerLoad [⟨0, some { providerBundleIdentifier := none }⟩, packetTunnel 1], .resumeLoad, .answerRemove true,
    .resumeLoad, .startConfigure .openVPN, .answerSave, .resumeSave, .resumeRead]

theorem displacesNothing_inOrder :
    ∃ t manager, run step (init updated) inOrder = some t ∧ t.load = .finished ∧ t.configure = .finished manager ∧
      DisplacesNothing (ownIds (init updated).preferences).length t manager := by
  have hrun : run step (init updated) inOrder = some
      { preferences := [packetTunnel 1], nextId := 3, tunnelManager := some 1, load := .finished,
        configure := .finished (packetTunnel 1) } := by decide
  exact ⟨_, _, hrun, rfl, rfl, (displacesNothing_iff hrun rfl rfl).2 (by decide)⟩

end Startup

end FreeVPN.Manager
