import FreeVPN.Foundation.Text
import FreeVPN.Lib.Runs

/-!
# The status of the upload server

`start` and `stop` of `ProfileServer`, and the tasks in which the main actor takes note of what the
listeners report.  A task does not know which listener has reported, and comes when other tasks, starts
and stops have been there before.

* `ServerStatus.step` — a call, a listener that reports, a task;
* `InOrder` — the order in which calls and updates must come;
* `tellsTruth_of_run` — then `isRunning` and `localURL` are those of the listener that is held, and no live
  listener is replaced.
-/

namespace FreeVPN.Upload

open FreeVPN.Lib FreeVPN.Foundation

/-- `NWListener.State`, of the states that the handler does something for. -/
inductive ListenerState
  | ready
  | failed
  | cancelled
  deriving DecidableEq

/-- `ProfileServer`.  Listeners are counted. -/
structure ServerStatus where
  isRunning : Bool := false
  localURL : Option Text := none
  listener : Option ℕ := none
  /-- The state that each listener has reported last, if any. -/
  listeners : List (Option ListenerState) := []
  /-- The tasks of the handlers that have not run. -/
  pending : List (ℕ × ListenerState) := []
  deriving DecidableEq

namespace ServerStatus

/-- The state of the listener that is held; `none` in it before it has reported. -/
def held (s : ServerStatus) : Option (Option ListenerState) := s.listener.bind fun i => s.listeners[i]?

/-- A listener reports a state: the handler starts a task. -/
def report (s : ServerStatus) (i : ℕ) (state : ListenerState) : ServerStatus :=
  { s with listeners := s.listeners.set i (some state), pending := s.pending ++ [(i, state)] }

/-- `start()`, where a listener can be `created` or the initializer throws. -/
def start (s : ServerStatus) (created : Bool) : ServerStatus :=
  if s.isRunning then s
  else if created then { s with listener := some s.listeners.length, listeners := s.listeners ++ [none] }
  else s

/-- `cancel()` of a listener. -/
def cancel (s : ServerStatus) (i : ℕ) : ServerStatus :=
  if s.listeners[i]? = some (some .cancelled) then s else s.report i .cancelled

/-- `stop()` -/
def stop (s : ServerStatus) : ServerStatus :=
  let s := match s.listener with
    | some i => s.cancel i
    | none => s
  { s with listener := none, isRunning := false, localURL := none }

/-- The task of `stateUpdateHandler`, with what `getLocalIPAddress()` gives. -/
def update (s : ServerStatus) (address : Text) : ListenerState → ServerStatus
  | .ready => { s with
      isRunning := true, localURL := some ("http://".toList ++ address ++ ":8080".toList) }
  | .failed | .cancelled => { s with isRunning := false, localURL := none }

/-- What can happen next. -/
inductive Action
  | start (created : Bool)
  | stop
  /-- A listener that has been started is ready, or fails. -/
  | ready (i : ℕ)
  | failed (i : ℕ)
  /-- The `k`-th of the tasks runs. -/
  | deliver (k : ℕ) (address : Text)
  deriving DecidableEq

/-- One step. -/
def step (s : ServerStatus) : Action → Option ServerStatus
  | .start created => some (s.start created)
  | .stop => some s.stop
  | .ready i => if s.listeners[i]? = some none then some (s.report i .ready) else none
  | .failed i =>
    if s.listeners[i]? = some none ∨ s.listeners[i]? = some (some .ready) then some (s.report i .failed)
    else none
  | .deliver k address =>
    (s.pending[k]?).map fun u => { s.update address u.2 with pending := s.pending.eraseIdx k }

/-! ### The truth -/

/-- With no task to come, the server is shown as running with a URL, if and only if the listener that is
held is ready. -/
def Truthful (s : ServerStatus) : Prop :=
  s.pending = [] → ((s.isRunning = true ∧ s.localURL.isSome = true) ↔ s.held = some (some .ready))

/-- A `start()` that replaces a listener that has neither been cancelled nor failed. -/
def Replaces (s : ServerStatus) (a : Action) : Prop :=
  a = .start true ∧ s.isRunning = false ∧ (s.held = some none ∨ s.held = some (some .ready))

/-- In every state of a run the status is true, and no step replaces a live listener. -/
def TellsTruth (as : List Action) : Prop :=
  ∀ before after s, as = before ++ after → run step {} before = some s →
    s.Truthful ∧ ∀ a rest, after = a :: rest → ¬s.Replaces a

/-- The order in which calls and updates must come.  `start()` is called when no listener is held, or the one
that is held has failed, or its `ready` has been noted; and of two updates that say different things, the
one that was reported first is noted first. -/
def InOrder (s : ServerStatus) : Action → Prop
  | .start true => ∀ i ∈ s.listener, s.listeners[i]? = some (some .failed) ∨
      s.listeners[i]? = some (some .ready) ∧ (i, .ready) ∉ s.pending
  | .deliver k _ => ∀ u ∈ s.pending[k]?, ∀ v ∈ s.pending.take k, v.2 = .ready ↔ u.2 = .ready
  | _ => True

instance (s : ServerStatus) : DecidablePred s.InOrder
  | .start true => inferInstanceAs (Decidable (∀ i ∈ s.listener, s.listeners[i]? = some (some .failed) ∨
      s.listeners[i]? = some (some .ready) ∧ (i, .ready) ∉ s.pending))
  | .deliver k _ => inferInstanceAs (Decidable (∀ u ∈ s.pending[k]?, ∀ v ∈ s.pending.take k,
      v.2 = .ready ↔ u.2 = .ready))
  | .start false | .stop | .ready _ | .failed _ => isTrue trivial

/-! ### What a run in order keeps -/

/-- What is shown is how the held listener is, and no task to come says anything else. -/
def Settled (s : ServerStatus) : Prop :=
  (s.isRunning = true ↔ s.held = some (some .ready)) ∧
    ∀ u ∈ s.pending, u.2 = .ready ↔ s.held = some (some .ready)

/-- The last task to come says how the held listener is. -/
def ToBeSettled (s : ServerStatus) : Prop :=
  ∃ u ∈ s.pending.getLast?, (u.2 = .ready ↔ s.held = some (some .ready)) ∧
    (u.2 = .ready → s.listener = some u.1)

/-- The invariant of the runs in order. -/
structure Orderly (s : ServerStatus) : Prop where
  /-- A listener that can still report is the one that is held. -/
  live : ∀ i, (s.listeners[i]? = some none ∨ s.listeners[i]? = some (some .ready)) → s.listener = some i
  bound : ∀ i ∈ s.listener, i < s.listeners.length
  notCancelled : ∀ i ∈ s.listener, s.listeners[i]? ≠ some (some .cancelled)
  shown : s.isRunning = true ↔ s.localURL.isSome = true
  settled : s.Settled ∨ s.ToBeSettled

lemma Orderly.truthful {s : ServerStatus} (h : s.Orderly) : s.Truthful := by
  intro hpending
  rcases h.settled with hsettled | ⟨u, hu, -⟩
  · rw [← h.shown, and_self_iff]
    exact hsettled.1
  · rw [hpending] at hu
    cases hu

/-- The `ready` of the listener that is held is shown, or is the last task to come. -/
lemma Orderly.isRunning_of_ready {s : ServerStatus} (h : s.Orderly) {i : ℕ} (hi : s.listener = some i)
    (hready : s.listeners[i]? = some (some .ready)) (hnoted : (i, ListenerState.ready) ∉ s.pending) : s.isRunning = true := by
  have hheld : s.held = some (some .ready) := by
    rw [held, hi]
    exact hready
  rcases h.settled with hsettled | ⟨u, hu, hlast, hwho⟩
  · exact hsettled.1.2 hheld
  · have hu₂ := hlast.2 hheld
    have hui : u.1 = i := Option.some.inj ((hwho hu₂).symm.trans hi)
    refine absurd ?_ hnoted
    rw [← hui, ← hu₂]
    exact List.mem_of_getLast? hu

/-- A call in order replaces no live listener. -/
lemma Orderly.not_replaces {s : ServerStatus} {a : Action} (h : s.Orderly) (horder : s.InOrder a) :
    ¬s.Replaces a := by
  rintro ⟨rfl, hrunning, hlive⟩
  cases hi : s.listener with
  | none => simp [held, hi] at hlive
  | some i =>
    have hheld : s.held = s.listeners[i]? := by rw [held, hi]; rfl
    rw [hheld] at hlive
    rcases horder i hi with hfailed | ⟨hready, hnoted⟩
    · rw [hfailed] at hlive
      rcases hlive with hlive | hlive <;> cases hlive
    · rw [h.isRunning_of_ready hi hready hnoted] at hrunning
      cases hrunning

/-- A report of the listener that is held is the last task to come. -/
lemma toBeSettled_report {s : ServerStatus} {i : ℕ} {state : ListenerState} (hi : s.listener = some i)
    (hlt : i < s.listeners.length) : (s.report i state).ToBeSettled := by
  have hheld : (s.report i state).held = some (some state) := by
    rw [held, report, hi]
    exact List.getElem?_set_self hlt
  refine ⟨(i, state), by simp [report], ?_, fun _ => hi⟩
  rw [hheld, Option.some.injEq, Option.some.injEq]

lemma Orderly.report {s : ServerStatus} {i : ℕ} {state : ListenerState} (h : s.Orderly)
    (hi : s.listener = some i) (hstate : state ≠ .cancelled) : (s.report i state).Orderly where
  live j hj := by
    by_cases hji : j = i
    · rw [hji]
      exact hi
    · exact h.live j (by simpa [ServerStatus.report, List.getElem?_set_ne (Ne.symm hji)] using hj)
  bound j hj := by
    rw [ServerStatus.report, List.length_set]
    exact h.bound j hj
  notCancelled j hj := by
    obtain rfl : i = j := Option.some.inj (hi.symm.trans hj)
    simpa [ServerStatus.report, List.getElem?_set_self (h.bound i hi)] using hstate
  shown := h.shown
  settled := Or.inr (toBeSettled_report hi (h.bound i hi))

/-- `start()` in order: it does nothing, or no live listener has been held. -/
lemma Orderly.start {s : ServerStatus} {created : Bool} (h : s.Orderly) (horder : s.InOrder (.start created)) :
    (s.start created).Orderly := by
  unfold ServerStatus.start
  split_ifs with hrunning hcreated
  · exact h
  · subst hcreated
    have hdead : ∀ i : ℕ, ¬(s.listeners[i]? = some none ∨ s.listeners[i]? = some (some .ready)) := by
      intro i hlive
      refine h.not_replaces horder ⟨rfl, by simpa using hrunning, ?_⟩
      rw [held, h.live i hlive]
      exact hlive
    have hnew : ({ s with listener := some s.listeners.length, listeners := s.listeners ++ [none] } :
        ServerStatus).held = some none := by
      simp [held]
    have hold : s.held ≠ some (some .ready) := by
      cases hi : s.listener with
      | none => simp [held, hi]
      | some i =>
        rw [held, hi]
        exact fun hready => hdead i (Or.inr hready)
    refine ⟨fun i hi => ?_, by simp, by simp, h.shown, ?_⟩
    · rcases Nat.lt_trichotomy i s.listeners.length with hlt | rfl | hgt
      · exact absurd (by simpa [List.getElem?_append_left hlt] using hi) (hdead i)
      · rfl
      · rw [List.getElem?_eq_none (by simpa using Nat.succ_le_of_lt hgt)] at hi
        rcases hi with hi | hi <;> cases hi
    · -- what was to be shown is that no listener is ready
      rcases h.settled with ⟨hshown, hpending⟩ | ⟨u, hu, hlast, hwho⟩
      · refine Or.inl ⟨iff_of_false (by simpa using hrunning) (by rw [hnew]; simp), fun u hu => ?_⟩
        rw [hpending u hu, hnew]
        exact iff_of_false hold (by simp)
      · have hu₂ : u.2 ≠ .ready := fun hready => hold (hlast.1 hready)
        exact Or.inr ⟨u, hu, iff_of_false hu₂ (by rw [hnew]; simp), fun hready => absurd hready hu₂⟩
  · exact h

lemma Orderly.stop {s : ServerStatus} (h : s.Orderly) : s.stop.Orderly := by
  have hnone : s.stop.held = none := by simp [ServerStatus.stop, held]
  have hready : ¬(s.stop.held = some (some .ready)) := by
    rw [hnone]
    exact fun hc => nomatch hc
  cases hi : s.listener with
  | none =>
    have hstop : s.stop = { s with listener := none, isRunning := false, localURL := none } := by
      rw [ServerStatus.stop, hi]
    have hold : s.held ≠ some (some .ready) := by simp [held, hi]
    refine ⟨fun i hlive => ?_, by simp [hstop], by simp [hstop], by simp [hstop], ?_⟩
    · rw [hstop] at hlive ⊢
      exact absurd (h.live i hlive) (by rw [hi]; exact fun hc => nomatch hc)
    · rcases h.settled with ⟨-, hpending⟩ | ⟨u, hu, hlast, -⟩
      · refine Or.inl ⟨iff_of_false (by simp [hstop]) hready, fun u hu => ?_⟩
        rw [hstop] at hu
        exact iff_of_false (fun hu₂ => hold ((hpending u hu).1 hu₂)) hready
      · have hu₂ : u.2 ≠ .ready := fun hu₂ => hold (hlast.1 hu₂)
        refine Or.inr ⟨u, ?_, iff_of_false hu₂ hready, fun hc => absurd hc hu₂⟩
        rw [hstop]
        exact hu
  | some i =>
    have hlt := h.bound i hi
    have hstop : s.stop =
        { s.report i .cancelled with listener := none, isRunning := false, localURL := none } := by
      rw [ServerStatus.stop, hi]
      simp only [cancel, if_neg (h.notCancelled i hi)]
    refine ⟨fun j hlive => ?_, by simp [hstop], by simp [hstop], by simp [hstop], Or.inr ?_⟩
    · rw [hstop] at hlive
      by_cases hji : j = i
      · subst hji
        simp [ServerStatus.report, List.getElem?_set_self hlt] at hlive
      · have hj := h.live j (by simpa [ServerStatus.report, List.getElem?_set_ne (Ne.symm hji)] using hlive)
        exact absurd (Option.some.inj (hj.symm.trans hi)) hji
    · refine ⟨(i, .cancelled), by simp [hstop, ServerStatus.report], iff_of_false (by simp) hready, by simp⟩

lemma isRunning_update (s : ServerStatus) (address : Text) (state : ListenerState) :
    ((s.update address state).isRunning = true ↔ state = .ready) ∧
      ((s.update address state).localURL.isSome = true ↔ state = .ready) := by
  cases state <;> simp [update]

/-- The tasks before the one that runs, and those behind it. -/
lemma mem_eraseIdx {α : Type*} {l : List α} {k : ℕ} {x : α} (hx : x ∈ l.eraseIdx k) :
    x ∈ l.take k ∨ x ∈ l.drop (k + 1) := by
  rw [List.eraseIdx_eq_take_drop_succ] at hx
  exact List.mem_append.1 hx

/-- A task that runs in order. -/
lemma Orderly.deliver {s : ServerStatus} {k : ℕ} {address : Text} {u : ℕ × ListenerState} (h : s.Orderly)
    (horder : s.InOrder (.deliver k address)) (hu : s.pending[k]? = some u) :
    { s.update address u.2 with pending := s.pending.eraseIdx k }.Orderly := by
  have hstatus := s.isRunning_update address u.2
  have hheld : { s.update address u.2 with pending := s.pending.eraseIdx k }.held = s.held := by
    cases u.2 <;> rfl
  have hlistener : (s.update address u.2).listener = s.listener := by cases u.2 <;> rfl
  have hlisteners : (s.update address u.2).listeners = s.listeners := by cases u.2 <;> rfl
  refine ⟨?_, ?_, ?_, hstatus.1.trans hstatus.2.symm, ?_⟩
  · simpa only [hlistener, hlisteners] using h.live
  · simpa only [hlistener, hlisteners] using h.bound
  · simpa only [hlistener, hlisteners] using h.notCancelled
  · obtain ⟨hk, hget⟩ := List.getElem?_eq_some_iff.1 hu
    rcases h.settled with ⟨-, hpending⟩ | ⟨v, hv, hlast, hwho⟩
    · refine Or.inl ⟨?_, fun w hw => ?_⟩
      · rw [hheld, ← hpending u (List.mem_of_getElem? hu)]
        exact hstatus.1
      · rw [hheld]
        exact hpending w (List.mem_of_mem_eraseIdx hw)
    · by_cases hend : k + 1 = s.pending.length
      · -- the last one is noted: the earlier ones say the same
        have huv : u = v := by
          rw [List.getLast?_eq_getElem?, ← hend] at hv
          exact Option.some.inj (hu.symm.trans hv)
        subst huv
        refine Or.inl ⟨?_, fun w hw => ?_⟩
        · rw [hheld, ← hlast]
          exact hstatus.1
        · rw [hheld, ← hlast]
          rcases mem_eraseIdx hw with hw | hw
          · exact horder u hu w hw
          · rw [hend, List.drop_length] at hw
            cases hw
      · refine Or.inr ⟨v, ?_, ?_, ?_⟩
        · have hlt : k + 1 < s.pending.length := by omega
          have hdrop : s.pending.drop (k + 1) ≠ [] := by
            rw [Ne, List.drop_eq_nil_iff]
            omega
          change v ∈ (s.pending.eraseIdx k).getLast?
          rw [List.eraseIdx_eq_take_drop_succ, List.getLast?_append_of_ne_nil _ hdrop, List.getLast?_drop,
            if_neg (by omega)]
          exact hv
        · rw [hheld]
          exact hlast
        · rw [show ({ s.update address u.2 with pending := s.pending.eraseIdx k } : ServerStatus).listener =
            s.listener from hlistener]
          exact hwho

/-- **One step** in order. -/
lemma Orderly.step {s t : ServerStatus} {a : Action} (h : s.Orderly) (horder : s.InOrder a)
    (hstep : s.step a = some t) : t.Orderly := by
  cases a with
  | start created =>
    obtain rfl := Option.some.inj hstep
    exact h.start horder
  | stop =>
    obtain rfl := Option.some.inj hstep
    exact h.stop
  | ready i =>
    simp only [ServerStatus.step] at hstep
    split_ifs at hstep with hi
    obtain rfl := Option.some.inj hstep
    exact h.report (h.live i (Or.inl hi)) (by simp)
  | failed i =>
    simp only [ServerStatus.step] at hstep
    split_ifs at hstep with hi
    obtain rfl := Option.some.inj hstep
    exact h.report (h.live i hi) (by simp)
  | deliver k address =>
    obtain ⟨u, hu, rfl⟩ := Option.map_eq_some_iff.1 hstep
    exact h.deliver horder hu

lemma orderly_init : Orderly {} where
  live i hi := by simp at hi
  bound i hi := by cases hi
  notCancelled i hi := by cases hi
  shown := by simp
  settled := Or.inl ⟨by simp [held], by simp⟩

/-- **When the status tells the truth.**  In a run whose calls and updates come in order, the server is
shown as running if and only if the listener that is held is ready, whenever no task is left, and `start()`
replaces no live listener. -/
theorem tellsTruth_of_run {as : List Action} {t : ServerStatus} (hrun : run step {} as = some t)
    (horder : Along step InOrder {} as) : TellsTruth as := by
  rintro before after s rfl hs
  obtain ⟨hbefore, hafter⟩ := along_append.1 horder
  have hinv : s.Orderly :=
    run_invariant (fun s a t h horder hstep => h.step horder hstep) orderly_init hbefore hs
  refine ⟨hinv.truthful, ?_⟩
  rintro a rest rfl
  exact hinv.not_replaces (hafter s hs).1

/-- The server is stopped and started; the old listener's `cancelled` is noted behind the new one's
`ready`. -/
theorem not_tellsTruth_restart :
    ¬∀ (as : List Action) (t : ServerStatus), run step {} as = some t → TellsTruth as := by
  intro h
  have htruth := h [.start true, .ready 0, .deliver 0 [], .stop, .start true, .ready 1, .deliver 1 [],
    .deliver 0 []] _ rfl
  have hstatus := (htruth _ [] _ (List.append_nil _).symm rfl).1 rfl
  exact Bool.false_ne_true (hstatus.2 rfl).1

/-- The old listener's `cancelled` comes first. -/
theorem tellsTruth_restart :
    TellsTruth [.start true, .ready 0, .deliver 0 [], .stop, .start true, .deliver 0 [], .ready 1,
      .deliver 0 []] := by
  refine tellsTruth_of_run rfl ?_
  decide

end ServerStatus

end FreeVPN.Upload
