import FreeVPN.Lib.Lists
import FreeVPN.Lib.Runs
import FreeVPN.Tunnel.OpenVPNSession

/-!
# Several starts of one provider

`PacketTunnelProvider` over several rounds of `startTunnel` and `stopTunnel`.  Each start has an adapter,
a timer, a continuation and a variable `hasResumed` of its own; `openVPNStartCompletion` is one field of
the provider, and the handlers of the delegate do not look at the adapter that calls them.

* `Rounds.step` — a step of a start, a callback of any adapter, a timer;
* `resumedOnce` — how one start is resolved;
* `isolated_iff` — when the callbacks of earlier adapters do not reach the current start.
-/

namespace FreeVPN.Tunnel

open FreeVPN.Lib (Along)

/-! ### The provider -/

/-- How far `attemptOpenVPNConnection` has come. -/
inductive Stage
  /-- The adapter has been created. -/
  | created
  /-- The configuration or the credentials have been refused. -/
  | thrown
  /-- The adapter has been told to connect. -/
  | connecting
  deriving DecidableEq

/-- One call of `attemptOpenVPNConnection`. -/
structure Start where
  stage : Stage := .created
  hasResumed : Bool := false
  /-- What the continuation has been resumed with, time after time. -/
  resumptions : List (Option StartError) := []
  /-- The timer has fired. -/
  timedOut : Bool := false
  deriving DecidableEq

/-- `guard !hasResumed else { return }; hasResumed = true; continuation.resume(…)` -/
def Start.resume (s : Start) (error : Option StartError) : Start :=
  if s.hasResumed then s
  else { s with hasResumed := true, resumptions := s.resumptions ++ [error] }

/-- `PacketTunnelProvider`.  Starts and their adapters are counted. -/
structure Rounds where
  starts : List Start := []
  /-- The start that the closure belongs to. -/
  openVPNStartCompletion : Option ℕ := none
  openVPNAdapter : Option ℕ := none
  reasserting : Bool := false
  deriving DecidableEq

/-- What an adapter tells its delegate. -/
inductive Callback
  | event (e : AdapterEvent)
  | error (isFatal : Bool)
  deriving DecidableEq

namespace Rounds

/-- `openVPNStartCompletion?(error); openVPNStartCompletion = nil` -/
def complete (r : Rounds) (error : Option StartError) : Rounds :=
  { r with
    starts := match r.openVPNStartCompletion with
      | some n => r.starts.modify n fun s => s.resume error
      | none => r.starts
    openVPNStartCompletion := none }

/-- `openVPNAdapter(_:handleEvent:message:)` and `openVPNAdapter(_:handleError:)` -/
def callback (r : Rounds) : Callback → Rounds
  | .event .connected => { r with reasserting := false }.complete none
  | .event .disconnected => r.complete (some .connectionFailed)
  | .event .reconnecting => { r with reasserting := true }
  | .event .other => r
  | .error true => r.complete (some .fatal)
  | .error false => r

/-- The number of the last start. -/
def current (r : Rounds) : ℕ := r.starts.length - 1

/-- What can happen next. -/
inductive Action
  /-- `createOpenVPNAdapter()`, in a new start. -/
  | create
  /-- `apply(configuration:)` or `provide(credentials:)` throws. -/
  | fail
  /-- The last start goes on to wait for the adapter. -/
  | connect
  | callback (adapter : ℕ) (c : Callback)
  | timeout (start : ℕ)
  /-- `stopTunnel(with:)`; what `disconnect()` leads to comes as callbacks. -/
  | stopTunnel
  deriving DecidableEq

/-- One step.  An adapter calls back once it has been told to connect, and a timer fires once. -/
def step (r : Rounds) : Action → Option Rounds
  | .create => some { r with starts := r.starts ++ [{}], openVPNAdapter := some r.starts.length }
  | .fail =>
    if (r.starts[r.current]?).any (·.stage = .created) then
      some { r with starts := r.starts.modify r.current fun s => { s with stage := .thrown } }
    else none
  | .connect =>
    if (r.starts[r.current]?).any (·.stage = .created) then
      some { r with
        starts := r.starts.modify r.current fun s => { s with stage := .connecting }
        openVPNStartCompletion := some r.current }
    else none
  | .callback adapter c =>
    if (r.starts[adapter]?).any (·.stage = .connecting) then some (r.callback c) else none
  | .timeout start =>
    if (r.starts[start]?).any fun s => s.stage = .connecting && !s.timedOut then
      some { r with starts := r.starts.modify start fun s =>
        { s.resume (some .connectionFailed) with timedOut := true } }
    else none
  | .stopTunnel => some r

/-! ### One start -/

/-- An action of a start, as one of the session. -/
def ofStart (n : ℕ) : Action → Option Tunnel.Action
  | .callback adapter (.event e) => if adapter = n then some (.event e) else none
  | .callback adapter (.error isFatal) => if adapter = n then some (.error isFatal) else none
  | .timeout start => if start = n then some .timeout else none
  | _ => none

/-- The start `n`, and the closure if it is its own, are those of a session. -/
structure Simulates (n : ℕ) (r : Rounds) (p : Provider) : Prop where
  start : ∃ s, r.starts[n]? = some s ∧ s.stage = .connecting ∧ s.hasResumed = p.attempt.hasResumed ∧
    s.resumptions = p.attempt.outcome.toList
  completion : r.openVPNStartCompletion = if p.openVPNStartCompletion then some n else none

lemma resume_eq {s : Start} {a : Attempt} (hresumed : s.hasResumed = a.hasResumed)
    (hresumptions : s.resumptions = a.outcome.toList) (ha : a.hasResumed = a.outcome.isSome)
    (error : Option StartError) :
    (s.resume error).stage = s.stage ∧ (s.resume error).hasResumed = (a.resume error).hasResumed ∧
      (s.resume error).resumptions = (a.resume error).outcome.toList := by
  unfold Start.resume Attempt.resume
  rw [hresumed]
  split_ifs with h
  · exact ⟨rfl, hresumed, hresumptions⟩
  · have hnone : a.outcome = none := by
      rw [Bool.not_eq_true] at h
      rw [h] at ha
      exact Option.isNone_iff_eq_none.1 (Option.isSome_eq_false_iff.1 ha.symm)
    refine ⟨rfl, rfl, ?_⟩
    simp [hresumptions, hnone]

/-- What is left of a start when the closure is called. -/
lemma getElem?_complete (r : Rounds) (error : Option StartError) (n : ℕ) :
    (r.complete error).starts[n]? = if r.openVPNStartCompletion = some n
      then r.starts[n]?.map fun s => s.resume error else r.starts[n]? := by
  unfold complete
  cases hc : r.openVPNStartCompletion with
  | none => rfl
  | some m =>
    simp only [List.getElem?_modify, Option.some.injEq]
    split_ifs with h
    · rfl
    · rw [Option.map_eq_map, Option.map_id']

lemma length_complete (r : Rounds) (error : Option StartError) :
    (r.complete error).starts.length = r.starts.length := by
  unfold complete
  cases r.openVPNStartCompletion with
  | none => rfl
  | some m => exact List.length_modify ..

lemma Simulates.complete {n : ℕ} {r : Rounds} {p : Provider} (h : Simulates n r p)
    (hp : p.attempt.hasResumed = p.attempt.outcome.isSome) (error : Option StartError) :
    Simulates n (r.complete error) (p.complete error) := by
  obtain ⟨s, hs, hstage, hresumed, hresumptions⟩ := h.start
  refine ⟨?_, rfl⟩
  rw [getElem?_complete, h.completion]
  unfold Provider.complete
  cases hc : p.openVPNStartCompletion with
  | true =>
    obtain ⟨h₁, h₂, h₃⟩ := resume_eq hresumed hresumptions hp error
    exact ⟨s.resume error, by simp [hs], h₁.trans hstage, h₂, h₃⟩
  | false => exact ⟨s, by simp [hs], hstage, hresumed, hresumptions⟩

/-- **One action of the start**, in the rounds and in the session. -/
lemma Simulates.step {n : ℕ} {r r' : Rounds} {p : Provider} (h : Simulates n r p)
    (hp : p.attempt.hasResumed = p.attempt.outcome.isSome) {a : Action} {b : Tunnel.Action}
    (ha : ofStart n a = some b) (hstep : r.step a = some r') : Simulates n r' (p.step b) := by
  obtain ⟨s, hs, hstage, hresumed, hresumptions⟩ := h.start
  cases a with
  | callback adapter c =>
    have hr : r' = r.callback c := by
      simp only [Rounds.step] at hstep
      split_ifs at hstep
      exact (Option.some.inj hstep).symm
    subst hr
    cases c with
    | event e =>
      simp only [ofStart] at ha
      split_ifs at ha
      obtain rfl := Option.some.inj ha
      cases e with
      | connected =>
        have hset : Simulates n { r with reasserting := false } { p with reasserting := false } :=
          ⟨h.start, h.completion⟩
        have hdone := hset.complete hp none
        exact ⟨hdone.start, hdone.completion⟩
      | reconnecting => exact ⟨h.start, h.completion⟩
      | disconnected =>
        have hdone := h.complete hp (some .connectionFailed)
        exact ⟨hdone.start, hdone.completion⟩
      | other => exact ⟨h.start, h.completion⟩
    | error isFatal =>
      simp only [ofStart] at ha
      split_ifs at ha
      obtain rfl := Option.some.inj ha
      cases isFatal with
      | true =>
        have hdone := h.complete hp (some .fatal)
        exact ⟨hdone.start, hdone.completion⟩
      | false => exact ⟨h.start, h.completion⟩
  | timeout start =>
    simp only [ofStart] at ha
    split_ifs at ha with hn
    subst hn
    obtain rfl := Option.some.inj ha
    simp only [Rounds.step] at hstep
    split_ifs at hstep
    obtain rfl := Option.some.inj hstep
    obtain ⟨h₁, h₂, h₃⟩ := resume_eq hresumed hresumptions hp (some .connectionFailed)
    refine ⟨⟨{ s.resume (some .connectionFailed) with timedOut := true }, ?_, h₁.trans hstage, h₂, h₃⟩,
      h.completion⟩
    simp [hs]
  | create => cases ha
  | fail => cases ha
  | connect => cases ha
  | stopTunnel => cases ha

/-- The only start of a provider: every other action than its own leaves it as it is. -/
lemma Simulates.step_of_none {r r' : Rounds} {p : Provider} (h : Simulates 0 r p) (hone : r.starts.length = 1)
    {a : Action} (ha : ofStart 0 a = none) (hcreate : a ≠ .create) (hstep : r.step a = some r') : r' = r := by
  obtain ⟨s, hs, hstage, -⟩ := h.start
  have hcurrent : r.current = 0 := by rw [current, hone]
  have hother : ∀ n ≠ 0, r.starts[n]? = none := by
    intro n hn
    apply List.getElem?_eq_none
    omega
  cases a with
  | callback adapter c =>
    have hadapter : adapter ≠ 0 := by
      rintro rfl
      cases c <;> cases ha
    simp [Rounds.step, hother adapter hadapter] at hstep
  | timeout start =>
    have hstart : start ≠ 0 := by
      rintro rfl
      cases ha
    simp [Rounds.step, hother start hstart] at hstep
  | create => exact absurd rfl hcreate
  | fail => simp [Rounds.step, hcurrent, hs, hstage] at hstep
  | connect => simp [Rounds.step, hcurrent, hs, hstage] at hstep
  | stopTunnel => exact (Option.some.inj hstep).symm

lemma length_step {r r' : Rounds} {a : Action} (hcreate : a ≠ .create) (hstep : r.step a = some r') :
    r'.starts.length = r.starts.length := by
  cases a with
  | create => exact absurd rfl hcreate
  | callback adapter c =>
    simp only [step] at hstep
    split_ifs at hstep
    obtain rfl := Option.some.inj hstep
    cases c with
    | event e =>
      cases e with
      | connected => exact length_complete ..
      | disconnected => exact length_complete ..
      | reconnecting => rfl
      | other => rfl
    | error isFatal =>
      cases isFatal with
      | true => exact length_complete ..
      | false => rfl
  | fail | connect | timeout start =>
    simp only [step] at hstep
    split_ifs at hstep
    obtain rfl := Option.some.inj hstep
    exact List.length_modify ..
  | stopTunnel =>
    obtain rfl := Option.some.inj hstep
    rfl

/-- **One start is a session**, whatever comes after it has been told to connect. -/
lemma simulates_run {r r' : Rounds} {as : List Action} {bs : List Tunnel.Action}
    (h : Simulates 0 r (Tunnel.run bs)) (hone : r.starts.length = 1) (hcreate : .create ∉ as)
    (hrun : Lib.run step r as = some r') :
    Simulates 0 r' (Tunnel.run (bs ++ as.filterMap (ofStart 0))) ∧ r'.starts.length = 1 := by
  induction as generalizing r bs with
  | nil =>
    obtain rfl := Option.some.inj hrun
    rw [List.filterMap_nil, List.append_nil]
    exact ⟨h, hone⟩
  | cons a as ih =>
    obtain ⟨u, hu, hrest⟩ := Lib.run_cons.1 hrun
    rw [List.mem_cons, not_or] at hcreate
    obtain ⟨ha, has⟩ := hcreate
    have hlength : u.starts.length = 1 := (length_step (Ne.symm ha) hu).trans hone
    cases hown : ofStart 0 a with
    | none =>
      rw [List.filterMap_cons_none hown]
      obtain rfl := h.step_of_none hone hown (Ne.symm ha) hu
      exact ih h hone has hrest
    | some b =>
      have hfollows := follows_run bs
      have hstep := h.step (hfollows.hasResumed.trans (by rw [hfollows.outcome])) hown hu
      have hnext : Simulates 0 u (Tunnel.run (bs ++ [b])) := by
        rw [Tunnel.run, List.foldl_append]
        exact hstep
      have hall := ih hnext hlength has hrest
      rwa [List.append_assoc, List.singleton_append, ← List.filterMap_cons_some hown] at hall

/-- What an action resolves the start `n` with, as long as it is pending. -/
def resolutionOf (n : ℕ) (a : Action) : Option (Option StartError) := (ofStart n a).bind Tunnel.Action.resolution

/-- The actions that fail the start `n`, as long as it is pending: `disconnected`, a fatal error, the
timer. -/
def Action.fails (n : ℕ) : Action → Bool
  | .callback adapter (.event .disconnected) | .callback adapter (.error true) => adapter = n
  | .timeout start => start = n
  | _ => false

lemma resolutionOf_eq_success {n : ℕ} {a : Action} :
    resolutionOf n a = some none ↔ a = .callback n (.event .connected) := by
  unfold resolutionOf
  cases a with
  | callback adapter c =>
    cases c with
    | event e =>
      by_cases h : adapter = n <;> cases e <;> simp [ofStart, h, Tunnel.Action.resolution]
    | error isFatal =>
      by_cases h : adapter = n <;> cases isFatal <;> simp [ofStart, h, Tunnel.Action.resolution]
  | timeout start => by_cases h : start = n <;> simp [ofStart, h, Tunnel.Action.resolution]
  | _ => simp [ofStart]

lemma resolutionOf_eq_failure {n : ℕ} {a : Action} :
    (∃ error, resolutionOf n a = some (some error)) ↔ a.fails n = true := by
  unfold resolutionOf
  cases a with
  | callback adapter c =>
    cases c with
    | event e =>
      by_cases h : adapter = n <;> cases e <;> simp [ofStart, h, Tunnel.Action.resolution, Action.fails]
    | error isFatal =>
      by_cases h : adapter = n <;> cases isFatal <;>
        simp [ofStart, h, Tunnel.Action.resolution, Action.fails]
  | timeout start => by_cases h : start = n <;> simp [ofStart, h, Tunnel.Action.resolution, Action.fails]
  | _ => simp [ofStart, Action.fails]

/-- The first action that resolves the start is `connected`. -/
lemma findSome?_eq_success {n : ℕ} {as : List Action} :
    as.findSome? (resolutionOf n) = some none ↔
      ∃ before after, as = before ++ .callback n (.event .connected) :: after ∧
        ∀ a ∈ before, a.fails n = false := by
  have hnone : ∀ {a : Action}, resolutionOf n a = none → a.fails n = false := by
    intro a ha
    rw [Bool.eq_false_iff]
    intro hfails
    obtain ⟨error, herror⟩ := resolutionOf_eq_failure.2 hfails
    rw [ha] at herror
    cases herror
  constructor
  · intro h
    obtain ⟨before, a, after, rfl, ha, hbefore⟩ := List.findSome?_eq_some_iff.1 h
    obtain rfl := resolutionOf_eq_success.1 ha
    exact ⟨before, after, rfl, fun a ha => hnone (hbefore a ha)⟩
  · rintro ⟨before, after, rfl, hbefore⟩
    rw [List.findSome?_append]
    cases hfirst : before.findSome? (resolutionOf n) with
    | none => simp [resolutionOf_eq_success.2]
    | some o =>
      obtain ⟨a, ha, hresolution⟩ := List.exists_of_findSome?_eq_some hfirst
      cases o with
      | none => rfl
      | some error =>
        have hfails := resolutionOf_eq_failure.1 ⟨error, hresolution⟩
        rw [hbefore a ha] at hfails
        cases hfails

/-- How a start is resolved by the actions that come after it has been told to connect. -/
structure ResumedOnce (as : List Action) (s : Start) : Prop where
  atMost : s.resumptions.length ≤ 1
  once : .timeout 0 ∈ as → s.resumptions.length = 1
  succeeds : s.resumptions = [none] ↔
    ∃ before after, as = before ++ .callback 0 (.event .connected) :: after ∧
      ∀ a ∈ before, a.fails 0 = false

/-- **One start is resolved once, by the right event.**  Whatever the order of the callbacks and of the
timer, its continuation is never resumed twice, and has been resumed once the timer has fired; with
success, if and only if `connected` comes before the timer, `disconnected` and a fatal error. -/
theorem resumedOnce {as : List Action} {r : Rounds} (hcreate : .create ∉ as)
    (hrun : Lib.run step {} (.create :: .connect :: as) = some r) :
    ∃ s, r.starts = [s] ∧ ResumedOnce as s := by
  have hconnected : Lib.run step
      { starts := [{ stage := .connecting }], openVPNStartCompletion := some 0, openVPNAdapter := some 0 }
      as = some r := hrun
  have hinit : Simulates 0 { starts := [{ stage := .connecting }], openVPNStartCompletion := some 0, openVPNAdapter := some 0 }
      (Tunnel.run []) := ⟨⟨_, rfl, rfl, rfl, rfl⟩, rfl⟩
  obtain ⟨hsim, hone⟩ := simulates_run hinit rfl hcreate hconnected
  obtain ⟨s, hs, -, -, hresumptions⟩ := hsim.start
  obtain ⟨s', hs'⟩ := List.length_eq_one_iff.1 hone
  obtain rfl : s' = s := by
    rw [hs'] at hs
    exact Option.some.inj hs
  have houtcome : s'.resumptions = (as.findSome? (resolutionOf 0)).toList := by
    rw [hresumptions, (follows_run _).outcome, List.nil_append, resolution, Lib.findSome?_filterMap]
    rfl
  refine ⟨s', hs', ?_, ?_, ?_⟩
  · rw [houtcome]
    cases as.findSome? (resolutionOf 0) <;> simp
  · intro htimeout
    have hsome : (as.findSome? (resolutionOf 0)).isSome = true :=
      List.findSome?_isSome_iff.2 ⟨_, htimeout, rfl⟩
    obtain ⟨o, ho⟩ := Option.isSome_iff_exists.1 hsome
    rw [houtcome, ho]
    rfl
  · rw [houtcome, ← findSome?_eq_success]
    cases as.findSome? (resolutionOf 0) with
    | none => simp
    | some o => simp

/-- A client that connects, and drops before the timer fires. -/
def drop : List Action :=
  [.callback 0 (.event .connected), .callback 0 (.event .disconnected), .timeout 0]

theorem resumedOnce_drop :
    ∃ r s, Lib.run step {} (.create :: .connect :: drop) = some r ∧ r.starts = [s] ∧ ResumedOnce drop s := by
  obtain ⟨s, hs, honce⟩ := resumedOnce (show .create ∉ drop by decide) rfl
  exact ⟨_, s, rfl, hs, honce⟩

/-! ### Late callbacks -/

/-- The start that goes on, and the closure. -/
def view (r : Rounds) : Option Start × Option ℕ := (r.starts[r.current]?, r.openVPNStartCompletion)

/-- The actions that are of the start `n`, or of no start. -/
def Action.isOwn (n : ℕ) : Action → Bool
  | .callback adapter _ => adapter = n
  | .timeout start => start = n
  | _ => true

/-- The callbacks that call the closure. -/
def completes : Callback → Bool
  | .event .connected | .event .disconnected | .error true => true
  | _ => false

/-- A callback of another adapter than that of the start `n`, that calls the closure. -/
def Action.completesLate (n : ℕ) : Action → Bool
  | .callback adapter c => adapter ≠ n && completes c
  | _ => false

/-- In every state that is reached, the current start and the closure are what the actions of that start
alone make of them. -/
def Isolated (r : Rounds) (as : List Action) : Prop :=
  ∀ before after t, as = before ++ after → Lib.run step r before = some t →
    (Lib.run step r (before.filter (Action.isOwn r.current))).map view = some (view t)

/-- Two providers with the same current start, the start `n`, and the same closure. -/
structure Same (n : ℕ) (r r' : Rounds) : Prop where
  left : r.current = n
  right : r'.current = n
  start : r.starts[n]? = r'.starts[n]?
  completion : r.openVPNStartCompletion = r'.openVPNStartCompletion

lemma Same.view_eq {n : ℕ} {r r' : Rounds} (h : Same n r r') : r.view = r'.view := by
  rw [view, view, h.left, h.right, h.start, h.completion]

lemma Same.complete {n : ℕ} {r r' : Rounds} (h : Same n r r') (error : Option StartError) :
    Same n (r.complete error) (r'.complete error) := by
  refine ⟨?_, ?_, ?_, rfl⟩
  · rw [current, length_complete]
    exact h.left
  · rw [current, length_complete]
    exact h.right
  · rw [getElem?_complete, getElem?_complete, h.completion, h.start]

/-- A handler of the delegate does the same to both. -/
lemma Same.callback {n : ℕ} {r r' : Rounds} (h : Same n r r') (c : Callback) :
    Same n (r.callback c) (r'.callback c) := by
  cases c with
  | event e =>
    cases e with
    | connected =>
      have hset : Same n { r with reasserting := false } { r' with reasserting := false } :=
        ⟨h.left, h.right, h.start, h.completion⟩
      exact hset.complete none
    | disconnected => exact h.complete (some .connectionFailed)
    | reconnecting => exact ⟨h.left, h.right, h.start, h.completion⟩
    | other => exact h
  | error isFatal =>
    cases isFatal with
    | true => exact h.complete (some .fatal)
    | false => exact h

/-- **An action of the current start** does the same to both. -/
lemma Same.step {n : ℕ} {r r' t : Rounds} (h : Same n r r') {a : Action} (hcreate : a ≠ .create)
    (hown : a.isOwn n = true) (hstep : r.step a = some t) : ∃ t', r'.step a = some t' ∧ Same n t t' := by
  have hmodify : ∀ (f : Start → Start) (completion : Option ℕ),
      Same n { r with starts := r.starts.modify n f, openVPNStartCompletion := completion }
        { r' with starts := r'.starts.modify n f, openVPNStartCompletion := completion } := by
    intro f completion
    refine ⟨?_, ?_, ?_, rfl⟩
    · exact (congrArg (· - 1) (List.length_modify ..)).trans h.left
    · exact (congrArg (· - 1) (List.length_modify ..)).trans h.right
    · simp only [List.getElem?_modify, h.start]
  cases a with
  | create => exact absurd rfl hcreate
  | stopTunnel =>
    obtain rfl := Option.some.inj hstep
    exact ⟨r', rfl, h⟩
  | fail =>
    simp only [Rounds.step, h.left, h.right, h.start] at hstep ⊢
    split_ifs at hstep ⊢
    obtain rfl := Option.some.inj hstep
    have hboth := hmodify (fun s => { s with stage := .thrown }) r.openVPNStartCompletion
    exact ⟨_, rfl, hboth.left, hboth.right, hboth.start, h.completion⟩
  | connect =>
    simp only [Rounds.step, h.left, h.right, h.start] at hstep ⊢
    split_ifs at hstep ⊢
    obtain rfl := Option.some.inj hstep
    exact ⟨_, rfl, hmodify (fun s => { s with stage := .connecting }) (some n)⟩
  | callback adapter c =>
    obtain rfl := of_decide_eq_true hown
    simp only [Rounds.step, h.start] at hstep ⊢
    split_ifs at hstep ⊢
    obtain rfl := Option.some.inj hstep
    exact ⟨_, rfl, h.callback c⟩
  | timeout start =>
    obtain rfl := of_decide_eq_true hown
    simp only [Rounds.step, h.start] at hstep ⊢
    split_ifs at hstep ⊢
    obtain rfl := Option.some.inj hstep
    have hboth := hmodify (fun s => { s.resume (some .connectionFailed) with timedOut := true })
      r.openVPNStartCompletion
    exact ⟨_, rfl, hboth.left, hboth.right, hboth.start, h.completion⟩

/-- **A late action** leaves the current start and the closure alone, if there is no closure or the
action does not call it. -/
lemma Same.step_late {n : ℕ} {r r' t : Rounds} (h : Same n r r') {a : Action} (hown : a.isOwn n = false)
    (hlate : a.completesLate n = true → r.openVPNStartCompletion = none) (hstep : r.step a = some t) :
    Same n t r' := by
  cases a with
  | create => cases hown
  | stopTunnel => cases hown
  | fail => cases hown
  | connect => cases hown
  | callback adapter c =>
    have hadapter : adapter ≠ n := of_decide_eq_false hown
    simp only [Rounds.step] at hstep
    split_ifs at hstep
    obtain rfl := Option.some.inj hstep
    -- a handler that calls the closure finds none
    have hcomplete : ∀ error, completes c = true → Same n (r.complete error) r' := by
      intro error hc
      have hnone := hlate (by simp [Action.completesLate, hadapter, hc])
      refine ⟨?_, h.right, ?_, ?_⟩
      · rw [current, length_complete]
        exact h.left
      · rw [getElem?_complete, hnone, if_neg (by simp), h.start]
      · exact hnone.symm.trans h.completion
    cases c with
    | event e =>
      cases e with
      | connected =>
        have hdone := hcomplete none rfl
        exact ⟨hdone.left, hdone.right, hdone.start, hdone.completion⟩
      | disconnected => exact hcomplete _ rfl
      | reconnecting => exact ⟨h.left, h.right, h.start, h.completion⟩
      | other => exact h
    | error isFatal =>
      cases isFatal with
      | true => exact hcomplete _ rfl
      | false => exact h
  | timeout start =>
    have hstart : start ≠ n := of_decide_eq_false hown
    simp only [Rounds.step] at hstep
    split_ifs at hstep
    obtain rfl := Option.some.inj hstep
    refine ⟨?_, h.right, ?_, h.completion⟩
    · exact (congrArg (· - 1) (List.length_modify ..)).trans h.left
    · rw [← h.start]
      exact List.getElem?_modify_ne _ _ hstart

/-- A run, and one of the current start alone. -/
lemma Same.run {n : ℕ} {r r' t : Rounds} {as : List Action} (h : Same n r r') (hcreate : .create ∉ as)
    (hlate : Along Rounds.step (fun r a => a.completesLate n = true → r.openVPNStartCompletion = none) r as)
    (hrun : Lib.run Rounds.step r as = some t) :
    ∃ t', Lib.run Rounds.step r' (as.filter (Action.isOwn n)) = some t' ∧ Same n t t' := by
  induction as generalizing r r' with
  | nil =>
    obtain rfl := Option.some.inj hrun
    exact ⟨r', rfl, h⟩
  | cons a as ih =>
    rw [List.mem_cons, not_or] at hcreate
    obtain ⟨ha, has⟩ := hcreate
    obtain ⟨u, hu, hrest⟩ := Lib.run_cons.1 hrun
    cases hown : a.isOwn n with
    | true =>
      obtain ⟨u', hu', hsame⟩ := h.step (Ne.symm ha) hown hu
      obtain ⟨t', ht', hlast⟩ := ih hsame has (hlate.2 u hu) hrest
      rw [List.filter_cons_of_pos hown]
      exact ⟨t', Lib.run_cons.2 ⟨u', hu', ht'⟩, hlast⟩
    | false =>
      rw [List.filter_cons_of_neg (by rw [hown]; exact Bool.false_ne_true)]
      exact ih (h.step_late hown hlate.1 hu) has (hlate.2 u hu) hrest

/-- **When late callbacks do not reach the current start.**  Whatever has happened before, in every state
that is reached the current start and the closure depend only on the callbacks of the current adapter and
its timer, if and only if every callback of an earlier adapter that calls the closure finds none. -/
theorem isolated_iff {r t : Rounds} {as : List Action} (hcreate : .create ∉ as)
    (hrun : Lib.run step r as = some t) :
    Isolated r as ↔
      Along step (fun u a => a.completesLate r.current = true → u.openVPNStartCompletion = none) r as := by
  rw [Lib.along_iff]
  constructor
  · rintro h before a after u rfl hu hlate
    obtain ⟨v, hv, hlonger, -⟩ := Lib.exists_step_of_run hrun hu
    -- the actions of the start are the same, so the closure that is gone now has been gone before
    have hown : a.isOwn r.current = false := by
      cases a with
      | callback adapter c =>
        simp only [Action.completesLate, Bool.and_eq_true, decide_eq_true_eq] at hlate
        exact decide_eq_false hlate.1
      | _ => cases hlate
    have hbefore := h before (a :: after) u rfl hu
    have hafter := h (before ++ [a]) after v (by simp) hlonger
    have hfilter : (before ++ [a]).filter (Action.isOwn r.current) = before.filter (Action.isOwn r.current) := by
      rw [List.filter_append, List.filter_cons_of_neg (by rw [hown]; exact Bool.false_ne_true),
        List.filter_nil, List.append_nil]
    rw [hfilter, hbefore] at hafter
    have hclosure : u.openVPNStartCompletion = v.openVPNStartCompletion :=
      congrArg Prod.snd (Option.some.inj hafter)
    rw [hclosure]
    cases a with
    | callback adapter c =>
      simp only [Action.completesLate, Bool.and_eq_true] at hlate
      simp only [step] at hv
      split_ifs at hv
      obtain rfl := Option.some.inj hv
      cases c with
      | event e => cases e <;> first | rfl | cases hlate.2
      | error isFatal => cases isFatal <;> first | rfl | cases hlate.2
    | _ => cases hlate
  · rintro h before after u rfl hu
    have hlate : Along step (fun u a => a.completesLate r.current = true → u.openVPNStartCompletion = none)
        r before := by
      refine Lib.along_iff.2 fun b a rest v heq hv => h b a (rest ++ after) v ?_ hv
      rw [heq, List.append_assoc, List.cons_append]
    have hsame : Same r.current r r := ⟨rfl, rfl, rfl, rfl⟩
    obtain ⟨u', hu', hlast⟩ := hsame.run (fun hmem => hcreate (List.mem_append_left _ hmem)) hlate hu
    rw [hu', Option.map_some, hlast.view_eq]

/-- The first start is stopped; when the second one waits, the first client is down. -/
theorem not_isolated_disconnected :
    ¬∀ (before as : List Action) (r t : Rounds), Lib.run step {} (before ++ [.create]) = some r → .create ∉ as →
      Lib.run step r as = some t → Isolated r as := by
  intro h
  have hisolated := h [.create, .connect, .stopTunnel] [.connect, .callback 0 (.event .disconnected)] _ _ rfl
    (by decide) rfl _ [] _ (List.append_nil _).symm rfl
  revert hisolated
  decide

/-- The first client has connected before, and goes down when the second start begins. -/
theorem isolated_started :
    ∃ r, Lib.run step {} [.create, .connect, .callback 0 (.event .connected), .stopTunnel, .create] = some r ∧
      Isolated r [.callback 0 (.event .disconnected), .connect, .callback 1 (.event .connected)] :=
  ⟨_, rfl, (isolated_iff (by decide) rfl).2 (by decide)⟩

end Rounds

end FreeVPN.Tunnel
