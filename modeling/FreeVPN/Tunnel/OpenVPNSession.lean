import Mathlib.Data.List.Induction

/-!
# An OpenVPN session

The part of `PacketTunnelProvider` that bridges the callbacks of an OpenVPN adapter to the start that
the system waits for: the continuation of `attemptOpenVPNConnection` with its timer, the two handlers
of the delegate, and `stopTunnel`.

* `Provider.step` — one callback, the timer, or the stop;
* `follows_run` — what a whole run leaves behind: the start is resolved by the first action that can
  resolve it;
* `noDeadTunnel_iff` — in which runs a dead client never leaves a live-looking tunnel.
-/

namespace FreeVPN.Tunnel

/-! ### The provider -/

/-- `OpenVPNAdapterEvent`, as far as the handler tells the events apart. -/
inductive AdapterEvent
  | connected
  | reconnecting
  | disconnected
  | other
  deriving DecidableEq

/-- The errors that a start fails with. -/
inductive StartError
  /-- `NEVPNError(.connectionFailed)` -/
  | connectionFailed
  /-- The error that the adapter has reported. -/
  | fatal
  deriving DecidableEq

/-- The continuation of `attemptOpenVPNConnection`. -/
structure Attempt where
  hasResumed : Bool := false
  /-- What the start has been resumed with: an error, or nil. -/
  outcome : Option (Option StartError) := none
  deriving DecidableEq

/-- `guard !hasResumed else { return }; hasResumed = true; continuation.resume(…)` -/
def Attempt.resume (a : Attempt) (error : Option StartError) : Attempt :=
  if a.hasResumed then a else { hasResumed := true, outcome := some error }

/-- `PacketTunnelProvider`, from the moment the adapter connects. -/
structure Provider where
  attempt : Attempt := {}
  /-- Is `openVPNStartCompletion` set? -/
  openVPNStartCompletion : Bool := true
  reasserting : Bool := false
  /-- `stopTunnel` has been called. -/
  stopped : Bool := false
  /-- The client has reported that it is terminally down. -/
  clientDown : Bool := false
  /-- `cancelTunnelWithError` has been called, which no step below does. -/
  cancelled : Bool := false
  deriving DecidableEq

/-- `openVPNStartCompletion?(error); openVPNStartCompletion = nil` -/
def Provider.complete (p : Provider) (error : Option StartError) : Provider :=
  { p with
    attempt := if p.openVPNStartCompletion then p.attempt.resume error else p.attempt
    openVPNStartCompletion := false }

/-- `openVPNAdapter(_:handleEvent:message:)` -/
def Provider.handleEvent (p : Provider) : AdapterEvent → Provider
  | .connected => { p with reasserting := false }.complete none
  | .disconnected => p.complete (some .connectionFailed)
  | .reconnecting => { p with reasserting := true }
  | .other => p

/-- `openVPNAdapter(_:handleError:)` -/
def Provider.handleError (p : Provider) (isFatal : Bool) : Provider :=
  if isFatal then p.complete (some .fatal) else p

/-- The 60 seconds are over. -/
def Provider.timeout (p : Provider) : Provider :=
  { p with attempt := p.attempt.resume (some .connectionFailed) }

/-- `stopTunnel(with:)`; what the adapter's `disconnect()` leads to comes as a callback. -/
def Provider.stopTunnel (p : Provider) : Provider := { p with stopped := true }

/-! ### Runs -/

/-- What can happen after the adapter has been told to connect. -/
inductive Action
  | event (e : AdapterEvent)
  | error (isFatal : Bool)
  | timeout
  | stopTunnel
  deriving DecidableEq

/-- The callbacks after which the client is down for good. -/
def Action.terminal : Action → Bool
  | .event .disconnected => true
  | .error true => true
  | _ => false

/-- What the provider does at an action. -/
def Provider.handle (p : Provider) : Action → Provider
  | .event e => p.handleEvent e
  | .error isFatal => p.handleError isFatal
  | .timeout => p.timeout
  | .stopTunnel => p.stopTunnel

/-- One action. -/
def Provider.step (p : Provider) (a : Action) : Provider :=
  { p.handle a with clientDown := p.clientDown || a.terminal }

/-- The provider after a list of actions. -/
def run (as : List Action) : Provider := as.foldl Provider.step {}

/-- What an action resolves a pending start with. -/
def Action.resolution : Action → Option (Option StartError)
  | .event .connected => some none
  | .event .disconnected => some (some .connectionFailed)
  | .error true => some (some .fatal)
  | .timeout => some (some .connectionFailed)
  | _ => none

/-- What a run resolves the start with: what the first action that resolves it does. -/
def resolution (as : List Action) : Option (Option StartError) := as.findSome? Action.resolution

/-- What a run leaves behind. -/
structure Follows (as : List Action) (p : Provider) : Prop where
  outcome : p.attempt.outcome = resolution as
  hasResumed : p.attempt.hasResumed = (resolution as).isSome
  /-- The completion is kept at least until the start is resolved. -/
  pending : resolution as = none → p.openVPNStartCompletion = true
  stopped : p.stopped = true ↔ .stopTunnel ∈ as
  clientDown : p.clientDown = true ↔ ∃ a ∈ as, Action.terminal a
  cancelled : p.cancelled = false

/-- A client that goes down fails a start that is pending. -/
lemma Action.resolution_of_terminal {a : Action} (h : a.terminal) :
    ∃ error, a.resolution = some (some error) := by
  cases a with
  | event e => cases e <;> simp_all [Action.terminal, Action.resolution]
  | error isFatal => cases isFatal <;> simp_all [Action.terminal, Action.resolution]
  | timeout => cases h
  | stopTunnel => cases h

lemma resolution_append (as bs : List Action) : resolution (as ++ bs) = (resolution as).or (resolution bs) :=
  List.findSome?_append

lemma resolution_concat (as : List Action) (a : Action) :
    resolution (as ++ [a]) = (resolution as).or a.resolution := by
  simp [resolution, List.findSome?_append]

/-- What a run has resolved stays resolved. -/
lemma Attempt.resume_eq {a : Attempt} (h : a.hasResumed = a.outcome.isSome) (error : Option StartError) :
    (a.resume error).outcome = a.outcome.or (some error) ∧ (a.resume error).hasResumed = true := by
  obtain ⟨r, o⟩ := a
  cases o <;> simp_all [Attempt.resume]

/-- A handler that completes the start resolves it, if it has been pending. -/
lemma Follows.complete {as : List Action} {p : Provider} (h : Follows as p) (error : Option StartError) :
    (p.complete error).attempt.outcome = (resolution as).or (some error) ∧
      (p.complete error).attempt.hasResumed = true := by
  obtain ⟨h₁, h₂⟩ := Attempt.resume_eq (h.hasResumed.trans (by rw [h.outcome])) error
  cases hc : p.openVPNStartCompletion with
  | true =>
    simp only [Provider.complete, hc, if_true]
    exact ⟨h₁.trans (by rw [h.outcome]), h₂⟩
  | false =>
    -- the completion is gone, so the start has been resolved before
    have hsome : resolution as ≠ none := fun hnone => by simp [h.pending hnone] at hc
    obtain ⟨o, ho⟩ := Option.ne_none_iff_exists'.1 hsome
    simp [Provider.complete, hc, h.outcome, h.hasResumed, ho]

/-- What an action does to a start: it resolves it, if it can and the start is pending. -/
lemma Follows.handle {as : List Action} {p : Provider} (h : Follows as p) (a : Action) :
    (p.handle a).attempt.outcome = (resolution as).or a.resolution ∧
      (p.handle a).attempt.hasResumed = ((resolution as).or a.resolution).isSome ∧
      ((resolution as).or a.resolution = none → (p.handle a).openVPNStartCompletion = true) := by
  have hkeep : p.attempt.outcome = (resolution as).or none ∧
      p.attempt.hasResumed = ((resolution as).or none).isSome ∧
      ((resolution as).or none = none → p.openVPNStartCompletion = true) := by
    rw [Option.or_none]
    exact ⟨h.outcome, h.hasResumed, h.pending⟩
  have hcomplete : ∀ (error : Option StartError) (q : Provider), q.attempt = (p.complete error).attempt →
      q.attempt.outcome = (resolution as).or (some error) ∧
        q.attempt.hasResumed = ((resolution as).or (some error)).isSome ∧
        ((resolution as).or (some error) = none → q.openVPNStartCompletion = true) := by
    intro error q hq
    obtain ⟨h₁, h₂⟩ := h.complete error
    exact ⟨hq ▸ h₁, by simp [hq, h₂], fun hnone => by simp at hnone⟩
  cases a with
  | event e =>
    cases e with
    | connected => exact hcomplete none _ rfl
    | disconnected => exact hcomplete (some .connectionFailed) _ rfl
    | reconnecting => exact hkeep
    | other => exact hkeep
  | error isFatal =>
    cases isFatal with
    | true => exact hcomplete (some .fatal) _ rfl
    | false => exact hkeep
  | timeout =>
    obtain ⟨h₁, h₂⟩ := Attempt.resume_eq (h.hasResumed.trans (by rw [h.outcome])) (some .connectionFailed)
    exact ⟨h₁.trans (by rw [h.outcome]; rfl), h₂.trans (by simp [Action.resolution]),
      fun hnone => by simp [Action.resolution] at hnone⟩
  | stopTunnel => exact hkeep

/-- Nothing but the stop stops, and nothing cancels. -/
lemma Provider.handle_frame (p : Provider) (a : Action) :
    (p.handle a).stopped = (p.stopped || a = .stopTunnel) ∧ (p.handle a).cancelled = p.cancelled := by
  cases a with
  | event e => cases e <;> simp [Provider.handle, Provider.handleEvent, Provider.complete]
  | error isFatal => cases isFatal <;> simp [Provider.handle, Provider.handleError, Provider.complete]
  | timeout => simp [Provider.handle, Provider.timeout]
  | stopTunnel => simp [Provider.handle, Provider.stopTunnel]

/-- **One action.** -/
theorem Follows.step {as : List Action} {p : Provider} (h : Follows as p) (a : Action) :
    Follows (as ++ [a]) (p.step a) := by
  obtain ⟨houtcome, hresumed, hpending⟩ := h.handle a
  obtain ⟨hstopped, hcancelled⟩ := p.handle_frame a
  refine ⟨?_, ?_, ?_, ?_, ?_, ?_⟩
  · rw [resolution_concat]
    exact houtcome
  · rw [resolution_concat]
    exact hresumed
  · rw [resolution_concat]
    exact hpending
  · change (p.handle a).stopped = true ↔ _
    rw [hstopped, Bool.or_eq_true, h.stopped, List.mem_append, List.mem_singleton, decide_eq_true_eq,
      eq_comm (a := a)]
  · change (p.clientDown || a.terminal) = true ↔ _
    simp [h.clientDown, or_and_right, exists_or]
  · exact hcancelled.trans h.cancelled

/-- **What a whole run leaves behind.** -/
theorem follows_run (as : List Action) : Follows as (run as) := by
  induction as using List.reverseRecOn with
  | nil => exact ⟨rfl, rfl, fun _ => rfl, by simp [run], by simp [run], rfl⟩
  | append_singleton as a ih =>
    rw [run, List.foldl_append]
    exact ih.step a

/-! ### Dead clients -/

/-- The start has been reported as successful, the client is down for good, and the system, which has
not stopped the tunnel, has not been told. -/
def Provider.DeadButLive (p : Provider) : Prop :=
  p.attempt.outcome = some none ∧ p.clientDown = true ∧ p.stopped = false ∧ p.cancelled = false

/-- What the system must learn from a terminal callback: a pending start fails, and a session that
has started and has not been stopped ends. -/
structure Reports (p p' : Provider) : Prop where
  pending : p.attempt.outcome = none → ∃ error, p'.attempt.outcome = some (some error)
  started : p.attempt.outcome = some none → p.stopped = false → p'.cancelled = true

/-- In a run every terminal callback is reported, and no state that is reached is dead but
live-looking. -/
structure NoDeadTunnel (as : List Action) : Prop where
  reports : ∀ before a after, as = before ++ a :: after → a.terminal → Reports (run before) (run (before ++ [a]))
  states : ∀ before after, as = before ++ after → ¬(run before).DeadButLive

/-- **When a dead client leaves no live-looking tunnel.**  In a run every terminal callback is
reported, if and only if none comes after the start has been resolved by `connected`, unless the
tunnel has been stopped before. -/
theorem noDeadTunnel_iff (as : List Action) :
    NoDeadTunnel as ↔ ∀ before a after, as = before ++ a :: after → a.terminal →
      resolution before = some none → .stopTunnel ∈ before := by
  constructor
  · intro h before a after heq hterm hres
    have hb := follows_run before
    by_contra hstop
    have hcancel := (h.reports before a after heq hterm).started (hb.outcome.trans hres)
      (Bool.eq_false_iff.2 fun hs => hstop (hb.stopped.1 hs))
    rw [(follows_run (before ++ [a])).cancelled] at hcancel
    cases hcancel
  · intro h
    refine ⟨fun before a after heq hterm => ⟨fun hnone => ?_, fun hsome hstop => ?_⟩, ?_⟩
    · have hb := (follows_run before).outcome
      rw [hnone] at hb
      rw [(follows_run (before ++ [a])).outcome, resolution_concat, ← hb, Option.none_or]
      exact Action.resolution_of_terminal hterm
    · have hb := follows_run before
      have := hb.stopped.2 (h before a after heq hterm (hb.outcome.symm.trans hsome))
      rw [hstop] at this
      cases this
    · rintro before after rfl ⟨hsome, hdown, hstop, -⟩
      have hb := follows_run before
      have hres : resolution before = some none := hb.outcome.symm.trans hsome
      obtain ⟨a, ha, hterm⟩ := hb.clientDown.1 hdown
      obtain ⟨before', after', hsplit⟩ := List.append_of_mem ha
      by_cases hstarted : resolution before' = some none
      · have hmem := h before' a (after' ++ after) (by rw [hsplit]; simp) hterm hstarted
        have hstopped := hb.stopped.2 (hsplit ▸ List.mem_append_left _ hmem)
        rw [hstop] at hstopped
        cases hstopped
      · -- the start has failed by then, and stays failed
        obtain ⟨error, herror⟩ := Action.resolution_of_terminal hterm
        have hfirst : resolution (a :: after') = some (some error) := by simp [resolution, herror]
        rw [hsplit, resolution_append, hfirst] at hres
        cases hr : resolution before' with
        | none => simp [hr] at hres
        | some o => simp_all

/-- A drop after a successful start is not reported. -/
theorem not_noDeadTunnel_drop : ¬∀ as : List Action, NoDeadTunnel as := fun h =>
  (h [.event .connected, .event .disconnected]).states _ [] (List.append_nil _).symm
    ⟨rfl, rfl, rfl, rfl⟩

end FreeVPN.Tunnel
