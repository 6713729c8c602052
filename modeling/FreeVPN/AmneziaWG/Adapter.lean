import FreeVPN.Lib.Runs
import FreeVPN.Lib.Handles
import FreeVPN.AmneziaWG.Uapi

/-!
# The adapter

`WireGuardAdapter` of AmneziaWGKit, which starts and stops the backend on its serial queue.  What it
asks the system and the backend for is answered by `Answers`: an event comes with the answers it gets.

* `Adapter.step` — one event: a start, a stop, an update, or a path update of any monitor;
* `owns_of_run` — after every run the live handles are those that the state has, and no call has been on
  any other.
-/

namespace FreeVPN.AmneziaWG

open FreeVPN.Lib FreeVPN.Foundation FreeVPN.WgQuick

section Adapter

variable [Network]

/-- `WireGuardAdapterError` -/
inductive WireGuardAdapterError
  | cannotLocateTunnelFileDescriptor
  | invalidState
  | dnsResolution (errors : List DNSResolutionError)
  | setNetworkSettings
  | startWireGuardBackend (handle : Int32)

/-- `PacketTunnelSettingsGenerator` -/
structure PacketTunnelSettingsGenerator where
  tunnelConfiguration : TunnelConfiguration InterfaceConfiguration
  resolvedEndpoints : List (Option Endpoint)

/-- `State` -/
inductive State
  | stopped
  | started (handle : Int32) (settingsGenerator : PacketTunnelSettingsGenerator)
  | temporaryShutdown (settingsGenerator : PacketTunnelSettingsGenerator)

/-- The calls of the backend. -/
inductive BackendCall
  /-- With the handle that is returned. -/
  | awgTurnOn (wgConfig : Text) (tunnelFileDescriptor : Int32) (handle : Int32)
  | awgTurnOff (handle : Int32)
  | awgSetConfig (handle : Int32) (wgConfig : Text)
  | awgDisableSomeRoamingForBrokenMobileSemantics (handle : Int32)
  | awgBumpSockets (handle : Int32)

/-- What becomes of the network settings: an error, or nothing within five seconds. -/
inductive SettingsAnswer
  | done
  | failed
  | timedOut

/-- What the system and the backend answer. -/
structure Answers where
  resolveSync : List (Option Endpoint) → List (Option (Except DNSResolutionError Endpoint))
  setTunnelNetworkSettings : SettingsAnswer
  tunnelFileDescriptor : Option Int32
  awgTurnOn : Int32

/-- `NWPath.Status` -/
inductive PathStatus
  | satisfied
  | unsatisfied
  | requiresConnection

/-- `isSatisfiable` -/
def PathStatus.isSatisfiable : PathStatus → Bool
  | .requiresConnection | .satisfied => true
  | .unsatisfied => false

/-- `WireGuardAdapter`, with the calls it has made. -/
structure Adapter where
  state : State := .stopped
  /-- Monitors are told apart by the number of those before them. -/
  networkMonitor : Option ℕ := none
  /-- How many monitors have been started. -/
  monitors : ℕ := 0
  calls : List BackendCall := []

/-! ### Steps of the entry points -/

/-- `resolvePeers` -/
def resolvePeers (answers : Answers) (tunnelConfiguration : TunnelConfiguration InterfaceConfiguration) :
    Except WireGuardAdapterError (List (Option Endpoint)) :=
  let resolutionResults := answers.resolveSync (tunnelConfiguration.peers.map PeerConfiguration.endpoint)
  let resolutionErrors := resolutionResults.filterMap fun
    | some (.error error) => some error
    | _ => none
  if resolutionErrors ≠ [] then .error (.dnsResolution resolutionErrors)
  else .ok (resolutionResults.map fun result => result.bind Except.toOption)

/-- `makeSettingsGenerator` -/
def makeSettingsGenerator (answers : Answers)
    (tunnelConfiguration : TunnelConfiguration InterfaceConfiguration) :
    Except WireGuardAdapterError PacketTunnelSettingsGenerator := do
  return { tunnelConfiguration, resolvedEndpoints := ← resolvePeers answers tunnelConfiguration }

/-- `setNetworkSettings`, which goes on when there is no answer. -/
def setNetworkSettings (answers : Answers) : Except WireGuardAdapterError Unit :=
  match answers.setTunnelNetworkSettings with
  | .failed => .error .setNetworkSettings
  | .done | .timedOut => .ok ()

/-- `startWireGuardBackend`: the calls, and the handle. -/
def startWireGuardBackend (answers : Answers) (wgConfig : Text) :
    List BackendCall × Except WireGuardAdapterError Int32 :=
  match answers.tunnelFileDescriptor with
  | none => ([], .error .cannotLocateTunnelFileDescriptor)
  | some tunnelFileDescriptor =>
    let handle := answers.awgTurnOn
    if handle < 0 then
      ([.awgTurnOn wgConfig tunnelFileDescriptor handle], .error (.startWireGuardBackend handle))
    else
      ([.awgTurnOn wgConfig tunnelFileDescriptor handle,
        .awgDisableSomeRoamingForBrokenMobileSemantics handle], .ok handle)

variable [Resolver]

namespace PacketTunnelSettingsGenerator

/-- The text of `uapiConfiguration()` -/
def uapi (g : PacketTunnelSettingsGenerator) : Text :=
  (uapiConfiguration g.tunnelConfiguration g.resolvedEndpoints).1

/-- The text of `endpointUapiConfiguration()` -/
def endpointUapi (g : PacketTunnelSettingsGenerator) : Text :=
  (endpointUapiConfiguration g.tunnelConfiguration g.resolvedEndpoints).1

end PacketTunnelSettingsGenerator

namespace Adapter

/-- The backend is started, and the state is `started` if it has been. -/
def startBackend (a : Adapter) (answers : Answers) (settingsGenerator : PacketTunnelSettingsGenerator) :
    Adapter × Option WireGuardAdapterError :=
  match startWireGuardBackend answers settingsGenerator.uapi with
  | (calls, .ok handle) =>
    ({ a with state := .started handle settingsGenerator, calls := a.calls ++ calls }, none)
  | (calls, .error error) => ({ a with calls := a.calls ++ calls }, some error)

/-- `start`, with what the completion handler is called with. -/
def start (a : Adapter) (tunnelConfiguration : TunnelConfiguration InterfaceConfiguration)
    (answers : Answers) : Adapter × Option WireGuardAdapterError :=
  match a.state with
  | .stopped =>
    let networkMonitor := a.monitors
    let a := { a with monitors := a.monitors + 1 }
    match makeSettingsGenerator answers tunnelConfiguration, setNetworkSettings answers with
    | .ok settingsGenerator, .ok () =>
      match a.startBackend answers settingsGenerator with
      | (a, none) => ({ a with networkMonitor := some networkMonitor }, none)
      | (a, some error) => (a, some error)
    | .error error, _ => (a, some error)
    | _, .error error => (a, some error)
  | _ => (a, some .invalidState)

/-- `stop` -/
def stop (a : Adapter) : Adapter × Option WireGuardAdapterError :=
  match a.state with
  | .started handle _ =>
    ({ a with state := .stopped, networkMonitor := none, calls := a.calls ++ [.awgTurnOff handle] }, none)
  | .temporaryShutdown _ => ({ a with state := .stopped, networkMonitor := none }, none)
  | .stopped => (a, some .invalidState)

/-- `update` -/
def update (a : Adapter) (tunnelConfiguration : TunnelConfiguration InterfaceConfiguration)
    (answers : Answers) : Adapter × Option WireGuardAdapterError :=
  match a.state with
  | .stopped => (a, some .invalidState)
  | state =>
    match makeSettingsGenerator answers tunnelConfiguration, setNetworkSettings answers with
    | .ok settingsGenerator, .ok () =>
      match state with
      | .started handle _ =>
        ({ a with
            state := .started handle settingsGenerator
            calls := a.calls ++ [.awgSetConfig handle settingsGenerator.uapi,
              .awgDisableSomeRoamingForBrokenMobileSemantics handle] }, none)
      | .temporaryShutdown _ => ({ a with state := .temporaryShutdown settingsGenerator }, none)
      -- `fatalError()`, in a state that has been excluded
      | .stopped => (a, none)
    | .error error, _ => (a, some error)
    | _, .error error => (a, some error)

/-- `didReceivePathUpdate`, on tvOS. -/
def didReceivePathUpdate (a : Adapter) (status : PathStatus) (answers : Answers) : Adapter :=
  match a.state with
  | .started handle settingsGenerator =>
    if status.isSatisfiable then
      { a with calls := a.calls ++ [.awgSetConfig handle settingsGenerator.endpointUapi,
          .awgDisableSomeRoamingForBrokenMobileSemantics handle, .awgBumpSockets handle] }
    else
      { a with state := .temporaryShutdown settingsGenerator, calls := a.calls ++ [.awgTurnOff handle] }
  | .temporaryShutdown settingsGenerator =>
    if status.isSatisfiable then
      match setNetworkSettings answers with
      | .ok () => (a.startBackend answers settingsGenerator).1
      | .error _ => a
    else a
  | .stopped => a

/-- An event on the serial queue. -/
inductive Event
  | start (tunnelConfiguration : TunnelConfiguration InterfaceConfiguration) (answers : Answers)
  | stop
  | update (tunnelConfiguration : TunnelConfiguration InterfaceConfiguration) (answers : Answers)
  | pathUpdate (monitor : ℕ) (status : PathStatus) (answers : Answers)

/-- One event.  A path update comes from any monitor that has been started, cancelled or not. -/
def step (a : Adapter) : Event → Option Adapter
  | .start tunnelConfiguration answers => some (a.start tunnelConfiguration answers).1
  | .stop => some a.stop.1
  | .update tunnelConfiguration answers => some (a.update tunnelConfiguration answers).1
  | .pathUpdate monitor status answers =>
    if monitor < a.monitors then some (a.didReceivePathUpdate status answers) else none

end Adapter

/-! ### Live handles -/

/-- What a call does with a handle: a negative one is none. -/
def BackendCall.event : BackendCall → Option (HandleEvent Int32)
  | .awgTurnOn _ _ handle => if handle < 0 then none else some (.acquire handle)
  | .awgTurnOff handle => some (.release handle)
  | .awgSetConfig handle _ => some (.use handle)
  | .awgDisableSomeRoamingForBrokenMobileSemantics handle => some (.use handle)
  | .awgBumpSockets handle => some (.use handle)

/-- The handle of a state. -/
def State.handles : State → List Int32
  | .started handle _ => [handle]
  | .stopped | .temporaryShutdown _ => []

/-- The state is `stopped`. -/
def State.isStopped : State → Bool
  | .stopped => true
  | .started _ _ | .temporaryShutdown _ => false

/-- What has been done with handles. -/
def Adapter.handleEvents (a : Adapter) : List (HandleEvent Int32) := a.calls.filterMap BackendCall.event

/-- The live handles are those of the state, no other has been used or turned off, and there is a monitor
unless the adapter is stopped. -/
structure Adapter.Owns (a : Adapter) : Prop where
  live : liveAfter [] a.handleEvents = a.state.handles
  wellUsed : WellUsed [] a.handleEvents
  networkMonitor : a.networkMonitor.isSome ↔ a.state.isStopped = false

namespace Adapter

variable {a : Adapter}

omit [Resolver] in
/-- The adapter owns a state with the calls that lead to it. -/
lemma Owns.mk' (h : a.Owns) {calls : List BackendCall} {state : State} {networkMonitor : Option ℕ}
    {monitors : ℕ} (hlive : liveAfter a.state.handles (calls.filterMap BackendCall.event) = state.handles)
    (hused : WellUsed a.state.handles (calls.filterMap BackendCall.event))
    (hmonitor : networkMonitor.isSome ↔ state.isStopped = false) :
    Owns { state, networkMonitor, monitors, calls := a.calls ++ calls } := by
  have hevents : (Adapter.handleEvents { state, networkMonitor, monitors, calls := a.calls ++ calls }) =
      a.handleEvents ++ calls.filterMap BackendCall.event := List.filterMap_append
  refine ⟨?_, ?_, hmonitor⟩
  · rw [hevents, liveAfter_append, h.live, hlive]
  · rw [hevents, wellUsed_append, h.live]
    exact ⟨h.wellUsed, hused⟩

omit [Resolver] in
/-- **What starting the backend does**: with no live handle before, the one that is returned is live. -/
lemma startWireGuardBackend_spec (answers : Answers) (wgConfig : Text) :
    WellUsed [] ((startWireGuardBackend answers wgConfig).1.filterMap BackendCall.event) ∧
      liveAfter [] ((startWireGuardBackend answers wgConfig).1.filterMap BackendCall.event) =
        ((startWireGuardBackend answers wgConfig).2.toOption).toList := by
  unfold startWireGuardBackend
  cases answers.tunnelFileDescriptor with
  | none => exact ⟨trivial, rfl⟩
  | some tunnelFileDescriptor =>
    dsimp only
    split_ifs with hneg
    · have hevents : [BackendCall.awgTurnOn wgConfig tunnelFileDescriptor answers.awgTurnOn].filterMap
          BackendCall.event = [] := by simp [BackendCall.event, hneg]
      rw [hevents]
      exact ⟨trivial, rfl⟩
    · have hevents : [BackendCall.awgTurnOn wgConfig tunnelFileDescriptor answers.awgTurnOn,
          .awgDisableSomeRoamingForBrokenMobileSemantics answers.awgTurnOn].filterMap BackendCall.event =
          [.acquire answers.awgTurnOn, .use answers.awgTurnOn] := by simp [BackendCall.event, hneg]
      rw [hevents]
      exact ⟨⟨by simp [HandleEvent.Allowed], by simp [HandleEvent.Allowed, HandleEvent.after], trivial⟩, rfl⟩

/-- The same for the adapter: a state with the handle, or an error in the same state. -/
lemma startBackend_cases (a : Adapter) (answers : Answers) (g : PacketTunnelSettingsGenerator) :
    ∃ calls, WellUsed [] (calls.filterMap BackendCall.event) ∧
      ((∃ handle, liveAfter [] (calls.filterMap BackendCall.event) = [handle] ∧
          a.startBackend answers g = ({ a with state := .started handle g, calls := a.calls ++ calls }, none)) ∨
        ∃ error, liveAfter [] (calls.filterMap BackendCall.event) = [] ∧
          a.startBackend answers g = ({ a with calls := a.calls ++ calls }, some error)) := by
  obtain ⟨hused, hlive⟩ := startWireGuardBackend_spec answers g.uapi
  unfold startBackend
  generalize startWireGuardBackend answers g.uapi = r at hused hlive
  obtain ⟨calls, result⟩ := r
  cases result with
  | ok handle => exact ⟨calls, hused, Or.inl ⟨handle, hlive, rfl⟩⟩
  | error error => exact ⟨calls, hused, Or.inr ⟨error, hlive, rfl⟩⟩

lemma Owns.start (h : a.Owns) (T : TunnelConfiguration InterfaceConfiguration) (answers : Answers) :
    (a.start T answers).1.Owns := by
  obtain ⟨state, networkMonitor, monitors, calls⟩ := a
  cases state with
  | started handle g => exact h
  | temporaryShutdown g => exact h
  | stopped =>
    -- a failed start leaves the adapter as it was, with one more monitor that is cancelled
    have hfailed : Owns { networkMonitor, monitors := monitors + 1, calls } :=
      ⟨h.live, h.wellUsed, h.networkMonitor⟩
    unfold Adapter.start
    dsimp only
    split
    · rename_i g _ _
      obtain ⟨calls', hused, ⟨handle, hcalls, heq⟩ | ⟨error, hcalls, heq⟩⟩ :=
        startBackend_cases { networkMonitor, monitors := monitors + 1, calls } answers g
      · rw [heq]
        exact hfailed.mk' hcalls hused (by simp [State.isStopped])
      · rw [heq]
        exact hfailed.mk' hcalls hused h.networkMonitor
    · exact hfailed
    · exact hfailed

omit [Resolver] in
lemma Owns.stop (h : a.Owns) : a.stop.1.Owns := by
  unfold Adapter.stop
  cases hstate : a.state with
  | stopped => exact h
  | temporaryShutdown g =>
    have hlive := h.live
    rw [hstate] at hlive
    exact ⟨hlive, h.wellUsed, by simp [State.isStopped]⟩
  | started handle g =>
    refine h.mk' ?_ ?_ (by simp [State.isStopped]) <;> rw [hstate]
    · simp [State.handles, BackendCall.event, HandleEvent.after]
    · simp [State.handles, BackendCall.event, WellUsed, HandleEvent.Allowed]

lemma Owns.update (h : a.Owns) (T : TunnelConfiguration InterfaceConfiguration) (answers : Answers) :
    (a.update T answers).1.Owns := by
  have hmonitor := h.networkMonitor
  have hlive := h.live
  unfold Adapter.update
  cases hstate : a.state with
  | stopped => exact h
  | temporaryShutdown g =>
    rw [hstate] at hmonitor hlive
    dsimp only
    split
    · exact ⟨hlive, h.wellUsed, hmonitor⟩
    · exact h
    · exact h
  | started handle g =>
    rw [hstate] at hmonitor
    dsimp only
    split
    · refine h.mk' ?_ ?_ hmonitor <;> rw [hstate]
      · simp [State.handles, BackendCall.event, HandleEvent.after]
      · simp [State.handles, BackendCall.event, WellUsed, HandleEvent.Allowed, HandleEvent.after]
    · exact h
    · exact h

lemma Owns.didReceivePathUpdate (h : a.Owns) (status : PathStatus) (answers : Answers) :
    (a.didReceivePathUpdate status answers).Owns := by
  have hmonitor := h.networkMonitor
  unfold Adapter.didReceivePathUpdate
  cases hstate : a.state with
  | stopped => exact h
  | started handle g =>
    rw [hstate] at hmonitor
    dsimp only
    split_ifs
    · refine h.mk' ?_ ?_ (hstate ▸ hmonitor) <;> rw [hstate]
      · simp [State.handles, BackendCall.event, HandleEvent.after]
      · simp [State.handles, BackendCall.event, WellUsed, HandleEvent.Allowed, HandleEvent.after]
    · refine h.mk' ?_ ?_ hmonitor <;> rw [hstate]
      · simp [State.handles, BackendCall.event, HandleEvent.after]
      · simp [State.handles, BackendCall.event, WellUsed, HandleEvent.Allowed]
  | temporaryShutdown g =>
    rw [hstate] at hmonitor
    dsimp only
    split_ifs
    · split
      · obtain ⟨calls, hused, ⟨handle, hcalls, heq⟩ | ⟨error, hcalls, heq⟩⟩ := startBackend_cases a answers g
        · rw [heq]
          exact h.mk' (by rw [hstate]; exact hcalls) (by rw [hstate]; exact hused) hmonitor
        · rw [heq]
          exact h.mk' (by rw [hstate]; exact hcalls) (by rw [hstate]; exact hused) h.networkMonitor
      · exact h
    · exact h

/-- **One event.** -/
lemma Owns.step {a' : Adapter} {event : Event} (h : a.Owns) (hstep : a.step event = some a') : a'.Owns := by
  cases event with
  | start T answers =>
    obtain rfl := Option.some.inj hstep
    exact h.start T answers
  | stop =>
    obtain rfl := Option.some.inj hstep
    exact h.stop
  | update T answers =>
    obtain rfl := Option.some.inj hstep
    exact h.update T answers
  | pathUpdate monitor status answers =>
    simp only [Adapter.step] at hstep
    split_ifs at hstep
    obtain rfl := Option.some.inj hstep
    exact h.didReceivePathUpdate status answers

end Adapter

/-- **The adapter owns exactly the backend that its state says**, after every run of events with any
answers. -/
theorem owns_of_run {events : List Adapter.Event} {a : Adapter} (hrun : run Adapter.step {} events = some a) :
    a.Owns := by
  have hinitial : Adapter.Owns {} := ⟨rfl, trivial, by simp [State.isStopped]⟩
  exact run_invariant_of_step (fun _ _ _ h hstep => h.step hstep) hinitial hrun

end Adapter

/-! ### A session in two halves -/

section Examples

open scoped FreeVPN.WgQuick.Dotted

/-- Everything works but for the backend, which answers the start with a handle or with an error. -/
def answering (handle : Int32) : Answers where
  resolveSync endpoints := endpoints.map fun endpoint => endpoint.map .ok
  setTunnelNetworkSettings := .done
  tunnelFileDescriptor := some 5
  awgTurnOn := handle

attribute [local instance] noNames

/-- A start that fails, a start with the handle 0, an update, a loss of the network after which the handle is
3, and a stop. -/
def sessionEvents (T : TunnelConfiguration InterfaceConfiguration) : List Adapter.Event :=
  [.start T (answering (-1)), .start T (answering 0), .update T (answering 0),
    .pathUpdate 1 .unsatisfied (answering 0), .pathUpdate 1 .satisfied (answering 3), .stop]

theorem owns_startStop :
    ∃ T, amneziaWGKit.parse (junkPacketProfile "4") = .ok T ∧
      ∃ a, run Adapter.step {} (sessionEvents T) = some a ∧ a.Owns ∧
        a.handleEvents = [.acquire 0, .use 0, .use 0, .use 0, .release 0, .acquire 3, .use 3, .release 3] := by
  have hevents : ((amneziaWGKit.parse (junkPacketProfile "4")).toOption.any fun T =>
      (run Adapter.step {} (sessionEvents T)).any fun a => a.handleEvents =
        [.acquire 0, .use 0, .use 0, .use 0, .release 0, .acquire 3, .use 3, .release 3]) = true := by
    decide +kernel
  obtain ⟨T, hT, hevents⟩ := Option.any_eq_true _ _ |>.1 hevents
  obtain ⟨a, hrun, hevents⟩ := Option.any_eq_true _ _ |>.1 hevents
  exact ⟨T, toOption_eq_some.1 hT, a, hrun, owns_of_run hrun, of_decide_eq_true hevents⟩

end Examples

end FreeVPN.AmneziaWG
