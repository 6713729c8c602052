import FreeVPN.Lib.KeptLog
import FreeVPN.Lib.Runs
import FreeVPN.Manager.VPNManager

/-!
# The tunnel's log and the app's

The extension appends to its `tunnelLog`, keeps the last 500 entries of it, and writes them to a key
that it shares with the app.  The app fetches them there, while it polls and on some status
notifications, and appends to its `connectionLog` what is behind the place it has read up to.

* `TunnelLog.step` — the appends, polls and notifications of a session, in any order;
* `TunnelLog.connectionLog_of_run` — the app shows the last 200 of the lines it has appended;
* `TunnelLog.delivered_of_run` — every entry is delivered once in the runs in which polling does not
  start again behind a fetch, and no fetch comes after more than 500 entries.
-/

namespace FreeVPN.Session

open FreeVPN.Lib FreeVPN.Manager

/-- A line of the `connectionLog`, timestamps apart. -/
inductive Line
  /-- A message of the app. -/
  | own (message : String)
  /-- An entry of the tunnel's log. -/
  | tunnel (entry : String)
  deriving DecidableEq

/-- The entry of the tunnel's log that a line shows. -/
def Line.entry? : Line → Option String
  | .own _ => none
  | .tunnel entry => some entry

/-- The logs of the extension and the app. -/
structure TunnelLog where
  /-- `tunnelLog` of the extension. -/
  tunnelLog : List String := []
  /-- What the shared key holds. -/
  shared : Option (List String) := none
  lastTunnelLogCount : ℕ := 0
  connectionLog : List Line := []
  connectionState : ConnectionState := .invalid
  /-- There is a `logPollingTask`. -/
  isPolling : Bool := false
  /-- The tasks that will fetch half a second after a `disconnected`. -/
  refetches : ℕ := 0
  /-- All that the app has appended since `configure`. -/
  appended : List Line := []
  /-- All that the extension has written since then. -/
  written : List String := []
  /-- What it had written at the last fetch. -/
  fetched : List String := []
  deriving DecidableEq

namespace TunnelLog

/-- The tunnel's entries that the app has appended. -/
def delivered (s : TunnelLog) : List String := s.appended.filterMap Line.entry?

/-! ### The extension -/

/-- The first line of `startTunnel`. -/
def startTunnel (s : TunnelLog) : TunnelLog := { s with tunnelLog := [] }

/-- `appendTunnelLog` -/
def appendTunnelLog (s : TunnelLog) (entry : String) : TunnelLog :=
  let tunnelLog := push 500 s.tunnelLog entry
  { s with tunnelLog, shared := some tunnelLog, written := s.written ++ [entry] }

/-! ### The app -/

/-- A line is appended, and the last 200 are kept. -/
def appendLine (s : TunnelLog) (line : Line) : TunnelLog :=
  { s with connectionLog := push 200 s.connectionLog line, appended := s.appended ++ [line] }

/-- `appendConnectionLog` -/
def appendConnectionLog (s : TunnelLog) (message : String) : TunnelLog := s.appendLine (.own message)

/-- `configure`, up to its first message. -/
def configure (s : TunnelLog) : TunnelLog :=
  { s with
    connectionLog := []
    lastTunnelLogCount := 0
    shared := none
    appended := []
    written := []
    fetched := [] }

/-- `startLogPolling` -/
def startLogPolling (s : TunnelLog) : TunnelLog := { s with lastTunnelLogCount := 0, isPolling := true }

/-- `stopLogPolling` -/
def stopLogPolling (s : TunnelLog) : TunnelLog := { s with isPolling := false }

/-- The entries behind the place that the app has read up to are appended. -/
def appendNewLogs (s : TunnelLog) (logs : List String) : TunnelLog :=
  if s.lastTunnelLogCount < logs.length then
    (logs.drop s.lastTunnelLogCount).foldl (fun s entry => s.appendLine (.tunnel entry)) s
  else s

/-- `fetchTunnelLogs` -/
def fetchTunnelLogs (s : TunnelLog) : TunnelLog :=
  match s.shared.filter fun logs => logs ≠ [] with
  | none => { s with fetched := s.written }
  | some logs => { s.appendNewLogs logs with lastTunnelLogCount := logs.length, fetched := s.written }

/-- The tasks of `updateConnectionState` that concern the log. -/
def onStatus (s : TunnelLog) : Status → TunnelLog
  | .invalid => s
  | .disconnected => { s.stopLogPolling.fetchTunnelLogs with refetches := s.refetches + 1 }
  | .connecting | .reasserting | .disconnecting => s.startLogPolling
  | .connected => s.fetchTunnelLogs.stopLogPolling

/-- What a change of the state is logged with. -/
def stateMessages (previousState : ConnectionState) (status : Status) (connectedDate : Option String) :
    List String :=
  if status.connectionState ≠ previousState then
    ("State: " ++ previousState.rawValue ++ " → " ++ status.connectionState.rawValue) ::
      if status = .connected then connectedDate.toList.map fun date => "Connected at " ++ date else []
  else []

/-- `updateConnectionState`, for the status of the connection and the time since when it is there;
there is no status without a manager. -/
def updateConnectionState (s : TunnelLog) (connection : Option (Status × Option String)) : TunnelLog :=
  match connection with
  | none => { s with connectionState := .invalid }
  | some (status, connectedDate) =>
    (stateMessages s.connectionState status connectedDate).foldl appendConnectionLog
      { s.onStatus status with connectionState := status.connectionState }

/-! ### A session -/

/-- What can happen. -/
inductive Action
  | startTunnel
  | appendTunnelLog (entry : String)
  /-- An iteration of the polling task. -/
  | poll
  | refetch
  | notification (connection : Option (Status × Option String))
  /-- Some other message of the app. -/
  | message (message : String)
  deriving DecidableEq

/-- One step. -/
def step (s : TunnelLog) : Action → Option TunnelLog
  | .startTunnel => some s.startTunnel
  | .appendTunnelLog entry => some (s.appendTunnelLog entry)
  | .poll => if s.isPolling then some s.fetchTunnelLogs else none
  | .refetch =>
    if 0 < s.refetches then some { s.fetchTunnelLogs with refetches := s.refetches - 1 } else none
  | .notification connection => some (s.updateConnectionState connection)
  | .message message => some (s.appendConnectionLog message)

/-- A fetch would find all that is new: the extension has not written more than it keeps, or nothing
since the last fetch. -/
def isComplete (s : TunnelLog) : Bool := s.written.length ≤ 500 || s.written = s.fetched

/-- The steps after which everything has been delivered once: the extension empties its log before it
writes to it and not later, polling starts before anything has been fetched, and every fetch is
complete. -/
def careful (s : TunnelLog) : Action → Bool
  | .startTunnel => s.written = []
  | .appendTunnelLog _ => s.written ≠ [] || s.tunnelLog = []
  | .poll | .refetch => s.isComplete
  | .notification none => true
  | .notification (some (status, _)) => match status with
    | .invalid => true
    | .connecting | .reasserting | .disconnecting => s.lastTunnelLogCount = 0
    | .connected | .disconnected => s.isComplete
  | .message _ => true

/-! ### The lines of the app -/

/-- Some lines are appended. -/
def appendLines (s : TunnelLog) (lines : List Line) : TunnelLog :=
  { s with
    connectionLog := lines.foldl (push 200) s.connectionLog
    appended := s.appended ++ lines }

lemma foldl_appendLine {α : Type} (f : α → Line) (s : TunnelLog) (xs : List α) :
    xs.foldl (fun s x => s.appendLine (f x)) s = s.appendLines (xs.map f) := by
  induction xs generalizing s with
  | nil => simp [appendLines]
  | cons x xs ih => rw [List.foldl_cons, ih]; simp [appendLines, appendLine]

lemma appendNewLogs_eq (s : TunnelLog) (logs : List String) :
    s.appendNewLogs logs = s.appendLines ((logs.drop s.lastTunnelLogCount).map .tunnel) := by
  unfold appendNewLogs
  split_ifs with h
  · exact foldl_appendLine .tunnel s _
  · rw [List.drop_eq_nil_of_le (not_lt.1 h)]
    simp [appendLines]

/-- The logs that a fetch finds. -/
def found (s : TunnelLog) : Option (List String) := s.shared.filter fun logs => logs ≠ []

lemma fetchTunnelLogs_of_none {s : TunnelLog} (h : s.found = none) :
    s.fetchTunnelLogs = { s with fetched := s.written } := by
  unfold found at h
  rw [fetchTunnelLogs, h]

lemma fetchTunnelLogs_of_some {s : TunnelLog} {logs : List String} (h : s.found = some logs) :
    s.fetchTunnelLogs = { s.appendLines ((logs.drop s.lastTunnelLogCount).map .tunnel) with
      lastTunnelLogCount := logs.length, fetched := s.written } := by
  unfold found at h
  rw [fetchTunnelLogs, h, ← appendNewLogs_eq]

/-- The app shows the last 200 lines. -/
def IsTrimmed (s : TunnelLog) : Prop := s.connectionLog = s.appended.rtake 200

lemma IsTrimmed.appendLines {s : TunnelLog} (h : s.IsTrimmed) (lines : List Line) :
    (s.appendLines lines).IsTrimmed := by
  change lines.foldl (push 200) s.connectionLog = (s.appended ++ lines).rtake 200
  rw [show s.connectionLog = _ from h, foldl_push_rtake]

lemma IsTrimmed.fetchTunnelLogs {s : TunnelLog} (h : s.IsTrimmed) : s.fetchTunnelLogs.IsTrimmed := by
  cases hfound : s.found with
  | none => exact fetchTunnelLogs_of_none hfound ▸ h
  | some logs =>
    rw [fetchTunnelLogs_of_some hfound]
    exact h.appendLines _

lemma IsTrimmed.onStatus {s : TunnelLog} (h : s.IsTrimmed) (status : Status) :
    (s.onStatus status).IsTrimmed := by
  have hstop : s.stopLogPolling.IsTrimmed := h
  cases status with
  | invalid | connecting | reasserting | disconnecting => exact h
  | disconnected => exact hstop.fetchTunnelLogs
  | connected => exact h.fetchTunnelLogs

/-- The messages that `updateConnectionState` appends come behind what the status does. -/
lemma updateConnectionState_eq (s : TunnelLog) (status : Status) (connectedDate : Option String) :
    s.updateConnectionState (some (status, connectedDate)) =
      ({ s.onStatus status with connectionState := status.connectionState } : TunnelLog).appendLines
        ((stateMessages s.connectionState status connectedDate).map .own) :=
  foldl_appendLine .own _ _

lemma IsTrimmed.step {s s' : TunnelLog} {a : Action} (h : s.IsTrimmed) (hs : s.step a = some s') :
    s'.IsTrimmed := by
  cases a with
  | startTunnel => exact Option.some.inj hs ▸ h
  | appendTunnelLog entry => exact Option.some.inj hs ▸ h
  | poll =>
    obtain ⟨-, hs⟩ := (Option.ite_none_right_eq_some ..).1 hs
    obtain rfl := Option.some.inj hs
    exact h.fetchTunnelLogs
  | refetch =>
    obtain ⟨-, hs⟩ := (Option.ite_none_right_eq_some ..).1 hs
    obtain rfl := Option.some.inj hs
    exact h.fetchTunnelLogs
  | message message => exact Option.some.inj hs ▸ h.appendLines [.own message]
  | notification connection =>
    obtain rfl := Option.some.inj hs
    rcases connection with - | ⟨status, connectedDate⟩
    · exact h
    · rw [updateConnectionState_eq]
      exact IsTrimmed.appendLines (h.onStatus status) _

/-- **What the app shows** in a session is the last 200 of the lines it has appended. -/
theorem connectionLog_of_run {a b : TunnelLog} {actions : List Action}
    (hrun : run step a.configure actions = some b) : b.connectionLog = b.appended.rtake 200 := by
  have hconfigure : a.configure.IsTrimmed := (List.rtake_nil 200).symm
  exact run_invariant_of_step (fun _ _ _ h hs => IsTrimmed.step h hs) hconfigure hrun

/-! ### The invariant -/

/-- Everything up to the last fetch has been delivered once, and the app has read up to there. -/
structure Inv (s : TunnelLog) : Prop where
  tunnelLog : s.written ≠ [] → s.tunnelLog = s.written.rtake 500
  shared : s.shared = if s.written = [] then none else some (s.written.rtake 500)
  fetched : s.fetched <+: s.written
  count : s.lastTunnelLogCount = min 500 s.fetched.length
  delivered : s.appended.filterMap Line.entry? = s.fetched

lemma Inv.configure (s : TunnelLog) : Inv s.configure :=
  ⟨fun h => absurd rfl h, rfl, List.nil_prefix, rfl, rfl⟩

lemma Inv.appendOwn {s : TunnelLog} (h : Inv s) (messages : List String) :
    Inv (s.appendLines (messages.map .own)) := by
  refine ⟨h.tunnelLog, h.shared, h.fetched, h.count, ?_⟩
  have hnone : (messages.map Line.own).filterMap Line.entry? = [] := by
    simp [List.filterMap_map, Function.comp_def, Line.entry?]
  change (s.appended ++ messages.map Line.own).filterMap Line.entry? = s.fetched
  rw [List.filterMap_append, hnone, List.append_nil, h.delivered]

/-- The extension writes an entry, to its log or to the empty one. -/
lemma Inv.appendTunnelLog {s : TunnelLog} (h : Inv s) {entry : String}
    (hc : s.written ≠ [] ∨ s.tunnelLog = []) : Inv (s.appendTunnelLog entry) := by
  have hlog : s.tunnelLog = s.written.rtake 500 := by
    by_cases hw : s.written = []
    · rw [hc.resolve_left (not_not.2 hw), hw, List.rtake_nil]
    · exact h.tunnelLog hw
  have hpush : push 500 s.tunnelLog entry = (s.written ++ [entry]).rtake 500 := by rw [hlog, push_rtake]
  refine ⟨fun _ => hpush, ?_, h.fetched.trans (List.prefix_append ..), h.count, h.delivered⟩
  change some (push 500 s.tunnelLog entry) =
    if s.written ++ [entry] = [] then none else some ((s.written ++ [entry]).rtake 500)
  rw [if_neg (by simp), hpush]

/-- **A fetch** that is complete delivers what is new. -/
lemma Inv.fetchTunnelLogs {s : TunnelLog} (h : Inv s) (hc : s.isComplete = true) :
    Inv s.fetchTunnelLogs := by
  by_cases hw : s.written = []
  · have hfetched : s.fetched = s.written := by
      rw [hw, ← List.prefix_nil, ← hw]
      exact h.fetched
    rw [fetchTunnelLogs_of_none (by simp [found, h.shared, hw])]
    exact ⟨h.tunnelLog, h.shared, List.prefix_rfl, hfetched ▸ h.count, h.delivered.trans hfetched⟩
  have hfound : s.found = some (s.written.rtake 500) := by
    have hne : s.written.rtake 500 ≠ [] := by
      rw [← List.length_pos_iff, length_rtake]
      exact lt_min (by omega) (List.length_pos_iff.2 hw)
    rw [found, h.shared, if_neg hw, Option.filter_some, if_pos (by simpa using hne)]
  have hentries : ∀ entries : List String,
      (s.appended ++ entries.map Line.tunnel).filterMap Line.entry? = s.fetched ++ entries := by
    intro entries
    rw [List.filterMap_append, h.delivered]
    simp [List.filterMap_map, Function.comp_def, Line.entry?]
  have hnew : s.fetched ++ (s.written.rtake 500).drop (min 500 s.fetched.length) = s.written := by
    simp only [isComplete, Bool.or_eq_true, decide_eq_true_eq] at hc
    rcases hc with hle | hsame
    · exact append_unread h.fetched hle
    · rw [← hsame, unread_eq_nil, List.append_nil]
  rw [fetchTunnelLogs_of_some hfound, h.count]
  exact ⟨h.tunnelLog, h.shared, List.prefix_rfl, by simp only [length_rtake],
    (hentries _).trans hnew⟩

lemma Inv.onStatus {s : TunnelLog} (h : Inv s) {status : Status} {connectedDate : Option String}
    (hc : s.careful (.notification (some (status, connectedDate))) = true) : Inv (s.onStatus status) := by
  have hstart : s.lastTunnelLogCount = 0 → Inv s.startLogPolling := fun h0 =>
    ⟨h.tunnelLog, h.shared, h.fetched, h0.symm.trans h.count, h.delivered⟩
  have hstop : Inv s.stopLogPolling := ⟨h.tunnelLog, h.shared, h.fetched, h.count, h.delivered⟩
  cases status with
  | invalid => exact h
  | connecting => exact hstart (of_decide_eq_true hc)
  | reasserting => exact hstart (of_decide_eq_true hc)
  | disconnecting => exact hstart (of_decide_eq_true hc)
  | disconnected =>
    have := hstop.fetchTunnelLogs hc
    exact ⟨this.tunnelLog, this.shared, this.fetched, this.count, this.delivered⟩
  | connected =>
    have := h.fetchTunnelLogs hc
    exact ⟨this.tunnelLog, this.shared, this.fetched, this.count, this.delivered⟩

/-- **One step.** -/
lemma Inv.step {s s' : TunnelLog} {a : Action} (h : Inv s) (hc : s.careful a = true)
    (hs : s.step a = some s') : Inv s' := by
  cases a with
  | startTunnel =>
    have hw : s.written = [] := of_decide_eq_true hc
    exact Option.some.inj hs ▸ ⟨fun h => absurd hw h, h.shared, h.fetched, h.count, h.delivered⟩
  | appendTunnelLog entry =>
    refine Option.some.inj hs ▸ h.appendTunnelLog ?_
    simpa [careful] using hc
  | poll =>
    obtain ⟨-, hs⟩ := (Option.ite_none_right_eq_some ..).1 hs
    obtain rfl := Option.some.inj hs
    exact h.fetchTunnelLogs hc
  | refetch =>
    obtain ⟨-, hs⟩ := (Option.ite_none_right_eq_some ..).1 hs
    obtain rfl := Option.some.inj hs
    have := h.fetchTunnelLogs hc
    exact ⟨this.tunnelLog, this.shared, this.fetched, this.count, this.delivered⟩
  | message message => exact Option.some.inj hs ▸ h.appendOwn [message]
  | notification connection =>
    obtain rfl := Option.some.inj hs
    rcases connection with - | ⟨status, connectedDate⟩
    · exact ⟨h.tunnelLog, h.shared, h.fetched, h.count, h.delivered⟩
    · have := h.onStatus hc
      rw [updateConnectionState_eq]
      refine Inv.appendOwn ?_ _
      exact ⟨this.tunnelLog, this.shared, this.fetched, this.count, this.delivered⟩

/-- **What has been written up to the last fetch is delivered once**, in order, in every session of
careful steps. -/
theorem delivered_of_run {a b : TunnelLog} {actions : List Action}
    (hcareful : Along step (fun s a => s.careful a = true) a.configure actions)
    (hrun : run step a.configure actions = some b) : b.delivered = b.fetched :=
  (run_invariant (fun _ _ _ h hc hs => h.step hc hs) (Inv.configure a) hcareful hrun).delivered

/-! ### A session that ends -/

/-- No more than 500 entries have been written since the last fetch. -/
def keepsUp (s : TunnelLog) : Bool := s.written.length ≤ s.fetched.length + 500

/-- A session in which the tunnel comes up. -/
def comesUp : List Action :=
  [.notification (some (.connecting, none)), .poll, .startTunnel, .appendTunnelLog "Tunnel extension starting",
    .poll, .appendTunnelLog "Protocol: wireguard", .notification (some (.connected, some "10:00:00"))]

/-- When the tunnel goes down, polling starts again, and from the first entry. -/
theorem not_delivered_disconnecting :
    ¬∀ (a b : TunnelLog) (actions : List Action),
      Along step (fun s _ => s.keepsUp = true) a.configure actions →
      run step a.configure actions = some b → b.delivered = b.fetched := by
  intro h
  have hrun : (run step (configure {}) (comesUp ++ [.notification (some (.disconnecting, none)), .poll])).any
      (fun b => b.delivered ≠ b.fetched) = true := by decide +kernel
  obtain ⟨b, hb, hdelivered⟩ := Option.any_eq_true _ _ |>.1 hrun
  exact of_decide_eq_true hdelivered (h {} b _ (by decide +kernel) hb)

theorem delivered_comesUp :
    ∃ b, run step (configure {}) comesUp = some b ∧ b.delivered = b.fetched := by
  have hrun : (run step (configure {}) comesUp).isSome = true := by decide +kernel
  obtain ⟨b, hb⟩ := Option.isSome_iff_exists.1 hrun
  exact ⟨b, hb, delivered_of_run (by decide +kernel) hb⟩

end TunnelLog

end FreeVPN.Session
