import FreeVPN.Lib.Runs
import FreeVPN.Foundation.Text
import FreeVPN.Manager.VPNManager

/-!
# Traffic totals

`VPNManager` counts the bytes of a session by polling the counters of the tunnel interfaces.  Every start of
the polling keeps the total so far and takes a new baseline.  A task that is cancelled does not poll again, so
that there is one task at a time.

* `readTunnelInterfaceStats`, `TrafficStats` — the readings and the totals;
* `Observed` — the totals, and beside them what the readings have been;
* `total_iff` — when the total of a session is what went through the interfaces;
* `neverBackwards_iff` — when a total does not fall.
-/

namespace FreeVPN.Session

open FreeVPN.Lib FreeVPN.Foundation FreeVPN.Manager

/-! ### Readings -/

/-- `ifaddrs` -/
structure IfAddrs where
  name : Text
  /-- `sa_family`, unless `ifa_addr` is null. -/
  family : Option UInt8
  /-- `ifi_ibytes` and `ifi_obytes`. -/
  data : Option (UInt32 × UInt32)

/-- The bytes in and out. -/
abbrev Reading := ℕ × ℕ

/-- `+` of `UInt64`, which traps when it overflows. -/
def addUInt64 (a b : ℕ) : Option ℕ := if a + b < 2 ^ 64 then some (a + b) else none

/-- The body of the loop over the addresses; 18 is `AF_LINK`. -/
def addInterface (total : Reading) (addr : IfAddrs) : Option Reading :=
  if hasPrefix addr.name "utun".toList then
    addr.family.bind fun family =>
      match if family = 18 then addr.data else none with
      | none => some total
      | some (ibytes, obytes) => do
        let totalIn ← addUInt64 total.1 ibytes.toNat
        let totalOut ← addUInt64 total.2 obytes.toNat
        return (totalIn, totalOut)
  else some total

/-- `readTunnelInterfaceStats`, for what `getifaddrs` gives. -/
def readTunnelInterfaceStats : Option (List IfAddrs) → Option Reading
  | none => some (0, 0)
  | some addrs => addrs.foldlM addInterface (0, 0)

/-! ### Totals -/

/-- `bytesIn`, `accumulatedIn` and `baselineIn`, or those for the bytes out. -/
structure Counter where
  bytes : ℕ := 0
  accumulated : ℕ := 0
  baseline : ℕ := 0
  deriving DecidableEq

namespace Counter

/-- What `startStatsPolling` does with a counter. -/
def start (c : Counter) (reading : ℕ) : Counter := { c with accumulated := c.bytes, baseline := reading }

/-- `deltaIn`, `deltaOut` -/
def delta (c : Counter) (reading : ℕ) : ℕ := if c.baseline ≤ reading then reading - c.baseline else reading

/-- What a turn of the task does with a counter. -/
def poll (c : Counter) (reading : ℕ) : Option Counter :=
  (addUInt64 c.accumulated (c.delta reading)).map fun bytes => { c with bytes }

/-- What `updateConnectionState` does with a counter when the tunnel is disconnected. -/
def reset (c : Counter) : Counter := { c with bytes := 0, accumulated := 0 }

end Counter

/-- The variables of `VPNManager` for the traffic. -/
structure TrafficStats where
  incoming : Counter := {}
  outgoing : Counter := {}
  /-- There is a `statsTask`, which is not cancelled. -/
  statsTask : Bool := false
  deriving DecidableEq

namespace TrafficStats

/-- `stopStatsPolling` -/
def stopStatsPolling (s : TrafficStats) : TrafficStats := { s with statsTask := false }

/-- `startStatsPolling` -/
def startStatsPolling (s : TrafficStats) (ifaddrs : Option (List IfAddrs)) : Option TrafficStats := do
  let baseline ← readTunnelInterfaceStats ifaddrs
  return { incoming := s.incoming.start baseline.1, outgoing := s.outgoing.start baseline.2, statsTask := true }

/-- A turn of the loop of the task. -/
def poll (s : TrafficStats) (ifaddrs : Option (List IfAddrs)) : Option TrafficStats := do
  let stats ← readTunnelInterfaceStats ifaddrs
  let incoming ← s.incoming.poll stats.1
  let outgoing ← s.outgoing.poll stats.2
  return { s with incoming, outgoing }

/-- `updateConnectionState`, as far as the traffic goes. -/
def updateConnectionState (s : TrafficStats) (status : Option Status) (ifaddrs : Option (List IfAddrs)) :
    Option TrafficStats :=
  match status with
  | some .disconnected =>
    some (stopStatsPolling { s with incoming := s.incoming.reset, outgoing := s.outgoing.reset })
  | some .connected => s.startStatsPolling ifaddrs
  | some .reasserting => some s.stopStatsPolling
  | _ => some s

end TrafficStats

/-- What happens on the main actor: `updateConnectionState` for a status, or for no manager, and a turn of the
task; with what `getifaddrs` gives then. -/
inductive Event
  | notification (status : Option Status) (ifaddrs : Option (List IfAddrs))
  | poll (ifaddrs : Option (List IfAddrs))

/-- One event; none when the app traps, or when there is no task. -/
def TrafficStats.step (s : TrafficStats) : Event → Option TrafficStats
  | .notification status ifaddrs => s.updateConnectionState status ifaddrs
  | .poll ifaddrs => if s.statsTask then s.poll ifaddrs else none

/-! ### What the readings have been -/

/-- The reading that is taken with an event. -/
def Event.reading : Event → Option Reading
  | .notification (some .connected) ifaddrs | .poll ifaddrs => readTunnelInterfaceStats ifaddrs
  | _ => none

/-- The end of a session. -/
def Event.isDisconnected : Event → Bool
  | .notification (some .disconnected) _ => true
  | _ => false

/-- The totals, and what an observer writes down. -/
structure Observed where
  stats : TrafficStats := {}
  /-- The reading with which the session began, if one is on. -/
  first : Option Reading := none
  /-- The last reading. -/
  latest : Reading := (0, 0)
  /-- The reading of the last poll since the last start. -/
  polled : Option Reading := none
  deriving DecidableEq

/-- What is written down. -/
def Observed.note (o : Observed) (stats : TrafficStats) (reading : Reading) : Event → Observed
  | .notification (some .disconnected) _ => { stats, first := none, latest := o.latest, polled := none }
  | .notification (some .connected) _ => { stats, first := o.first.or (some reading), latest := reading, polled := none }
  | .poll _ => { stats, first := o.first, latest := reading, polled := some reading }
  | _ => { o with stats }

/-- One event. -/
def Observed.step (o : Observed) (e : Event) : Option Observed :=
  (o.stats.step e).map fun stats => o.note stats (e.reading.getD (0, 0)) e

/-- **What an event does.** -/
lemma step_cases {o o' : Observed} {e : Event} (h : o.step e = some o') :
    (∃ ifaddrs r, e = .notification (some .connected) ifaddrs ∧ readTunnelInterfaceStats ifaddrs = some r ∧
      o' = ⟨⟨o.stats.incoming.start r.1, o.stats.outgoing.start r.2, true⟩, o.first.or (some r), r, none⟩) ∨
    (∃ ifaddrs, e = .notification (some .disconnected) ifaddrs ∧
      o' = ⟨⟨o.stats.incoming.reset, o.stats.outgoing.reset, false⟩, none, o.latest, none⟩) ∨
    (∃ ifaddrs r incoming outgoing, e = .poll ifaddrs ∧ readTunnelInterfaceStats ifaddrs = some r ∧
      o.stats.statsTask = true ∧ o.stats.incoming.poll r.1 = some incoming ∧
      o.stats.outgoing.poll r.2 = some outgoing ∧
      o' = ⟨⟨incoming, outgoing, true⟩, o.first, r, some r⟩) ∨
    (∃ status ifaddrs statsTask, e = .notification status ifaddrs ∧ status ≠ some .connected ∧
      status ≠ some .disconnected ∧ (statsTask = true → o.stats.statsTask = true) ∧
        o' = { o with stats := { o.stats with statsTask } }) := by
  obtain ⟨stats, hstats, rfl⟩ := Option.map_eq_some_iff.1 h
  cases e with
  | poll ifaddrs =>
    simp only [TrafficStats.step, TrafficStats.poll] at hstats
    split_ifs at hstats with htask
    simp only [Option.bind_eq_bind, Option.bind_eq_some_iff] at hstats
    obtain ⟨r, hr, incoming, hin, outgoing, hout, hstats⟩ := hstats
    obtain rfl := Option.some.inj hstats
    refine Or.inr (Or.inr (Or.inl ⟨ifaddrs, r, incoming, outgoing, rfl, hr, htask, hin, hout, ?_⟩))
    simp only [Observed.note, Event.reading, hr, Option.getD_some, htask]
  | notification status ifaddrs =>
    rcases status with - | status
    · obtain rfl := Option.some.inj hstats
      exact Or.inr (Or.inr (Or.inr ⟨none, ifaddrs, _, rfl, by simp, by simp, id, rfl⟩))
    · cases status with
      | connected =>
        simp only [TrafficStats.step, TrafficStats.updateConnectionState, TrafficStats.startStatsPolling,
          Option.bind_eq_bind, Option.bind_eq_some_iff] at hstats
        obtain ⟨r, hr, hstats⟩ := hstats
        obtain rfl := Option.some.inj hstats
        refine Or.inl ⟨ifaddrs, r, rfl, hr, ?_⟩
        simp only [Observed.note, Event.reading, hr, Option.getD_some]
      | disconnected =>
        obtain rfl := Option.some.inj hstats
        exact Or.inr (Or.inl ⟨ifaddrs, rfl, rfl⟩)
      | reasserting =>
        obtain rfl := Option.some.inj hstats
        exact Or.inr (Or.inr (Or.inr ⟨_, ifaddrs, false, rfl, by simp, by simp, by simp, rfl⟩))
      | invalid | connecting | disconnecting =>
        obtain rfl := Option.some.inj hstats
        exact Or.inr (Or.inr (Or.inr ⟨_, ifaddrs, _, rfl, by simp, by simp, id, rfl⟩))

/-! ### The total of a session -/

section Total

/-- The readings of a session do not fall. -/
def NonDecreasing (o : Observed) (e : Event) : Prop :=
  ∀ r ∈ e.reading, o.first.isSome → o.latest.1 ≤ r.1 ∧ o.latest.2 ≤ r.2

/-- The polling is restarted with the reading that has been taken last: nothing has gone through since then. -/
def Gapless (o : Observed) : Event → Prop
  | .notification (some .connected) ifaddrs =>
    ∀ r ∈ readTunnelInterfaceStats ifaddrs, o.first.isSome → r = o.latest
  | _ => True

/-- A counter in a session: nothing has been counted that has not gone through. -/
structure Counter.Accounted (c : Counter) (first latest : ℕ) : Prop where
  baseline : c.baseline ≤ latest
  bytes : c.bytes = c.accumulated + (latest - c.baseline)
  le : first + c.bytes ≤ latest

lemma Counter.accounted_start {c : Counter} (hc : c.bytes = 0) (r : ℕ) : (c.start r).Accounted r r :=
  ⟨le_rfl, by simp [Counter.start], by simp [Counter.start, hc]⟩

lemma Counter.Accounted.restart {c : Counter} {first latest r : ℕ} (h : c.Accounted first latest) (hr : latest ≤ r) :
    (c.start r).Accounted first r :=
  ⟨le_rfl, by simp [Counter.start], h.le.trans hr⟩

lemma Counter.poll_eq_some {c c' : Counter} {r : ℕ} (h : c.poll r = some c') :
    c' = { c with bytes := c.accumulated + c.delta r } := by
  obtain ⟨bytes, hbytes, rfl⟩ := Option.map_eq_some_iff.1 h
  unfold addUInt64 at hbytes
  split_ifs at hbytes
  rw [Option.some.inj hbytes]

lemma Counter.Accounted.poll {c c' : Counter} {first latest r : ℕ} (h : c.Accounted first latest) (hr : latest ≤ r)
    (hpoll : c.poll r = some c') : c'.Accounted first r ∧ c'.bytes + latest = c.bytes + r := by
  obtain ⟨hbaseline, hbytes, hle⟩ := h
  have hdelta : c.delta r = r - c.baseline := if_pos (hbaseline.trans hr)
  rw [Counter.poll_eq_some hpoll, hdelta]
  refine ⟨⟨hbaseline.trans hr, rfl, ?_⟩, ?_⟩ <;> dsimp only <;> omega

/-- Between sessions nothing is counted; in a session nothing that has not gone through. -/
def Observed.Accounted (o : Observed) : Prop :=
  match o.first with
  | none => o.stats.incoming.bytes = 0 ∧ o.stats.outgoing.bytes = 0 ∧ o.stats.statsTask = false
  | some first => o.stats.incoming.Accounted first.1 o.latest.1 ∧ o.stats.outgoing.Accounted first.2 o.latest.2

/-- All that has gone through in the session is counted. -/
def Observed.Complete (o : Observed) : Prop :=
  ∀ first ∈ o.first, first.1 + o.stats.incoming.bytes = o.latest.1 ∧ first.2 + o.stats.outgoing.bytes = o.latest.2

/-- **One event of a session.** -/
lemma accounted_step {o o' : Observed} {e : Event} (ho : o.Accounted) (he : e.isDisconnected = false)
    (hreading : NonDecreasing o e) (hstep : o.step e = some o') :
    o'.Accounted ∧ (o'.Complete ↔ o.Complete ∧ Gapless o e) := by
  obtain ⟨stats, first, latest, polled⟩ := o
  rcases step_cases hstep with ⟨ifaddrs, r, rfl, hr, rfl⟩ | ⟨ifaddrs, rfl, rfl⟩ |
    ⟨ifaddrs, r, incoming, outgoing, rfl, hr, htask, hin, hout, rfl⟩ |
    ⟨status, ifaddrs, statsTask, rfl, hconnected, -, htask, rfl⟩
  · cases first with
    | none =>
      -- the session begins
      obtain ⟨hin, hout, -⟩ := ho
      refine ⟨⟨Counter.accounted_start hin r.1, Counter.accounted_start hout r.2⟩, ?_⟩
      simpa [Observed.Complete, Gapless, Counter.start] using And.intro hin hout
    | some first =>
      obtain ⟨hin, hout⟩ := ho
      obtain ⟨hle₁, hle₂⟩ := hreading r hr rfl
      refine ⟨⟨hin.restart hle₁, hout.restart hle₂⟩, ?_⟩
      have hin' := hin.le
      have hout' := hout.le
      dsimp only at hle₁ hle₂ hin' hout'
      simp only [Observed.Complete, Gapless, Option.mem_def, hr, Option.some.injEq, forall_eq', Counter.start,
        Option.some_or, Option.isSome_some, forall_const]
      rw [Prod.ext_iff]
      omega
  · cases he
  · cases first with
    | none => cases ho.2.2.symm.trans htask
    | some first =>
      obtain ⟨hle₁, hle₂⟩ := hreading r hr rfl
      obtain ⟨hin', hin''⟩ := ho.1.poll hle₁ hin
      obtain ⟨hout', hout''⟩ := ho.2.poll hle₂ hout
      refine ⟨⟨hin', hout'⟩, ?_⟩
      dsimp only at hin'' hout''
      simp only [Observed.Complete, Gapless, Option.mem_def, Option.some.injEq, forall_eq', and_true]
      omega
  · refine ⟨?_, ?_⟩
    · cases first with
      | none =>
        refine ⟨ho.1, ho.2.1, ?_⟩
        by_contra hrunning
        rw [ho.2.2] at htask
        cases htask (by simpa using hrunning)
      | some first => exact ho
    · have hgapless : Gapless ⟨stats, first, latest, polled⟩ (.notification status ifaddrs) := by
        rcases status with - | status
        · trivial
        · cases status with
          | connected => exact absurd rfl hconnected
          | _ => trivial
      exact (and_iff_left hgapless).symm

/-- A reading is a pair of `UInt64`s. -/
lemma reading_lt {ifaddrs : Option (List IfAddrs)} {r : Reading} (h : readTunnelInterfaceStats ifaddrs = some r) :
    r.1 < 2 ^ 64 ∧ r.2 < 2 ^ 64 := by
  have hadd : ∀ a b c, addUInt64 a b = some c → c < 2 ^ 64 := by
    intro a b c hc
    unfold addUInt64 at hc
    split_ifs at hc with hlt
    rwa [← Option.some.inj hc]
  have hfold : ∀ (addrs : List IfAddrs) (total r : Reading), (total.1 < 2 ^ 64 ∧ total.2 < 2 ^ 64) →
      addrs.foldlM addInterface total = some r → r.1 < 2 ^ 64 ∧ r.2 < 2 ^ 64 := by
    intro addrs
    induction addrs with
    | nil =>
      intro total r htotal hr
      exact Option.some.inj hr ▸ htotal
    | cons addr addrs ih =>
      intro total r htotal hr
      rw [List.foldlM_cons, Option.bind_eq_bind, Option.bind_eq_some_iff] at hr
      obtain ⟨total', htotal', hrest⟩ := hr
      refine ih total' r ?_ hrest
      unfold addInterface at htotal'
      split_ifs at htotal'
      · obtain ⟨family, -, hdata⟩ := Option.bind_eq_some_iff.1 htotal'
        split at hdata
        · exact Option.some.inj hdata ▸ htotal
        · simp only [Option.bind_eq_bind, Option.bind_eq_some_iff] at hdata
          obtain ⟨totalIn, hin, totalOut, hout, hdata⟩ := hdata
          obtain rfl := Option.some.inj hdata
          exact ⟨hadd _ _ _ hin, hadd _ _ _ hout⟩
      · exact Option.some.inj htotal' ▸ htotal
  cases ifaddrs with
  | none =>
    obtain rfl := Option.some.inj h
    decide
  | some addrs => exact hfold addrs (0, 0) r (by decide) h

/-- No poll of a session traps: the totals stay below the readings. -/
lemma exists_poll {o : Observed} (ho : o.Accounted) (htask : o.stats.statsTask = true) {r : Reading}
    {ifaddrs : Option (List IfAddrs)} (hr : readTunnelInterfaceStats ifaddrs = some r)
    (hreading : NonDecreasing o (.poll ifaddrs)) : ∃ o', o.step (.poll ifaddrs) = some o' := by
  have hpoll : ∀ {c : Counter} {first latest r : ℕ}, c.Accounted first latest → latest ≤ r → r < 2 ^ 64 →
      ∃ c', c.poll r = some c' := by
    intro c first latest r hc hle hlt
    have hdelta : c.delta r = r - c.baseline := if_pos (hc.baseline.trans hle)
    have hsum : c.accumulated + (r - c.baseline) < 2 ^ 64 := by
      have h₁ := hc.bytes
      have h₂ := hc.le
      have h₃ := hc.baseline
      omega
    exact ⟨_, by rw [Counter.poll, hdelta, addUInt64, if_pos hsum]; rfl⟩
  obtain ⟨stats, first, latest, polled⟩ := o
  cases first with
  | none => cases ho.2.2.symm.trans htask
  | some first =>
    obtain ⟨hlt₁, hlt₂⟩ := reading_lt hr
    obtain ⟨hle₁, hle₂⟩ := hreading r hr rfl
    obtain ⟨incoming, hin⟩ := hpoll ho.1 hle₁ hlt₁
    obtain ⟨outgoing, hout⟩ := hpoll ho.2 hle₂ hlt₂
    have hstep : TrafficStats.step stats (.poll ifaddrs) = some { stats with incoming, outgoing } := by
      have htask' : stats.statsTask = true := htask
      simp only [TrafficStats.step, htask', if_true, TrafficStats.poll, hr, Option.bind_eq_bind, Option.bind_some]
      rw [hin, Option.bind_some, hout, Option.bind_some]
      rfl
    exact ⟨_, by rw [Observed.step, hstep]; rfl⟩

lemma accounted_of_first_eq_none {as : List Event} {o : Observed} (hrun : run Observed.step {} as = some o)
    (hfirst : o.first = none) : o.Accounted := by
  have hidle : o.first = none → o.stats.incoming.bytes = 0 ∧ o.stats.outgoing.bytes = 0 ∧
      o.stats.statsTask = false := by
    refine run_invariant_of_step (P := fun o : Observed => o.first = none →
      o.stats.incoming.bytes = 0 ∧ o.stats.outgoing.bytes = 0 ∧ o.stats.statsTask = false) ?_ (fun _ => ⟨rfl, rfl, rfl⟩) hrun
    intro o e o' ho hstep hnone
    rcases step_cases hstep with ⟨ifaddrs, r, rfl, hr, rfl⟩ | ⟨ifaddrs, rfl, rfl⟩ |
      ⟨ifaddrs, r, incoming, outgoing, rfl, hr, htask, hin, hout, rfl⟩ |
      ⟨status, ifaddrs, statsTask, rfl, -, -, htask, rfl⟩
    · simp at hnone
    · exact ⟨rfl, rfl, rfl⟩
    · exact absurd ((ho hnone).2.2.symm.trans htask) (by simp)
    · obtain ⟨hin, hout, hrunning⟩ := ho hnone
      refine ⟨hin, hout, ?_⟩
      by_contra htrue
      rw [hrunning] at htask
      cases htask (by simpa using htrue)
  unfold Observed.Accounted
  rw [hfirst]
  exact hidle hfirst

/-- **A session.** -/
lemma accounted_run {session : List Event} {s t : Observed} (hs : s.Accounted)
    (hsession : ∀ e ∈ session, e.isDisconnected = false) (hreadings : Along Observed.step NonDecreasing s session)
    (hrun : run Observed.step s session = some t) :
    t.Accounted ∧ (t.Complete ↔ s.Complete ∧ Along Observed.step Gapless s session) := by
  induction session generalizing s with
  | nil =>
    obtain rfl := Option.some.inj hrun
    exact ⟨hs, (and_iff_left trivial).symm⟩
  | cons e session ih =>
    obtain ⟨he, htail⟩ := List.forall_mem_cons.1 hsession
    obtain ⟨s', hstep, hrest⟩ := run_cons.1 hrun
    obtain ⟨hs', hiff⟩ := accounted_step hs he hreadings.1 hstep
    obtain ⟨ht, hiff'⟩ := ih hs' htail (hreadings.2 s' hstep) hrest
    refine ⟨ht, ?_⟩
    rw [hiff', hiff, and_assoc, Along]
    refine and_congr_right fun _ => and_congr_right fun _ => ⟨fun h s'' hs'' => ?_, fun h => h s' hstep⟩
    obtain rfl := Option.some.inj (hstep.symm.trans hs'')
    exact h

/-- **When the total of a session is what went through the interfaces**: when nothing goes through between a
reading and a restart of the polling. -/
theorem total_iff {before session : List Event} {ifaddrs : Option (List IfAddrs)} {s t : Observed}
    (hbefore : run Observed.step {} before = some s) (hstart : s.first = none)
    (hsession : ∀ e ∈ session, e.isDisconnected = false)
    (hreadings : Along Observed.step NonDecreasing s (session ++ [.poll ifaddrs]))
    (hrun : run Observed.step s (session ++ [.poll ifaddrs]) = some t) :
    (∃ first r, t.first = some first ∧ readTunnelInterfaceStats ifaddrs = some r ∧
      t.stats.incoming.bytes = r.1 - first.1 ∧ t.stats.outgoing.bytes = r.2 - first.2) ↔
      Along Observed.step Gapless s session := by
  have hs := accounted_of_first_eq_none hbefore hstart
  have hall : ∀ e ∈ session ++ [.poll ifaddrs], e.isDisconnected = false := by
    simpa [or_imp, forall_and, Event.isDisconnected] using hsession
  obtain ⟨ht, hiff⟩ := accounted_run hs hall hreadings hrun
  obtain ⟨u, hu, hpoll⟩ := run_append.1 hrun
  have hcomplete : s.Complete := fun first hfirst => by simp [hstart] at hfirst
  rw [and_iff_right hcomplete, along_append, and_iff_left fun u _ => ⟨trivial, fun _ _ => trivial⟩] at hiff
  rw [← hiff]
  -- the state after the poll
  obtain ⟨v, hstep, hv⟩ := run_cons.1 hpoll
  obtain rfl := Option.some.inj hv
  rcases step_cases hstep with ⟨_, _, heq, -, -⟩ | ⟨_, heq, -⟩ | ⟨_, r, incoming, outgoing, heq, hr, -, -, -, rfl⟩ |
    ⟨_, _, _, heq, -, -, -, -⟩
  · cases heq
  · cases heq
  · cases heq
    obtain ⟨stats, first, latest, polled⟩ := u
    cases first with
    | none => cases ht.2.2
    | some first =>
      have hin := ht.1.le
      have hout := ht.2.le
      dsimp only at hin hout
      simp only [Observed.Complete, Option.mem_def, Option.some.injEq, forall_eq', hr, exists_and_left, exists_eq_left']
      omega
  · cases heq

/-- One tunnel interface with these counters. -/
def tunnelInterface (ibytes obytes : UInt32) : Option (List IfAddrs) :=
  some [{ name := "utun3".toList, family := some 18, data := some (ibytes, obytes) }]

instance (o : Observed) (e : Event) : Decidable (NonDecreasing o e) :=
  inferInstanceAs (Decidable (∀ r ∈ e.reading, o.first.isSome → o.latest.1 ≤ r.1 ∧ o.latest.2 ≤ r.2))

instance (o : Observed) : ∀ e, Decidable (Gapless o e)
  | .notification (some .connected) ifaddrs =>
    inferInstanceAs (Decidable (∀ r ∈ readTunnelInterfaceStats ifaddrs, o.first.isSome → r = o.latest))
  | .notification none _ | .poll _ | .notification (some .disconnected) _ | .notification (some .invalid) _
  | .notification (some .connecting) _ | .notification (some .reasserting) _
  | .notification (some .disconnecting) _ => isTrue trivial

/-- What goes through while the tunnel is reasserting is not counted. -/
theorem not_total_reasserting : ¬∀ (before session : List Event) (ifaddrs : Option (List IfAddrs)) (s t : Observed),
    run Observed.step {} before = some s → s.first = none → (∀ e ∈ session, e.isDisconnected = false) →
      Along Observed.step NonDecreasing s (session ++ [.poll ifaddrs]) →
      run Observed.step s (session ++ [.poll ifaddrs]) = some t →
      ∃ first r, t.first = some first ∧ readTunnelInterfaceStats ifaddrs = some r ∧
        t.stats.incoming.bytes = r.1 - first.1 ∧ t.stats.outgoing.bytes = r.2 - first.2 := by
  intro h
  have hfinal : run Observed.step {} ([.notification (some .connected) (tunnelInterface 0 0),
      .poll (tunnelInterface 0 0), .notification (some .reasserting) none,
      .notification (some .connected) (tunnelInterface 100 0)] ++ [.poll (tunnelInterface 100 0)]) =
        some ⟨⟨⟨0, 0, 100⟩, ⟨0, 0, 0⟩, true⟩, some (0, 0), (100, 0), some (100, 0)⟩ := by decide +kernel
  obtain ⟨first, r, hfirst, hr, hin, -⟩ := h [] _ _ {} _ rfl rfl (by decide) (by decide +kernel) hfinal
  obtain rfl := Option.some.inj hfirst
  have hread : readTunnelInterfaceStats (tunnelInterface 100 0) = some (100, 0) := by decide +kernel
  obtain rfl := Option.some.inj (hread.symm.trans hr)
  cases hin

/-- Nothing goes through between a poll and a second notification. -/
theorem total_iff_notifiedTwice :
    run Observed.step {} ([.notification (some .connected) (tunnelInterface 10 0), .poll (tunnelInterface 50 7),
      .notification (some .connected) (tunnelInterface 50 7)] ++ [.poll (tunnelInterface 80 9)]) =
        some ⟨⟨⟨70, 40, 50⟩, ⟨9, 7, 7⟩, true⟩, some (10, 0), (80, 9), some (80, 9)⟩ ∧
      ∃ first r, some (10, 0) = some first ∧ readTunnelInterfaceStats (tunnelInterface 80 9) = some r ∧
        70 = r.1 - first.1 ∧ 9 = r.2 - first.2 := by
  have hrun : run Observed.step {} ([.notification (some .connected) (tunnelInterface 10 0),
      .poll (tunnelInterface 50 7), .notification (some .connected) (tunnelInterface 50 7)] ++
        [.poll (tunnelInterface 80 9)]) =
          some ⟨⟨⟨70, 40, 50⟩, ⟨9, 7, 7⟩, true⟩, some (10, 0), (80, 9), some (80, 9)⟩ := by decide +kernel
  exact ⟨hrun, (total_iff (show run Observed.step {} [] = some {} from rfl) rfl (by decide) (by decide +kernel)
    hrun).2 (by decide +kernel)⟩

end Total

/-! ### Totals that do not fall -/

section Backwards

/-- A reading that counts no less than the one before it: it is no smaller, when both are on the same side of the
baseline; it has fallen below the baseline and is no smaller than what was above it; or it has risen from below
the baseline, by that much at least. -/
def NotBehind (baseline before reading : ℕ) : Prop :=
  baseline ≤ before ∧ baseline ≤ reading ∧ before ≤ reading ∨
    before < baseline ∧ reading < baseline ∧ before ≤ reading ∨
    baseline ≤ before ∧ reading < baseline ∧ before ≤ baseline + reading ∨
    before < baseline ∧ baseline ≤ reading ∧ baseline + before ≤ reading

instance (baseline before reading : ℕ) : Decidable (NotBehind baseline before reading) :=
  inferInstanceAs (Decidable (_ ∨ _))

/-- A poll that is not the first since the polling was started reads no less than the poll before it, in this
sense. -/
def KeepsUp (o : Observed) : Event → Prop
  | .poll ifaddrs => ∀ r ∈ readTunnelInterfaceStats ifaddrs, ∀ q ∈ o.polled,
    NotBehind o.stats.incoming.baseline q.1 r.1 ∧ NotBehind o.stats.outgoing.baseline q.2 r.2
  | .notification _ _ => True

instance (o : Observed) : ∀ e, Decidable (KeepsUp o e)
  | .poll ifaddrs => inferInstanceAs (Decidable (∀ r ∈ readTunnelInterfaceStats ifaddrs, ∀ q ∈ o.polled,
      NotBehind o.stats.incoming.baseline q.1 r.1 ∧ NotBehind o.stats.outgoing.baseline q.2 r.2))
  | .notification _ _ => isTrue trivial

lemma Counter.notBehind_iff {c : Counter} {q r : ℕ} : NotBehind c.baseline q r ↔ c.delta q ≤ c.delta r := by
  unfold NotBehind Counter.delta
  split_ifs <;> omega

/-- The totals are no smaller. -/
def TrafficStats.Le (s s' : TrafficStats) : Prop :=
  s.incoming.bytes ≤ s'.incoming.bytes ∧ s.outgoing.bytes ≤ s'.outgoing.bytes

/-- From poll to poll the totals do not fall. -/
def NeverBackwards (s : Observed) (session : List Event) : Prop :=
  ∀ xs ys zs i j u v, session = xs ++ .poll i :: (ys ++ .poll j :: zs) →
    run Observed.step s (xs ++ [.poll i]) = some u → run Observed.step u (ys ++ [.poll j]) = some v →
    u.stats.Le v.stats

/-- What a counter shows: what was there at the start, and what the last poll has added. -/
def Counter.Shows (c : Counter) (polled : Option ℕ) : Prop := c.bytes = c.accumulated + (polled.map c.delta).getD 0

/-- The same for both counters. -/
def Observed.Shows (o : Observed) : Prop :=
  o.stats.incoming.Shows (o.polled.map Prod.fst) ∧ o.stats.outgoing.Shows (o.polled.map Prod.snd)

lemma shows_step {o o' : Observed} {e : Event} (ho : o.Shows) (hstep : o.step e = some o') : o'.Shows := by
  rcases step_cases hstep with ⟨ifaddrs, r, rfl, hr, rfl⟩ | ⟨ifaddrs, rfl, rfl⟩ |
    ⟨ifaddrs, r, incoming, outgoing, rfl, hr, htask, hin, hout, rfl⟩ | ⟨status, ifaddrs, statsTask, rfl, -, -, -, rfl⟩
  · exact ⟨rfl, rfl⟩
  · exact ⟨rfl, rfl⟩
  · rw [Counter.poll_eq_some hin, Counter.poll_eq_some hout]
    exact ⟨rfl, rfl⟩
  · exact ho

/-- **One event of a session**: the totals do not fall exactly when the poll keeps up. -/
lemma le_step_iff {o o' : Observed} {e : Event} (ho : o.Shows) (he : e.isDisconnected = false)
    (hstep : o.step e = some o') : o.stats.Le o'.stats ↔ KeepsUp o e := by
  rcases step_cases hstep with ⟨ifaddrs, r, rfl, hr, rfl⟩ | ⟨ifaddrs, rfl, rfl⟩ |
    ⟨ifaddrs, r, incoming, outgoing, rfl, hr, htask, hin, hout, rfl⟩ | ⟨status, ifaddrs, statsTask, rfl, -, -, -, rfl⟩
  · exact iff_of_true ⟨le_rfl, le_rfl⟩ trivial
  · cases he
  · obtain ⟨hin', hout'⟩ := ho
    rw [Counter.poll_eq_some hin, Counter.poll_eq_some hout]
    simp only [TrafficStats.Le, KeepsUp, Option.mem_def, hr, Option.some.injEq, forall_eq', Counter.notBehind_iff]
    rw [hin', hout']
    cases o.polled with
    | none => simp
    | some q => simp
  · exact iff_of_true ⟨le_rfl, le_rfl⟩ trivial

lemma shows_run {s t : Observed} {as : List Event} (hs : s.Shows) (hrun : run Observed.step s as = some t) :
    t.Shows :=
  run_invariant_of_step (fun _ _ _ => shows_step) hs hrun

/-- **A session**: the totals do not fall when every poll keeps up. -/
lemma le_run {session : List Event} {s t : Observed} (hs : s.Shows)
    (hsession : ∀ e ∈ session, e.isDisconnected = false) (hkeeps : Along Observed.step KeepsUp s session)
    (hrun : run Observed.step s session = some t) : s.stats.Le t.stats := by
  induction session generalizing s with
  | nil =>
    obtain rfl := Option.some.inj hrun
    exact ⟨le_rfl, le_rfl⟩
  | cons e session ih =>
    obtain ⟨he, htail⟩ := List.forall_mem_cons.1 hsession
    obtain ⟨s', hstep, hrest⟩ := run_cons.1 hrun
    have hle := (le_step_iff hs he hstep).2 hkeeps.1
    have hle' := ih (shows_step hs hstep) htail (hkeeps.2 s' hstep) hrest
    exact ⟨hle.1.trans hle'.1, hle.2.trans hle'.2⟩

/-- Without a poll, and without the end of a session, the totals stay as they are. -/
lemma bytes_eq_of_run {as : List Event} {s t : Observed}
    (has : ∀ e ∈ as, e.isDisconnected = false ∧ ∀ ifaddrs, e ≠ .poll ifaddrs)
    (hrun : run Observed.step s as = some t) :
    t.stats.incoming.bytes = s.stats.incoming.bytes ∧ t.stats.outgoing.bytes = s.stats.outgoing.bytes := by
  induction as generalizing s with
  | nil =>
    obtain rfl := Option.some.inj hrun
    exact ⟨rfl, rfl⟩
  | cons e as ih =>
    obtain ⟨⟨he, hpoll⟩, htail⟩ := List.forall_mem_cons.1 has
    obtain ⟨s', hstep, hrest⟩ := run_cons.1 hrun
    have hsame : s'.stats.incoming.bytes = s.stats.incoming.bytes ∧
        s'.stats.outgoing.bytes = s.stats.outgoing.bytes := by
      rcases step_cases hstep with ⟨_, _, _, _, rfl⟩ | ⟨_, rfl, _⟩ | ⟨ifaddrs, _, _, _, heq, _⟩ | ⟨_, _, _, _, _, _, _, rfl⟩
      · exact ⟨rfl, rfl⟩
      · cases he
      · exact absurd heq (hpoll ifaddrs)
      · exact ⟨rfl, rfl⟩
    obtain ⟨hin, hout⟩ := ih htail hrest
    exact ⟨hin.trans hsame.1, hout.trans hsame.2⟩

/-- **When the totals of a session do not fall from poll to poll**: when every poll reads no less than the one
before it, as the baseline lets it be counted. -/
theorem neverBackwards_iff {before session : List Event} {s t : Observed}
    (hbefore : run Observed.step {} before = some s) (hstart : s.first = none)
    (hsession : ∀ e ∈ session, e.isDisconnected = false) (hrun : run Observed.step s session = some t) :
    NeverBackwards s session ↔ Along Observed.step KeepsUp s session := by
  have hs : s.Shows := shows_run (s := {}) ⟨rfl, rfl⟩ hbefore
  constructor
  · intro hnever
    rw [along_iff]
    rintro xs (⟨status, i⟩ | j) zs u rfl hu
    · trivial
    obtain ⟨v, hstep, -, -⟩ := exists_step_of_run hrun hu
    have hxs : ∀ e ∈ xs, e.isDisconnected = false := fun e he => hsession e (List.mem_append_left _ he)
    refine (le_step_iff (shows_run hs hu) rfl hstep).1 ?_
    rcases exists_last_of (fun e => ∃ ifaddrs, e = Event.poll ifaddrs) xs with hno | ⟨xs, e, ys, rfl, ⟨i, rfl⟩, hys⟩
    · -- the first poll of the session
      push Not at hno
      obtain ⟨hin, hout⟩ := bytes_eq_of_run (fun e he => ⟨hxs e he, hno e he⟩) hu
      have hidle := accounted_of_first_eq_none hbefore hstart
      unfold Observed.Accounted at hidle
      rw [hstart] at hidle
      obtain ⟨hin', hout', -⟩ := hidle
      rw [TrafficStats.Le, hin, hout, hin', hout']
      exact ⟨Nat.zero_le _, Nat.zero_le _⟩
    · -- the last poll before it, since when the totals have stayed as they are
      push Not at hys
      rw [List.append_cons] at hu
      obtain ⟨w, hw, hwu⟩ := run_append.1 hu
      obtain ⟨hin, hout⟩ := bytes_eq_of_run (fun e he => ⟨hxs e (by simp [he]), hys e he⟩) hwu
      have hle := hnever xs ys zs i j w v (by simp) hw (run_append.2 ⟨u, hwu, run_cons.2 ⟨v, hstep, rfl⟩⟩)
      rwa [TrafficStats.Le, hin, hout]
  · rintro hkeeps xs ys zs i j u v rfl hu hv
    rw [List.append_cons] at hkeeps
    have hafter := (along_append.1 hkeeps).2 u hu
    rw [List.append_cons] at hafter
    refine le_run (shows_run hs hu) (fun e he => hsession e ?_) (along_append.1 hafter).1 hv
    simp only [List.mem_append, List.mem_cons, List.not_mem_nil, or_false] at he ⊢
    tauto

/-- The interface is made anew, and its counters begin at zero. -/
theorem not_neverBackwards_recreated : ¬∀ (before session : List Event) (s t : Observed),
    run Observed.step {} before = some s → s.first = none → (∀ e ∈ session, e.isDisconnected = false) →
      run Observed.step s session = some t → NeverBackwards s session := by
  intro h
  have hfirst : run Observed.step {} ([.notification (some .connected) (tunnelInterface 100 0)] ++
      [.poll (tunnelInterface 150 0)]) =
        some ⟨⟨⟨50, 0, 100⟩, ⟨0, 0, 0⟩, true⟩, some (100, 0), (150, 0), some (150, 0)⟩ := by decide +kernel
  have hsecond : run Observed.step ⟨⟨⟨50, 0, 100⟩, ⟨0, 0, 0⟩, true⟩, some (100, 0), (150, 0), some (150, 0)⟩
      ([] ++ [.poll (tunnelInterface 10 0)]) =
        some ⟨⟨⟨10, 0, 100⟩, ⟨0, 0, 0⟩, true⟩, some (100, 0), (10, 0), some (10, 0)⟩ := by decide +kernel
  have hle := h [] [.notification (some .connected) (tunnelInterface 100 0), .poll (tunnelInterface 150 0),
    .poll (tunnelInterface 10 0)] {} _ rfl rfl (by decide) (run_append.2 ⟨_, hfirst, hsecond⟩) _ _ [] _ _ _ _ rfl
      hfirst hsecond
  exact absurd hle.1 (by decide)

/-- Counters that begin at zero again at a restart of the polling. -/
theorem neverBackwards_iff_restarted :
    NeverBackwards {} [.notification (some .connected) (tunnelInterface 100 0), .poll (tunnelInterface 150 0),
      .notification (some .reasserting) none, .notification (some .connected) (tunnelInterface 0 0),
      .poll (tunnelInterface 10 0)] :=
  (neverBackwards_iff (show run Observed.step {} [] = some {} from rfl) rfl (by decide)
    (t := ⟨⟨⟨60, 50, 0⟩, ⟨0, 0, 0⟩, true⟩, some (100, 0), (10, 0), some (10, 0)⟩) (by decide +kernel)).2
      (by decide +kernel)

end Backwards

end FreeVPN.Session
