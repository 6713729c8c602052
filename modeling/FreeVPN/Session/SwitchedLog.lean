import FreeVPN.Lib.KeptLog
import FreeVPN.Lib.Runs

/-!
# The log of two extensions

The Packet Tunnel and the Amnezia Tunnel run in processes of their own.  Each has a `tunnelLog` and a
queue on which its entries are appended, and each writes its whole log to the same shared key.  When the
app switches from one to the other, what the stopping extension has still on its queue is written when
the other one has been started.

* `SwitchedLog.step` — what the app and the two processes do, in any order;
* `losesNothing_iff` — in which runs the shared key keeps the entries of the extension that has been
  started.
-/

namespace FreeVPN.Session

open FreeVPN.Lib

/-- The extensions. -/
inductive Extension
  | packetTunnel
  | amneziaTunnel
  deriving DecidableEq

/-- The one that is switched from. -/
def Extension.other : Extension → Extension
  | packetTunnel => amneziaTunnel
  | amneziaTunnel => packetTunnel

lemma Extension.other_ne (p : Extension) : p.other ≠ p := by cases p <;> exact Extension.noConfusion

/-- The provider of an extension. -/
structure Process where
  tunnelLog : List String := []
  /-- The messages that are still to be appended. -/
  logQueue : List String := []
  /-- All that has been written since `startTunnel`. -/
  written : List String := []
  deriving DecidableEq

/-- The two processes and the key that they share. -/
structure SwitchedLog where
  process : Extension → Process := fun _ => {}
  /-- The entries, each with the extension that has written it. -/
  shared : Option (List (Extension × String)) := none

namespace SwitchedLog

/-- A process goes on. -/
def update (s : SwitchedLog) (p : Extension) (process : Process) : SwitchedLog :=
  { s with process := Function.update s.process p process }

/-- `configure` removes the shared key. -/
def configure (s : SwitchedLog) : SwitchedLog := { s with shared := none }

/-- The first line of `startTunnel`. -/
def startTunnel (s : SwitchedLog) (p : Extension) : SwitchedLog :=
  s.update p { s.process p with tunnelLog := [], written := [] }

/-- `appendTunnelLog` puts a block on the queue. -/
def appendTunnelLog (s : SwitchedLog) (p : Extension) (message : String) : SwitchedLog :=
  s.update p { s.process p with logQueue := (s.process p).logQueue ++ [message] }

/-- The block of `appendTunnelLog`, for the first entry of the queue. -/
def writeEntry (s : SwitchedLog) (p : Extension) (entry : String) (logQueue : List String) : SwitchedLog :=
  let tunnelLog := push 500 (s.process p).tunnelLog entry
  { s.update p { tunnelLog, logQueue, written := (s.process p).written ++ [entry] } with
    shared := some (tunnelLog.map fun entry => (p, entry)) }

/-- What can happen next. -/
inductive Action
  | configure
  | startTunnel (p : Extension)
  | appendTunnelLog (p : Extension) (message : String)
  /-- The queue of an extension runs its first block. -/
  | write (p : Extension)
  deriving DecidableEq

/-- One step.  `logQueue.sync` of `startTunnel` waits for the blocks that are on the queue. -/
def step (s : SwitchedLog) : Action → Option SwitchedLog
  | .configure => some s.configure
  | .startTunnel p => if (s.process p).logQueue = [] then some (s.startTunnel p) else none
  | .appendTunnelLog p message => some (s.appendTunnelLog p message)
  | .write p => match (s.process p).logQueue with
    | [] => none
    | entry :: logQueue => some (s.writeEntry p entry logQueue)

@[simp] lemma update_process_self (s : SwitchedLog) (p : Extension) (process : Process) :
    (s.update p process).process p = process := Function.update_self ..

@[simp] lemma update_process_of_ne (s : SwitchedLog) {p q : Extension} (h : q ≠ p) (process : Process) :
    (s.update p process).process q = s.process q := Function.update_of_ne h ..

@[simp] lemma update_shared (s : SwitchedLog) (p : Extension) (process : Process) :
    (s.update p process).shared = s.shared := rfl

lemma writeEntry_process (s : SwitchedLog) (p q : Extension) (entry : String) (logQueue : List String) :
    (s.writeEntry p entry logQueue).process q = if q = p then
      { tunnelLog := push 500 (s.process p).tunnelLog entry, logQueue,
        written := (s.process p).written ++ [entry] } else s.process q := by
  unfold writeEntry update
  exact Function.update_apply ..

/-! ### What is kept -/

/-- The shared key holds, in order, the newest 500 entries that an extension has written. -/
def Kept (new : Extension) (s : SwitchedLog) : Prop :=
  (((s.process new).written.rtake 500).map fun entry => (new, entry)).Sublist (s.shared.getD [])

instance (new : Extension) : DecidablePred (Kept new) := fun s =>
  inferInstanceAs (Decidable (List.Sublist _ (s.shared.getD [])))

/-- The messages of an extension. -/
def entryOf (new : Extension) : Action → Option String
  | .appendTunnelLog p message => if p = new then some message else none
  | .configure | .startTunnel _ | .write _ => none

/-- No step removes what the new extension has written; and when its queue is empty, the shared key holds
the newest 500 of all its messages. -/
structure LosesNothing (new : Extension) (s : SwitchedLog) (as : List Action) : Prop where
  kept : ∀ before after t, as = before ++ after → run step s before = some t → t.Kept new
  complete : ∀ t, run step s as = some t → (t.process new).logQueue = [] →
    (((as.filterMap (entryOf new)).rtake 500).map fun entry => (new, entry)).Sublist (t.shared.getD [])

/-- The log of the new extension, which is what the shared key holds once it has written. -/
structure Inv (new : Extension) (s : SwitchedLog) : Prop where
  tunnelLog : (s.process new).tunnelLog = (s.process new).written.rtake 500
  shared : (s.process new).written ≠ [] →
    s.shared = some ((s.process new).tunnelLog.map fun entry => (new, entry))

lemma Inv.kept {new : Extension} {s : SwitchedLog} (h : Inv new s) : s.Kept new := by
  unfold Kept
  by_cases hw : (s.process new).written = []
  · rw [hw, List.rtake_nil, List.map_nil]
    exact List.nil_sublist _
  · rw [h.shared hw, Option.getD_some, h.tunnelLog]

/-- A write of the stopping extension, when the other one has written. -/
def Overwrites (new : Extension) (s : SwitchedLog) (a : Action) : Prop :=
  a = .write new.other ∧ (s.process new).written ≠ []

instance (new : Extension) (s : SwitchedLog) : DecidablePred (Overwrites new s) := fun a =>
  inferInstanceAs (Decidable (a = .write new.other ∧ (s.process new).written ≠ []))

/-- An extension other than the one that is switched to. -/
lemma eq_other {new p : Extension} (h : p ≠ new) : p = new.other := by
  cases new <;> cases p <;> first | rfl | exact absurd rfl h

/-- **One step.** -/
lemma Inv.step {new : Extension} {s t : SwitchedLog} {a : Action} (h : Inv new s) (hconfigure : a ≠ .configure)
    (hwrite : ¬s.Overwrites new a) (hstep : s.step a = some t) : Inv new t := by
  cases a with
  | configure => exact absurd rfl hconfigure
  | startTunnel p =>
    obtain ⟨-, hstep⟩ := (Option.ite_none_right_eq_some ..).1 hstep
    obtain rfl := Option.some.inj hstep
    unfold startTunnel
    by_cases hp : new = p
    · subst hp
      refine ⟨?_, ?_⟩
      · rw [update_process_self, List.rtake_nil]
      · rw [update_process_self]
        intro hne
        exact absurd rfl hne
    · refine ⟨?_, ?_⟩
      · rw [update_process_of_ne s hp]
        exact h.tunnelLog
      · rw [update_process_of_ne s hp]
        exact h.shared
  | appendTunnelLog p message =>
    obtain rfl := Option.some.inj hstep
    unfold appendTunnelLog
    by_cases hp : new = p
    · subst hp
      refine ⟨?_, ?_⟩
      · rw [update_process_self]
        exact h.tunnelLog
      · rw [update_process_self]
        exact h.shared
    · refine ⟨?_, ?_⟩
      · rw [update_process_of_ne s hp]
        exact h.tunnelLog
      · rw [update_process_of_ne s hp]
        exact h.shared
  | write p =>
    simp only [SwitchedLog.step] at hstep
    split at hstep
    · cases hstep
    · rename_i entry logQueue hqueue
      obtain rfl := Option.some.inj hstep
      by_cases hp : new = p
      · subst hp
        have hpush : push 500 (s.process new).tunnelLog entry =
            ((s.process new).written ++ [entry]).rtake 500 := by rw [h.tunnelLog, push_rtake]
        refine ⟨?_, ?_⟩
        · rw [writeEntry_process, if_pos rfl]
          exact hpush
        · rw [writeEntry_process, if_pos rfl]
          intro _
          rfl
      · -- the stopping extension, before the new one has written
        have hnone : (s.process new).written = [] := by
          by_contra hne
          exact hwrite ⟨by rw [eq_other (Ne.symm hp)], hne⟩
        refine ⟨?_, ?_⟩
        · rw [writeEntry_process, if_neg hp]
          exact h.tunnelLog
        · rw [writeEntry_process, if_neg hp]
          intro hne
          exact absurd hnone hne

/-- What the new extension has written and what is on its queue are its messages. -/
lemma messages_step {new : Extension} {s t : SwitchedLog} {a : Action} (hstart : a ≠ .startTunnel new)
    (hstep : s.step a = some t) :
    (t.process new).written ++ (t.process new).logQueue =
      (s.process new).written ++ (s.process new).logQueue ++ (entryOf new a).toList := by
  cases a with
  | configure =>
    obtain rfl := Option.some.inj hstep
    exact (List.append_nil _).symm
  | startTunnel p =>
    obtain ⟨-, hstep⟩ := (Option.ite_none_right_eq_some ..).1 hstep
    obtain rfl := Option.some.inj hstep
    have hp : new ≠ p := by
      rintro rfl
      exact hstart rfl
    rw [startTunnel, update_process_of_ne s hp]
    exact (List.append_nil _).symm
  | appendTunnelLog p message =>
    obtain rfl := Option.some.inj hstep
    simp only [appendTunnelLog, entryOf]
    by_cases hp : new = p
    · subst hp
      rw [update_process_self, if_pos rfl, Option.toList_some, List.append_assoc]
    · rw [update_process_of_ne s hp, if_neg (Ne.symm hp), Option.toList_none, List.append_nil]
  | write p =>
    simp only [step] at hstep
    split at hstep
    · cases hstep
    · rename_i entry logQueue hqueue
      obtain rfl := Option.some.inj hstep
      simp only [writeEntry_process, entryOf, Option.toList_none, List.append_nil]
      split_ifs with hp
      · subst hp
        rw [hqueue, List.append_assoc, List.singleton_append]
      · rfl

lemma messages_run {new : Extension} {s t : SwitchedLog} {as : List Action} (hstart : .startTunnel new ∉ as)
    (hrun : run step s as = some t) :
    (t.process new).written ++ (t.process new).logQueue =
      (s.process new).written ++ (s.process new).logQueue ++ as.filterMap (entryOf new) := by
  induction as generalizing s with
  | nil =>
    obtain rfl := Option.some.inj hrun
    exact (List.append_nil _).symm
  | cons a as ih =>
    rw [List.mem_cons, not_or] at hstart
    obtain ⟨ha, has⟩ := hstart
    obtain ⟨u, hu, hrest⟩ := run_cons.1 hrun
    rw [ih has hrest, messages_step (Ne.symm ha) hu, List.append_assoc, List.filterMap_cons]
    cases entryOf new a <;> rfl

/-- The extension has just been started. -/
lemma inv_startTunnel (new : Extension) (s : SwitchedLog) : Inv new (s.startTunnel new) := by
  unfold startTunnel
  refine ⟨?_, ?_⟩
  · rw [update_process_self, List.rtake_nil]
  · rw [update_process_self]
    intro hne
    exact absurd rfl hne

/-- A write of the stopping extension leaves nothing of the other one. -/
lemma not_kept_of_overwrites {new : Extension} {s t : SwitchedLog} {a : Action} (hwrite : s.Overwrites new a)
    (hstep : s.step a = some t) : ¬t.Kept new := by
  obtain ⟨rfl, hne⟩ := hwrite
  simp only [step] at hstep
  split at hstep
  · cases hstep
  · rename_i entry logQueue hqueue
    obtain rfl := Option.some.inj hstep
    intro hkept
    unfold Kept at hkept
    rw [writeEntry_process, if_neg (Ne.symm new.other_ne)] at hkept
    have hpos : 0 < ((s.process new).written.rtake 500).length := by
      rw [length_rtake]
      exact lt_min (by omega) (List.length_pos_iff.2 hne)
    obtain ⟨x, hx⟩ := List.exists_mem_of_length_pos hpos
    have hmem := hkept.subset (List.mem_map_of_mem hx)
    obtain ⟨y, -, hy⟩ := List.mem_map.1 hmem
    exact new.other_ne (congrArg Prod.fst hy)

/-- **When switching loses nothing.**  The app has configured the other extension, which has been started.
What it writes stays in the shared key, and all its messages come there, if and only if the stopping
extension writes only before it. -/
theorem losesNothing_iff {new : Extension} {s u t : SwitchedLog} {before after : List Action}
    (hstarted : run step s (.configure :: before ++ [.startTunnel new]) = some u)
    (hconfigure : .configure ∉ after) (hstart : .startTunnel new ∉ after) (hrun : run step u after = some t) :
    LosesNothing new u after ↔ Along step (fun v a => ¬v.Overwrites new a) u after := by
  obtain ⟨v, -, hv⟩ := run_append.1 hstarted
  obtain ⟨u', hu', hnil⟩ := run_cons.1 hv
  obtain rfl := Option.some.inj hnil
  obtain ⟨hqueue, hu'⟩ := (Option.ite_none_right_eq_some ..).1 hu'
  obtain rfl := Option.some.inj hu'
  constructor
  · intro h
    refine along_iff.2 fun first a rest w heq hw hwrite => ?_
    subst heq
    obtain ⟨x, hx, hlonger, -⟩ := exists_step_of_run hrun hw
    have hkept := h.kept (first ++ [a]) rest x (by simp) hlonger
    exact not_kept_of_overwrites hwrite hx hkept
  · intro h
    -- the invariant along every beginning of the run
    have hinv : ∀ first rest w, after = first ++ rest → run step (v.startTunnel new) first = some w →
        Inv new w := by
      rintro first rest w rfl hw
      have hfirst : Along step (fun v a => a ≠ .configure ∧ ¬v.Overwrites new a) (v.startTunnel new) first := by
        refine along_iff.2 fun b a c x heq hx => ⟨?_, along_iff.1 h b a (c ++ rest) x (by rw [heq]; simp) hx⟩
        rintro rfl
        exact hconfigure (List.mem_append_left _ (by rw [heq]; simp))
      exact run_invariant (fun s a t hs hc => hs.step hc.1 hc.2) (inv_startTunnel new v) hfirst hw
    refine ⟨fun first rest w heq hw => (hinv first rest w heq hw).kept, ?_⟩
    intro w hw hempty
    have hmessages := messages_run hstart hw
    rw [hempty, List.append_nil, startTunnel, update_process_self, hqueue, List.nil_append, List.nil_append]
      at hmessages
    rw [← hmessages]
    exact (hinv after [] w (List.append_nil _).symm hw).kept

/-- The last message of an extension that is stopped. -/
def stopping : Action := .appendTunnelLog .packetTunnel "Stopping tunnel, reason: userInitiated"

/-- It is written behind the first entry of the other extension. -/
def trailing : List Action :=
  [.appendTunnelLog .amneziaTunnel "AmneziaWG tunnel extension starting", .write .amneziaTunnel,
    .write .packetTunnel]

theorem not_losesNothing_trailing :
    ¬∀ (new : Extension) (s u t : SwitchedLog) (before after : List Action),
      run step s (.configure :: before ++ [.startTunnel new]) = some u → .configure ∉ after →
      .startTunnel new ∉ after → run step u after = some t → LosesNothing new u after := by
  intro h
  have hloses := h .amneziaTunnel {} _ _ [stopping] trailing rfl (by decide) (by decide) rfl
  have hkept := hloses.kept trailing [] _ (List.append_nil _).symm rfl
  revert hkept
  decide

/-- It is written before. -/
theorem losesNothing_before :
    ∃ u, run step {} (.configure :: [stopping] ++ [.startTunnel .amneziaTunnel]) = some u ∧
      LosesNothing .amneziaTunnel u
        [.write .packetTunnel, .appendTunnelLog .amneziaTunnel "AmneziaWG tunnel extension starting",
          .write .amneziaTunnel] := by
  have hstarted : run step {} (.configure :: [stopping] ++ [.startTunnel .amneziaTunnel]) = some _ := rfl
  exact ⟨_, hstarted, (losesNothing_iff hstarted (by decide) (by decide) rfl).2 (by decide)⟩

end SwitchedLog

end FreeVPN.Session
