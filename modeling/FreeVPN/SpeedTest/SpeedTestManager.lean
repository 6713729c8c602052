import FreeVPN.Foundation.Utf8
import FreeVPN.Lib.Runs

/-!
# Speed tests

`SpeedTestManager` runs a test in a task.  A task that is cancelled goes on when its request comes back:
it assigns what it has measured before it looks whether it has been cancelled, and both of its `catch`
blocks set the state.

* `Published.resume` — a task from one request to the next;
* `SpeedTestManager.step` — the calls, and the answers to the requests of all tasks, in any order;
* `untouched_of_run` — the runs in which a task that has been cancelled changes nothing.

A function of the same actor is called without suspension, so that a task is suspended at its requests
only, and before it begins.
-/

namespace FreeVPN.SpeedTest

open FreeVPN.Lib FreeVPN.Foundation

/-! ### What is published -/

/-- `TestState` -/
inductive TestState
  | idle
  | testingLatency
  | testingDownload
  | testingUpload
  | done
  | error (localizedDescription : String)
  deriving DecidableEq

/-- The properties of the manager that the app shows. -/
structure Published where
  state : TestState := .idle
  latencyMs : Option Float := none
  minLatencyMs : Option Float := none
  downloadMbps : Option Float := none
  uploadMbps : Option Float := none
  peakDownloadMbps : Option Float := none
  peakUploadMbps : Option Float := none
  progress : Float := 0
  testServerHostname : Option Text := none
  testServerIP : Option Text := none

/-- `TransferMethod` -/
inductive TransferMethod
  | download
  | upload
  deriving DecidableEq

/-- `chunkSize` -/
def TransferMethod.chunkSize : TransferMethod → ℕ
  | download => 20000000
  | upload => 3000000

/-- `iterations` -/
def TransferMethod.iterations : TransferMethod → ℕ
  | download => 4
  | upload => 5

/-- `progressRange` -/
def TransferMethod.progressRange : TransferMethod → Float × Float
  | download => (0.33, 0.66)
  | upload => (0.66, 1.0)

/-- Where a task is suspended. -/
inductive Stage
  | created
  /-- At a request of `measureLatency`, of which so many have come back. -/
  | latency (measurements : List Float)
  /-- At a request of `measureThroughput`. -/
  | throughput (method : TransferMethod) (speeds : List Float) (totalBytes : ℕ)
  | finished

/-- What an `await` throws. -/
inductive Failure
  | cancellationError
  | other (localizedDescription : String)
  deriving DecidableEq

/-- What a task goes on with. -/
inductive Answer
  /-- It begins; what the system says of the server's address. -/
  | begun (resolveHost reverseDNS : Option Text)
  /-- The request succeeds, so long after it has been made, and after the first one of its kind. -/
  | success (data : Bytes) (elapsed overallElapsed : Float)
  | failure (error : Failure)

/-- `parseTrace`, a dictionary: later lines come first. -/
def parseTrace (body : Text) : List (Text × Text) :=
  (body.splitOn '\n').foldl (fun result line => match splitMax '=' 1 line with
    | [key, value] => (key, value) :: result
    | _ => result) []

/-- The host that the first response names. -/
def colo (data : Bytes) : Option (Option Text) :=
  (decodeUtf8 data).map fun body => (parseTrace body).lookup "colo".toList

/-- The average without the best and the worst, and the best. -/
def latencyResult (measurements : List Float) : Float × Float :=
  let sorted := measurements.mergeSort
  let trimmed := sorted.tail.dropLast
  (trimmed.foldl (· + ·) 0 / Float.ofNat trimmed.length, sorted.head?.getD 0)

/-- A number of bytes, in a time. -/
def mbps (bytes : ℕ) (elapsed : Float) : Float := Float.ofNat bytes * 8.0 / 1000000.0 / elapsed

namespace Published

/-- `clearResults` -/
def clearResults (p : Published) : Published := { state := p.state }

/-- The `catch` blocks of `startTest`. -/
def caught (p : Published) : Failure → Published × Stage
  | .cancellationError => ({ p with state := .idle }, .finished)
  | .other localizedDescription => ({ p with state := .error localizedDescription }, .finished)

/-- `try Task.checkCancellation()`, and the next request. -/
def request (p : Published) (isCancelled : Bool) (stage : Stage) : Published × Stage :=
  if isCancelled then p.caught .cancellationError else (p, stage)

/-- The task begins. -/
def start (p : Published) (isCancelled : Bool) (resolveHost reverseDNS : Option Text) : Published × Stage :=
  let p := { p with state := .testingLatency, progress := 0, testServerIP := resolveHost }
  let p := if resolveHost.isSome then { p with testServerHostname := reverseDNS } else p
  p.request isCancelled (.latency [])

/-- The first request of `measureThroughput`. -/
def startThroughput (p : Published) (isCancelled : Bool) (method : TransferMethod) : Published × Stage :=
  let p := { p with
    state := match method with
      | .download => .testingDownload
      | .upload => .testingUpload
    progress := method.progressRange.1 }
  p.request isCancelled (.throughput method [] 0)

/-- `measureLatency` behind a request, and what comes behind the last one. -/
def measureLatency (p : Published) (isCancelled : Bool) (measurements : List Float) (data : Bytes)
    (elapsed : Float) : Published × Stage :=
  let p := if measurements = [] ∧ p.testServerHostname = none then
    { p with testServerHostname := (colo data).getD none } else p
  let measurements := measurements ++ [elapsed * 1000]
  if measurements.length < 8 then p.request isCancelled (.latency measurements)
  else
    let p := { p with
      latencyMs := some (latencyResult measurements).1
      minLatencyMs := some (latencyResult measurements).2 }
    if isCancelled then (p, .finished) else p.startThroughput isCancelled .download

/-- `measureThroughput` behind a request, and what comes behind the last one. -/
def measureThroughput (p : Published) (isCancelled : Bool) (method : TransferMethod) (speeds : List Float)
    (totalBytes : ℕ) (data : Bytes) (elapsed overallElapsed : Float) : Published × Stage :=
  let bytesTransferred := match method with
    | .download => data.length
    | .upload => method.chunkSize
  let speeds := speeds ++ [mbps bytesTransferred elapsed]
  let totalBytes := totalBytes + bytesTransferred
  let range := method.progressRange
  let p := { p with
    progress := range.1 + Float.ofNat speeds.length / Float.ofNat method.iterations * (range.2 - range.1) }
  if speeds.length < method.iterations then p.request isCancelled (.throughput method speeds totalBytes)
  else
    let average := mbps totalBytes overallElapsed
    let peak := speeds.max?.getD average
    match method with
    | .download =>
      let p := { p with downloadMbps := some average, peakDownloadMbps := some peak }
      if isCancelled then (p, .finished) else p.startThroughput isCancelled .upload
    | .upload =>
      ({ p with uploadMbps := some average, peakUploadMbps := some peak, progress := 1.0, state := .done },
        .finished)

/-- A task goes on to its next request, or to its end. -/
def resume (p : Published) (isCancelled : Bool) : Stage → Answer → Option (Published × Stage)
  | .created, .begun resolveHost reverseDNS => some (p.start isCancelled resolveHost reverseDNS)
  | .latency measurements, .success data elapsed _ =>
    some (p.measureLatency isCancelled measurements data elapsed)
  | .throughput method speeds totalBytes, .success data elapsed overallElapsed =>
    some (p.measureThroughput isCancelled method speeds totalBytes data elapsed overallElapsed)
  | .latency _, .failure error | .throughput _ _ _, .failure error => some (p.caught error)
  | _, _ => none

end Published

/-! ### The manager -/

/-- A task of `startTest`. -/
structure TestTask where
  stage : Stage := .created
  isCancelled : Bool := false

/-- `SpeedTestManager`.  Tasks are counted. -/
structure SpeedTestManager where
  published : Published := {}
  testTask : Option ℕ := none
  tasks : List TestTask := []

namespace SpeedTestManager

/-- `testTask?.cancel()` -/
def cancelTestTask (s : SpeedTestManager) : SpeedTestManager :=
  match s.testTask with
  | some k => { s with tasks := s.tasks.modify k fun task => { task with isCancelled := true } }
  | none => s

/-- `startTest` -/
def startTest (s : SpeedTestManager) : SpeedTestManager :=
  let s := s.cancelTestTask
  { published := s.published.clearResults
    testTask := some s.tasks.length
    tasks := s.tasks ++ [{}] }

/-- `cancel` -/
def cancel (s : SpeedTestManager) : SpeedTestManager :=
  { s.cancelTestTask with testTask := none, published := { s.published with state := .idle } }

/-- `reset` -/
def reset (s : SpeedTestManager) : SpeedTestManager :=
  { s.cancel with published := s.cancel.published.clearResults }

/-- What can happen next. -/
inductive Action
  | startTest
  | cancel
  | reset
  /-- A task goes on. -/
  | resume (k : ℕ) (answer : Answer)

/-- One step. -/
def step (s : SpeedTestManager) : Action → Option SpeedTestManager
  | .startTest => some s.startTest
  | .cancel => some s.cancel
  | .reset => some s.reset
  | .resume k answer => (s.tasks[k]?).bind fun task =>
    (s.published.resume task.isCancelled task.stage answer).map fun next =>
      { s with published := next.1, tasks := s.tasks.set k { task with stage := next.2 } }

/-! ### Tasks that have been cancelled -/

/-- What the task that has been started last and has not been cancelled does, or the app. -/
def IsOfLatest (s : SpeedTestManager) : Action → Prop
  | .startTest | .cancel | .reset => True
  | .resume k _ => k + 1 = s.tasks.length ∧ ∃ task, s.tasks[k]? = some task ∧ task.isCancelled = false

/-- What is published changes only by the calls and by the latest task that has not been cancelled, and
until the next `startTest` what `cancel` and `reset` have made of it stays. -/
structure Untouched (as : List Action) : Prop where
  changes : ∀ before a after s t, as = before ++ a :: after → run step {} before = some s →
    s.step a = some t → t.published ≠ s.published → s.IsOfLatest a
  idle : ∀ before between after t, as = before ++ .cancel :: between ++ after → .startTest ∉ between →
    run step {} (before ++ .cancel :: between) = some t → t.published.state = .idle
  cleared : ∀ before between after t, as = before ++ .reset :: between ++ after → .startTest ∉ between →
    run step {} (before ++ .reset :: between) = some t → t.published = {}

/-- How a cancelled task goes on without an assignment that is seen: its request fails with
`CancellationError`, or `checkCancellation` throws it before anything has been measured. -/
def HarmlessAt (p : Published) : Stage → Answer → Prop
  | .created, .begun resolveHost _ => resolveHost = none ∧ p.testServerIP = none ∧ p.progress = 0
  | .latency measurements, .success data _ _ => measurements.length < 7 ∧
    (measurements = [] → p.testServerHostname = none → (colo data).getD none = none)
  | _, .failure .cancellationError => True
  | _, _ => False

/-- A cancelled task goes on only while the state is idle, and harmlessly. -/
def Harmless (s : SpeedTestManager) : Action → Prop
  | .startTest | .cancel | .reset => True
  | .resume k answer => ∀ task ∈ s.tasks[k]?, task.isCancelled = true →
    s.published.state = .idle ∧ HarmlessAt s.published task.stage answer

lemma request_cancelled (p : Published) (stage : Stage) :
    p.request true stage = ({ p with state := .idle }, .finished) := rfl

lemma idle_eq {p : Published} (h : p.state = .idle) : { p with state := .idle } = p := by
  cases p
  subst h
  rfl

/-- **A cancelled task** that goes on harmlessly changes nothing. -/
lemma resume_of_harmless {p : Published} {stage : Stage} {answer : Answer} {next : Published × Stage}
    (hidle : p.state = .idle) (h : HarmlessAt p stage answer)
    (hnext : p.resume true stage answer = some next) : next.1 = p := by
  have hcaught : ∀ {stage}, p.resume true stage (.failure .cancellationError) = some next → next.1 = p := by
    intro stage hstage
    cases stage with
    | created => cases hstage
    | finished => cases hstage
    | latency measurements =>
      obtain rfl := Option.some.inj hstage
      exact idle_eq hidle
    | throughput method speeds totalBytes =>
      obtain rfl := Option.some.inj hstage
      exact idle_eq hidle
  cases answer with
  | begun resolveHost reverseDNS =>
    cases stage with
    | created =>
      obtain ⟨rfl, hip, hprogress⟩ := h
      obtain rfl := Option.some.inj hnext
      cases p
      subst hidle hip hprogress
      rfl
    | latency measurements => cases hnext
    | throughput method speeds totalBytes => cases hnext
    | finished => cases hnext
  | success data elapsed overallElapsed =>
    cases stage with
    | created => cases hnext
    | finished => cases hnext
    | throughput method speeds totalBytes => exact h.elim
    | latency measurements =>
      obtain ⟨hlength, hcolo⟩ := h
      obtain rfl := Option.some.inj hnext
      have hmore : (measurements ++ [elapsed * 1000]).length < 8 := by
        rw [List.length_append, List.length_singleton]
        omega
      unfold Published.measureLatency
      rw [if_pos hmore, request_cancelled]
      split_ifs with hfirst
      · rw [hcolo hfirst.1 hfirst.2, ← hfirst.2]
        exact idle_eq hidle
      · exact idle_eq hidle
  | failure error =>
    cases error with
    | cancellationError => exact hcaught hnext
    | other localizedDescription => cases stage <;> exact h.elim

/-- Only the task in `testTask`, which has been started last, has not been cancelled. -/
def Inv (s : SpeedTestManager) : Prop :=
  ∀ (k : ℕ) (task : TestTask), s.tasks[k]? = some task → task.isCancelled = false →
    s.testTask = some k ∧ k + 1 = s.tasks.length

/-- Every task has been cancelled. -/
def AllCancelled (s : SpeedTestManager) : Prop :=
  ∀ (k : ℕ) (task : TestTask), s.tasks[k]? = some task → task.isCancelled = true

@[simp] lemma published_cancelTestTask (s : SpeedTestManager) : s.cancelTestTask.published = s.published := by
  unfold cancelTestTask
  cases s.testTask <;> rfl

/-- `testTask` is cancelled, and the others have been before. -/
lemma Inv.allCancelled {s : SpeedTestManager} (h : s.Inv) : s.cancelTestTask.AllCancelled := by
  intro k task htask
  unfold cancelTestTask at htask
  cases hk : s.testTask with
  | none =>
    rw [hk] at htask
    by_contra hcancelled
    have hlatest := (h k task htask (Bool.not_eq_true _ ▸ hcancelled)).1
    rw [hk] at hlatest
    cases hlatest
  | some j =>
    simp only [hk, List.getElem?_modify] at htask
    split_ifs at htask with hj
    · obtain ⟨old, -, rfl⟩ := Option.map_eq_some_iff.1 htask
      rfl
    · rw [Option.map_eq_map, Option.map_id'] at htask
      by_contra hcancelled
      have hlatest := (h k task htask (Bool.not_eq_true _ ▸ hcancelled)).1
      rw [hk] at hlatest
      exact hj (Option.some.inj hlatest)

/-- A task that goes on is as much cancelled as before. -/
lemma isCancelled_of_step {s t : SpeedTestManager} {j : ℕ} {answer : Answer} (hstep : s.step (.resume j answer) = some t)
    {k : ℕ} {task : TestTask} (htask : t.tasks[k]? = some task) :
    ∃ old, s.tasks[k]? = some old ∧ old.isCancelled = task.isCancelled := by
  obtain ⟨old, hold, hnext⟩ := Option.bind_eq_some_iff.1 hstep
  obtain ⟨next, -, rfl⟩ := Option.map_eq_some_iff.1 hnext
  by_cases hjk : j = k
  · subst hjk
    obtain ⟨hj, -⟩ := List.getElem?_eq_some_iff.1 hold
    simp only [List.getElem?_set_self hj, Option.some.injEq] at htask
    exact ⟨old, hold, by rw [← htask]⟩
  · simp only [List.getElem?_set_ne hjk] at htask
    exact ⟨task, htask, rfl⟩

lemma length_of_resume {s t : SpeedTestManager} {j : ℕ} {answer : Answer}
    (hstep : s.step (.resume j answer) = some t) :
    t.tasks.length = s.tasks.length ∧ t.testTask = s.testTask := by
  obtain ⟨old, -, hnext⟩ := Option.bind_eq_some_iff.1 hstep
  obtain ⟨next, -, rfl⟩ := Option.map_eq_some_iff.1 hnext
  exact ⟨List.length_set .., rfl⟩

lemma AllCancelled.inv {s : SpeedTestManager} (h : s.AllCancelled) : s.Inv := by
  intro k task htask hcancelled
  rw [h k task htask] at hcancelled
  cases hcancelled

/-- **One step.** -/
lemma Inv.step {s t : SpeedTestManager} {a : Action} (h : s.Inv) (hstep : s.step a = some t) : t.Inv := by
  cases a with
  | startTest =>
    obtain rfl := Option.some.inj hstep
    intro k task htask hcancelled
    have hall := h.allCancelled
    simp only [startTest] at htask ⊢
    by_cases hk : k < s.cancelTestTask.tasks.length
    · rw [List.getElem?_append_left hk] at htask
      rw [hall k task htask] at hcancelled
      cases hcancelled
    · have hlast : k = s.cancelTestTask.tasks.length := by
        have hlt := (List.getElem?_eq_some_iff.1 htask).1
        rw [List.length_append, List.length_singleton] at hlt
        omega
      rw [hlast, List.length_append, List.length_singleton]
      exact ⟨rfl, rfl⟩
  | cancel =>
    obtain rfl := Option.some.inj hstep
    exact AllCancelled.inv h.allCancelled
  | reset =>
    obtain rfl := Option.some.inj hstep
    exact AllCancelled.inv h.allCancelled
  | resume j answer =>
    intro k task htask hcancelled
    obtain ⟨old, hold, hsame⟩ := isCancelled_of_step hstep htask
    obtain ⟨hlength, htestTask⟩ := length_of_resume hstep
    rw [hlength, htestTask]
    exact h k old hold (hsame.trans hcancelled)

/-- A cancelled task leaves alone what is published. -/
lemma published_of_cancelled {s t : SpeedTestManager} {k : ℕ} {answer : Answer} {task : TestTask}
    (htask : s.tasks[k]? = some task) (hcancelled : task.isCancelled = true)
    (hharmless : s.Harmless (.resume k answer)) (hstep : s.step (.resume k answer) = some t) :
    t.published = s.published := by
  obtain ⟨hidle, hat⟩ := hharmless task htask hcancelled
  obtain ⟨task', htask', hnext⟩ := Option.bind_eq_some_iff.1 hstep
  obtain rfl : task' = task := Option.some.inj (htask'.symm.trans htask)
  obtain ⟨next, hresume, rfl⟩ := Option.map_eq_some_iff.1 hnext
  rw [hcancelled] at hresume
  exact resume_of_harmless hidle hat hresume

/-- **After `cancel`** nothing changes but by `reset` until the next `startTest`. -/
lemma quiet_run {Q : Published → Prop} (hcancel : ∀ p, Q p → Q { p with state := .idle })
    (hreset : ∀ p, Q p → Q p.clearResults) {s t : SpeedTestManager} {as : List Action} (hall : s.AllCancelled)
    (hs : Q s.published) (hstart : .startTest ∉ as) (hharmless : Along step Harmless s as)
    (hrun : run step s as = some t) : Q t.published := by
  have hinv : t.AllCancelled ∧ Q t.published := by
    have hsteps : Along step (fun s a => s.Harmless a ∧ a ≠ .startTest) s as := by
      refine along_iff.2 fun before a after u heq hu => ⟨along_iff.1 hharmless before a after u heq hu, ?_⟩
      rintro rfl
      exact hstart (by rw [heq]; simp)
    refine run_invariant (P := fun s => s.AllCancelled ∧ Q s.published) ?_ ⟨hall, hs⟩ hsteps hrun
    rintro u a v ⟨hu, hq⟩ ⟨hharmless, hne⟩ hstep
    cases a with
    | startTest => exact absurd rfl hne
    | cancel =>
      obtain rfl := Option.some.inj hstep
      refine ⟨hu.inv.allCancelled, ?_⟩
      exact hcancel _ hq
    | reset =>
      obtain rfl := Option.some.inj hstep
      refine ⟨hu.inv.allCancelled, ?_⟩
      exact hreset _ (hcancel _ hq)
    | resume k answer =>
      refine ⟨?_, ?_⟩
      · intro j task htask
        obtain ⟨old, hold, hsame⟩ := isCancelled_of_step hstep htask
        exact hsame.symm.trans (hu j old hold)
      · obtain ⟨task, htask, -⟩ := Option.bind_eq_some_iff.1 hstep
        rw [published_of_cancelled htask (hu k task htask) hharmless hstep]
        exact hq
  exact hinv.2

/-- **A cancelled test does not touch a later one**, in every run in which the tasks that have been
cancelled go on harmlessly. -/
theorem untouched_of_run {as : List Action} (hharmless : Along step Harmless {} as) : Untouched as := by
  have hinv : ∀ {before s}, run step {} before = some s → s.Inv := by
    intro before s hs
    refine run_invariant_of_step (fun s a t h => Inv.step h) ?_ hs
    intro k task htask
    cases htask
  -- the part of the run behind a call
  have hbehind : ∀ {s} before between after, as = before ++ between ++ after → run step {} before = some s →
      Along step Harmless s between := by
    rintro s before between after rfl hs
    refine along_iff.2 fun first a rest u heq hu => along_iff.1 hharmless (before ++ first) a (rest ++ after) u ?_ ?_
    · simp [heq]
    · exact run_append.2 ⟨s, hs, hu⟩
  refine ⟨?_, ?_, ?_⟩
  · rintro before a after s t heq hs hstep hne
    cases a with
    | startTest => trivial
    | cancel => trivial
    | reset => trivial
    | resume k answer =>
      obtain ⟨task, htask, -⟩ := Option.bind_eq_some_iff.1 hstep
      cases hcancelled : task.isCancelled with
      | false => exact ⟨(hinv hs k task htask hcancelled).2, task, htask, hcancelled⟩
      | true =>
        have hsame := published_of_cancelled htask hcancelled (along_iff.1 hharmless before _ after s heq hs) hstep
        exact absurd hsame hne
  · rintro before between after t heq hstart hrun
    obtain ⟨s, hs, hrest⟩ := run_append.1 hrun
    obtain ⟨u, hu, hbetween⟩ := run_cons.1 hrest
    obtain rfl := Option.some.inj hu
    refine quiet_run (Q := fun p => p.state = .idle) (fun p _ => rfl) (fun p h => h) (s := s.cancel) ?_ rfl hstart
      ?_ hbetween
    · exact (hinv hs).allCancelled
    · have hcall : run step {} (before ++ [.cancel]) = some s.cancel :=
        run_append.2 ⟨s, hs, run_cons.2 ⟨_, rfl, rfl⟩⟩
      exact hbehind _ between after (by simp [heq]) hcall
  · rintro before between after t heq hstart hrun
    obtain ⟨s, hs, hrest⟩ := run_append.1 hrun
    obtain ⟨u, hu, hbetween⟩ := run_cons.1 hrest
    obtain rfl := Option.some.inj hu
    refine quiet_run (Q := fun p => p = {}) ?_ ?_ (s := s.reset) ?_ rfl hstart ?_ hbetween
    · rintro p rfl
      rfl
    · rintro p rfl
      rfl
    · exact (hinv hs).allCancelled
    · have hcall : run step {} (before ++ [.reset]) = some s.reset :=
        run_append.2 ⟨s, hs, run_cons.2 ⟨_, rfl, rfl⟩⟩
      exact hbehind _ between after (by simp [heq]) hcall

/-- A test that is cancelled at its first request. -/
def cancelled : List Action := [.startTest, .resume 0 (.begun none none), .cancel]

/-- The request comes back with `URLError.cancelled`. -/
theorem not_untouched_urlError : ¬∀ as : List Action, Untouched as := by
  intro h
  have hidle := (h (cancelled ++ [.resume 0 (.failure (.other "cancelled"))])).idle
    [.startTest, .resume 0 (.begun none none)] [.resume 0 (.failure (.other "cancelled"))] [] _ rfl (by simp) rfl
  cases hidle

/-- It comes back with `CancellationError`, before the next test is started. -/
theorem untouched_cancellationError :
    ∃ t, run step {} (cancelled ++
        [.resume 0 (.failure .cancellationError), .startTest, .resume 1 (.begun none none)]) = some t ∧
      Untouched (cancelled ++
        [.resume 0 (.failure .cancellationError), .startTest, .resume 1 (.begun none none)]) := by
  refine ⟨_, rfl, untouched_of_run ?_⟩
  refine ⟨trivial, ?_⟩
  rintro _ ⟨⟩
  refine ⟨?_, ?_⟩
  · rintro task ⟨⟩ hcancelled
    cases hcancelled
  rintro _ ⟨⟩
  refine ⟨trivial, ?_⟩
  rintro _ ⟨⟩
  -- the task that has been cancelled
  refine ⟨?_, ?_⟩
  · rintro task ⟨⟩ -
    exact ⟨rfl, trivial⟩
  rintro _ ⟨⟩
  refine ⟨trivial, ?_⟩
  rintro _ ⟨⟩
  refine ⟨?_, fun _ _ => trivial⟩
  rintro task ⟨⟩ hcancelled
  cases hcancelled

end SpeedTestManager

end FreeVPN.SpeedTest
