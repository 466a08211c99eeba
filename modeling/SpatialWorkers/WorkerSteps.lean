import SpatialWorkers.Batching
import SpatialWorkers.LabelledRuns

/-!
# The workers statement by statement

`Worker.step` executes one statement of `main` at a time, from the moment the
connection future resolves; the two statements that ask the connection for
something carry its answer as a label. A run of these steps computes what
`Worker.main` computes from the answers it received.
-/
namespace SpatialWorkers
open PollingLoops LabelledRuns

/-- The statement that `main` executes next. -/
inductive Pc
  | sendLogMessage
  | sampleConnected
  | onDisconnect
  | onLogMessage
  | reportConnected
  | loopTest
  | getOpList
  | process (ops : OpList)
  | loopTail (steps : List TailStep)
  | returned (status : ℤ)
  | terminated
  deriving DecidableEq, Repr

/-- `IsConnected()` has not been asked yet. -/
def Pc.beforeSample : Pc → Bool
  | sendLogMessage | sampleConnected => true
  | _ => false

structure Machine where
  pc : Pc
  session : Session
  dispatcher : Dispatcher Session

/-- A statement of the worker's own, or one that the connection answers. -/
inductive Act
  | own
  | isConnected (answer : Bool)
  | getOpList (ops : OpList)
  deriving DecidableEq, Repr

namespace Act

def answer? : Act → Option Bool
  | isConnected answer => some answer
  | _ => none

def opList? : Act → Option OpList
  | getOpList ops => some ops
  | _ => none

end Act

/-- What the first `IsConnected()` answered. -/
def sampled (acts : List Act) : Bool := (acts.filterMap Act.answer?).headD false

/-- What the calls of `GetOpList` returned. -/
def received (acts : List Act) : List OpList := acts.filterMap Act.opList?

namespace Worker

variable (w : Worker)

def start : Machine := ⟨.sendLogMessage, ⟨false, []⟩, .new⟩

/-- A statement that needs no answer. -/
def ownStep (m : Machine) : Option Machine :=
  match m.pc with
  | .sendLogMessage =>
    some { m with
      pc := .sampleConnected
      session := m.session.call (.sendLogMessage .kInfo kLoggerName "Connected successfully") }
  | .onDisconnect =>
    some { m with
      pc := .onLogMessage
      dispatcher := m.dispatcher.onDisconnect disconnectCallback }
  | .onLogMessage =>
    some { m with
      pc := .reportConnected
      dispatcher := m.dispatcher.onLogMessage w.logMessageCallback }
  | .reportConnected => some { m with pc := .loopTest, session := w.reportConnected m.session }
  | .loopTest =>
    if m.session.isConnected then some { m with pc := .getOpList }
    else some { m with pc := .returned errorExitStatus }
  | .process [] => some { m with pc := .loopTail w.loopTail }
  | .process (op :: ops) =>
    match m.dispatcher.handle m.session op with
    | .ok s => some { m with pc := .process ops, session := s }
    | .error s => some { m with pc := .terminated, session := s }
  | .loopTail [] => some { m with pc := .loopTest }
  | .loopTail (step :: steps) =>
    some { m with pc := .loopTail steps, session := step.exec m.session }
  | _ => none

def step (m : Machine) : Act → Option Machine
  | .own => w.ownStep m
  | .isConnected answer =>
    if m.pc = .sampleConnected then
      some { m with
        pc := .onDisconnect
        session := { m.session.call .isConnected with isConnected := answer } }
    else none
  | .getOpList ops =>
    if m.pc = .getOpList then
      some { m with
        pc := .process ops
        session := m.session.call (.getOpList kGetOpListTimeoutInMilliseconds) }
    else none

/-- The loop from behind `Process` and the statements of its tail. -/
def resume (d : Dispatcher Session) (opLists : List OpList) :
    Except Session Session → Polled Session Session Op
  | .ok s => w.mainLoop d s opLists
  | .error s => ⟨.aborted s, opLists⟩

/-- What is left of `main` at a statement, given the answers still to come. -/
def finish (m : Machine) (acts : List Act) : Polled Session Session Op :=
  let d := m.dispatcher
  let s := m.session
  let withLog (d : Dispatcher Session) := d.onLogMessage w.logMessageCallback
  let withBoth (d : Dispatcher Session) := withLog (d.onDisconnect disconnectCallback)
  let sample (s : Session) := { s.call .isConnected with isConnected := sampled acts }
  match m.pc with
  | .sendLogMessage =>
    let s := s.call (.sendLogMessage .kInfo kLoggerName "Connected successfully")
    w.mainLoop (withBoth d) (w.reportConnected (sample s)) (received acts)
  | .sampleConnected => w.mainLoop (withBoth d) (w.reportConnected (sample s)) (received acts)
  | .onDisconnect => w.mainLoop (withBoth d) (w.reportConnected s) (received acts)
  | .onLogMessage => w.mainLoop (withLog d) (w.reportConnected s) (received acts)
  | .reportConnected => w.mainLoop d (w.reportConnected s) (received acts)
  | .loopTest => w.mainLoop d s (received acts)
  | .getOpList =>
    match received acts with
    | [] => ⟨.polling s, []⟩
    | ops :: rest => w.resume d rest (w.loopBody d s ops)
  | .process ops =>
    w.resume d (received acts) ((d.process ops s).map (TailStep.execAll w.loopTail))
  | .loopTail steps => w.mainLoop d (TailStep.execAll steps s) (received acts)
  | .returned _ => ⟨.stopped s, received acts⟩
  | .terminated => ⟨.aborted s, received acts⟩

theorem mainLoop_cons {d : Dispatcher Session} {s : Session} (hs : s.isConnected = true)
    (ops : OpList) (rest : List OpList) :
    w.mainLoop d s (ops :: rest) = w.resume d rest (w.loopBody d s ops) := by
  cases hbody : w.loopBody d s ops with
  | ok s' => exact pollLoop_ok hs hbody rest
  | error e => exact pollLoop_error hs hbody rest

/-- A statement without an answer takes `main` one step on. -/
theorem finish_ownStep {m m' : Machine} (h : w.ownStep m = some m') (acts : List Act) :
    w.finish m acts = w.finish m' acts := by
  obtain ⟨pc, s, d⟩ := m
  cases pc with
  | loopTest =>
    cases hs : s.isConnected with
    | false =>
      obtain rfl : (⟨.returned errorExitStatus, s, d⟩ : Machine) = m' := by
        simpa [ownStep, hs] using h
      exact pollLoop_closed hs (received acts)
    | true =>
      obtain rfl : (⟨.getOpList, s, d⟩ : Machine) = m' := by simpa [ownStep, hs] using h
      cases hacts : received acts with
      | nil => simpa [finish, hacts, mainLoop] using pollLoop_nil hs
      | cons ops rest => simpa [finish, hacts] using w.mainLoop_cons hs ops rest
  | process ops =>
    cases ops with
    | nil =>
      obtain rfl := Option.some.inj h
      rfl
    | cons op ops =>
      cases hop : d.handle s op with
      | ok s' =>
        obtain rfl : (⟨.process ops, s', d⟩ : Machine) = m' := by simpa [ownStep, hop] using h
        simp [finish, hop, Except.bind]
      | error e =>
        obtain rfl : (⟨.terminated, e, d⟩ : Machine) = m' := by simpa [ownStep, hop] using h
        simp [finish, hop, Except.bind, Except.map, resume]
  | loopTail steps =>
    cases steps with
    | nil =>
      obtain rfl := Option.some.inj h
      rfl
    | cons step steps =>
      obtain rfl := Option.some.inj h
      rfl
  | sampleConnected => cases h
  | getOpList => cases h
  | returned status => cases h
  | terminated => cases h
  | _ =>
    obtain rfl := Option.some.inj h
    rfl

theorem step_isConnected {m m' : Machine} {answer : Bool} :
    w.step m (.isConnected answer) = some m' ↔ m.pc = .sampleConnected ∧
      m' = { m with
        pc := .onDisconnect
        session := { m.session.call .isConnected with isConnected := answer } } := by
  simp only [step]
  split_ifs with hpc
  · exact ⟨fun h => ⟨hpc, (Option.some.inj h).symm⟩, fun h => congrArg some h.2.symm⟩
  · exact iff_of_false (fun h => by cases h) (fun h => hpc h.1)

theorem step_getOpList {m m' : Machine} {ops : OpList} :
    w.step m (.getOpList ops) = some m' ↔ m.pc = .getOpList ∧
      m' = { m with
        pc := .process ops
        session := m.session.call (.getOpList kGetOpListTimeoutInMilliseconds) } := by
  simp only [step]
  split_ifs with hpc
  · exact ⟨fun h => ⟨hpc, (Option.some.inj h).symm⟩, fun h => congrArg some h.2.symm⟩
  · exact iff_of_false (fun h => by cases h) (fun h => hpc h.1)

theorem finish_step {m m' : Machine} {a : Act} {acts : List Act} (h : w.step m a = some m') :
    w.finish m (a :: acts) = w.finish m' acts := by
  obtain ⟨pc, s, d⟩ := m
  cases a with
  | own => exact w.finish_ownStep h acts
  | isConnected answer =>
    obtain ⟨hpc, rfl⟩ := w.step_isConnected.mp h
    obtain rfl : pc = .sampleConnected := hpc
    rfl
  | getOpList ops =>
    obtain ⟨hpc, rfl⟩ := w.step_getOpList.mp h
    obtain rfl : pc = .getOpList := hpc
    rfl

/-- The run of a worker up to its return is a run of `main` on the answers it
received; no op list stays unread. -/
theorem main_of_run {acts : List Act} {m : Machine} (h : run w.step start acts = some m) :
    w.main (sampled acts) (received acts) = w.finish m [] := by
  have hfinish := run_completion w.finish (fun _ _ _ _ hstep => w.finish_step hstep) h []
  rw [List.append_nil] at hfinish
  exact hfinish

theorem main_of_run_returned {acts : List Act} {m : Machine} {status : ℤ}
    (h : run w.step start acts = some m) (hret : m.pc = .returned status) :
    w.main (sampled acts) (received acts) = ⟨.stopped m.session, []⟩ := by
  rw [w.main_of_run h]
  simp [finish, hret, received]

/-- A statement without an answer stays on its side of the sample, and `main`
returns `ErrorExitStatus` and nothing else. -/
theorem ownStep_pc {m m' : Machine} (h : w.ownStep m = some m') :
    m'.pc.beforeSample = m.pc.beforeSample ∧
      ∀ status, m'.pc = .returned status → status = errorExitStatus := by
  obtain ⟨pc, s, d⟩ := m
  cases pc with
  | loopTest =>
    simp only [ownStep] at h
    split_ifs at h
    · obtain rfl := Option.some.inj h
      simp [Pc.beforeSample]
    · obtain rfl := Option.some.inj h
      simp [Pc.beforeSample]
  | process ops =>
    cases ops with
    | nil =>
      obtain rfl := Option.some.inj h
      simp [Pc.beforeSample]
    | cons op ops =>
      simp only [ownStep] at h
      cases hop : d.handle s op <;>
        (rw [hop] at h; obtain rfl := Option.some.inj h; simp [Pc.beforeSample])
  | loopTail steps =>
    cases steps with
    | nil =>
      obtain rfl := Option.some.inj h
      simp [Pc.beforeSample]
    | cons step steps =>
      obtain rfl := Option.some.inj h
      simp [Pc.beforeSample]
  | sampleConnected => cases h
  | getOpList => cases h
  | returned status => cases h
  | terminated => cases h
  | _ =>
    obtain rfl := Option.some.inj h
    simp [Pc.beforeSample]

/-- A worker that has left the statements before the sample has sampled, and if
it has returned, then with `ErrorExitStatus`. -/
theorem run_pc {acts : List Act} {m : Machine} (h : run w.step start acts = some m) :
    (m.pc.beforeSample = false → ∃ answer, .isConnected answer ∈ acts) ∧
      ∀ status, m.pc = .returned status → status = errorExitStatus := by
  refine run_history (P := fun acts m =>
    (m.pc.beforeSample = false → ∃ answer, .isConnected answer ∈ acts) ∧
      ∀ status, m.pc = .returned status → status = errorExitStatus)
    (by simp [start, Pc.beforeSample]) ?_ h
  rintro acts m a m' ⟨hsample, -⟩ hstep
  cases a with
  | own =>
    obtain ⟨hpc, hstatus⟩ := w.ownStep_pc hstep
    refine ⟨fun hpc' => ?_, hstatus⟩
    obtain ⟨answer, hmem⟩ := hsample (hpc ▸ hpc')
    exact ⟨answer, List.mem_append_left _ hmem⟩
  | isConnected answer =>
    obtain ⟨-, rfl⟩ := w.step_isConnected.mp hstep
    exact ⟨fun _ => ⟨answer, by simp⟩, by simp⟩
  | getOpList ops =>
    obtain ⟨hpc, rfl⟩ := w.step_getOpList.mp hstep
    obtain ⟨answer, hmem⟩ := hsample (by simp [hpc, Pc.beforeSample])
    exact ⟨fun _ => ⟨answer, List.mem_append_left _ hmem⟩, by simp⟩

/-- The state in which an outcome of the loop leaves the worker. -/
def halt (d : Dispatcher Session) : Outcome Session Session → Machine
  | .polling s => ⟨.getOpList, s, d⟩
  | .stopped s => ⟨.returned errorExitStatus, s, d⟩
  | .aborted s => ⟨.terminated, s, d⟩

/-- Statement by statement, `Process` dispatches its list to the end or to the
op that terminates. -/
theorem run_process (d : Dispatcher Session) (ops : OpList) (s : Session) :
    ∃ k, run w.step ⟨.process ops, s, d⟩ (List.replicate k .own) =
      match d.process ops s with
      | .ok s' => some ⟨.loopTail w.loopTail, s', d⟩
      | .error e => some ⟨.terminated, e, d⟩ := by
  induction ops generalizing s with
  | nil => exact ⟨1, rfl⟩
  | cons op ops ih =>
    rw [Dispatcher.process_cons]
    cases hop : d.handle s op with
    | error e => exact ⟨1, by simp [step, ownStep, hop, Except.bind]⟩
    | ok s' =>
      obtain ⟨k, hk⟩ := ih s'
      refine ⟨k + 1, ?_⟩
      rw [List.replicate_succ, run_cons]
      simpa [step, ownStep, hop, Except.bind] using hk

theorem run_loopTail (d : Dispatcher Session) (steps : List TailStep) (s : Session) :
    run w.step ⟨.loopTail steps, s, d⟩ (List.replicate (steps.length + 1) .own) =
      some ⟨.loopTest, TailStep.execAll steps s, d⟩ := by
  induction steps generalizing s with
  | nil => rfl
  | cons step steps ih =>
    rw [List.length_cons, List.replicate_succ, run_cons]
    exact ih (step.exec s)

/-- One iteration, from the call of `GetOpList` back to the loop test. -/
theorem run_iteration (d : Dispatcher Session) (ops : OpList) (s : Session) :
    ∃ k, run w.step ⟨.getOpList, s, d⟩ (.getOpList ops :: List.replicate k .own) =
      match w.loopBody d s ops with
      | .ok s' => some ⟨.loopTest, s', d⟩
      | .error e => some ⟨.terminated, e, d⟩ := by
  obtain ⟨k, hk⟩ := w.run_process d ops (s.call (.getOpList kGetOpListTimeoutInMilliseconds))
  unfold loopBody
  cases hprocess : d.process ops (s.call (.getOpList kGetOpListTimeoutInMilliseconds)) with
  | error e =>
    rw [hprocess] at hk
    exact ⟨k, by rw [run_cons]; exact hk⟩
  | ok s' =>
    rw [hprocess] at hk
    refine ⟨k + (w.loopTail.length + 1), ?_⟩
    rw [List.replicate_add, ← List.cons_append, run_append, run_cons]
    have hstart : w.step ⟨.getOpList, s, d⟩ (.getOpList ops) =
        some ⟨.process ops, s.call (.getOpList kGetOpListTimeoutInMilliseconds), d⟩ := rfl
    rw [hstart, Option.bind_some, hk]
    exact w.run_loopTail d w.loopTail s'

theorem received_own (k : ℕ) : received (List.replicate k .own) = [] := by
  induction k with
  | zero => rfl
  | succ k ih => exact ih

theorem received_append (acts acts' : List Act) :
    received (acts ++ acts') = received acts ++ received acts' := List.filterMap_append

theorem received_iteration (ops : OpList) (k : ℕ) :
    received ([.own] ++ .getOpList ops :: List.replicate k .own) = [ops] :=
  congrArg (List.cons ops) (received_own k)

/-- The loop on given answers is a run that receives exactly the lists that the
loop reads. -/
theorem run_loop (d : Dispatcher Session) (opLists : List OpList) (s : Session) :
    ∃ acts, run w.step ⟨.loopTest, s, d⟩ acts = some (halt d (w.mainLoop d s opLists).outcome) ∧
      received acts ++ (w.mainLoop d s opLists).unread = opLists := by
  unfold mainLoop
  induction opLists generalizing s with
  | nil =>
    refine ⟨[.own], ?_⟩
    cases hs : s.isConnected with
    | false =>
      rw [pollLoop_closed hs]
      exact ⟨by simp [step, ownStep, hs, halt], rfl⟩
    | true =>
      rw [pollLoop_nil hs]
      exact ⟨by simp [step, ownStep, hs, halt], rfl⟩
  | cons ops opLists ih =>
    cases hs : s.isConnected with
    | false =>
      rw [pollLoop_closed hs]
      exact ⟨[.own], by simp [step, ownStep, hs, halt], rfl⟩
    | true =>
      obtain ⟨k, hk⟩ := w.run_iteration d ops s
      have htest : run w.step ⟨.loopTest, s, d⟩ [.own] = some ⟨.getOpList, s, d⟩ := by
        simp [step, ownStep, hs]
      cases hbody : w.loopBody d s ops with
      | error e =>
        rw [hbody] at hk
        rw [pollLoop_error hs hbody]
        refine ⟨[.own] ++ .getOpList ops :: List.replicate k .own, ?_, ?_⟩
        · rw [run_append, htest]
          exact hk
        · rw [received_iteration]
          rfl
      | ok s' =>
        rw [hbody] at hk
        obtain ⟨acts, hacts, hreceived⟩ := ih s'
        rw [pollLoop_ok hs hbody]
        refine ⟨([.own] ++ .getOpList ops :: List.replicate k .own) ++ acts, ?_, ?_⟩
        · rw [run_append, run_append, htest, Option.bind_some, hk]
          exact hacts
        · rw [received_append, received_iteration, List.append_assoc, hreceived]
          rfl

/-- Conversely to `main_of_run`: whatever the answers, there is a run that
receives what `main` reads of them and stops where `main` does. -/
theorem run_of_main (connected : Bool) (opLists : List OpList) :
    ∃ acts, run w.step start acts =
        some (halt w.dispatcher (w.main connected opLists).outcome) ∧
      sampled acts = connected ∧
      received acts ++ (w.main connected opLists).unread = opLists := by
  obtain ⟨acts, hrun, hreceived⟩ := w.run_loop w.dispatcher opLists (w.prologue connected)
  refine ⟨[.own, .isConnected connected, .own, .own, .own] ++ acts, ?_, rfl, ?_⟩
  · rw [run_append]
    exact hrun
  · rw [received_append]
    exact hreceived

/-- The worker has ended, or it can take a statement of its own, or it waits
for an answer and accepts any. -/
theorem step_progress (m : Machine) :
    (∃ status, m.pc = .returned status) ∨ m.pc = .terminated ∨
      (w.step m .own).isSome = true ∨
      (∀ answer, (w.step m (.isConnected answer)).isSome = true) ∨
      ∀ ops, (w.step m (.getOpList ops)).isSome = true := by
  obtain ⟨pc, s, d⟩ := m
  cases pc with
  | returned status => exact Or.inl ⟨status, rfl⟩
  | terminated => exact Or.inr (Or.inl rfl)
  | sampleConnected => exact Or.inr (Or.inr (Or.inr (Or.inl fun _ => rfl)))
  | getOpList => exact Or.inr (Or.inr (Or.inr (Or.inr fun _ => rfl)))
  | loopTest =>
    refine Or.inr (Or.inr (Or.inl ?_))
    simp only [step, ownStep]
    split_ifs <;> rfl
  | process ops =>
    refine Or.inr (Or.inr (Or.inl ?_))
    cases ops with
    | nil => rfl
    | cons op ops =>
      simp only [step, ownStep]
      cases d.handle s op <;> rfl
  | loopTail steps =>
    refine Or.inr (Or.inr (Or.inl ?_))
    cases steps <;> rfl
  | _ => exact Or.inr (Or.inr (Or.inl rfl))

end Worker

end SpatialWorkers
