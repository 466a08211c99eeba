import SpatialWorkers.Dispatcher
import SpatialWorkers.PollingLoops
import SpatialWorkers.StandardLibrary

/-!
# The two workers once connected

From the moment the connection future resolves, `Managed` and `External` run
the same program up to three values: the text in front of a remote log line,
the line that reports the connection, and what follows `Process` in the loop.
A session holds the local `is_connected` and the observable events in order:
lines written to the console and calls made on the connection.
-/
namespace SpatialWorkers
open PollingLoops Improbable

inductive Stream
  | stdout
  | stderr
  deriving DecidableEq, Repr

/-- A call of the connection; a component update is one of `Position`. -/
inductive ConnectionCall
  | sendLogMessage (level : LogLevel) (loggerName message : String)
  | isConnected
  | getOpList (timeoutMillis : ℕ)
  | sendComponentUpdate (entityId : EntityId) (coords : Coordinates)
  deriving DecidableEq, Repr

inductive Event
  | write (stream : Stream) (line : String)
  | call (c : ConnectionCall)
  deriving DecidableEq, Repr

namespace Event

def isWrite : Event → Bool
  | write _ _ => true
  | call _ => false

def isCall (e : Event) : Bool := !e.isWrite

end Event

structure Session where
  isConnected : Bool
  trace : List Event
  deriving DecidableEq, Repr

namespace Session

def write (s : Session) (stream : Stream) (line : String) : Session :=
  { s with trace := s.trace ++ [.write stream line] }

def call (s : Session) (c : ConnectionCall) : Session :=
  { s with trace := s.trace ++ [.call c] }

@[simp] theorem isConnected_call (s : Session) (c : ConnectionCall) :
    (s.call c).isConnected = s.isConnected := rfl

@[simp] theorem trace_write (s : Session) (stream : Stream) (line : String) :
    (s.write stream line).trace = s.trace ++ [.write stream line] := rfl

@[simp] theorem trace_call (s : Session) (c : ConnectionCall) :
    (s.call c).trace = s.trace ++ [.call c] := rfl

end Session

def errorExitStatus : ℤ := 1
def kLoggerName : String := "startup.cc"
def kGetOpListTimeoutInMilliseconds : ℕ := 100

/-- A statement of the loop body behind `Process`. -/
inductive TailStep
  | sleepFor (millis : ℕ)
  | sendPosition (entityId : EntityId) (coords : Coordinates)
  deriving DecidableEq, Repr

def TailStep.exec : TailStep → Session → Session
  | sleepFor _, s => s
  | sendPosition entityId coords, s => s.call (.sendComponentUpdate entityId coords)

def TailStep.execAll (steps : List TailStep) (s : Session) : Session :=
  steps.foldl (fun s step => step.exec s) s

structure Worker where
  remotePrefix : String
  connectedLine : Option String
  loopTail : List TailStep

def managed : Worker where
  remotePrefix := "[remote] "
  connectedLine := some "[local] Connected successfully to SpatialOS, listening to ops... "
  loopTail := [.sleepFor 1000, .sendPosition 1 (.ofNat 0 0 0), .sendPosition 1 (.ofNat 5 5 5)]

def external : Worker where
  remotePrefix := "Connection: "
  connectedLine := none
  loopTail := []

/-- The line that the `OnDisconnect` callback writes to `std::cerr`. -/
def disconnectLine (reason : String) : String := "[disconnect] " ++ reason

def fatalLine (message : String) : String := "Fatal error: " ++ message

def disconnectCallback : Callback Session DisconnectOp := fun op s =>
  .ok { s.write .stderr (disconnectLine op.reason) with isConnected := false }

namespace Worker

variable (w : Worker)

def logMessageCallback : Callback Session LogMessageOp := fun op s =>
  if op.level = .kFatal then .error (s.write .stderr (fatalLine op.message))
  else .ok (s.write .stdout (w.remotePrefix ++ op.message))

/-- The dispatcher with both callbacks registered. -/
def dispatcher : Dispatcher Session :=
  (Dispatcher.new.onDisconnect disconnectCallback).onLogMessage w.logMessageCallback

def reportConnected (s : Session) : Session :=
  match w.connectedLine with
  | some line => if s.isConnected then s.write .stdout line else s
  | none => s

/-- Everything before the loop, given what `IsConnected()` answers. -/
def prologue (connected : Bool) : Session :=
  let s : Session := ⟨false, []⟩
  let s := s.call (.sendLogMessage .kInfo kLoggerName "Connected successfully")
  w.reportConnected { s.call .isConnected with isConnected := connected }

theorem isConnected_reportConnected (s : Session) :
    (w.reportConnected s).isConnected = s.isConnected := by
  unfold reportConnected
  split
  · split_ifs <;> rfl
  · rfl

@[simp] theorem isConnected_prologue (connected : Bool) :
    (w.prologue connected).isConnected = connected := w.isConnected_reportConnected _

/-- One iteration, given what `GetOpList` returns. -/
def loopBody (d : Dispatcher Session) (s : Session) (ops : OpList) : Except Session Session :=
  (d.process ops (s.call (.getOpList kGetOpListTimeoutInMilliseconds))).map
    (TailStep.execAll w.loopTail)

/-- `while (is_connected)`, given what the successive calls of `GetOpList` return. -/
def mainLoop (d : Dispatcher Session) (s : Session) (opLists : List OpList) :
    Polled Session Session Op :=
  pollLoop Session.isConnected (w.loopBody d) s opLists

def main (connected : Bool) (opLists : List OpList) : Polled Session Session Op :=
  w.mainLoop w.dispatcher (w.prologue connected) opLists

end Worker

/-- The session in which a run was left. -/
def lastSession (outcome : Outcome Session Session) : Session := outcome.elim id id

/-- How a run ends: still polling, `main` returned, or `std::terminate`. -/
inductive Ending
  | polls
  | returns (status : ℤ)
  | terminates
  deriving DecidableEq, Repr

/-- `return ErrorExitStatus` is what follows the loop. -/
def ending : Outcome Session Session → Ending
  | .polling _ => .polls
  | .stopped _ => .returns errorExitStatus
  | .aborted _ => .terminates

section Dispatching

variable (w : Worker)

/-- What the callbacks write for one op. -/
def Worker.writeOf : Op → Option Event
  | .disconnect op => some (.write .stderr (disconnectLine op.reason))
  | .logMessage op =>
    if op.level = .kFatal then some (.write .stderr (fatalLine op.message))
    else some (.write .stdout (w.remotePrefix ++ op.message))
  | _ => none

theorem Worker.isWrite_of_writeOf {op : Op} {e : Event} (h : w.writeOf op = some e) :
    e.isWrite = true := by
  cases op with
  | disconnect op =>
    obtain rfl := Option.some.inj h
    rfl
  | logMessage op =>
    simp only [writeOf] at h
    split_ifs at h <;> (obtain rfl := Option.some.inj h; rfl)
  | _ => cases h

theorem Worker.isWrite_of_mem_writes {ops : OpList} {e : Event}
    (h : e ∈ ops.filterMap w.writeOf) : e.isWrite = true := by
  obtain ⟨op, -, hwrite⟩ := List.mem_filterMap.mp h
  exact w.isWrite_of_writeOf hwrite

/-- The effect of the callbacks on the session, termination aside. -/
def Worker.act (s : Session) (op : Op) : Session :=
  ⟨s.isConnected && !op.isDisconnect, s.trace ++ (w.writeOf op).toList⟩

theorem Worker.handle_eq (s : Session) (op : Op) :
    w.dispatcher.handle s op =
      if op.isFatal then .error (w.act s op) else .ok (w.act s op) := by
  rw [Worker.dispatcher, Dispatcher.handle_registered]
  cases op with
  | disconnect op =>
    simp [disconnectCallback, act, writeOf, Session.write, Op.isFatal, Op.isDisconnect]
  | logMessage op =>
    by_cases hlevel : op.level = .kFatal <;>
      simp [logMessageCallback, act, writeOf, Session.write, Op.isFatal, Op.isDisconnect, hlevel]
  | _ => simp [act, writeOf, Op.isFatal, Op.isDisconnect]

theorem Worker.foldl_act (ops : OpList) (s : Session) :
    ops.foldl w.act s =
      ⟨s.isConnected && !ops.any Op.isDisconnect, s.trace ++ ops.filterMap w.writeOf⟩ := by
  induction ops generalizing s with
  | nil => simp
  | cons op ops ih =>
    rw [List.foldl_cons, ih]
    cases hop : w.writeOf op <;> simp [act, hop, Bool.and_assoc]

/-- A list without a fatal log message is dispatched to its end. -/
theorem Worker.process_quiet {ops : OpList} (hops : ∀ op ∈ ops, op.isFatal = false) (s : Session) :
    w.dispatcher.process ops s = .ok (ops.foldl w.act s) := by
  induction ops generalizing s with
  | nil => rfl
  | cons op ops ih =>
    have hop : op.isFatal = false := hops op List.mem_cons_self
    rw [Dispatcher.process_cons, w.handle_eq, hop]
    exact ih (fun op h => hops op (List.mem_cons_of_mem _ h)) (w.act s op)

/-- A fatal log message ends the dispatch and the process. -/
theorem Worker.process_fatal {front : OpList} (hfront : ∀ op ∈ front, op.isFatal = false)
    {op : Op} (hop : op.isFatal = true) (back : OpList) (s : Session) :
    w.dispatcher.process (front ++ op :: back) s = .error (w.act (front.foldl w.act s) op) := by
  have hlast : w.dispatcher.process (op :: back) (front.foldl w.act s) =
      .error (w.act (front.foldl w.act s) op) := by
    rw [Dispatcher.process_cons, w.handle_eq, hop]
    rfl
  rw [Dispatcher.process_append, w.process_quiet hfront]
  exact hlast

/-- Either no op is fatal, or there is a first one that is. -/
theorem quiet_or_fatal (ops : OpList) :
    (∀ op ∈ ops, op.isFatal = false) ∨
      ∃ front op back, ops = front ++ op :: back ∧ (∀ op ∈ front, op.isFatal = false) ∧
        op.isFatal = true := by
  cases hfind : ops.find? Op.isFatal with
  | none => exact Or.inl (by simpa using hfind)
  | some op =>
    obtain ⟨hop, front, back, hsplit, hfront⟩ := List.find?_eq_some_iff_append.mp hfind
    exact Or.inr ⟨front, op, back, hsplit, by simpa using hfront, hop⟩

theorem Worker.act_foldl (front : OpList) {op : Op} (hop : op.isFatal = true) (s : Session) :
    w.act (front.foldl w.act s) op =
      ⟨s.isConnected && !front.any Op.isDisconnect,
        s.trace ++ (front ++ [op]).filterMap w.writeOf⟩ := by
  rw [w.foldl_act, act, Op.not_isDisconnect_of_isFatal hop]
  cases hwrite : w.writeOf op <;> simp [hwrite]

end Dispatching

section Iterations

variable (w : Worker)

/-- The call that a statement of the loop tail makes. -/
def TailStep.event? : TailStep → Option Event
  | sleepFor _ => none
  | sendPosition entityId coords => some (.call (.sendComponentUpdate entityId coords))

theorem TailStep.exists_of_mem_events {steps : List TailStep} {e : Event}
    (h : e ∈ steps.filterMap event?) :
    ∃ entityId coords, e = .call (.sendComponentUpdate entityId coords) := by
  obtain ⟨step, -, hstep⟩ := List.mem_filterMap.mp h
  cases step with
  | sleepFor millis => cases hstep
  | sendPosition entityId coords => exact ⟨entityId, coords, (Option.some.inj hstep).symm⟩

theorem TailStep.execAll_eq (steps : List TailStep) (s : Session) :
    execAll steps s = ⟨s.isConnected, s.trace ++ steps.filterMap event?⟩ := by
  induction steps generalizing s with
  | nil => simp [execAll]
  | cons step steps ih =>
    have hrest := ih (step.exec s)
    unfold execAll at hrest ⊢
    rw [List.foldl_cons, hrest, List.filterMap_cons]
    cases step <;> simp [exec, event?, Session.call]

/-- The session after an iteration whose op list holds no fatal log message. -/
def Worker.iterate (s : Session) (ops : OpList) : Session :=
  ⟨s.isConnected && !ops.any Op.isDisconnect,
    s.trace ++ .call (.getOpList kGetOpListTimeoutInMilliseconds) ::
      (ops.filterMap w.writeOf ++ w.loopTail.filterMap TailStep.event?)⟩

/-- The session in which an iteration terminates: `op` is the first fatal log
message of the list, `front` what stands before it. -/
def Worker.abort (s : Session) (front : OpList) (op : Op) : Session :=
  ⟨s.isConnected && !front.any Op.isDisconnect,
    s.trace ++ .call (.getOpList kGetOpListTimeoutInMilliseconds) ::
      (front ++ [op]).filterMap w.writeOf⟩

theorem Worker.loopBody_quiet {ops : OpList} (hops : ∀ op ∈ ops, op.isFatal = false)
    (s : Session) : w.loopBody w.dispatcher s ops = .ok (w.iterate s ops) := by
  rw [loopBody, w.process_quiet hops, w.foldl_act]
  simp [Except.map, TailStep.execAll_eq, iterate]

theorem Worker.loopBody_fatal {front : OpList} (hfront : ∀ op ∈ front, op.isFatal = false)
    {op : Op} (hop : op.isFatal = true) (back : OpList) (s : Session) :
    w.loopBody w.dispatcher s (front ++ op :: back) = .error (w.abort s front op) := by
  rw [loopBody, w.process_fatal hfront hop, w.act_foldl front hop]
  simp [Except.map, abort]

theorem Worker.loopBody_eq_ok {s s' : Session} {ops : OpList} :
    w.loopBody w.dispatcher s ops = .ok s' ↔
      (∀ op ∈ ops, op.isFatal = false) ∧ s' = w.iterate s ops := by
  constructor
  · intro h
    rcases quiet_or_fatal ops with hquiet | ⟨front, op, back, rfl, hfront, hop⟩
    · rw [w.loopBody_quiet hquiet] at h
      exact ⟨hquiet, (Except.ok.inj h).symm⟩
    · rw [w.loopBody_fatal hfront hop] at h
      cases h
  · rintro ⟨hquiet, rfl⟩
    exact w.loopBody_quiet hquiet s

theorem Worker.loopBody_eq_error {s e : Session} {ops : OpList}
    (h : w.loopBody w.dispatcher s ops = .error e) :
    ∃ front op back, ops = front ++ op :: back ∧ (∀ op ∈ front, op.isFatal = false) ∧
      op.isFatal = true ∧ e = w.abort s front op := by
  rcases quiet_or_fatal ops with hquiet | ⟨front, op, back, rfl, hfront, hop⟩
  · rw [w.loopBody_quiet hquiet] at h
    cases h
  · rw [w.loopBody_fatal hfront hop] at h
    exact ⟨front, op, back, rfl, hfront, hop, (Except.error.inj h).symm⟩

end Iterations

end SpatialWorkers
