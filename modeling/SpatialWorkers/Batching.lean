import SpatialWorkers.Workers

/-!
# Op lists are only a way of delivering a stream

What the callbacks write and how a run ends do not depend on how the stream of
ops was split into op lists. The reference acts on one op at a time and knows
nothing of lists, of the loop or of the calls made between the lists.
-/
namespace SpatialWorkers
open PollingLoops

/-- The lines written, without the calls between them. -/
def writes (trace : List Event) : List Event := trace.filter Event.isWrite

@[simp] theorem writes_append (t t' : List Event) : writes (t ++ t') = writes t ++ writes t' :=
  List.filter_append t t'

def isGetOpList : Event → Bool
  | .call (.getOpList _) => true
  | _ => false

def getOpListCalls (trace : List Event) : ℕ := trace.countP isGetOpList

/-- The stream one op at a time: what is written, with `remote` in front of the
remote lines, and how it ends. -/
def reference (remote : String) : OpList → List Event × Ending
  | [] => ([], .polls)
  | .disconnect op :: _ => ([.write .stderr ("[disconnect] " ++ op.reason)], .returns 1)
  | .logMessage op :: rest =>
    if op.level = .kFatal then ([.write .stderr ("Fatal error: " ++ op.message)], .terminates)
    else
      (.write .stdout (remote ++ op.message) :: (reference remote rest).1,
        (reference remote rest).2)
  | _ :: rest => reference remote rest

def NothingAfterDisconnect (ops : OpList) : Prop :=
  ∀ front op back, ops = front ++ .disconnect op :: back → back = []

/-- The reference writes what the callbacks of a worker with this text do. -/
theorem Worker.reference_cons (w : Worker) (op : Op) (ops : OpList) :
    reference w.remotePrefix (op :: ops) =
      if op.isFatal then ((w.writeOf op).toList, .terminates)
      else if op.isDisconnect then ((w.writeOf op).toList, .returns 1)
      else ((w.writeOf op).toList ++ (reference w.remotePrefix ops).1,
        (reference w.remotePrefix ops).2) := by
  cases op with
  | logMessage op =>
    by_cases hlevel : op.level = .kFatal <;>
      simp [reference, writeOf, fatalLine, Op.isFatal, Op.isDisconnect, hlevel]
  | _ => rfl

theorem nothingAfterDisconnect_iff (ops : OpList) :
    NothingAfterDisconnect ops ↔ ops.dropLast.any Op.isDisconnect = false := by
  constructor
  · intro h
    by_contra hany
    obtain ⟨op, hmem, hop⟩ := List.any_eq_true.mp (by simpa using hany)
    obtain ⟨d, rfl⟩ := Op.isDisconnect_iff.mp hop
    obtain ⟨l, r, hsplit⟩ := List.append_of_mem hmem
    have hne : ops ≠ [] := by rintro rfl; simp at hsplit
    have hops := List.dropLast_concat_getLast hne
    rw [hsplit, List.append_assoc, List.cons_append] at hops
    simpa using h l d _ hops.symm
  · rintro h front op back rfl
    by_contra hback
    rw [List.dropLast_append_of_ne_nil (by simp), List.dropLast_cons_of_ne_nil hback] at h
    simp [Op.isDisconnect] at h

instance (ops : OpList) : Decidable (NothingAfterDisconnect ops) :=
  decidable_of_iff _ (nothingAfterDisconnect_iff ops).symm

/-- A session without the calls in its trace. -/
def Session.written (s : Session) : Session := ⟨s.isConnected, writes s.trace⟩

theorem Worker.written_act (w : Worker) (s : Session) (op : Op) :
    (w.act s op).written = w.act s.written op := by
  have hwrite : writes (w.writeOf op).toList = (w.writeOf op).toList := by
    refine List.filter_eq_self.mpr ?_
    intro e he
    exact w.isWrite_of_writeOf (by simpa using he)
  simp [act, Session.written, hwrite]

theorem Worker.process_written (w : Worker) (ops : OpList) (s : Session) :
    w.dispatcher.process ops s.written =
      ((w.dispatcher.process ops s).map Session.written).mapError Session.written := by
  induction ops generalizing s with
  | nil => rfl
  | cons op ops ih =>
    rw [Dispatcher.process_cons, Dispatcher.process_cons, w.handle_eq, w.handle_eq,
      ← w.written_act]
    cases op.isFatal with
    | true => rfl
    | false => exact ih (w.act s op)

@[simp] theorem written_call (s : Session) (c : ConnectionCall) :
    (s.call c).written = s.written := by
  simp [Session.written, writes, Event.isWrite]

@[simp] theorem written_execAll (steps : List TailStep) (s : Session) :
    (TailStep.execAll steps s).written = s.written := by
  induction steps generalizing s with
  | nil => rfl
  | cons step steps ih =>
    calc
      (TailStep.execAll steps (step.exec s)).written = (step.exec s).written := ih _
      _ = s.written := by cases step <;> simp [TailStep.exec]

/-- One iteration writes what dispatching its op list writes. -/
theorem Worker.loopBody_written (w : Worker) (s : Session) (ops : OpList) :
    w.dispatcher.process ops s.written =
      ((w.loopBody w.dispatcher s ops).map Session.written).mapError Session.written := by
  have h := w.process_written ops (s.call (.getOpList kGetOpListTimeoutInMilliseconds))
  rw [written_call] at h
  rw [h, loopBody]
  cases w.dispatcher.process ops (s.call (.getOpList kGetOpListTimeoutInMilliseconds)) with
  | ok s' => simp [Except.map, Except.mapError]
  | error e => rfl

theorem NothingAfterDisconnect.tail {op : Op} {ops : OpList}
    (h : NothingAfterDisconnect (op :: ops)) : NothingAfterDisconnect ops :=
  fun front d back hsplit => h (op :: front) d back (by rw [hsplit, List.cons_append])

/-- A prefix with something behind it holds no disconnect op. -/
theorem NothingAfterDisconnect.front {front back : OpList}
    (h : NothingAfterDisconnect (front ++ back)) (hback : back ≠ []) :
    front.any Op.isDisconnect = false := by
  by_contra hany
  obtain ⟨op, hmem, hop⟩ := List.any_eq_true.mp (by simpa using hany)
  obtain ⟨d, rfl⟩ := Op.isDisconnect_iff.mp hop
  obtain ⟨l, r, rfl⟩ := List.append_of_mem hmem
  have hnil := h l d (r ++ back) (by simp)
  exact hback (List.append_eq_nil_iff.mp hnil).2

/-- Dispatching the whole stream at once does what the reference says. -/
theorem Worker.settle_process (w : Worker) {ops : OpList} (hops : NothingAfterDisconnect ops)
    {s : Session} (hs : s.isConnected = true) :
    (lastSession (settle Session.isConnected (w.dispatcher.process ops s))).trace =
        s.trace ++ (reference w.remotePrefix ops).1 ∧
      ending (settle Session.isConnected (w.dispatcher.process ops s)) =
        (reference w.remotePrefix ops).2 := by
  induction ops generalizing s with
  | nil => simp [settle, reference, lastSession, Outcome.elim, ending, hs]
  | cons op ops ih =>
    rw [Dispatcher.process_cons, w.handle_eq, w.reference_cons]
    cases hfatal : op.isFatal with
    | true => simp [Except.bind, settle, lastSession, Outcome.elim, ending, act]
    | false =>
      cases hdisc : op.isDisconnect with
      | true =>
        obtain ⟨d, rfl⟩ := Op.isDisconnect_iff.mp hdisc
        obtain rfl : ops = [] := hops [] d ops rfl
        simp [Except.bind, settle, lastSession, Outcome.elim, ending, act, Op.isDisconnect,
          errorExitStatus]
      | false =>
        have hrest := ih hops.tail (s := w.act s op) (by simp [act, hs, hdisc])
        simpa [Except.bind, act] using hrest

/-- An op list without a terminal op keeps the worker in its loop. -/
theorem Worker.loopBody_continues (w : Worker) {s : Session} (hs : s.isConnected = true)
    {ops : OpList} (hops : ops.all (fun op => !op.isTerminal) = true) :
    ∃ s', w.loopBody w.dispatcher s ops = .ok s' ∧ s'.isConnected = true := by
  have hquiet : ∀ op ∈ ops, op.isFatal = false ∧ op.isDisconnect = false := by
    simpa [Op.isTerminal] using hops
  refine ⟨w.iterate s ops, w.loopBody_quiet (fun op hop => (hquiet op hop).1) s, ?_⟩
  simp only [iterate, hs, Bool.true_and, Bool.not_eq_true', List.any_eq_false]
  intro op hop
  simp [(hquiet op hop).2]

/-- One with a terminal op ends it, if it does not end the process. -/
theorem Worker.loopBody_ends (w : Worker) {s s' : Session} {ops : OpList}
    (hops : ops.all (fun op => !op.isTerminal) = false)
    (hbody : w.loopBody w.dispatcher s ops = .ok s') : s'.isConnected = false := by
  obtain ⟨hquiet, rfl⟩ := w.loopBody_eq_ok.mp hbody
  obtain ⟨op, hmem, hop⟩ := List.all_eq_false.mp hops
  have hdisc : op.isDisconnect = true := by simpa [Op.isTerminal, hquiet op hmem] using hop
  have hany : ops.any Op.isDisconnect = true := List.any_eq_true.mpr ⟨op, hmem, hdisc⟩
  simp [iterate, hany]

@[simp] theorem getOpListCalls_append (t t' : List Event) :
    getOpListCalls (t ++ t') = getOpListCalls t + getOpListCalls t' := List.countP_append

theorem Worker.getOpListCalls_writes (w : Worker) (ops : OpList) :
    getOpListCalls (ops.filterMap w.writeOf) = 0 := by
  refine List.countP_eq_zero.mpr ?_
  intro e he
  have hwrite := w.isWrite_of_mem_writes he
  cases e with
  | write stream line => simp [isGetOpList]
  | call c => cases hwrite

theorem TailStep.getOpListCalls_events (steps : List TailStep) :
    getOpListCalls (steps.filterMap TailStep.event?) = 0 := by
  refine List.countP_eq_zero.mpr ?_
  intro e he
  obtain ⟨entityId, coords, rfl⟩ := TailStep.exists_of_mem_events he
  simp [isGetOpList]

/-- Each iteration calls `GetOpList` once; the lists that stay unread were
never asked for. -/
theorem Worker.getOpListCalls_mainLoop (w : Worker) (s : Session) (opLists : List OpList) :
    getOpListCalls (lastSession (w.mainLoop w.dispatcher s opLists).outcome).trace +
        (w.mainLoop w.dispatcher s opLists).unread.length =
      getOpListCalls s.trace + opLists.length := by
  have hcall (t : List Event) :
      getOpListCalls (.call (.getOpList kGetOpListTimeoutInMilliseconds) :: t) =
        getOpListCalls t + 1 := List.countP_cons_of_pos rfl
  have hcount := pollLoop_count Session.isConnected (w.loopBody w.dispatcher)
    (fun s => getOpListCalls s.trace) (fun s => getOpListCalls s.trace)
    (fun s ops s' hbody => by
      obtain ⟨-, rfl⟩ := w.loopBody_eq_ok.mp hbody
      simp only [iterate, getOpListCalls_append, hcall, getOpListCalls_writes,
        TailStep.getOpListCalls_events])
    (fun s ops e hbody => by
      obtain ⟨front, op, back, -, -, -, rfl⟩ := w.loopBody_eq_error hbody
      simp only [abort, getOpListCalls_append, hcall, getOpListCalls_writes])
    s opLists
  unfold mainLoop
  cases hrun : (pollLoop Session.isConnected (w.loopBody w.dispatcher) s opLists).outcome <;>
    simpa [hrun, lastSession, Outcome.elim] using hcount

/-- A stream that nothing follows can only disconnect the worker at its end. -/
theorem Worker.connected_of_front (w : Worker) {s s' : Session} (hs : s.isConnected = true)
    {front back : OpList} (hops : NothingAfterDisconnect (front ++ back)) (hback : back ≠ [])
    (hrun : w.dispatcher.process front s = .ok s') : s'.isConnected = true := by
  rcases quiet_or_fatal front with hquiet | ⟨l, op, r, rfl, hl, hop⟩
  · rw [w.process_quiet hquiet, w.foldl_act] at hrun
    obtain rfl := Except.ok.inj hrun
    simp [hs, hops.front hback]
  · rw [w.process_fatal hl hop] at hrun
    cases hrun

theorem Worker.mainLoop_eq (w : Worker) (s : Session) (hs : s.isConnected = true)
    {opLists : List OpList} (hops : NothingAfterDisconnect opLists.flatten) :
    let run := w.mainLoop w.dispatcher s opLists
    writes (lastSession run.outcome).trace =
        writes s.trace ++ (reference w.remotePrefix opLists.flatten).1 ∧
      ending run.outcome = (reference w.remotePrefix opLists.flatten).2 ∧
      run.unread = (opLists.dropWhile fun ops => ops.all fun op => !op.isTerminal).tail := by
  have hview := pollLoop_map Session.isConnected Session.isConnected (w.loopBody w.dispatcher)
    (fun s ops => w.dispatcher.process ops s) Session.written Session.written
    (fun _ => rfl) w.loopBody_written s opLists
  have hfold := pollLoop_outcome_eq_settle Session.isConnected w.dispatcher.handle s.written
    opLists (fun front back s' hfront hback hrun =>
      w.connected_of_front (s := s.written) hs (hfront ▸ hops) hback hrun)
  have hwritten : (w.mainLoop w.dispatcher s opLists).outcome.map Session.written
      Session.written = settle Session.isConnected
        (w.dispatcher.process opLists.flatten s.written) :=
    (congrArg Polled.outcome hview).symm.trans hfold
  obtain ⟨hlines, hending⟩ := w.settle_process hops (s := s.written) hs
  rw [← hwritten] at hlines hending
  refine ⟨?_, ?_, ?_⟩
  · rw [← show (Session.written s).trace = writes s.trace from rfl, ← hlines]
    cases (w.mainLoop w.dispatcher s opLists).outcome <;> rfl
  · rw [← hending]
    cases (w.mainLoop w.dispatcher s opLists).outcome <;> rfl
  · exact pollLoop_unread (fun s ops hs hops => w.loopBody_continues hs hops)
      (fun s ops s' _ hops hbody => w.loopBody_ends hops hbody) hs opLists

/-- However the stream is split into op lists, either worker writes the lines of
the reference, ends as the reference ends, and asks for the lists up to the
first one with a terminal op and for no other. -/
theorem Worker.mainLoop_eq_reference {w : Worker} {remote : String}
    (hw : w = managed ∧ remote = "[remote] " ∨ w = external ∧ remote = "Connection: ")
    (s : Session) (hs : s.isConnected = true) (ops : OpList) (hops : NothingAfterDisconnect ops)
    (opLists : List OpList) (hsplit : opLists.flatten = ops) :
    let run := w.mainLoop w.dispatcher s opLists
    writes (lastSession run.outcome).trace = writes s.trace ++ (reference remote ops).1 ∧
    ending run.outcome = (reference remote ops).2 ∧
    run.unread = (opLists.dropWhile fun ops => ops.all fun op => !op.isTerminal).tail ∧
    getOpListCalls (lastSession run.outcome).trace + run.unread.length =
      getOpListCalls s.trace + opLists.length := by
  have hremote : w.remotePrefix = remote := by
    rcases hw with ⟨rfl, rfl⟩ | ⟨rfl, rfl⟩ <;> rfl
  subst hsplit
  subst hremote
  obtain ⟨hlines, hending, hunread⟩ := w.mainLoop_eq s hs hops
  exact ⟨hlines, hending, hunread, w.getOpListCalls_mainLoop s opLists⟩

/-- A remote line, a timeout, a disconnect, and a list that is never fetched; and
a remote line in front of a fatal one, with an op behind that in the same list. -/
theorem Worker.mainLoop_eq_reference_lines :
    (let opLists : List OpList :=
        [[.logMessage ⟨.kInfo, "hello"⟩], [], [.metrics ⟨.new⟩, .disconnect ⟨"bye"⟩], []]
      let run := managed.mainLoop managed.dispatcher (managed.prologue true) opLists
      writes (lastSession run.outcome).trace =
          [.write .stdout "[local] Connected successfully to SpatialOS, listening to ops... ",
            .write .stdout "[remote] hello", .write .stderr "[disconnect] bye"] ∧
        ending run.outcome = .returns 1 ∧ run.unread = [[]]) ∧
    (let opLists : List OpList := [[.logMessage ⟨.kWarn, "hello"⟩],
        [.logMessage ⟨.kFatal, "out of memory"⟩, .logMessage ⟨.kInfo, "late"⟩]]
      let run := external.mainLoop external.dispatcher (external.prologue true) opLists
      writes (lastSession run.outcome).trace =
          [.write .stdout "Connection: hello", .write .stderr "Fatal error: out of memory"] ∧
        ending run.outcome = .terminates ∧ run.unread = []) := by
  constructor
  · intro opLists run
    obtain ⟨hlines, hending, hunread, -⟩ := mainLoop_eq_reference (Or.inl ⟨rfl, rfl⟩)
      (managed.prologue true) rfl opLists.flatten (by decide) opLists rfl
    exact ⟨hlines, hending, hunread⟩
  · intro opLists run
    obtain ⟨hlines, hending, hunread, -⟩ := mainLoop_eq_reference (Or.inr ⟨rfl, rfl⟩)
      (external.prologue true) rfl opLists.flatten (by decide) opLists rfl
    exact ⟨hlines, hending, hunread⟩

end SpatialWorkers
