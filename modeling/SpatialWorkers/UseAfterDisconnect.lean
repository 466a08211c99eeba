import SpatialWorkers.Workers

/-!
# The connection after a disconnect

The SDK says of a disconnect op that the connection can no longer be used. The
callback of either worker only clears the local `is_connected`, which is read
at the head of the loop, so the statements behind `Process` still run. They are
none in `External` and two position updates in `Managed`.
-/
namespace SpatialWorkers
open PollingLoops

/-- The event by which the `OnDisconnect` callback shows in a trace. -/
def disconnectReport (reason : String) : Event := .write .stderr (disconnectLine reason)

/-- Once the callback has run, no call on the connection follows. -/
def NoCallAfterDisconnect (outcome : Outcome Session Session) : Prop :=
  ∀ reason before after,
    (lastSession outcome).trace = before ++ disconnectReport reason :: after →
      ∀ e ∈ after, e.isCall = false

/-- Once the callback has run, no call follows and `main` returns. -/
def StopsAtDisconnect (outcome : Outcome Session Session) : Prop :=
  ∀ reason before after,
    (lastSession outcome).trace = before ++ disconnectReport reason :: after →
      (∀ e ∈ after, e.isCall = false) ∧ ∃ status, ending outcome = .returns status

/-- The callback has not run. -/
def NoReport (trace : List Event) : Prop := ∀ reason, disconnectReport reason ∉ trace

theorem noReport_append {t t' : List Event} :
    NoReport (t ++ t') ↔ NoReport t ∧ NoReport t' := by
  simp only [NoReport, List.mem_append, not_or]
  exact forall_and

theorem disconnectLine_ne_fatalLine (reason message : String) :
    disconnectLine reason ≠ fatalLine message := by
  intro h
  have hhead := congrArg (fun line => line.toList.head?) h
  simp [disconnectLine, fatalLine] at hhead

section Dispatching

variable (w : Worker)

theorem Worker.isDisconnect_of_writeOf {op : Op} {reason : String}
    (h : w.writeOf op = some (disconnectReport reason)) : op.isDisconnect = true := by
  cases op with
  | disconnect op => rfl
  | logMessage op =>
    simp only [writeOf, disconnectReport] at h
    split_ifs at h with hlevel
    · have hline : fatalLine op.message = disconnectLine reason := by simpa using h
      exact absurd hline.symm (disconnectLine_ne_fatalLine reason op.message)
    · simp at h
  | _ => cases h

theorem Worker.noReport_writes {ops : OpList} (hops : ∀ op ∈ ops, op.isDisconnect = false) :
    NoReport (ops.filterMap w.writeOf) := by
  intro reason hmem
  obtain ⟨op, hop, hwrite⟩ := List.mem_filterMap.mp hmem
  have hdisc := w.isDisconnect_of_writeOf hwrite
  rw [hops op hop] at hdisc
  contradiction

theorem Worker.isCall_writes (ops : OpList) : ∀ e ∈ ops.filterMap w.writeOf, e.isCall = false := by
  intro e he
  simp [Event.isCall, w.isWrite_of_mem_writes he]

theorem Worker.noReport_iterate {s : Session} (hs : NoReport s.trace) {ops : OpList}
    (hops : ∀ op ∈ ops, op.isDisconnect = false) : NoReport (w.iterate s ops).trace := by
  have htail : NoReport (w.loopTail.filterMap TailStep.event?) := by
    intro reason hmem
    obtain ⟨entityId, coords, he⟩ := TailStep.exists_of_mem_events hmem
    cases he
  rw [iterate, ← List.singleton_append, noReport_append, noReport_append, noReport_append]
  exact ⟨hs, by simp [NoReport, disconnectReport], w.noReport_writes hops, htail⟩

theorem Worker.noReport_abort {s : Session} (hs : NoReport s.trace) {front : OpList}
    (hfront : ∀ op ∈ front, op.isDisconnect = false) {op : Op} (hop : op.isFatal = true) :
    NoReport (w.abort s front op).trace := by
  rw [abort, ← List.singleton_append, noReport_append, noReport_append]
  refine ⟨hs, by simp [NoReport, disconnectReport], w.noReport_writes ?_⟩
  intro op' hmem
  rcases List.mem_append.mp hmem with hfr | hlast
  · exact hfront op' hfr
  · rw [List.mem_singleton.mp hlast]
    exact Op.not_isDisconnect_of_isFatal hop

end Dispatching

section Runs

variable (w : Worker)

/-- No op of the lists is terminal. -/
def Quiet (opLists : List OpList) : Prop := ∀ ops ∈ opLists, ∀ op ∈ ops, op.isTerminal = false

theorem quiet_of_isTerminal {op : Op} (h : op.isTerminal = false) :
    op.isFatal = false ∧ op.isDisconnect = false := by
  simpa only [Op.isTerminal, Bool.or_eq_false_iff] using h

/-- Quiet lists are iterated over, leave the worker connected and show no
disconnect. -/
theorem Worker.mainLoop_quiet {s : Session} (hs : s.isConnected = true)
    (hno : NoReport s.trace) {front : List OpList} (hfront : Quiet front) :
    (∀ rest, w.mainLoop w.dispatcher s (front ++ rest) =
        w.mainLoop w.dispatcher (front.foldl w.iterate s) rest) ∧
      (front.foldl w.iterate s).isConnected = true ∧
      NoReport (front.foldl w.iterate s).trace := by
  induction front generalizing s with
  | nil => exact ⟨fun _ => rfl, hs, hno⟩
  | cons ops front ih =>
    have hops : ∀ op ∈ ops, op.isFatal = false ∧ op.isDisconnect = false :=
      fun op hop => quiet_of_isTerminal (hfront ops List.mem_cons_self op hop)
    have hs' : (w.iterate s ops).isConnected = true := by
      have hany : ops.any Op.isDisconnect = false :=
        List.any_eq_false.mpr fun op hop => by simp [(hops op hop).2]
      simp [iterate, hs, hany]
    have hno' := w.noReport_iterate hno fun op hop => (hops op hop).2
    have hbody := w.loopBody_quiet (fun op hop => (hops op hop).1) s
    obtain ⟨hrest, hconn⟩ := ih hs' hno' fun ops h => hfront ops (List.mem_cons_of_mem _ h)
    refine ⟨fun rest => ?_, hconn⟩
    calc
      w.mainLoop w.dispatcher s (ops :: (front ++ rest)) =
          w.mainLoop w.dispatcher (w.iterate s ops) (front ++ rest) := pollLoop_ok hs hbody _
      _ = w.mainLoop w.dispatcher ((ops :: front).foldl w.iterate s) rest := hrest rest

/-- Unless the first terminal op of the stream is a disconnect op, the callback
never runs. -/
theorem Worker.noReport_mainLoop {s : Session} (hs : s.isConnected = true)
    (hno : NoReport s.trace) {opLists : List OpList}
    (hfirst : ∀ d, opLists.flatten.find? Op.isTerminal ≠ some (.disconnect d)) :
    NoReport (lastSession (w.mainLoop w.dispatcher s opLists).outcome).trace := by
  cases hfind : opLists.flatten.find? Op.isTerminal with
  | none =>
    have hquiet : Quiet opLists := by
      simpa [Quiet] using List.find?_flatten_eq_none_iff.mp hfind
    obtain ⟨hrun, hconn, hno'⟩ := w.mainLoop_quiet hs hno hquiet
    rw [← List.append_nil opLists, hrun, mainLoop, pollLoop_nil hconn]
    exact hno'
  | some op =>
    obtain ⟨hop, front, l, r, back, rfl, hfront, hl⟩ := List.find?_flatten_eq_some_iff.mp hfind
    have hfatal : op.isFatal = true := by
      by_contra hquiet
      have hdisc : op.isDisconnect = true := by simpa [Op.isTerminal, hquiet] using hop
      obtain ⟨d, rfl⟩ := Op.isDisconnect_iff.mp hdisc
      exact hfirst d hfind
    have hlq : ∀ op ∈ l, op.isFatal = false ∧ op.isDisconnect = false :=
      fun op hop => quiet_of_isTerminal (by simpa using hl op hop)
    have hfrontq : Quiet front := by simpa [Quiet] using hfront
    obtain ⟨hrun, hconn, hno'⟩ := w.mainLoop_quiet hs hno hfrontq
    rw [hrun, mainLoop, pollLoop_error hconn
      (w.loopBody_fatal (fun op hop => (hlq op hop).1) hfatal r _)]
    exact w.noReport_abort hno' (fun op hop => (hlq op hop).2) hfatal

/-- The list that holds the first terminal op, a disconnect op `d` with `r`
behind it. If no fatal log message follows, everything the loop tail does comes
after the report, and then `main` returns. If one follows, the process
terminates and only the lines in between come after it. -/
theorem Worker.mainLoop_disconnect {s : Session} (hs : s.isConnected = true)
    (hno : NoReport s.trace) {front : List OpList} (hfront : Quiet front)
    {l : OpList} (hl : ∀ op ∈ l, op.isTerminal = false) (d : DisconnectOp) :
    ∃ before, NoReport before ∧ ∀ r : OpList, (∀ op ∈ r, op.isFatal = false) → ∀ back,
      (w.mainLoop w.dispatcher s (front ++ (l ++ .disconnect d :: r) :: back)).outcome =
        .stopped ⟨false, before ++ disconnectReport d.reason ::
          (r.filterMap w.writeOf ++ w.loopTail.filterMap TailStep.event?)⟩ ∧
      ∀ op r', op.isFatal = true →
        (w.mainLoop w.dispatcher s
          (front ++ (l ++ .disconnect d :: (r ++ op :: r')) :: back)).outcome =
        .aborted ⟨false, before ++ disconnectReport d.reason ::
          (r ++ [op]).filterMap w.writeOf⟩ := by
  have hlq : ∀ op ∈ l, op.isFatal = false ∧ op.isDisconnect = false :=
    fun op hop => quiet_of_isTerminal (hl op hop)
  obtain ⟨hrun, hconn, hno'⟩ := w.mainLoop_quiet hs hno hfront
  refine ⟨(front.foldl w.iterate s).trace ++
    .call (.getOpList kGetOpListTimeoutInMilliseconds) :: l.filterMap w.writeOf, ?_, ?_⟩
  · rw [← List.singleton_append, noReport_append, noReport_append]
    exact ⟨hno', by simp [NoReport, disconnectReport],
      w.noReport_writes fun op hop => (hlq op hop).2⟩
  intro r hr back
  have hquiet : ∀ op ∈ l ++ .disconnect d :: r, op.isFatal = false := by
    intro op hop
    rcases List.mem_append.mp hop with hop | hop
    · exact (hlq op hop).1
    · rcases List.mem_cons.mp hop with rfl | hop
      · rfl
      · exact hr op hop
  constructor
  · rw [hrun, mainLoop, pollLoop_ok hconn (w.loopBody_quiet hquiet _), pollLoop_closed]
    · simp [iterate, writeOf, disconnectReport, Op.isDisconnect]
    · simp [iterate, Op.isDisconnect]
  · intro op r' hop
    have hsplit : l ++ .disconnect d :: (r ++ op :: r') =
        (l ++ .disconnect d :: r) ++ op :: r' := by simp
    rw [hrun, mainLoop, hsplit, pollLoop_error hconn (w.loopBody_fatal hquiet hop r' _)]
    simp [abort, writeOf, disconnectReport, Op.isDisconnect]

theorem Worker.noReport_prologue (connected : Bool) : NoReport (w.prologue connected).trace := by
  intro reason
  cases hline : w.connectedLine <;> cases connected <;>
    simp [prologue, reportConnected, disconnectReport, hline]

/-- What follows a report in a trace whose first report stands before `rest`
is in `rest`. -/
theorem mem_of_mem_after {before before₀ after rest : List Event} {reason reason₀ : String}
    (hno : NoReport before₀)
    (h : before ++ disconnectReport reason :: after = before₀ ++ disconnectReport reason₀ :: rest)
    {e : Event} (he : e ∈ after) : e ∈ rest := by
  rcases List.append_eq_append_iff.mp h with ⟨mid, hbefore, hafter⟩ | ⟨mid, -, hrest⟩
  · cases mid with
    | nil =>
      obtain ⟨-, rfl⟩ := List.cons.inj hafter
      exact he
    | cons x mid =>
      obtain ⟨rfl, -⟩ := List.cons.inj hafter
      exact absurd (by simp [hbefore]) (hno reason)
  · cases mid with
    | nil =>
      obtain ⟨-, rfl⟩ := List.cons.inj hrest
      exact he
    | cons x mid =>
      obtain ⟨-, rfl⟩ := List.cons.inj hrest
      simp [he]

/-- The op lists split at their first terminal op, when that is a disconnect op:
`front` and `l` are quiet, `r` stands behind it in its own list. -/
def FirstDisconnect (opLists : List OpList) (d : DisconnectOp) (r : OpList) : Prop :=
  ∃ front l back, opLists = front ++ (l ++ .disconnect d :: r) :: back ∧ Quiet front ∧
    ∀ op ∈ l, op.isTerminal = false

theorem firstDisconnect_iff {opLists : List OpList} {d : DisconnectOp} :
    (∃ r, FirstDisconnect opLists d r) ↔
      opLists.flatten.find? Op.isTerminal = some (.disconnect d) := by
  rw [List.find?_flatten_eq_some_iff]
  constructor
  · rintro ⟨r, front, l, back, hsplit, hfront, hl⟩
    exact ⟨rfl, front, l, r, back, hsplit, by simpa [Quiet] using hfront, by simpa using hl⟩
  · rintro ⟨-, front, l, r, back, hsplit, hfront, hl⟩
    exact ⟨r, front, l, back, hsplit, by simpa [Quiet] using hfront, by simpa using hl⟩

/-- A run whose callback ran: the connection was up at the sample, and the first
terminal op is a disconnect op. -/
theorem Worker.report_of_main {connected : Bool} {opLists : List OpList}
    {before after : List Event} {reason : String}
    (h : (lastSession (w.main connected opLists).outcome).trace =
      before ++ disconnectReport reason :: after) :
    connected = true ∧ ∃ d r, FirstDisconnect opLists d r := by
  have hmem : disconnectReport reason ∈ (lastSession (w.main connected opLists).outcome).trace := by
    simp [h]
  cases connected with
  | false =>
    rw [main, mainLoop, pollLoop_closed] at hmem
    · exact absurd hmem (w.noReport_prologue false reason)
    · exact w.isConnected_prologue _
  | true =>
    refine ⟨rfl, ?_⟩
    by_contra hfirst
    refine w.noReport_mainLoop ?_ (w.noReport_prologue true) ?_ reason hmem
    · exact w.isConnected_prologue _
    · intro d hd
      obtain ⟨r, hr⟩ := firstDisconnect_iff.mpr hd
      exact hfirst ⟨d, r, hr⟩

/-- A run in which a disconnect op `d` is the first terminal op, `r` behind it
in its list: where the report stands, what follows it, and how the run ends. -/
theorem Worker.main_firstDisconnect {opLists : List OpList} {d : DisconnectOp} {r : OpList}
    (h : FirstDisconnect opLists d r) :
    ∃ before, NoReport before ∧
      (((∀ op ∈ r, op.isFatal = false) ∧
          (w.main true opLists).outcome =
            .stopped ⟨false, before ++ disconnectReport d.reason ::
              (r.filterMap w.writeOf ++ w.loopTail.filterMap TailStep.event?)⟩) ∨
        ∃ r₁ op r₂, r = r₁ ++ op :: r₂ ∧ op.isFatal = true ∧
          (w.main true opLists).outcome =
            .aborted ⟨false, before ++ disconnectReport d.reason ::
              (r₁ ++ [op]).filterMap w.writeOf⟩) := by
  obtain ⟨front, l, back, rfl, hfront, hl⟩ := h
  have hconn : (w.prologue true).isConnected = true := w.isConnected_prologue true
  obtain ⟨before, hno, hrun⟩ :=
    w.mainLoop_disconnect hconn (w.noReport_prologue true) hfront hl d
  refine ⟨before, hno, ?_⟩
  rcases quiet_or_fatal r with hr | ⟨r₁, op, r₂, rfl, hr₁, hop⟩
  · exact Or.inl ⟨hr, (hrun r hr back).1⟩
  · exact Or.inr ⟨r₁, op, r₂, rfl, hop, (hrun r₁ hr₁ back).2 op r₂ hop⟩

/-- A worker without calls behind `Process` is safe on every input. Any other
one makes a call after the callback has run, unless the callback never runs or
a fatal log message ends the process first. -/
theorem Worker.noCallAfterDisconnect_iff_tail (connected : Bool) (opLists : List OpList) :
    NoCallAfterDisconnect (w.main connected opLists).outcome ↔
      (connected = true → ∀ d r, FirstDisconnect opLists d r →
        (∀ op ∈ r, op.isFatal = false) → w.loopTail.filterMap TailStep.event? = []) := by
  constructor
  · rintro h rfl d r hfirst hr
    obtain ⟨before, -, ⟨-, hrun⟩ | ⟨r₁, op, r₂, rfl, hop, -⟩⟩ := w.main_firstDisconnect hfirst
    · by_contra htail
      obtain ⟨e, he⟩ := List.exists_mem_of_ne_nil _ htail
      have hquiet := h d.reason before _ (by rw [hrun]; rfl) e (List.mem_append_right _ he)
      obtain ⟨entityId, coords, rfl⟩ := TailStep.exists_of_mem_events he
      cases hquiet
    · have hquiet := hr op (by simp)
      rw [hop] at hquiet
      contradiction
  · intro h reason before after htrace e he
    obtain ⟨rfl, d, r, hfirst⟩ := w.report_of_main htrace
    obtain ⟨before₀, hno, ⟨hr, hrun⟩ | ⟨r₁, op, r₂, rfl, hop, hrun⟩⟩ :=
      w.main_firstDisconnect hfirst
    · rw [hrun, h rfl d r hfirst hr, List.append_nil] at htrace
      exact w.isCall_writes r e (mem_of_mem_after hno htrace.symm he)
    · rw [hrun] at htrace
      exact w.isCall_writes _ e (mem_of_mem_after hno htrace.symm he)

/-- Nothing stands behind `Process` in the loop of `External`. -/
theorem external_noCallAfterDisconnect (connected : Bool) (opLists : List OpList) :
    NoCallAfterDisconnect (external.main connected opLists).outcome := by
  rw [external.noCallAfterDisconnect_iff_tail]
  intro _ d r _ _
  rfl

theorem managed_loopTail_events : managed.loopTail.filterMap TailStep.event? ≠ [] := by
  simp [managed, TailStep.event?]

/-- Exactly when `Managed` keeps off the connection after a disconnect. It also
returns only when no disconnect op is ever dispatched; that it makes no further
call holds besides when a fatal log message follows in the same list. -/
theorem managed_stopsAtDisconnect_iff (connected : Bool) (opLists : List OpList) :
    (StopsAtDisconnect (managed.main connected opLists).outcome ↔
      (connected = true → ∀ d, opLists.flatten.find? Op.isTerminal ≠ some (.disconnect d))) ∧
    (NoCallAfterDisconnect (managed.main connected opLists).outcome ↔
      (connected = true → ∀ d r, FirstDisconnect opLists d r → ∃ op ∈ r, op.isFatal = true)) := by
  refine ⟨⟨?_, ?_⟩, ?_⟩
  · rintro h rfl d hd
    obtain ⟨r, hfirst⟩ := firstDisconnect_iff.mpr hd
    obtain ⟨before, -, ⟨hr, hrun⟩ | ⟨r₁, op, r₂, -, -, hrun⟩⟩ :=
      managed.main_firstDisconnect hfirst
    · have hquiet : NoCallAfterDisconnect (managed.main true opLists).outcome :=
        fun reason before after htrace => (h reason before after htrace).1
      rw [managed.noCallAfterDisconnect_iff_tail] at hquiet
      exact managed_loopTail_events (hquiet rfl d r hfirst hr)
    · obtain ⟨-, status, hend⟩ := h d.reason before _ (by rw [hrun]; rfl)
      rw [hrun] at hend
      cases hend
  · intro h reason before after htrace
    obtain ⟨hconn, d, r, hfirst⟩ := managed.report_of_main htrace
    exact absurd (firstDisconnect_iff.mp ⟨r, hfirst⟩) (h hconn d)
  · rw [managed.noCallAfterDisconnect_iff_tail]
    simp only [managed_loopTail_events, imp_false, not_forall, exists_prop, Bool.not_eq_false]

/-- One disconnect op alone: both position updates follow its report. -/
theorem managed_calls_after_disconnect :
    ¬ StopsAtDisconnect (managed.main true [[.disconnect ⟨"bye"⟩]]).outcome := by
  intro h
  have hrun : (managed.main true [[.disconnect ⟨"bye"⟩]]).outcome = .stopped ⟨false,
      (managed.prologue true).trace ++
        .call (.getOpList kGetOpListTimeoutInMilliseconds) :: disconnectReport "bye" ::
        [.call (.sendComponentUpdate 1 (.ofNat 0 0 0)),
          .call (.sendComponentUpdate 1 (.ofNat 5 5 5))]⟩ := by
    decide
  have hafter := (h "bye" ((managed.prologue true).trace ++
    [.call (.getOpList kGetOpListTimeoutInMilliseconds)])
    [.call (.sendComponentUpdate 1 (.ofNat 0 0 0)), .call (.sendComponentUpdate 1 (.ofNat 5 5 5))]
    (by rw [hrun, List.append_assoc]; rfl)).1
  have hquiet := hafter (.call (.sendComponentUpdate 1 (.ofNat 0 0 0))) (by simp)
  cases hquiet

end Runs

end SpatialWorkers
