import SpatialWorkers.Interleavings
import SpatialWorkers.UseAfterDisconnect

/-!
# Disconnects are reported, unless they come too early

The connection may drop between any two statements of the worker, and the SDK's
flag is sampled once before the loop. A drop after the sample reaches the
callback through the queue; a drop before it keeps the worker out of the loop
and is never reported.
-/
namespace SpatialWorkers
open PollingLoops LabelledRuns

/-- The reasons of the drops of a run. -/
def drops (labels : List Label) : List String := labels.filterMap Label.dropReason?

/-- The drops in front of the call of `IsConnected()`. -/
def dropsBeforeSample (labels : List Label) : List String :=
  drops (labels.takeWhile fun l => !l.isSample)

/-- The drop is on the console once, no other disconnect is, and the status is
the error status. -/
def DisconnectReported (labels : List Label) (trace : List Event) (status : ℤ) : Prop :=
  ∃ reason, drops labels = [reason] ∧
    (∀ r, trace.count (disconnectReport r) = if r = reason then 1 else 0) ∧
    status = errorExitStatus

section Reports

variable (w : Worker)

theorem disconnectLine_inj {reason reason' : String} :
    disconnectLine reason = disconnectLine reason' ↔ reason = reason' := by
  simp [disconnectLine]

theorem Worker.count_writeOf (reason : String) (op : Op) :
    (w.writeOf op).toList.count (disconnectReport reason) =
      op.disconnectReason?.toList.count reason := by
  cases hop : op.isDisconnect with
  | true =>
    obtain ⟨d, rfl⟩ := Op.isDisconnect_iff.mp hop
    simp [writeOf, Op.disconnectReason?, disconnectReport, List.count_cons, disconnectLine_inj]
  | false =>
    rw [Op.disconnectReason?_of_not_isDisconnect hop]
    apply List.count_eq_zero.mpr
    intro hmem
    have hdisc := w.isDisconnect_of_writeOf (by simpa using hmem)
    rw [hop] at hdisc
    contradiction

/-- Each disconnect op that is dispatched is reported once. -/
theorem Worker.count_writes (reason : String) (ops : OpList) :
    (ops.filterMap w.writeOf).count (disconnectReport reason) =
      (disconnectReasons ops).count reason := by
  induction ops with
  | nil => rfl
  | cons op ops ih =>
    have hcons : (op :: ops).filterMap w.writeOf =
        (w.writeOf op).toList ++ ops.filterMap w.writeOf := by
      cases hwrite : w.writeOf op <;> simp [hwrite]
    rw [hcons, disconnectReasons_cons, List.count_append, List.count_append, w.count_writeOf, ih]

theorem Worker.count_iterate (reason : String) (s : Session) (ops : OpList) :
    (w.iterate s ops).trace.count (disconnectReport reason) =
      s.trace.count (disconnectReport reason) + (disconnectReasons ops).count reason := by
  have htail : (w.loopTail.filterMap TailStep.event?).count (disconnectReport reason) = 0 := by
    apply List.count_eq_zero.mpr
    intro hmem
    obtain ⟨entityId, coords, he⟩ := TailStep.exists_of_mem_events hmem
    cases he
  have hcall : (Event.call (.getOpList kGetOpListTimeoutInMilliseconds)) ≠
      disconnectReport reason := by simp [disconnectReport]
  simp only [iterate, List.count_append, List.count_cons_of_ne hcall, w.count_writes, htail,
    Nat.add_zero]

theorem Worker.count_foldl_iterate (reason : String) (s : Session) (opLists : List OpList) :
    (opLists.foldl w.iterate s).trace.count (disconnectReport reason) =
      s.trace.count (disconnectReport reason) +
        (disconnectReasons opLists.flatten).count reason := by
  induction opLists generalizing s with
  | nil => simp
  | cons ops opLists ih =>
    rw [List.foldl_cons, ih, w.count_iterate, List.flatten_cons, disconnectReasons_append,
      List.count_append, Nat.add_assoc]

theorem Worker.isConnected_foldl_iterate (s : Session) (opLists : List OpList) :
    (opLists.foldl w.iterate s).isConnected = true ↔
      s.isConnected = true ∧ disconnectReasons opLists.flatten = [] := by
  induction opLists generalizing s with
  | nil => simp
  | cons ops opLists ih =>
    rw [List.foldl_cons, ih, List.flatten_cons, disconnectReasons_append,
      List.append_eq_nil_iff, ← and_assoc, @disconnectReasons_eq_nil ops]
    simp only [iterate, Bool.and_eq_true, Bool.not_eq_true']

/-- A loop that stopped has iterated over its op lists. -/
theorem Worker.foldlM_loopBody {s s' : Session} {opLists : List OpList}
    (h : opLists.foldlM (w.loopBody w.dispatcher) s = .ok s') :
    s' = opLists.foldl w.iterate s := by
  induction opLists generalizing s with
  | nil => exact (Except.ok.inj h).symm
  | cons ops opLists ih =>
    rw [List.foldlM_cons] at h
    cases hbody : w.loopBody w.dispatcher s ops with
    | error e =>
      rw [hbody] at h
      cases h
    | ok t =>
      rw [hbody] at h
      obtain ⟨-, rfl⟩ := w.loopBody_eq_ok.mp hbody
      exact ih h

/-- What a worker that returned has received and reported. -/
theorem Worker.main_stopped {connected : Bool} {opLists : List OpList} {s : Session}
    (h : w.main connected opLists = ⟨.stopped s, []⟩) :
    (connected = false → NoReport s.trace) ∧
      (connected = true → disconnectReasons opLists.flatten ≠ [] ∧
        ∀ reason, s.trace.count (disconnectReport reason) =
          (disconnectReasons opLists.flatten).count reason) := by
  obtain ⟨hguard, fetched, hsplit, hfold⟩ := pollLoop_stopped h
  obtain rfl : opLists = fetched := by simpa using hsplit
  obtain rfl := w.foldlM_loopBody hfold
  constructor
  · rintro rfl
    rw [main, mainLoop, pollLoop_closed (w.isConnected_prologue false)] at h
    have hsession : w.prologue false = opLists.foldl w.iterate (w.prologue false) :=
      congrArg (fun p : Polled Session Session Op => lastSession p.outcome) h
    rw [← hsession]
    exact w.noReport_prologue false
  · rintro rfl
    refine ⟨fun hnil => ?_, fun reason => ?_⟩
    · rw [(w.isConnected_foldl_iterate _ _).mpr ⟨w.isConnected_prologue true, hnil⟩] at hguard
      contradiction
    · rw [w.count_foldl_iterate, List.count_eq_zero.mpr (w.noReport_prologue true reason),
        Nat.zero_add]

end Reports

section Interleavings

variable (w : Worker)

theorem drops_eq (labels : List Label) :
    drops labels = (labels.filterMap Label.netEvent?).filterMap NetEvent.dropReason? := by
  unfold drops
  rw [List.filterMap_filterMap]
  congr 1
  ext l
  cases l <;> rfl

/-- The labels around the first call of `IsConnected()`. -/
theorem split_at_sample {labels : List Label}
    (h : ∃ answer, .isConnected answer ∈ labels.filterMap Label.act?) :
    ∃ back, labels = labels.takeWhile (fun l => !l.isSample) ++
      .isConnected (sampled (labels.filterMap Label.act?)) :: back := by
  induction labels with
  | nil => simp at h
  | cons l labels ih =>
    cases l with
    | isConnected answer => exact ⟨labels, rfl⟩
    | _ =>
      obtain ⟨back, hback⟩ := ih (by simpa [Label.act?] using h)
      exact ⟨back, congrArg (List.cons _) hback⟩

/-- The worker finds the connection up exactly when nothing was dropped before. -/
theorem Worker.sampled_of_system {labels : List Label} {m : Machine} {n : Network}
    (hrun : run w.system systemStart labels = some (m, n)) (hpc : m.pc.beforeSample = false) :
    sampled (labels.filterMap Label.act?) = (dropsBeforeSample labels).isEmpty := by
  obtain ⟨hworker, hnetwork⟩ := w.runs_of_system hrun
  obtain ⟨back, hsplit⟩ := split_at_sample ((w.run_pc hworker).1 hpc)
  rw [hsplit, List.filterMap_append] at hnetwork
  rw [dropsBeforeSample, drops_eq]
  exact Network.isConnected_of_run hnetwork

theorem drops_ne_nil_of_early {labels : List Label} (h : dropsBeforeSample labels ≠ []) :
    drops labels ≠ [] := by
  intro hnil
  rw [← List.takeWhile_append_dropWhile (p := fun l : Label => !l.isSample) (l := labels), drops,
    List.filterMap_append, List.append_eq_nil_iff] at hnil
  exact h hnil.1

/-- In every interleaving: a worker that returned has been dropped, and it has
reported the drop exactly when the drop did not come before the sample. -/
theorem Worker.disconnectReported_iff {labels : List Label} {m : Machine} {n : Network}
    {status : ℤ} (hrun : run w.system systemStart labels = some (m, n))
    (hret : m.pc = .returned status) :
    drops labels ≠ [] ∧
      (DisconnectReported labels m.session.trace status ↔ dropsBeforeSample labels = []) := by
  obtain ⟨hworker, hnetwork⟩ := w.runs_of_system hrun
  have hearly := w.sampled_of_system hrun (by rw [hret]; rfl)
  obtain ⟨hunsampled, hreported⟩ := w.main_stopped (w.main_of_run_returned hworker hret)
  by_cases hnil : dropsBeforeSample labels = []
  · obtain ⟨hreasons, hcount⟩ := hreported (by rw [hearly, hnil]; rfl)
    rw [received_eq_delivered] at hreasons hcount
    obtain ⟨reason, hdrops, hone⟩ := Network.delivered_of_run hnetwork hreasons
    rw [← drops_eq] at hdrops
    have hstatus : status = errorExitStatus := (w.run_pc hworker).2 status hret
    refine ⟨by simp [hdrops], fun _ => hnil, fun _ => ⟨reason, hdrops, fun r => ?_, hstatus⟩⟩
    rw [hcount r, hone, List.count_singleton]
    by_cases hr : r = reason
    · simp [hr]
    · simp [hr, Ne.symm hr]
  · have hno := hunsampled (by rw [hearly]; simpa using hnil)
    refine ⟨drops_ne_nil_of_early hnil, fun hrep => ?_, fun h => absurd h hnil⟩
    obtain ⟨reason, -, hcount, -⟩ := hrep
    have hone := hcount reason
    rw [if_pos rfl, List.count_eq_zero.mpr (hno reason)] at hone
    omega

/-- A drop between the sample and the loop is reported by `External`. -/
theorem Worker.disconnectReported_external :
    let labels : List Label := [.own, .isConnected true, .drop "bye", .own, .own, .own, .own,
      .getOpList [.disconnect ⟨"bye"⟩], .own, .own, .own, .own]
    ∃ m n, run external.system systemStart labels = some (m, n) ∧
      DisconnectReported labels m.session.trace 1 :=
  ⟨_, _, rfl, (external.disconnectReported_iff rfl rfl).2.mpr (by decide)⟩

/-- A connection attempt that fails: either worker returns without a report. -/
theorem Worker.early_drop_unreported :
    let labels : List Label := [.drop "timeout", .own, .isConnected false, .own, .own, .own, .own]
    (∃ m n, run managed.system systemStart labels = some (m, n) ∧ m.pc = .returned 1 ∧
      ¬ DisconnectReported labels m.session.trace 1) ∧
    ∃ m n, run external.system systemStart labels = some (m, n) ∧ m.pc = .returned 1 ∧
      ¬ DisconnectReported labels m.session.trace 1 := by
  intro labels
  have hquiet (w : Worker) : ¬ DisconnectReported labels (w.prologue false).trace 1 := by
    rintro ⟨reason, -, hcount, -⟩
    have hzero := List.count_eq_zero.mpr (w.noReport_prologue false reason)
    have hone := hcount reason
    rw [hzero, if_pos rfl] at hone
    omega
  constructor
  · exact ⟨⟨.returned 1, managed.prologue false, managed.dispatcher⟩, _, rfl, rfl, hquiet managed⟩
  · exact ⟨⟨.returned 1, external.prologue false, external.dispatcher⟩, _, rfl, rfl,
      hquiet external⟩

end Interleavings

end SpatialWorkers
