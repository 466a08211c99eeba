import SpatialWorkers.CommandLine
import SpatialWorkers.UseAfterDisconnect

/-!
# The two programs

`main` from its first line to its last: the front end, and where it connects,
the worker on the connection. How a run ends is decided by the command line, by
the sample of `IsConnected()`, and by the first op list with a terminal op.
-/
namespace SpatialWorkers
open PollingLoops

/-- What the programs do not decide themselves. -/
structure World where
  undefined : String → ℤ
  rand : ℕ → ℕ
  connected : Bool
  opLists : List OpList

/-- A front end that writes to the standard output alone, and returns nothing
but the error status. -/
structure Launch.Clean (launch : Launch) : Prop where
  status : ∀ status, launch.next = .returned status → status = errorExitStatus
  output : ∀ e ∈ launch.output, ∃ line, e = .write .stdout line

theorem exists_of_mem_printLines {lines : List String} {e : Event} (h : e ∈ printLines lines) :
    ∃ line, e = .write .stdout line := by
  obtain ⟨line, -, rfl⟩ := List.mem_map.mp h
  exact ⟨line, rfl⟩

theorem printLines_append (lines lines' : List String) :
    printLines (lines ++ lines') = printLines lines ++ printLines lines' := List.map_append

theorem clean_returned {lines : List String} :
    Launch.Clean ⟨printLines lines, .returned errorExitStatus⟩ where
  status := fun _ h => (Next.returned.inj h).symm
  output := fun _ => exists_of_mem_printLines

theorem clean_connect {lines : List String} {call : ConnectAsync} :
    Launch.Clean ⟨printLines lines, .connect call⟩ where
  status := fun _ h => by cases h
  output := fun _ => exists_of_mem_printLines

theorem Managed.launch_clean (undefined : String → ℤ) (rand : ℕ → ℕ) (args : List String) :
    (launch undefined rand args).Clean := by
  rcases launch_cases undefined rand args with h | ⟨workerId, call, h⟩
  · rw [h, printUsage, ← printLines_append]
    exact clean_returned
  · rw [h, ← printLines_append]
    exact clean_connect

theorem External.launch_clean (undefined : String → ℤ) (rand : ℕ → ℕ) (args : List String) :
    (launch undefined rand args).Clean := by
  rcases launch_cases undefined rand args with h | ⟨call, h⟩
  · rw [h]
    exact clean_returned
  · rw [h]
    exact @clean_connect [] call

/-- A front end and the worker that runs once it has connected. -/
structure Program where
  worker : Worker
  launch : (String → ℤ) → (ℕ → ℕ) → List String → Launch
  clean : ∀ undefined rand args, (launch undefined rand args).Clean

def managedProgram : Program := ⟨managed, Managed.launch, Managed.launch_clean⟩
def externalProgram : Program := ⟨external, External.launch, External.launch_clean⟩

/-- The events of a run and its end. -/
def Program.run (p : Program) (world : World) (args : List String) : List Event × Ending :=
  let launch := p.launch world.undefined world.rand args
  match launch.next with
  | .returned status => (launch.output, .returns status)
  | .connect _ =>
    let outcome := (p.worker.main world.connected world.opLists).outcome
    (launch.output ++ (lastSession outcome).trace, ending outcome)

section Endings

variable (w : Worker)

/-- What the first op list with a terminal op decides. -/
def endingOf : Option OpList → Ending
  | none => .polls
  | some ops => if ops.any Op.isFatal then .terminates else .returns errorExitStatus

def loud (ops : OpList) : Bool := ops.any Op.isTerminal

theorem loud_eq (ops : OpList) : loud ops = (ops.any Op.isFatal || ops.any Op.isDisconnect) := by
  induction ops with
  | nil => rfl
  | cons op ops ih =>
    unfold loud at ih ⊢
    rw [List.any_cons, ih, List.any_cons, List.any_cons, Op.isTerminal]
    cases op.isFatal <;> cases op.isDisconnect <;> simp

theorem Worker.ending_mainLoop {s : Session} (hs : s.isConnected = true)
    (opLists : List OpList) :
    ending (w.mainLoop w.dispatcher s opLists).outcome = endingOf (opLists.find? loud) := by
  unfold mainLoop
  induction opLists generalizing s with
  | nil =>
    rw [pollLoop_nil hs]
    rfl
  | cons ops rest ih =>
    rw [List.find?_cons, loud_eq]
    rcases quiet_or_fatal ops with hquiet | ⟨front, op, back, rfl, hfront, hop⟩
    · have hfatal : ops.any Op.isFatal = false := by simpa using hquiet
      have hbody := w.loopBody_quiet hquiet s
      rw [pollLoop_ok hs hbody, hfatal, Bool.false_or]
      cases hdisc : ops.any Op.isDisconnect with
      | true =>
        rw [pollLoop_closed (by simp [iterate, hdisc])]
        simp [ending, endingOf, hfatal]
      | false => exact ih (by simp [iterate, hs, hdisc])
    · have hfatal : (front ++ op :: back).any Op.isFatal = true := by simp [hop]
      rw [pollLoop_error hs (w.loopBody_fatal hfront hop back s), hfatal, Bool.true_or]
      simp only [endingOf, hfatal, if_true]
      rfl

theorem Worker.ending_main (connected : Bool) (opLists : List OpList) :
    ending (w.main connected opLists).outcome =
      if connected then endingOf (opLists.find? loud) else .returns errorExitStatus := by
  unfold main
  cases connected with
  | false =>
    rw [mainLoop, pollLoop_closed (w.isConnected_prologue false)]
    rfl
  | true => exact w.ending_mainLoop (w.isConnected_prologue true) opLists

end Endings

section Runs

variable (p : Program)

/-- Whatever the arguments and the connection do, a program that returns returns
the error status. -/
theorem Program.run_status {world : World} {args : List String} {status : ℤ}
    (h : (p.run world args).2 = .returns status) : status = errorExitStatus := by
  have hclean := p.clean world.undefined world.rand args
  unfold run at h
  cases hnext : (p.launch world.undefined world.rand args).next with
  | returned status' =>
    simp only [hnext, Ending.returns.injEq] at h
    rw [← h]
    exact hclean.status status' hnext
  | connect call =>
    simp only [hnext, p.worker.ending_main, endingOf] at h
    split_ifs at h
    · split at h
      · cases h
      · split_ifs at h
        exact (Ending.returns.inj h).symm
    · exact (Ending.returns.inj h).symm

/-- What a worker does not do on its connection, its program does not do. -/
theorem Program.run_noCall
    (hworker : ∀ connected opLists, NoCallAfterDisconnect (p.worker.main connected opLists).outcome)
    {world : World} {args : List String} {reason : String} {before after : List Event}
    (h : (p.run world args).1 = before ++ disconnectReport reason :: after) :
    ∀ e ∈ after, e.isCall = false := by
  have hno : disconnectReport reason ∉ (p.launch world.undefined world.rand args).output := by
    intro hmem
    obtain ⟨line, hline⟩ := (p.clean world.undefined world.rand args).output _ hmem
    cases hline
  unfold run at h
  cases hnext : (p.launch world.undefined world.rand args).next with
  | returned status =>
    simp only [hnext] at h
    exact absurd (by simp [h]) hno
  | connect call =>
    simp only [hnext] at h
    rcases List.append_eq_append_iff.mp h with ⟨mid, -, htrace⟩ | ⟨mid, houtput, htrace⟩
    · exact hworker world.connected world.opLists reason mid after htrace
    · cases mid with
      | nil => exact hworker world.connected world.opLists reason [] after htrace.symm
      | cons e mid =>
        obtain ⟨rfl, -⟩ := List.cons.inj htrace
        exact absurd (by simp [houtput]) hno

end Runs

/-- `External` makes no call after a disconnect, from any command line on. -/
theorem externalProgram_run_noCall {world : World} {args : List String} {reason : String}
    {before after : List Event}
    (h : (externalProgram.run world args).1 = before ++ disconnectReport reason :: after) :
    ∀ e ∈ after, e.isCall = false :=
  externalProgram.run_noCall external_noCallAfterDisconnect h

/-- `Managed` opens no connection unless it is given three or four arguments, or
none at all. -/
theorem managedProgram_run_usage {world : World} {args : List String}
    (hargs : args.length ≠ 0 ∧ args.length ≠ 3 ∧ args.length ≠ 4) :
    (managedProgram.run world args) =
      (printLines ["[local] Worker started "] ++ Managed.printUsage, .returns errorExitStatus) := by
  have hne : args ≠ [] := fun h => hargs.1 (by simp [h])
  simp [Program.run, managedProgram, Managed.launch, hne, hargs]

end SpatialWorkers
