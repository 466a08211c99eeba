import SpatialWorkers.Entities
import SpatialWorkers.Workers

/-!
# The snapshot generator

`create_snapshot` takes a file name and returns a status. It opens one fixed
path whatever the name is, and its loop only prints the errors of the writes:
the id advances and the status stays zero whether or not they succeed.
-/
namespace SpatialWorkers
open InsertionMaps Improbable

/-- The components that the generator can write; there is no `Interest`. -/
def componentRegistry : List Component :=
  [.position, .metadata, .entityAcl, .persistence, .color, .game, .player, .turnTaker]

def managedWorkerRequirementSet : WorkerRequirementSet :=
  ⟨[⟨["example_attribute_of_managed_worker"]⟩]⟩

def createExampleEntity : Entity :=
  let e := Entity.empty
  let e := e.add ⟨.position, ⟨.ofNat 0 0 0⟩⟩
  let e := e.add ⟨.metadata, ⟨"example_entity"⟩⟩
  let e := e.add ⟨.persistence, ⟨⟩⟩
  e.add ⟨.entityAcl, managedWorkerRequirementSet, InsertionMap.empty.insert
    [(Component.position.componentId, managedWorkerRequirementSet),
      (Component.entityAcl.componentId, managedWorkerRequirementSet)]⟩

/-- No component is added twice, and the managed worker may write the position. -/
theorem components_createExampleEntity :
    createExampleEntity.components =
      [⟨.position, ⟨.ofNat 0 0 0⟩⟩, ⟨.metadata, ⟨"example_entity"⟩⟩, ⟨.persistence, ⟨⟩⟩,
        ⟨.entityAcl, managedWorkerRequirementSet, ⟨[(54, managedWorkerRequirementSet),
          (50, managedWorkerRequirementSet)], by decide⟩⟩] := rfl

theorem fits_managedWorkerRequirementSet : managedWorkerRequirementSet.Fits := by
  have hsize : 35 < uint32Size := by
    unfold uint32Size
    norm_num
  refine ⟨one_lt_uint32Size, fun set hset => ?_⟩
  obtain rfl := List.mem_singleton.mp hset
  refine ⟨one_lt_uint32Size, fun item hitem => ?_⟩
  obtain rfl := List.mem_singleton.mp hitem
  exact hsize

theorem fits_createExampleEntity : createExampleEntity.Fits := by
  have hsize : 14 < uint32Size := by
    unfold uint32Size
    norm_num
  rw [Entity.Fits, components_createExampleEntity]
  simp only [List.forall_mem_cons]
  refine ⟨trivial, ⟨hsize⟩, trivial, ⟨fits_managedWorkerRequirementSet, ?_, ?_⟩, by simp⟩
  · exact lt_trans (by decide) hsize
  · simp [fits_managedWorkerRequirementSet]

/-- A call of `WriteEntity` and the error it returned. -/
structure WriteCall where
  entityId : EntityId
  entity : Entity
  error : Option String

/-- The locals of the loop, the calls made and the lines written. -/
structure Writer where
  nextId : EntityId
  err : Option String
  calls : List WriteCall
  output : List Event

def errorLine (message : String) : Event := .write .stderr ("ERR: " ++ message)

/-- The loop body, given what the successive writes return. -/
def writeStep (results : ℕ → Option String) (s : Writer) (a : ℕ) : Writer where
  nextId := s.nextId + 1
  err := results a
  calls := s.calls ++ [⟨s.nextId, createExampleEntity, results a⟩]
  output := s.output ++ ((results a).map errorLine).toList

def writeLoop (results : ℕ → Option String) (n : ℕ) : Writer :=
  (List.range n).foldl (writeStep results) ⟨1, none, [], []⟩

/-- What a run of the program did. -/
structure SnapshotRun where
  opened : Option String
  calls : List WriteCall
  output : List Event
  status : ℤ

def snapshotPath : String := "../../../snapshots/default.snapshot"

/-- `main`, with `argv[0]` at the head of the list. -/
def createSnapshot (results : ℕ → Option String) (argv : List String) : SnapshotRun :=
  if argv.length < 2 then
    ⟨none, [], [.write .stderr ("Syntax: " ++ argv.getD 0 "" ++ " <filename>")], -1⟩
  else
    let out := writeLoop results 5
    ⟨some snapshotPath, out.calls, out.output, 0⟩

namespace SnapshotRun

/-- The entities that are in the file. -/
def written (r : SnapshotRun) : List EntityId :=
  (r.calls.filter fun call => call.error.isNone).map WriteCall.entityId

/-- The file asked for was opened, and holds every entity under ids from 1 on,
without a gap. -/
structure Complete (filename : String) (r : SnapshotRun) : Prop where
  opened : r.opened = some filename
  errors : ∀ call ∈ r.calls, call.error = none
  ids : r.written = (List.range r.calls.length).map fun k : ℕ => (k : ℤ) + 1
  first : 1 ∈ r.written

/-- A zero status means a complete snapshot, and a failed write a nonzero one. -/
def Honest (filename : String) (r : SnapshotRun) : Prop :=
  (r.status = 0 → r.Complete filename) ∧
    ((∃ call ∈ r.calls, call.error ≠ none) → r.status ≠ 0)

end SnapshotRun

/-- The `k`-th pass writes under the id `k + 1`, whatever happened before. -/
def writeCalls (results : ℕ → Option String) (n : ℕ) : List WriteCall :=
  (List.range n).map fun k : ℕ => ⟨(k : ℤ) + 1, createExampleEntity, results k⟩

theorem writeCalls_succ (results : ℕ → Option String) (n : ℕ) :
    writeCalls results (n + 1) =
      writeCalls results n ++ [⟨n + 1, createExampleEntity, results n⟩] := by
  unfold writeCalls
  rw [List.range_succ, List.map_append, List.map_singleton]

theorem writeLoop_succ (results : ℕ → Option String) (n : ℕ) :
    writeLoop results (n + 1) = writeStep results (writeLoop results n) n := by
  unfold writeLoop
  rw [List.range_succ, List.foldl_append, List.foldl_cons, List.foldl_nil]

/-- After any number of passes the id has advanced with each of them. -/
theorem writeLoop_calls (results : ℕ → Option String) (n : ℕ) :
    (writeLoop results n).nextId = n + 1 ∧ (writeLoop results n).calls = writeCalls results n := by
  induction n with
  | zero => exact ⟨rfl, rfl⟩
  | succ n ih =>
    obtain ⟨hid, hcalls⟩ := ih
    rw [writeLoop_succ, writeCalls_succ]
    constructor
    · simp only [writeStep, hid]
      push_cast
      rfl
    · simp only [writeStep, hid, hcalls]

theorem mem_writeCalls {results : ℕ → Option String} {n : ℕ} {call : WriteCall} :
    call ∈ writeCalls results n ↔
      ∃ k : ℕ, k < n ∧ call = ⟨(k : ℤ) + 1, createExampleEntity, results k⟩ := by
  simp only [writeCalls, List.mem_map, List.mem_range]
  constructor
  · rintro ⟨k, hk, rfl⟩
    exact ⟨k, hk, rfl⟩
  · rintro ⟨k, hk, rfl⟩
    exact ⟨k, hk, rfl⟩

theorem createSnapshot_eq (results : ℕ → Option String) (command filename : String)
    (rest : List String) :
    createSnapshot results (command :: filename :: rest) =
      ⟨some snapshotPath, writeCalls results 5, (writeLoop results 5).output, 0⟩ := by
  unfold createSnapshot
  rw [if_neg (by simp), ← (writeLoop_calls results 5).2]

/-- An id is in the file exactly when its own write succeeded: a failed write
leaves a gap that no later one closes. -/
theorem mem_written {results : ℕ → Option String} {command filename : String}
    {rest : List String} {id : EntityId} :
    id ∈ (createSnapshot results (command :: filename :: rest)).written ↔
      ∃ k : ℕ, k < 5 ∧ id = (k : ℤ) + 1 ∧ results k = none := by
  rw [createSnapshot_eq]
  simp only [SnapshotRun.written, List.mem_map, List.mem_filter, mem_writeCalls]
  constructor
  · rintro ⟨call, ⟨⟨k, hk, rfl⟩, herror⟩, rfl⟩
    exact ⟨k, hk, rfl, by simpa using herror⟩
  · rintro ⟨k, hk, rfl, hresult⟩
    exact ⟨_, ⟨⟨k, hk, rfl⟩, by simp [hresult]⟩, rfl⟩

theorem written_of_noErrors {r : SnapshotRun} (h : ∀ call ∈ r.calls, call.error = none) :
    r.written = r.calls.map WriteCall.entityId := by
  unfold SnapshotRun.written
  rw [List.filter_eq_self.mpr]
  intro call hcall
  simp [h call hcall]

/-- The status is honest exactly when the file asked for is the one that is
always written, and no write fails. -/
theorem createSnapshot_honest_iff (results : ℕ → Option String) (command filename : String)
    (rest : List String) :
    (createSnapshot results (command :: filename :: rest)).Honest filename ↔
      filename = snapshotPath ∧ ∀ k < 5, results k = none := by
  have hfirst (h : results 0 = none) :
      1 ∈ (createSnapshot results (command :: filename :: rest)).written :=
    mem_written.mpr ⟨0, by omega, rfl, h⟩
  rw [createSnapshot_eq] at hfirst ⊢
  constructor
  · rintro ⟨hcomplete, -⟩
    obtain ⟨hopened, herrors, -, -⟩ := hcomplete rfl
    refine ⟨(Option.some.inj hopened).symm, fun k hk => ?_⟩
    exact herrors _ (mem_writeCalls.mpr ⟨k, hk, rfl⟩)
  · rintro ⟨rfl, hresults⟩
    have herrors : ∀ call ∈ writeCalls results 5, call.error = none := by
      intro call hcall
      obtain ⟨k, hk, rfl⟩ := mem_writeCalls.mp hcall
      exact hresults k hk
    refine ⟨fun _ => ⟨rfl, herrors, ?_, ?_⟩, ?_⟩
    · rw [written_of_noErrors herrors]
      simp [writeCalls, Function.comp_def]
    · exact hfirst (hresults 0 (by omega))
    · rintro ⟨call, hcall, herror⟩
      exact absurd (herrors call hcall) herror

/-- Another name, and a first write that fails. -/
theorem createSnapshot_dishonest :
    ¬ (createSnapshot (fun _ => none) ["create_snapshot", "game.snapshot"]).Honest
        "game.snapshot" ∧
    ¬ (createSnapshot (fun k => if k = 0 then some "disk full" else none)
        ["create_snapshot", snapshotPath]).Honest snapshotPath := by
  constructor
  · rintro ⟨hcomplete, -⟩
    have hopened := (hcomplete rfl).opened
    exact absurd hopened (by decide)
  · rintro ⟨-, hstatus⟩
    have hcall : (⟨1, createExampleEntity, some "disk full"⟩ : WriteCall) ∈
        (createSnapshot (fun k => if k = 0 then some "disk full" else none)
          ["create_snapshot", snapshotPath]).calls := List.mem_cons_self
    exact hstatus ⟨_, hcall, by simp⟩ rfl

end SpatialWorkers
