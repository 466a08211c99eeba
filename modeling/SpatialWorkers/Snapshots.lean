import SpatialWorkers.SnapshotGenerator

/-!
# Snapshot streams

`SaveSnapshot` writes entities to a stream until a write fails, `LoadSnapshot`
reads them back until a read fails. The streams belong to the C API, of which
the repository has the header only: `SnapshotStreams` stands for its functions
and `Documented` for what its comments promise of a file that holds the entities
whose writes were successful. `listStreams` is one implementation.
-/
namespace SpatialWorkers
open InsertionMaps Pbio

/-- The functions of the C API. A call changes the stream it is made on; `File`
is what is found at a path when the stream that writes it is closed. -/
structure SnapshotStreams where
  File : Type
  Out : Type
  In : Type
  createOut : String → List Component → Out
  writeEntity : Out → ProtocolEntity (Option ComponentData) → Bool × Out
  outError : Out → Option String
  destroyOut : Out → File
  createIn : List Component → File → In
  hasNext : In → Bool
  readEntity : In → ProtocolEntity (Option ComponentData) × In
  inError : In → Option String

namespace SnapshotStreams

/-- What streams and files hold, and the vtables that an input stream was given. -/
structure Contents (api : SnapshotStreams) (Obj : Type) where
  written : api.Out → List (ProtocolEntity Obj)
  stored : api.File → List (ProtocolEntity Obj)
  unread : api.In → List (ProtocolEntity Obj)
  registry : api.In → List Component

variable {Obj : Type} [Pbio Obj]

/-- What the header says of the functions. -/
structure Documented (api : SnapshotStreams) (contents : api.Contents Obj) : Prop where
  createOut (path : String) (registry : List Component) :
    contents.written (api.createOut path registry) = []
  /-- A write that returns non-zero was successful; a null handle is an error. -/
  writeEntity_success {out : api.Out} {entity : ProtocolEntity (Option ComponentData)}
    (h : (api.writeEntity out entity).1 = true) :
    ∃ objects, serializeComponents entity.component = some objects ∧
      contents.written (api.writeEntity out entity).2 =
        contents.written out ++ [⟨entity.entityId, objects⟩]
  /-- One that was not adds nothing, and the error is not null. -/
  writeEntity_failure {out : api.Out} {entity : ProtocolEntity (Option ComponentData)}
    (h : (api.writeEntity out entity).1 = false) :
    contents.written (api.writeEntity out entity).2 = contents.written out ∧
      api.outError (api.writeEntity out entity).2 ≠ none
  destroyOut (out : api.Out) : contents.stored (api.destroyOut out) = contents.written out
  /-- If the error is null, no error occurred. -/
  createIn {registry : List Component} {file : api.File}
    (h : api.inError (api.createIn registry file) = none) :
    contents.unread (api.createIn registry file) = contents.stored file ∧
      contents.registry (api.createIn registry file) = registry
  hasNext (input : api.In) : api.hasNext input = true ↔ contents.unread input ≠ []
  /-- The next entity, with what the vtables make of its components. -/
  readEntity {input : api.In} {entity : ProtocolEntity Obj} {rest : List (ProtocolEntity Obj)}
    (hunread : contents.unread input = entity :: rest)
    (h : api.inError (api.readEntity input).2 = none) :
    (api.readEntity input).1.entityId = entity.entityId ∧
      Hands (contents.registry input) entity.component (api.readEntity input).1.component ∧
      contents.unread (api.readEntity input).2 = rest ∧
      contents.registry (api.readEntity input).2 = contents.registry input

end SnapshotStreams

section Functions

variable (api : SnapshotStreams) (registry : List Component)

/-- `WriteEntity`: no error is returned either when the write failed and the
stream has none. -/
def SnapshotOutputStream.writeEntity (out : api.Out) (entityId : EntityId) (e : Entity) :
    Option String × api.Out :=
  let (written, out) := api.writeEntity out ⟨entityId, extractEntityComponents registry e⟩
  if written then (none, out)
  else
    match api.outError out with
    | some error => (some error, out)
    | none => (none, out)

/-- The loop of `SaveSnapshot`. -/
def saveEntities : List (EntityId × Entity) → api.Out → Option String × api.Out
  | [], out => (none, out)
  | (entityId, e) :: entities, out =>
    match SnapshotOutputStream.writeEntity api registry out entityId e with
    | (some error, out) => (some error, out)
    | (none, out) => saveEntities entities out

/-- `SaveSnapshot`: the error that is returned, and the file. -/
def saveSnapshot (path : String) (entities : InsertionMap EntityId Entity) :
    Option String × api.File :=
  let (error, out) := saveEntities api registry entities.entries (api.createOut path registry)
  (error, api.destroyOut out)

/-- `ReadEntity`. -/
def SnapshotInputStream.readEntity (input : api.In) :
    Except String (EntityId × Entity) × api.In :=
  let (entity, input) := api.readEntity input
  match api.inError input with
  | some error => (.error error, input)
  | none =>
    (.ok (entity.entityId, entity.component.foldl (moveSnapshotIntoEntity registry) .empty), input)

/-- The loop of `LoadSnapshot`, for as many passes as there is fuel for. An
entity that is in the output already stays as it is. -/
def loadEntities : ℕ → api.In → InsertionMap EntityId Entity →
    Option (Option String × InsertionMap EntityId Entity)
  | 0, _, _ => none
  | fuel + 1, input, output =>
    if api.hasNext input then
      match SnapshotInputStream.readEntity api registry input with
      | (.error error, _) => some (some error, output)
      | (.ok (entityId, e), input) => loadEntities fuel input (output.emplace entityId e)
    else some (none, output)

/-- `LoadSnapshot`: the error that is returned, and the output. -/
def loadSnapshot (fuel : ℕ) (file : api.File) (output : InsertionMap EntityId Entity) :
    Option (Option String × InsertionMap EntityId Entity) :=
  loadEntities api registry fuel (api.createIn registry file) output

end Functions

/-! ## Writing -/

namespace SnapshotStreams

section Writes

variable (api : SnapshotStreams) (registry : List Component)

/-- Whether an entity that is written to the stream is written successfully. -/
def writes (out : api.Out) (entity : EntityId × Entity) : Bool :=
  (api.writeEntity out ⟨entity.1, extractEntityComponents registry entity.2⟩).1

def afterWrite (out : api.Out) (entity : EntityId × Entity) : api.Out :=
  (api.writeEntity out ⟨entity.1, extractEntityComponents registry entity.2⟩).2

/-- The stream after some writes. -/
def afterWrites (out : api.Out) (entities : List (EntityId × Entity)) : api.Out :=
  entities.foldl (api.afterWrite registry) out

/-- Saving writes all of `saved`, and ends there or with the first failed
write, whose error it returns. -/
structure Saves (out : api.Out) (saved rest : List (EntityId × Entity)) (error : Option String) :
    Prop where
  writes : ∀ front entity back, saved = front ++ entity :: back →
    api.writes registry (api.afterWrites registry out front) entity = true
  ends : match rest with
    | [] => error = none
    | entity :: _ => api.writes registry (api.afterWrites registry out saved) entity = false ∧
      error ≠ none ∧ error = api.outError (api.afterWrites registry out (saved ++ [entity]))

theorem writeEntity_eq (out : api.Out) (entity : EntityId × Entity) :
    SnapshotOutputStream.writeEntity api registry out entity.1 entity.2 =
      (if api.writes registry out entity then none
        else api.outError (api.afterWrite registry out entity),
        api.afterWrite registry out entity) := by
  unfold SnapshotOutputStream.writeEntity writes afterWrite
  obtain ⟨written, out⟩ :=
    api.writeEntity out ⟨entity.1, extractEntityComponents registry entity.2⟩
  cases written with
  | true => rfl
  | false => cases herror : api.outError out <;> simp [herror]

end Writes

variable {Obj : Type} [Pbio Obj] {api : SnapshotStreams} {contents : api.Contents Obj}
  {registry : List Component}

/-- An entity as the C API keeps it. -/
def store (entity : EntityId × Entity) : ProtocolEntity Obj := ⟨entity.1, entity.2.serialize⟩

theorem Saves.cons {out : api.Out} {entity : EntityId × Entity}
    {saved rest : List (EntityId × Entity)} {error : Option String}
    (hwrites : api.writes registry out entity = true)
    (h : api.Saves registry (api.afterWrite registry out entity) saved rest error) :
    api.Saves registry out (entity :: saved) rest error where
  writes front entity' back hsplit := by
    cases front with
    | nil =>
      obtain ⟨rfl, -⟩ := List.cons.inj hsplit
      exact hwrites
    | cons entity'' front =>
      obtain ⟨rfl, hback⟩ := List.cons.inj hsplit
      exact h.writes front entity' back hback
  ends := h.ends

theorem Saves.error_eq_none_iff {out : api.Out} {saved rest : List (EntityId × Entity)}
    {error : Option String} (h : api.Saves registry out saved rest error) :
    error = none ↔ rest = [] := by
  have hends := h.ends
  cases rest with
  | nil => simpa using hends
  | cons entity rest => simp [hends.2.1]

namespace Documented

/-- A successful write adds the entity, of which the registry has all components. -/
theorem written_of_writes (h : api.Documented contents) {out : api.Out}
    {entity : EntityId × Entity} (hwrites : api.writes registry out entity = true) :
    entity.2.Covered registry ∧
      contents.written (api.afterWrite registry out entity) =
        contents.written out ++ [store entity] := by
  obtain ⟨objects, hobjects, hwritten⟩ := h.writeEntity_success hwrites
  rw [serializeComponents_extract] at hobjects
  split_ifs at hobjects with hcovered
  obtain rfl := Option.some.inj hobjects
  exact ⟨hcovered, hwritten⟩

/-- The loop writes up to the first failure, and the stream holds what was
written. -/
theorem saveEntities_eq (h : api.Documented contents) (entities : List (EntityId × Entity))
    (out : api.Out) :
    ∃ saved rest, entities = saved ++ rest ∧
      api.Saves registry out saved rest (saveEntities api registry entities out).1 ∧
      (∀ entity ∈ saved, entity.2.Covered registry) ∧
      contents.written (saveEntities api registry entities out).2 =
        contents.written out ++ saved.map store := by
  induction entities generalizing out with
  | nil => exact ⟨[], [], rfl, ⟨by simp, rfl⟩, by simp, by simp [saveEntities]⟩
  | cons entity entities ih =>
    rw [saveEntities, writeEntity_eq]
    cases hwrites : api.writes registry out entity with
    | true =>
      obtain ⟨hcovered, hwritten⟩ := h.written_of_writes hwrites
      obtain ⟨saved, rest, hentities, hsaves, hrest, hfile⟩ :=
        ih (api.afterWrite registry out entity)
      refine ⟨entity :: saved, rest, by rw [hentities, List.cons_append], hsaves.cons hwrites,
        List.forall_mem_cons.mpr ⟨hcovered, hrest⟩, ?_⟩
      simp only [if_true, hfile, hwritten, List.map_cons, List.append_assoc,
        List.singleton_append]
    | false =>
      obtain ⟨hwritten, hsome⟩ := h.writeEntity_failure hwrites
      obtain ⟨error, herror⟩ := Option.ne_none_iff_exists'.mp hsome
      have hstream : api.outError (api.afterWrite registry out entity) = some error := herror
      simp only [Bool.false_eq_true, if_false, hstream]
      refine ⟨[], entity :: entities, rfl, ⟨by simp, hwrites, Option.some_ne_none error, ?_⟩,
        by simp, ?_⟩
      · exact hstream.symm
      · rw [List.map_nil, List.append_nil]
        exact hwritten

end Documented

/-! ## Reading -/

section Reads

variable (api : SnapshotStreams)

/-- The stream after some reads. -/
def afterReads (input : api.In) : ℕ → api.In
  | 0 => input
  | n + 1 => afterReads (api.readEntity input).2 n

/-- Loading reads all of `loaded`, and ends with the stream or at the first
failed read, whose error it returns. -/
structure Loads (input : api.In) (loaded rest : List (EntityId × Entity)) (error : Option String) :
    Prop where
  reads : ∀ n < loaded.length, api.inError (api.afterReads input (n + 1)) = none
  ends : match rest with
    | [] => error = none
    | _ :: _ =>
      error ≠ none ∧ error = api.inError (api.afterReads input (loaded.length + 1))

end Reads

theorem Loads.cons {input : api.In} {entity : EntityId × Entity}
    {loaded rest : List (EntityId × Entity)} {error : Option String}
    (hread : api.inError (api.readEntity input).2 = none)
    (h : api.Loads (api.readEntity input).2 loaded rest error) :
    api.Loads input (entity :: loaded) rest error where
  reads n hn := by
    cases n with
    | zero => exact hread
    | succ n => exact h.reads n (by simpa using hn)
  ends := h.ends

theorem Loads.error_eq_none_iff {input : api.In} {loaded rest : List (EntityId × Entity)}
    {error : Option String} (h : api.Loads input loaded rest error) :
    error = none ↔ rest = [] := by
  have hends := h.ends
  cases rest with
  | nil => simpa using hends
  | cons entity rest => simp [hends.1]

namespace Documented

/-- What was stored is read back, as far as the registry of the reader goes. -/
theorem readEntity_eq (h : api.Documented contents) {input : api.In} {entity : EntityId × Entity}
    {rest : List (ProtocolEntity Obj)} (hfits : entity.2.Fits)
    (hunread : contents.unread input = store entity :: rest)
    (hregistry : contents.registry input = registry)
    (hread : api.inError (api.readEntity input).2 = none) :
    SnapshotInputStream.readEntity api registry input =
      (.ok (entity.1, entity.2.restrict registry), (api.readEntity input).2) := by
  obtain ⟨hid, hhands, -, -⟩ := h.readEntity hunread hread
  rw [hregistry] at hhands
  have hentity : (api.readEntity input).1.component.foldl (moveSnapshotIntoEntity registry) .empty =
      entity.2.restrict registry := by
    have hobjects : deserializeComponents registry (store entity : ProtocolEntity Obj).component =
        (entity.2.restrict registry).components := deserializeComponents_serialize registry hfits
    rw [foldl_moveSnapshotIntoEntity hhands, hobjects, Entity.addAll_empty]
  unfold SnapshotInputStream.readEntity
  simp only [hread, hid, hentity]
  rfl

/-- The loop reads up to the first failure and inserts what it has read; one
pass more than there are entities is fuel enough. -/
theorem loadEntities_eq (h : api.Documented contents) {entities : List (EntityId × Entity)}
    (hfits : ∀ entity ∈ entities, entity.2.Fits) {input : api.In}
    (hunread : contents.unread input = entities.map store)
    (hregistry : contents.registry input = registry) {fuel : ℕ} (hfuel : entities.length < fuel)
    (output : InsertionMap EntityId Entity) :
    ∃ loaded rest error, entities = loaded ++ rest ∧ api.Loads input loaded rest error ∧
      loadEntities api registry fuel input output = some (error, output.insert
        (loaded.map fun entity => (entity.1, entity.2.restrict registry))) := by
  induction entities generalizing input fuel output with
  | nil =>
    obtain ⟨fuel, rfl⟩ := Nat.exists_eq_add_one.mpr hfuel
    have hend : ¬ api.hasNext input = true := by
      rw [h.hasNext, hunread]
      simp
    refine ⟨[], [], none, rfl, ⟨by simp, rfl⟩, ?_⟩
    rw [loadEntities, if_neg hend]
    rfl
  | cons entity entities ih =>
    obtain ⟨fuel, rfl⟩ := Nat.exists_eq_add_one.mpr (Nat.zero_lt_of_lt hfuel)
    have hnext : api.hasNext input = true := by
      rw [h.hasNext, hunread]
      simp
    obtain ⟨hentity, hrest⟩ := List.forall_mem_cons.mp hfits
    rw [loadEntities, if_pos hnext]
    cases herror : api.inError (api.readEntity input).2 with
    | none =>
      obtain ⟨-, -, hunread', hregistry'⟩ := h.readEntity hunread herror
      obtain ⟨loaded, rest, error, hentities, hloads, hload⟩ :=
        ih hrest hunread' (hregistry'.trans hregistry) (Nat.lt_of_succ_lt_succ hfuel)
          (output.emplace entity.1 (entity.2.restrict registry))
      refine ⟨entity :: loaded, rest, error, by rw [hentities, List.cons_append],
        hloads.cons herror, ?_⟩
      rw [h.readEntity_eq hentity hunread hregistry herror]
      exact hload
    | some error =>
      have hread : SnapshotInputStream.readEntity api registry input =
          (.error error, (api.readEntity input).2) := by
        unfold SnapshotInputStream.readEntity
        simp only [herror]
      refine ⟨[], entity :: entities, some error, rfl,
        ⟨by simp, Option.some_ne_none error, herror.symm⟩, ?_⟩
      rw [hread]
      rfl

end Documented

end SnapshotStreams

open SnapshotStreams

variable {Obj : Type} [Pbio Obj] {api : SnapshotStreams} {contents : api.Contents Obj}

section ListStreams

variable (Obj)

/-- Both counters are of the calls that were made. -/
structure ListOut where
  written : List (ProtocolEntity Obj)
  calls : ℕ
  error : Option String

structure ListIn where
  registry : List Component
  unread : List (ProtocolEntity Obj)
  calls : ℕ
  error : Option String

variable {Obj}

def ListOut.write (failure : ℕ → Option String) (out : ListOut Obj)
    (entity : ProtocolEntity (Option ComponentData)) : Bool × ListOut Obj :=
  match failure out.calls, serializeComponents entity.component with
  | some error, _ => (false, ⟨out.written, out.calls + 1, some error⟩)
  | none, none => (false, ⟨out.written, out.calls + 1, some "unknown component"⟩)
  | none, some objects =>
    (true, ⟨out.written ++ [⟨entity.entityId, objects⟩], out.calls + 1, none⟩)

def ListIn.read (failure : ℕ → Option String) (input : ListIn Obj) :
    ProtocolEntity (Option ComponentData) × ListIn Obj :=
  match failure input.calls, input.unread with
  | some error, _ => (⟨0, []⟩, { input with calls := input.calls + 1, error := some error })
  | none, [] => (⟨0, []⟩, { input with calls := input.calls + 1, error := some "end of file" })
  | none, entity :: rest =>
    (⟨entity.entityId, (deserializeComponents input.registry entity.component).map fun data =>
      (data.1.componentId, some data)⟩, ⟨input.registry, rest, input.calls + 1, none⟩)

variable (Obj)

/-- Streams over lists, in which the given writes and reads fail. -/
def listStreams (writeFailure readFailure : ℕ → Option String) : SnapshotStreams where
  File := List (ProtocolEntity Obj)
  Out := ListOut Obj
  In := ListIn Obj
  createOut _ _ := ⟨[], 0, none⟩
  writeEntity := ListOut.write writeFailure
  outError := ListOut.error
  destroyOut := ListOut.written
  createIn registry file := ⟨registry, file, 0, none⟩
  hasNext input := !input.unread.isEmpty
  readEntity := ListIn.read readFailure
  inError := ListIn.error

def listContents (writeFailure readFailure : ℕ → Option String) :
    (listStreams Obj writeFailure readFailure).Contents Obj where
  written := ListOut.written
  stored := id
  unread := ListIn.unread
  registry := ListIn.registry

theorem documented_listStreams (writeFailure readFailure : ℕ → Option String) :
    (listStreams Obj writeFailure readFailure).Documented
      (listContents Obj writeFailure readFailure) where
  createOut path registry := rfl
  writeEntity_success {out entity} h := by
    simp only [listStreams, ListOut.write] at h ⊢
    cases hfailure : writeFailure out.calls with
    | some error => simp [hfailure] at h
    | none =>
      cases hobjects : @serializeComponents Obj _ entity.component with
      | none => simp [hfailure, hobjects] at h
      | some objects => exact ⟨objects, rfl, rfl⟩
  writeEntity_failure {out entity} h := by
    simp only [listStreams, ListOut.write] at h ⊢
    cases hfailure : writeFailure out.calls with
    | some error => exact ⟨rfl, Option.some_ne_none error⟩
    | none =>
      cases hobjects : @serializeComponents Obj _ entity.component with
      | none => exact ⟨rfl, Option.some_ne_none "unknown component"⟩
      | some objects => simp [hfailure, hobjects] at h
  destroyOut out := rfl
  createIn _ := ⟨rfl, rfl⟩
  hasNext input := by simp [listStreams, listContents]
  readEntity {input entity rest} hunread h := by
    have hunread' : input.unread = entity :: rest := hunread
    simp only [listStreams, ListIn.read, hunread'] at h ⊢
    cases hfailure : readFailure input.calls with
    | some error => simp [hfailure] at h
    | none =>
      refine ⟨rfl, ?_, rfl, rfl⟩
      apply List.filter_eq_self.mpr
      intro handle hhandle
      obtain ⟨data, hdata, rfl⟩ := List.mem_map.mp hhandle
      obtain ⟨object, -, hobject⟩ := List.mem_filterMap.mp hdata
      obtain ⟨c, hc, rfl⟩ := Option.map_eq_some_iff.mp hobject
      obtain ⟨hmem, -⟩ := registered_eq_some hc
      rw [registered_componentId]
      exact (if_pos hmem).symm ▸ rfl

end ListStreams

/-- The streams of the examples below: the second write fails. -/
def fullDisk : SnapshotStreams :=
  listStreams PbioTree (fun k => if k = 1 then some "disk full" else none) fun _ => none

namespace SnapshotStreams

/-- The stream after the calls of the generator. -/
def afterCalls (api : SnapshotStreams) (out : api.Out) (calls : List WriteCall) : api.Out :=
  calls.foldl (fun out call =>
    (SnapshotOutputStream.writeEntity api componentRegistry out call.entityId call.entity).2) out

/-- The errors of the calls are those that the stream returns. -/
def Answers (api : SnapshotStreams) (out : api.Out) : List WriteCall → Prop
  | [] => True
  | call :: calls =>
    (SnapshotOutputStream.writeEntity api componentRegistry out call.entityId
        call.entity).1 = call.error ∧
      Answers api (api.afterCalls out [call]) calls

/-- What a run of the generator leaves at the path that it opened. -/
def fileOf (api : SnapshotStreams) (path : String) (run : SnapshotRun) : api.File :=
  api.destroyOut (api.afterCalls (api.createOut path componentRegistry) run.calls)

/-- The stream holds the entities of the calls that returned no error. -/
theorem Documented.written_afterCalls (h : api.Documented contents) {calls : List WriteCall}
    {out : api.Out} (hanswers : api.Answers out calls) :
    contents.written (api.afterCalls out calls) = contents.written out ++
      (calls.filter fun call => call.error.isNone).map fun call =>
        store (call.entityId, call.entity) := by
  induction calls generalizing out with
  | nil => simp [afterCalls]
  | cons call calls ih =>
    obtain ⟨hcall, hrest⟩ := hanswers
    have hwrite := writeEntity_eq api componentRegistry out (call.entityId, call.entity)
    have hafter : api.afterCalls out [call] =
        api.afterWrite componentRegistry out (call.entityId, call.entity) :=
      congrArg Prod.snd hwrite
    have hstep : api.afterCalls out (call :: calls) =
        api.afterCalls (api.afterCalls out [call]) calls := rfl
    have herror : (if api.writes componentRegistry out (call.entityId, call.entity) then none
        else api.outError (api.afterWrite componentRegistry out (call.entityId, call.entity))) =
          call.error := (congrArg Prod.fst hwrite).symm.trans hcall
    rw [hstep, ih hrest, hafter]
    cases hwrites : api.writes componentRegistry out (call.entityId, call.entity) with
    | true =>
      obtain ⟨-, hwritten⟩ := h.written_of_writes hwrites
      rw [hwrites, if_pos rfl] at herror
      rw [hwritten, List.filter_cons_of_pos (by rw [← herror]; rfl), List.append_assoc]
      rfl
    | false =>
      obtain ⟨hwritten, hsome⟩ := h.writeEntity_failure hwrites
      have hsame : contents.written (api.afterWrite componentRegistry out
        (call.entityId, call.entity)) = contents.written out := hwritten
      have herror' : call.error ≠ none := by
        rw [← herror, hwrites]
        exact hsome
      rw [hsame, List.filter_cons_of_neg (by simpa using herror')]

end SnapshotStreams

theorem find?_map_pair {β : Type} (ids : List EntityId) (b : β) (id : EntityId) :
    ((ids.map fun id => (id, b)).find? fun entry => entry.1 = id) =
      if id ∈ ids then some (id, b) else none := by
  induction ids with
  | nil => rfl
  | cons id' ids ih =>
    rw [List.map_cons, List.find?_cons, ih]
    by_cases hid : id' = id
    · simp [hid]
    · simp [hid, Ne.symm hid]

end SpatialWorkers
