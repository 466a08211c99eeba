import SpatialWorkers.CreatedEntities

/-!
# Results of entity queries

A query response brings back some of the entities that were created, as rows of
handles. It may name an entity in several rows: its components are collected
over all of them, and the first data of each counts.
-/
namespace SpatialWorkers
open InsertionMaps Pbio

variable {Obj σ : Type} [Pbio Obj]

/-- The components of a row go to the entity under its id, which is inserted if
there is none. -/
def addRow (heap : Heap) (registry : List Component) (result : InsertionMap EntityId Entity)
    (row : ProtocolEntity ClientHandle) : InsertionMap EntityId Entity :=
  result.assign row.entityId
    ((row.component.map fun component => (component.1, heap.data component.2)).foldl
      (moveSnapshotIntoEntity registry) ((result.find row.entityId).getD .empty))

/-- The wrapper that the callbacks receive; without an array there is no entity
in it. -/
def handleEntityQueryResponse (heap : Heap) (registry : List Component)
    (op : EntityQueryResponseWrapperOp) :
    EntityQueryResponseOp (InsertionMap EntityId Entity) where
  requestId := op.requestId
  statusCode := op.statusCode
  message := op.message
  resultCount := op.resultCount
  result := ((op.result.getD []).take op.resultCount).foldl (addRow heap registry) .empty

/-- A row of a response: some of the components that an entity was created
with, by a program with a registry of its own. -/
structure ResultRow where
  entityId : EntityId
  entity : Entity
  writer : List Component
  shown : List Component

namespace ResultRow

/-- The handles of the row lead to what the reader's vtables make of the objects
that were sent. -/
inductive Tells (Obj : Type) [Pbio Obj] (reader : List Component) (heap : Heap) :
    ResultRow → ProtocolEntity ClientHandle → Prop
  | of_sent {row : ResultRow} {sent : SentCreateEntityRequest Obj} {entityId : Option EntityId}
    {timeoutMillis : Option ℕ} {component : List (ComponentId × ClientHandle)}
    (hsent : sendCreateEntityRequest row.writer row.entity entityId timeoutMillis = some sent)
    (hhands : Hands reader
      (sent.components.filter fun object => object.1 ∈ row.shown.map Component.componentId)
      (component.map fun component => (component.1, heap.data component.2))) :
    Tells Obj reader heap row ⟨row.entityId, component⟩

/-- The data that a row has for a component. -/
def data (row : ResultRow) (id : EntityId) (c : Component) : Option c.Data :=
  if row.entityId = id then (row.entity.restrict row.shown).find c else none

theorem serialize_restrict (shown : List Component) (e : Entity) :
    (e.serialize : List (ComponentId × Obj)).filter
        (fun object => object.1 ∈ shown.map Component.componentId) =
      (e.restrict shown).serialize := by
  have hmem (c : Component) : c.componentId ∈ shown.map Component.componentId ↔ c ∈ shown :=
    List.mem_map_of_injective Component.componentId_injective
  simp only [Entity.serialize, Entity.restrict, List.filter_map, Function.comp_def, hmem]

/-- The handles of a row lead to the data of its entity, as far as the entity is
shown. -/
theorem hands_of_tells {reader : List Component} {heap : Heap} {row : ResultRow}
    {told : ProtocolEntity ClientHandle} (h : Tells Obj reader heap row told) :
    told.entityId = row.entityId ∧
      Hands reader ((row.entity.restrict row.shown).serialize : List (ComponentId × Obj))
        (told.component.map fun component => (component.1, heap.data component.2)) := by
  obtain @⟨sent, entityId, timeoutMillis, component, hsent, hhands⟩ := h
  rw [sendCreateEntityRequest_eq] at hsent
  split_ifs at hsent
  obtain rfl := Option.some.inj hsent
  rw [serialize_restrict] at hhands
  exact ⟨rfl, hhands⟩

/-- A row adds its data behind what there is, and touches no other entity. -/
theorem find_addRow {reader : List Component} {heap : Heap} {row : ResultRow}
    {told : ProtocolEntity ClientHandle} (h : Tells Obj reader heap row told)
    (hfits : row.entity.Fits) (result : InsertionMap EntityId Entity) (id : EntityId)
    (c : Component) :
    ((addRow heap reader result told).find id).bind (fun e => e.find c) =
      ((result.find id).bind fun e => e.find c).or
        (if c ∈ reader then row.data id c else none) := by
  obtain ⟨hid, hhands⟩ := hands_of_tells h
  have hshown : (row.entity.restrict row.shown).Fits := fun data hdata =>
    hfits data (List.mem_filter.mp hdata).1
  rw [addRow, InsertionMap.find_assign, hid, data]
  by_cases heq : row.entityId = id
  · subst heq
    have hread := Entity.find_restrict reader (row.entity.restrict row.shown) c
    rw [Entity.find] at hread
    rw [if_pos rfl, if_pos rfl, Option.bind_some, foldl_moveSnapshotIntoEntity hhands,
      deserializeComponents_serialize reader hshown, Entity.find_addAll, hread]
    cases result.find row.entityId <;> rfl
  · rw [if_neg heq, if_neg heq]
    split_ifs <;> simp

end ResultRow

theorem keys_addRow (heap : Heap) (registry : List Component)
    (result : InsertionMap EntityId Entity) (row : ProtocolEntity ClientHandle) (id : EntityId) :
    id ∈ (addRow heap registry result row).keys ↔ row.entityId = id ∨ id ∈ result.keys :=
  InsertionMap.mem_keys_assign

/-- The rows of a response, one after the other. -/
theorem foldl_addRow {reader : List Component} {heap : Heap} {rows : List ResultRow}
    {told : List (ProtocolEntity ClientHandle)}
    (htells : List.Forall₂ (ResultRow.Tells Obj reader heap) rows told)
    (hfits : ∀ row ∈ rows, row.entity.Fits) (result : InsertionMap EntityId Entity) :
    (∀ id, id ∈ (told.foldl (addRow heap reader) result).keys ↔
      id ∈ result.keys ∨ id ∈ rows.map ResultRow.entityId) ∧
    ∀ id c, ((told.foldl (addRow heap reader) result).find id).bind (fun e => e.find c) =
      ((result.find id).bind fun e => e.find c).or
        (if c ∈ reader then rows.findSome? fun row => row.data id c else none) := by
  induction htells generalizing result with
  | nil => simp
  | @cons row head rows tail hhead htail ih =>
    obtain ⟨hrow, hrest⟩ := List.forall_mem_cons.mp hfits
    obtain ⟨hkeys, hfind⟩ := ih hrest (addRow heap reader result head)
    have hid : head.entityId = row.entityId := (ResultRow.hands_of_tells hhead).1
    constructor
    · intro id
      rw [List.foldl_cons, hkeys, keys_addRow, hid, List.map_cons, List.mem_cons]
      tauto
    · intro id c
      rw [List.foldl_cons, hfind, ResultRow.find_addRow hhead hrow, Option.or_assoc,
        List.findSome?_cons]
      by_cases hc : c ∈ reader
      · simp only [hc, if_true]
        cases row.data id c <;> rfl
      · simp only [hc, if_false, Option.or_none]

/-- A response whose rows show components of created entities is handed to a
callback with the entities that are named, each with the components that the
registry of the reader has, with the data of the first row that shows it. -/
theorem handleEntityQueryResponse_created {reader : List Component} {heap : Heap}
    {rows : List ResultRow} {told : List (ProtocolEntity ClientHandle)}
    (htells : List.Forall₂ (ResultRow.Tells Obj reader heap) rows told)
    (hfits : ∀ row ∈ rows, row.entity.Fits) (requestId : RequestId) (statusCode : StatusCode)
    (message : String) :
    ∃ result : InsertionMap EntityId Entity,
      (∀ (callback : Callback σ (EntityQueryResponseOp (InsertionMap EntityId Entity))) (s : σ),
        (Dispatcher.new.onEntityQueryResponse (handleEntityQueryResponse heap reader)
            callback).process
          [.entityQueryResponse ⟨requestId, statusCode, message, told.length, some told⟩] s =
            callback ⟨requestId, statusCode, message, rows.length, result⟩ s) ∧
      (∀ id, id ∈ result.keys ↔ id ∈ rows.map ResultRow.entityId) ∧
      ∀ id c, (result.find id).bind (fun e => e.find c) =
        if c ∈ reader then rows.findSome? fun row => row.data id c else none := by
  obtain ⟨hkeys, hfind⟩ := foldl_addRow htells hfits .empty
  refine ⟨told.foldl (addRow heap reader) .empty, fun callback s => ?_, fun id => ?_,
    fun id c => ?_⟩
  · have hwrapper : handleEntityQueryResponse heap reader
        ⟨requestId, statusCode, message, told.length, some told⟩ =
          ⟨requestId, statusCode, message, rows.length,
            told.foldl (addRow heap reader) .empty⟩ := by
      rw [handleEntityQueryResponse, Option.getD_some, List.take_length, htells.length_eq]
    rw [← hwrapper, Dispatcher.process_cons, Dispatcher.handle, Dispatcher.onEntityQueryResponse]
    refine (congrArg (Except.bind · _) (CallbackMap.invokeAll_add_new _ _ _ s)).trans ?_
    cases callback (handleEntityQueryResponse heap reader _) s <;> rfl
  · rw [hkeys]
    simp
  · rw [hfind]
    rfl

/-- The rows of the example below: two of one entity, one of another. -/
def exampleRows : List ResultRow :=
  [⟨1, ⟨[⟨.position, ⟨⟨1, 2, 3⟩⟩⟩, ⟨.turnTaker, ⟨⟩⟩], by simp⟩, [.position, .turnTaker],
      [.position]⟩,
    ⟨2, ⟨[⟨.persistence, ⟨⟩⟩], by simp⟩, [.persistence], [.persistence]⟩,
    ⟨1, ⟨[⟨.position, ⟨⟨4, 5, 6⟩⟩⟩, ⟨.turnTaker, ⟨⟩⟩], by simp⟩, [.turnTaker, .position],
      [.position, .turnTaker]⟩]

/-- The objects behind their handles. -/
def exampleHeap : Heap
  | 0 => some (.data .position (Component.position.deserializeSnapshot
      (Component.position.serializeSnapshot ⟨⟨1, 2, 3⟩⟩ (newObject : PbioTree))))
  | 1 => some (.data .position (Component.position.deserializeSnapshot
      (Component.position.serializeSnapshot ⟨⟨4, 5, 6⟩⟩ (newObject : PbioTree))))
  | 2 => some (.data .turnTaker ⟨⟩)
  | _ => none

theorem handleEntityQueryResponse_created_repeated :
    ∃ result : InsertionMap EntityId Entity,
      (Dispatcher.new.onEntityQueryResponse
          (handleEntityQueryResponse exampleHeap [.position, .turnTaker, .game])
          fun op s => .ok (s ++ [op.result.keys])).process
        [.entityQueryResponse ⟨7, .kSuccess, "", 3,
          some [⟨1, [(54, 0)]⟩, ⟨2, [(55, 9)]⟩, ⟨1, [(54, 1), (1003, 2)]⟩]⟩] [] =
        .ok [result.keys] ∧
      (result.find 1).bind (fun e => e.find .position) = some ⟨⟨1, 2, 3⟩⟩ ∧
      (result.find 1).bind (fun e => e.find .turnTaker) = some ⟨⟩ ∧
      (result.find 2).bind (fun e => e.find .persistence) = none ∧ 2 ∈ result.keys := by
  have hsent {registry : List Component} {e : Entity} (h : e.Covered registry) :
      sendCreateEntityRequest registry e none none =
        some ⟨(e.serialize : List (ComponentId × PbioTree)), none, none⟩ :=
    (sendCreateEntityRequest_eq registry e none none).trans (if_pos h)
  have htells : List.Forall₂
      (ResultRow.Tells PbioTree [.position, .turnTaker, .game] exampleHeap) exampleRows
      [⟨1, [(54, 0)]⟩, ⟨2, [(55, 9)]⟩, ⟨1, [(54, 1), (1003, 2)]⟩] :=
    .cons (.of_sent (hsent (by decide)) rfl)
      (.cons (.of_sent (hsent (by decide)) rfl) (.cons (.of_sent (hsent (by decide)) rfl) .nil))
  have hfits : ∀ row ∈ exampleRows, row.entity.Fits := by
    simp [exampleRows, Entity.Fits, Component.DataFits]
  obtain ⟨result, hprocess, hkeys, hfind⟩ :=
    handleEntityQueryResponse_created (σ := List (List EntityId)) htells hfits 7 .kSuccess ""
  exact ⟨result, hprocess (fun op s => .ok (s ++ [op.result.keys])) [], hfind 1 .position,
    hfind 1 .turnTaker, hfind 2 .persistence, (hkeys 2).mpr (by decide)⟩

end SpatialWorkers
