import SpatialWorkers.Registrations

/-!
# Registering with a dispatcher

All registrations of a dispatcher draw their keys from one counter, whatever
the op type. The component callbacks of the user are wrapped: the wrapper reads
the object behind the handle of the op, and a command wrapper first compares
the command id.
-/
namespace SpatialWorkers
open InsertionMaps

variable {β γ δ ε ρ σ υ T : Type}

namespace CallbackMap

/-- In reverse, the callback registered last runs first. -/
theorem reverseInvokeAll_add {m : CallbackMap (Callback σ T)} (hm : m.AtRest) {key : CallbackKey}
    (hkey : key ∉ m.map.keys) (callback : Callback σ T) (op : T) (s : σ) :
    (m.add key callback).reverseInvokeAll op s = (callback op s).bind (m.reverseInvokeAll op) := by
  rw [add_eq hm]
  simp only [reverseInvokeAll, InsertionMap.entries_emplace hkey, List.reverse_append,
    List.reverse_singleton, List.singleton_append, List.foldlM_cons]
  rfl

/-- A single callback is all that is called, in either direction. -/
theorem invokeAll_add_new (key : CallbackKey) (callback : Callback σ T) (op : T) (s : σ) :
    (new.add key callback).invokeAll op s = callback op s :=
  invokeAll_add atRest_new (by simp [new]) callback op s

theorem reverseInvokeAll_add_new (key : CallbackKey) (callback : Callback σ T) (op : T) (s : σ) :
    (new.add key callback).reverseInvokeAll op s = callback op s := by
  rw [reverseInvokeAll_add atRest_new (by simp [new])]
  cases callback op s <;> rfl

end CallbackMap

namespace ComponentCallbackMap

/-- `map[componentId].Add(key, callback)`. -/
def add (m : ComponentCallbackMap β) (componentId : ComponentId) (key : CallbackKey)
    (callback : β) : ComponentCallbackMap β :=
  m.assign componentId (((m.find componentId).getD .new).add key callback)

end ComponentCallbackMap

/-- `ε` is what is made of the entities of the result. -/
structure EntityQueryResponseOp (ε : Type) where
  requestId : RequestId
  statusCode : StatusCode
  message : String
  resultCount : ℕ
  result : ε

structure AddComponentOp (δ : Type) where
  entityId : EntityId
  data : δ

structure ComponentUpdateOp (υ : Type) where
  entityId : EntityId
  update : υ

structure CommandRequestOp (ρ : Type) where
  requestId : RequestId
  entityId : EntityId
  timeoutMillis : ℕ
  callerWorkerId : String
  callerAttributeSet : List String
  request : ρ

structure CommandResponseOp (ρ : Type) where
  requestId : RequestId
  entityId : EntityId
  statusCode : StatusCode
  message : String
  response : Option ρ

/-- A command of a component: its id, and its request or response. -/
structure GenericCommandObject (γ : Type) where
  commandId : ℕ
  commandObject : γ
  deriving DecidableEq

namespace Dispatcher

def onFlagUpdate (d : Dispatcher σ) (callback : Callback σ FlagUpdateOp) : Dispatcher σ :=
  { d with
    flagUpdateCallbacks := d.flagUpdateCallbacks.add d.currentCallbackKey callback
    currentCallbackKey := d.currentCallbackKey + 1 }

def onMetrics (d : Dispatcher σ) (callback : Callback σ MetricsOp) : Dispatcher σ :=
  { d with
    metricsCallbacks := d.metricsCallbacks.add d.currentCallbackKey callback
    currentCallbackKey := d.currentCallbackKey + 1 }

def onCriticalSection (d : Dispatcher σ) (callback : Callback σ CriticalSectionOp) :
    Dispatcher σ :=
  { d with
    criticalSectionCallbacks := d.criticalSectionCallbacks.add d.currentCallbackKey callback
    currentCallbackKey := d.currentCallbackKey + 1 }

def onAddEntity (d : Dispatcher σ) (callback : Callback σ AddEntityOp) : Dispatcher σ :=
  { d with
    addEntityCallbacks := d.addEntityCallbacks.add d.currentCallbackKey callback
    currentCallbackKey := d.currentCallbackKey + 1 }

def onRemoveEntity (d : Dispatcher σ) (callback : Callback σ RemoveEntityOp) : Dispatcher σ :=
  { d with
    removeEntityCallbacks := d.removeEntityCallbacks.add d.currentCallbackKey callback
    currentCallbackKey := d.currentCallbackKey + 1 }

def onReserveEntityIdResponse (d : Dispatcher σ) (callback : Callback σ ReserveEntityIdResponseOp) :
    Dispatcher σ :=
  { d with
    reserveEntityIdResponseCallbacks :=
      d.reserveEntityIdResponseCallbacks.add d.currentCallbackKey callback
    currentCallbackKey := d.currentCallbackKey + 1 }

def onReserveEntityIdsResponse (d : Dispatcher σ)
    (callback : Callback σ ReserveEntityIdsResponseOp) : Dispatcher σ :=
  { d with
    reserveEntityIdsResponseCallbacks :=
      d.reserveEntityIdsResponseCallbacks.add d.currentCallbackKey callback
    currentCallbackKey := d.currentCallbackKey + 1 }

def onCreateEntityResponse (d : Dispatcher σ) (callback : Callback σ CreateEntityResponseOp) :
    Dispatcher σ :=
  { d with
    createEntityResponseCallbacks :=
      d.createEntityResponseCallbacks.add d.currentCallbackKey callback
    currentCallbackKey := d.currentCallbackKey + 1 }

def onDeleteEntityResponse (d : Dispatcher σ) (callback : Callback σ DeleteEntityResponseOp) :
    Dispatcher σ :=
  { d with
    deleteEntityResponseCallbacks :=
      d.deleteEntityResponseCallbacks.add d.currentCallbackKey callback
    currentCallbackKey := d.currentCallbackKey + 1 }

/-- `read` is `HandleEntityQueryResponse` up to the call of the callbacks. -/
def onEntityQueryResponse (d : Dispatcher σ)
    (read : EntityQueryResponseWrapperOp → EntityQueryResponseOp ε)
    (callback : Callback σ (EntityQueryResponseOp ε)) : Dispatcher σ :=
  let wrapperCallback : Callback σ EntityQueryResponseWrapperOp := fun op => callback (read op)
  { d with
    entityQueryResponseCallbacks :=
      d.entityQueryResponseCallbacks.add d.currentCallbackKey wrapperCallback
    currentCallbackKey := d.currentCallbackKey + 1 }

/-- `get` is `ClientHandle<T::Data>::get`. -/
def onAddComponent (d : Dispatcher σ) (componentId : ComponentId) (get : ClientHandle → δ)
    (callback : Callback σ (AddComponentOp δ)) : Dispatcher σ :=
  let wrapperCallback : Callback σ ComponentWrapperOp := fun op =>
    callback ⟨op.entityId, get op.handle⟩
  { d with
    addComponentCallbacks :=
      ComponentCallbackMap.add d.addComponentCallbacks componentId d.currentCallbackKey
        wrapperCallback
    currentCallbackKey := d.currentCallbackKey + 1 }

def onRemoveComponent (d : Dispatcher σ) (componentId : ComponentId)
    (callback : Callback σ RemoveComponentOp) : Dispatcher σ :=
  { d with
    removeComponentCallbacks :=
      ComponentCallbackMap.add d.removeComponentCallbacks componentId d.currentCallbackKey callback
    currentCallbackKey := d.currentCallbackKey + 1 }

def onAuthorityChange (d : Dispatcher σ) (componentId : ComponentId)
    (callback : Callback σ AuthorityChangeOp) : Dispatcher σ :=
  { d with
    authorityChangeCallbacks :=
      ComponentCallbackMap.add d.authorityChangeCallbacks componentId d.currentCallbackKey callback
    currentCallbackKey := d.currentCallbackKey + 1 }

/-- `get` is `ClientHandle<T::Update>::get`. -/
def onComponentUpdate (d : Dispatcher σ) (componentId : ComponentId) (get : ClientHandle → υ)
    (callback : Callback σ (ComponentUpdateOp υ)) : Dispatcher σ :=
  let wrapperCallback : Callback σ ComponentWrapperOp := fun op =>
    callback ⟨op.entityId, get op.handle⟩
  { d with
    componentUpdateCallbacks :=
      ComponentCallbackMap.add d.componentUpdateCallbacks componentId d.currentCallbackKey
        wrapperCallback
    currentCallbackKey := d.currentCallbackKey + 1 }

/-- A request for another command of the component is passed over. -/
def onCommandRequest (d : Dispatcher σ) (componentId : ComponentId) (commandId : ℕ)
    (get : ClientHandle → GenericCommandObject γ) (data : γ → ρ)
    (callback : Callback σ (CommandRequestOp ρ)) : Dispatcher σ :=
  let wrapperCallback : Callback σ CommandRequestWrapperOp := fun op s =>
    let genericRequest := get op.request
    if genericRequest.commandId ≠ commandId then .ok s
    else
      callback ⟨op.requestId, op.entityId, op.timeoutMillis, op.callerWorkerId, op.callerAttribute,
        data genericRequest.commandObject⟩ s
  { d with
    commandRequestCallbacks :=
      ComponentCallbackMap.add d.commandRequestCallbacks componentId d.currentCallbackKey
        wrapperCallback
    currentCallbackKey := d.currentCallbackKey + 1 }

/-- The command id of a response is in the op: a failure carries no object. -/
def onCommandResponse (d : Dispatcher σ) (componentId : ComponentId) (commandId : ℕ)
    (get : ClientHandle → GenericCommandObject γ) (data : γ → ρ)
    (callback : Callback σ (CommandResponseOp ρ)) : Dispatcher σ :=
  let wrapperCallback : Callback σ CommandResponseWrapperOp := fun op s =>
    if op.commandId ≠ commandId then .ok s
    else
      callback ⟨op.requestId, op.entityId, op.statusCode, op.message,
        op.response.map fun handle => data (get handle).commandObject⟩ s
  { d with
    commandResponseCallbacks :=
      ComponentCallbackMap.add d.commandResponseCallbacks componentId d.currentCallbackKey
        wrapperCallback
    currentCallbackKey := d.currentCallbackKey + 1 }

end Dispatcher

end SpatialWorkers
