import SpatialWorkers.InsertionMaps
import SpatialWorkers.Ops

/-!
# Callback maps and the op dispatcher

`CallbackMap` keeps the callbacks of one op type. Changes made while a call is
in progress are postponed to the end of the outermost call: `enter` and `leave`
are the constructor and the destructor of `UpdateGuard`. A callback acts on the
state it captures by reference; `Except.error` means that it called
`std::terminate`, and carries the state at that point.
-/
namespace SpatialWorkers
open InsertionMaps

variable {β ε σ T : Type}

/-- A `std::uint64_t` counter in the SDK. Numbers stand for it as long as there
are fewer than `2 ^ 64` registrations, after which it would wrap. -/
abbrev CallbackKey := ℕ

abbrev Callback (σ T : Type) := T → σ → Except σ σ

structure CallbackMap (β : Type) where
  map : InsertionMap CallbackKey β
  toAdd : InsertionMap CallbackKey β
  toRemove : InsertionMap CallbackKey ℕ
  callDepth : ℤ

namespace CallbackMap

def new : CallbackMap β := ⟨.empty, .empty, .empty, 0⟩

/-- Merge the postponed changes into the map. -/
def updateCallbacks (m : CallbackMap β) : CallbackMap β :=
  let merged := m.map.insert m.toAdd.entries
  { m with
    map := m.toRemove.keys.foldl InsertionMap.erase merged
    toAdd := .empty
    toRemove := .empty }

def enter (m : CallbackMap β) : CallbackMap β := { m with callDepth := m.callDepth + 1 }

def leave (m : CallbackMap β) : CallbackMap β :=
  let m := { m with callDepth := m.callDepth - 1 }
  if m.callDepth = 0 then m.updateCallbacks else m

def add (m : CallbackMap β) (key : CallbackKey) (callback : β) : CallbackMap β :=
  let m := m.enter
  leave { m with toAdd := m.toAdd.assign key callback, toRemove := m.toRemove.erase key }

/-- Invoke the callbacks of the map in insertion order, until one terminates. -/
def invokeAll (m : CallbackMap (Callback σ T)) (op : T) (s : σ) : Except σ σ :=
  m.map.entries.foldlM (fun s entry => entry.2 op s) s

def reverseInvokeAll (m : CallbackMap (Callback σ T)) (op : T) (s : σ) : Except σ σ :=
  m.map.entries.reverse.foldlM (fun s entry => entry.2 op s) s

/-- No call is in progress and nothing is postponed. -/
structure AtRest (m : CallbackMap β) : Prop where
  toAdd : m.toAdd = .empty
  toRemove : m.toRemove = .empty
  callDepth : m.callDepth = 0

theorem atRest_new : (new : CallbackMap β).AtRest := ⟨rfl, rfl, rfl⟩

/-- A call that registers nothing leaves the map as it was; `invokeAll` has no
guard of its own for that reason. -/
theorem leave_enter {m : CallbackMap β} (hm : m.AtRest) : m.enter.leave = m := by
  obtain ⟨hadd, hremove, hdepth⟩ := hm
  obtain ⟨map, toAdd, toRemove, callDepth⟩ := m
  subst hadd hremove hdepth
  simp [enter, leave, updateCallbacks]

/-- Registering outside any call takes effect at once, behind the callbacks
that are there already. -/
theorem add_eq {m : CallbackMap β} (hm : m.AtRest) (key : CallbackKey) (callback : β) :
    m.add key callback = { m with map := m.map.emplace key callback } := by
  obtain ⟨hadd, hremove, hdepth⟩ := hm
  have hassign : (InsertionMap.empty.assign key callback).entries = [(key, callback)] :=
    InsertionMap.entries_assign (by simp) callback
  have herase : (InsertionMap.empty : InsertionMap CallbackKey ℕ).erase key = .empty :=
    InsertionMap.erase_of_notMem (by simp)
  simp [add, enter, leave, updateCallbacks, hadd, hremove, hdepth, hassign, herase]

/-- Callbacks run in the order of their registration. -/
theorem invokeAll_add {m : CallbackMap (Callback σ T)} (hm : m.AtRest) {key : CallbackKey}
    (hkey : key ∉ m.map.keys) (callback : Callback σ T) (op : T) (s : σ) :
    (m.add key callback).invokeAll op s = (m.invokeAll op s).bind (callback op) := by
  rw [add_eq hm]
  simp only [invokeAll, InsertionMap.entries_emplace hkey, List.foldlM_append, List.foldlM_cons,
    List.foldlM_nil, bind_pure]
  rfl

@[simp] theorem invokeAll_new (op : T) (s : σ) :
    (new : CallbackMap (Callback σ T)).invokeAll op s = .ok s := rfl

@[simp] theorem reverseInvokeAll_new (op : T) (s : σ) :
    (new : CallbackMap (Callback σ T)).reverseInvokeAll op s = .ok s := rfl

end CallbackMap

/-- One callback map for each component. -/
abbrev ComponentCallbackMap (β : Type) := InsertionMap ComponentId (CallbackMap β)

namespace ComponentCallbackMap

def invokeAll (m : ComponentCallbackMap (Callback σ T)) (componentId : ComponentId) (op : T)
    (s : σ) : Except σ σ :=
  match m.find componentId with
  | some callbacks => callbacks.invokeAll op s
  | none => .ok s

def reverseInvokeAll (m : ComponentCallbackMap (Callback σ T)) (componentId : ComponentId)
    (op : T) (s : σ) : Except σ σ :=
  match m.find componentId with
  | some callbacks => callbacks.reverseInvokeAll op s
  | none => .ok s

end ComponentCallbackMap

/-- `DispatcherImpl`, over the state that the callbacks capture. -/
structure Dispatcher (σ : Type) where
  currentCallbackKey : CallbackKey
  disconnectCallbacks : CallbackMap (Callback σ DisconnectOp)
  flagUpdateCallbacks : CallbackMap (Callback σ FlagUpdateOp)
  logMessageCallbacks : CallbackMap (Callback σ LogMessageOp)
  metricsCallbacks : CallbackMap (Callback σ MetricsOp)
  criticalSectionCallbacks : CallbackMap (Callback σ CriticalSectionOp)
  addEntityCallbacks : CallbackMap (Callback σ AddEntityOp)
  removeEntityCallbacks : CallbackMap (Callback σ RemoveEntityOp)
  reserveEntityIdResponseCallbacks : CallbackMap (Callback σ ReserveEntityIdResponseOp)
  reserveEntityIdsResponseCallbacks : CallbackMap (Callback σ ReserveEntityIdsResponseOp)
  createEntityResponseCallbacks : CallbackMap (Callback σ CreateEntityResponseOp)
  deleteEntityResponseCallbacks : CallbackMap (Callback σ DeleteEntityResponseOp)
  entityQueryResponseCallbacks : CallbackMap (Callback σ EntityQueryResponseWrapperOp)
  addComponentCallbacks : ComponentCallbackMap (Callback σ ComponentWrapperOp)
  removeComponentCallbacks : ComponentCallbackMap (Callback σ RemoveComponentOp)
  authorityChangeCallbacks : ComponentCallbackMap (Callback σ AuthorityChangeOp)
  componentUpdateCallbacks : ComponentCallbackMap (Callback σ ComponentWrapperOp)
  commandRequestCallbacks : ComponentCallbackMap (Callback σ CommandRequestWrapperOp)
  commandResponseCallbacks : ComponentCallbackMap (Callback σ CommandResponseWrapperOp)

namespace Dispatcher

def new : Dispatcher σ where
  currentCallbackKey := 0
  disconnectCallbacks := .new
  flagUpdateCallbacks := .new
  logMessageCallbacks := .new
  metricsCallbacks := .new
  criticalSectionCallbacks := .new
  addEntityCallbacks := .new
  removeEntityCallbacks := .new
  reserveEntityIdResponseCallbacks := .new
  reserveEntityIdsResponseCallbacks := .new
  createEntityResponseCallbacks := .new
  deleteEntityResponseCallbacks := .new
  entityQueryResponseCallbacks := .new
  addComponentCallbacks := .empty
  removeComponentCallbacks := .empty
  authorityChangeCallbacks := .empty
  componentUpdateCallbacks := .empty
  commandRequestCallbacks := .empty
  commandResponseCallbacks := .empty

/-- The key handed back to the caller is the current one before the call. -/
def onDisconnect (d : Dispatcher σ) (callback : Callback σ DisconnectOp) : Dispatcher σ :=
  { d with
    disconnectCallbacks := d.disconnectCallbacks.add d.currentCallbackKey callback
    currentCallbackKey := d.currentCallbackKey + 1 }

def onLogMessage (d : Dispatcher σ) (callback : Callback σ LogMessageOp) : Dispatcher σ :=
  { d with
    logMessageCallbacks := d.logMessageCallbacks.add d.currentCallbackKey callback
    currentCallbackKey := d.currentCallbackKey + 1 }

/-- The switch of `Process` on the type of one op. -/
def handle (d : Dispatcher σ) (s : σ) : Op → Except σ σ
  | .disconnect op => d.disconnectCallbacks.invokeAll op s
  | .flagUpdate op =>
    if op.value.isSome then d.flagUpdateCallbacks.invokeAll op s
    else d.flagUpdateCallbacks.reverseInvokeAll op s
  | .logMessage op => d.logMessageCallbacks.invokeAll op s
  | .metrics op => d.metricsCallbacks.invokeAll op s
  | .criticalSection op =>
    if op.inCriticalSection then d.criticalSectionCallbacks.invokeAll op s
    else d.criticalSectionCallbacks.reverseInvokeAll op s
  | .addEntity op => d.addEntityCallbacks.invokeAll op s
  | .removeEntity op => d.removeEntityCallbacks.reverseInvokeAll op s
  | .reserveEntityIdResponse op => d.reserveEntityIdResponseCallbacks.invokeAll op s
  | .reserveEntityIdsResponse op => d.reserveEntityIdsResponseCallbacks.invokeAll op s
  | .createEntityResponse op => d.createEntityResponseCallbacks.invokeAll op s
  | .deleteEntityResponse op => d.deleteEntityResponseCallbacks.invokeAll op s
  | .entityQueryResponse op => d.entityQueryResponseCallbacks.invokeAll op s
  | .addComponent componentId op => d.addComponentCallbacks.invokeAll componentId op s
  | .removeComponent componentId op =>
    d.removeComponentCallbacks.reverseInvokeAll componentId op s
  | .authorityChange componentId op =>
    if op.authority = .kAuthoritative then d.authorityChangeCallbacks.invokeAll componentId op s
    else d.authorityChangeCallbacks.reverseInvokeAll componentId op s
  | .componentUpdate componentId op => d.componentUpdateCallbacks.invokeAll componentId op s
  | .commandRequest componentId op => d.commandRequestCallbacks.invokeAll componentId op s
  | .commandResponse componentId op => d.commandResponseCallbacks.invokeAll componentId op s

/-- Dispatch the ops of a list in order; a callback that terminates ends it. -/
def process (d : Dispatcher σ) (ops : OpList) (s : σ) : Except σ σ := ops.foldlM d.handle s

/-- A dispatcher with one disconnect and one log message callback calls these
two, and does nothing on an op of any other type. -/
theorem handle_registered (onDisc : Callback σ DisconnectOp) (onLog : Callback σ LogMessageOp)
    (s : σ) (op : Op) :
    ((new.onDisconnect onDisc).onLogMessage onLog).handle s op =
      match op with
      | .disconnect op => onDisc op s
      | .logMessage op => onLog op s
      | _ => .ok s := by
  have hdisc (op : DisconnectOp) :
      (CallbackMap.new.add 0 onDisc).invokeAll op s = onDisc op s := by
    rw [CallbackMap.invokeAll_add CallbackMap.atRest_new (by simp [CallbackMap.new])]
    rfl
  have hlog (op : LogMessageOp) : (CallbackMap.new.add 1 onLog).invokeAll op s = onLog op s := by
    rw [CallbackMap.invokeAll_add CallbackMap.atRest_new (by simp [CallbackMap.new])]
    rfl
  cases op with
  | disconnect op => exact hdisc op
  | logMessage op => exact hlog op
  | flagUpdate op => simp [handle, onDisconnect, onLogMessage, new]
  | criticalSection op => simp [handle, onDisconnect, onLogMessage, new]
  | authorityChange componentId op =>
    simp only [handle]
    split_ifs <;> rfl
  | _ => rfl

@[simp] theorem process_nil (d : Dispatcher σ) (s : σ) : d.process [] s = .ok s := rfl

@[simp] theorem process_cons (d : Dispatcher σ) (op : Op) (ops : OpList) (s : σ) :
    d.process (op :: ops) s = (d.handle s op).bind (d.process ops) := rfl

theorem process_append (d : Dispatcher σ) (ops ops' : OpList) (s : σ) :
    d.process (ops ++ ops') s = (d.process ops s).bind (d.process ops') := by
  unfold process
  rw [List.foldlM_append]
  rfl

end Dispatcher

end SpatialWorkers
