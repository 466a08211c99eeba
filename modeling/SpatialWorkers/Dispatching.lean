import SpatialWorkers.Registry

/-!
# What a dispatcher does with an op

A dispatcher keeps its callbacks in eighteen maps, six of them by component.
Whatever was registered and removed before, an op is handed to the callbacks
registered for it in the order of their registration, or in the reverse order
when it takes something away.
-/
namespace SpatialWorkers
open InsertionMaps LabelledRuns

variable {β σ : Type}

/-- The op types whose callbacks are in one map. -/
inductive OpKind
  | disconnect
  | flagUpdate
  | logMessage
  | metrics
  | criticalSection
  | addEntity
  | removeEntity
  | reserveEntityIdResponse
  | reserveEntityIdsResponse
  | createEntityResponse
  | deleteEntityResponse
  | entityQueryResponse
  deriving DecidableEq

/-- The op types whose callbacks are in one map for each component. -/
inductive ComponentOpKind
  | addComponent
  | removeComponent
  | authorityChange
  | componentUpdate
  | commandRequest
  | commandResponse
  deriving DecidableEq

abbrev OpKind.Wrapper : OpKind → Type
  | disconnect => DisconnectOp
  | flagUpdate => FlagUpdateOp
  | logMessage => LogMessageOp
  | metrics => MetricsOp
  | criticalSection => CriticalSectionOp
  | addEntity => AddEntityOp
  | removeEntity => RemoveEntityOp
  | reserveEntityIdResponse => ReserveEntityIdResponseOp
  | reserveEntityIdsResponse => ReserveEntityIdsResponseOp
  | createEntityResponse => CreateEntityResponseOp
  | deleteEntityResponse => DeleteEntityResponseOp
  | entityQueryResponse => EntityQueryResponseWrapperOp

abbrev ComponentOpKind.Wrapper : ComponentOpKind → Type
  | addComponent => ComponentWrapperOp
  | removeComponent => RemoveComponentOp
  | authorityChange => AuthorityChangeOp
  | componentUpdate => ComponentWrapperOp
  | commandRequest => CommandRequestWrapperOp
  | commandResponse => CommandResponseWrapperOp

/-- A place for callbacks. -/
inductive Slot
  | plain (kind : OpKind)
  | component (kind : ComponentOpKind) (componentId : ComponentId)
  deriving DecidableEq

namespace Slot

abbrev Wrapper : Slot → Type
  | plain kind => kind.Wrapper
  | component kind _ => kind.Wrapper

def kind : Slot → OpKind ⊕ ComponentOpKind
  | plain kind => .inl kind
  | component kind _ => .inr kind

end Slot

namespace Op

/-- Where the callbacks for an op are. -/
def slot : Op → Slot
  | disconnect _ => .plain .disconnect
  | flagUpdate _ => .plain .flagUpdate
  | logMessage _ => .plain .logMessage
  | metrics _ => .plain .metrics
  | criticalSection _ => .plain .criticalSection
  | addEntity _ => .plain .addEntity
  | removeEntity _ => .plain .removeEntity
  | reserveEntityIdResponse _ => .plain .reserveEntityIdResponse
  | reserveEntityIdsResponse _ => .plain .reserveEntityIdsResponse
  | createEntityResponse _ => .plain .createEntityResponse
  | deleteEntityResponse _ => .plain .deleteEntityResponse
  | entityQueryResponse _ => .plain .entityQueryResponse
  | addComponent componentId _ => .component .addComponent componentId
  | removeComponent componentId _ => .component .removeComponent componentId
  | authorityChange componentId _ => .component .authorityChange componentId
  | componentUpdate componentId _ => .component .componentUpdate componentId
  | commandRequest componentId _ => .component .commandRequest componentId
  | commandResponse componentId _ => .component .commandResponse componentId

/-- What the callbacks for an op receive. -/
def wrapper : (op : Op) → op.slot.Wrapper
  | disconnect op => op
  | flagUpdate op => op
  | logMessage op => op
  | metrics op => op
  | criticalSection op => op
  | addEntity op => op
  | removeEntity op => op
  | reserveEntityIdResponse op => op
  | reserveEntityIdsResponse op => op
  | createEntityResponse op => op
  | deleteEntityResponse op => op
  | entityQueryResponse op => op
  | addComponent _ op => op
  | removeComponent _ op => op
  | authorityChange _ op => op
  | componentUpdate _ op => op
  | commandRequest _ op => op
  | commandResponse _ op => op

/-- The ops that take something away: a flag, a critical section, an entity, a
component or the full authority. -/
def reversed : Op → Bool
  | flagUpdate op => !op.value.isSome
  | criticalSection op => !op.inCriticalSection
  | removeEntity _ => true
  | removeComponent _ _ => true
  | authorityChange _ op => !decide (op.authority = .kAuthoritative)
  | _ => false

end Op

namespace CallbackMap

def eraseKey (m : CallbackMap β) (key : CallbackKey) : CallbackMap β :=
  { m with map := m.map.erase key }

theorem AtRest.eraseKey {m : CallbackMap β} (hm : m.AtRest) (key : CallbackKey) :
    (m.eraseKey key).AtRest := ⟨hm.toAdd, hm.toRemove, hm.callDepth⟩

theorem eraseKey_of_notMem {m : CallbackMap β} {key : CallbackKey} (h : key ∉ m.map.keys) :
    m.eraseKey key = m := by
  rw [CallbackMap.eraseKey, InsertionMap.erase_of_notMem h]

/-- Outside any call, removing takes effect at once. -/
theorem remove_eq {m : CallbackMap β} (hm : m.AtRest) (key : CallbackKey) :
    m.remove key = (m.eraseKey key, decide (key ∈ m.map.keys)) := by
  obtain ⟨hadd, hremove, hdepth⟩ := hm
  have hempty : (InsertionMap.empty : InsertionMap CallbackKey β).erase key = .empty :=
    InsertionMap.erase_of_notMem (by simp)
  by_cases h : key ∈ m.map.keys
  · have hkeys : (InsertionMap.empty.emplace key 0).keys = [key] := by
      rw [InsertionMap.keys, InsertionMap.entries_emplace (by simp)]
      rfl
    rw [remove_of_mem h, hadd, hremove, hempty]
    simp [leave, enter, updateCallbacks, eraseKey, hdepth, hkeys, hadd, hremove, h]
  · rw [remove_of_notMem h, eraseKey_of_notMem h, hadd, hempty]
    obtain ⟨map, toAdd, toRemove, callDepth⟩ := m
    simp only at hadd hremove hdepth h
    subst hadd hremove hdepth
    simp [leave, enter, updateCallbacks, h]

end CallbackMap

namespace ComponentCallbackMap

/-- The loop over the maps of all components, up to the first that has the key. -/
def removeLoop (key : CallbackKey) :
    List (ComponentId × CallbackMap β) → List (ComponentId × CallbackMap β) × Bool
  | [] => ([], false)
  | pair :: pairs =>
    let (callbacks, removed) := pair.2.remove key
    if removed then ((pair.1, callbacks) :: pairs, true)
    else
      let (pairs, removed) := removeLoop key pairs
      ((pair.1, callbacks) :: pairs, removed)

theorem keys_removeLoop (key : CallbackKey) (pairs : List (ComponentId × CallbackMap β)) :
    (removeLoop key pairs).1.map Prod.fst = pairs.map Prod.fst := by
  induction pairs with
  | nil => rfl
  | cons pair pairs ih =>
    simp only [removeLoop]
    split_ifs
    · rfl
    · rw [List.map_cons, List.map_cons, ih]

def remove (m : ComponentCallbackMap β) (key : CallbackKey) : ComponentCallbackMap β × Bool :=
  (⟨(removeLoop key m.entries).1, by
    rw [keys_removeLoop]
    exact m.nodup⟩, (removeLoop key m.entries).2)

theorem removeLoop_of_absent {key : CallbackKey} {pairs : List (ComponentId × CallbackMap β)}
    (h : ∀ pair ∈ pairs, pair.2.remove key = (pair.2, false)) :
    removeLoop key pairs = (pairs, false) := by
  induction pairs with
  | nil => rfl
  | cons pair pairs ih =>
    rw [removeLoop, h pair List.mem_cons_self, ih fun p hp => h p (List.mem_cons_of_mem _ hp)]
    rfl

theorem removeLoop_of_held {key : CallbackKey} {componentId : ComponentId} {m m' : CallbackMap β}
    {pairs : List (ComponentId × CallbackMap β)} (hnodup : (pairs.map Prod.fst).Nodup)
    (hmem : (componentId, m) ∈ pairs) (hremove : m.remove key = (m', true))
    (h : ∀ pair ∈ pairs, pair.1 ≠ componentId → pair.2.remove key = (pair.2, false)) :
    removeLoop key pairs =
      (pairs.map fun pair => if pair.1 = componentId then (pair.1, m') else pair, true) := by
  induction pairs with
  | nil => simp at hmem
  | cons pair pairs ih =>
    obtain ⟨hhead, htail⟩ := List.nodup_cons.mp hnodup
    by_cases hpair : pair.1 = componentId
    · have hself : pair = (componentId, m) := by
        rcases List.mem_cons.mp hmem with heq | hin
        · exact heq.symm
        · exact absurd (hpair ▸ List.mem_map_of_mem hin) hhead
      have hrest : pairs.map (fun p => if p.1 = componentId then (p.1, m') else p) = pairs := by
        refine (List.map_congr_left fun p hp => ?_).trans (List.map_id _)
        refine if_neg fun heq => hhead ?_
        rw [hpair, ← heq]
        exact List.mem_map_of_mem hp
      subst hself
      rw [List.map_cons, hrest, removeLoop, hremove, if_pos rfl]
      rfl
    · have hin : (componentId, m) ∈ pairs := by
        rcases List.mem_cons.mp hmem with heq | hin
        · exact absurd (congrArg Prod.fst heq).symm hpair
        · exact hin
      rw [removeLoop, h pair List.mem_cons_self hpair,
        ih htail hin fun p hp => h p (List.mem_cons_of_mem _ hp), List.map_cons, if_neg hpair]
      rfl

theorem invokeAll_eq {T : Type} (m : ComponentCallbackMap (Callback σ T)) (c : ComponentId)
    (op : T) (s : σ) : invokeAll m c op s = ((m.find c).getD .new).invokeAll op s := by
  unfold invokeAll
  cases m.find c <;> rfl

theorem reverseInvokeAll_eq {T : Type} (m : ComponentCallbackMap (Callback σ T)) (c : ComponentId)
    (op : T) (s : σ) :
    reverseInvokeAll m c op s = ((m.find c).getD .new).reverseInvokeAll op s := by
  unfold reverseInvokeAll
  cases m.find c <;> rfl

end ComponentCallbackMap

/-- A registered callback with its place. -/
abbrev Registered (σ : Type) := (slot : Slot) × Callback σ slot.Wrapper

namespace Registered

/-- What a registered callback does on an op; none if it is not for it. -/
def call (op : Op) (r : Registered σ) : Option (σ → Except σ σ) :=
  if h : r.1 = op.slot then some ((h ▸ r.2 : Callback σ op.slot.Wrapper) op.wrapper) else none

/-- The callback of an entry, if its place is this one. -/
def select (slot : Slot) (entry : CallbackKey × Registered σ) :
    Option (CallbackKey × Callback σ slot.Wrapper) :=
  if h : entry.2.1 = slot then some (entry.1, h ▸ entry.2.2) else none

theorem select_self (slot : Slot) (key : CallbackKey) (callback : Callback σ slot.Wrapper) :
    select slot (key, ⟨slot, callback⟩) = some (key, callback) := dif_pos rfl

theorem select_of_ne {slot : Slot} {entry : CallbackKey × Registered σ} (h : entry.2.1 ≠ slot) :
    select slot entry = none := dif_neg h

theorem fst_of_select {slot : Slot} {entry : CallbackKey × Registered σ}
    {selected : CallbackKey × Callback σ slot.Wrapper} (h : select slot entry = some selected) :
    entry.1 = selected.1 ∧ entry.2.1 = slot := by
  unfold select at h
  split_ifs at h with hslot
  obtain rfl := Option.some.inj h
  exact ⟨rfl, hslot⟩

theorem mem_keys_select {entries : List (CallbackKey × Registered σ)} {slot : Slot}
    {key : CallbackKey} : key ∈ (entries.filterMap (select slot)).map Prod.fst ↔
      ∃ entry ∈ entries, entry.1 = key ∧ entry.2.1 = slot := by
  simp only [List.mem_map, List.mem_filterMap]
  constructor
  · rintro ⟨selected, ⟨entry, hentry, hselect⟩, rfl⟩
    exact ⟨entry, hentry, fst_of_select hselect⟩
  · rintro ⟨⟨key, slot', callback⟩, hentry, rfl, rfl⟩
    exact ⟨_, ⟨_, hentry, select_self slot' key callback⟩, rfl⟩

theorem call_eq (op : Op) (entry : CallbackKey × Registered σ) :
    entry.2.call op = (select op.slot entry).map fun selected => selected.2 op.wrapper := by
  unfold call select
  split_ifs <;> rfl

end Registered

namespace Dispatcher

def callbacks (d : Dispatcher σ) : (kind : OpKind) → CallbackMap (Callback σ kind.Wrapper)
  | .disconnect => d.disconnectCallbacks
  | .flagUpdate => d.flagUpdateCallbacks
  | .logMessage => d.logMessageCallbacks
  | .metrics => d.metricsCallbacks
  | .criticalSection => d.criticalSectionCallbacks
  | .addEntity => d.addEntityCallbacks
  | .removeEntity => d.removeEntityCallbacks
  | .reserveEntityIdResponse => d.reserveEntityIdResponseCallbacks
  | .reserveEntityIdsResponse => d.reserveEntityIdsResponseCallbacks
  | .createEntityResponse => d.createEntityResponseCallbacks
  | .deleteEntityResponse => d.deleteEntityResponseCallbacks
  | .entityQueryResponse => d.entityQueryResponseCallbacks

def setCallbacks (d : Dispatcher σ) :
    (kind : OpKind) → CallbackMap (Callback σ kind.Wrapper) → Dispatcher σ
  | .disconnect, m => { d with disconnectCallbacks := m }
  | .flagUpdate, m => { d with flagUpdateCallbacks := m }
  | .logMessage, m => { d with logMessageCallbacks := m }
  | .metrics, m => { d with metricsCallbacks := m }
  | .criticalSection, m => { d with criticalSectionCallbacks := m }
  | .addEntity, m => { d with addEntityCallbacks := m }
  | .removeEntity, m => { d with removeEntityCallbacks := m }
  | .reserveEntityIdResponse, m => { d with reserveEntityIdResponseCallbacks := m }
  | .reserveEntityIdsResponse, m => { d with reserveEntityIdsResponseCallbacks := m }
  | .createEntityResponse, m => { d with createEntityResponseCallbacks := m }
  | .deleteEntityResponse, m => { d with deleteEntityResponseCallbacks := m }
  | .entityQueryResponse, m => { d with entityQueryResponseCallbacks := m }

def componentCallbacks (d : Dispatcher σ) :
    (kind : ComponentOpKind) → ComponentCallbackMap (Callback σ kind.Wrapper)
  | .addComponent => d.addComponentCallbacks
  | .removeComponent => d.removeComponentCallbacks
  | .authorityChange => d.authorityChangeCallbacks
  | .componentUpdate => d.componentUpdateCallbacks
  | .commandRequest => d.commandRequestCallbacks
  | .commandResponse => d.commandResponseCallbacks

def setComponentCallbacks (d : Dispatcher σ) :
    (kind : ComponentOpKind) → ComponentCallbackMap (Callback σ kind.Wrapper) → Dispatcher σ
  | .addComponent, m => { d with addComponentCallbacks := m }
  | .removeComponent, m => { d with removeComponentCallbacks := m }
  | .authorityChange, m => { d with authorityChangeCallbacks := m }
  | .componentUpdate, m => { d with componentUpdateCallbacks := m }
  | .commandRequest, m => { d with commandRequestCallbacks := m }
  | .commandResponse, m => { d with commandResponseCallbacks := m }

/-- A component without a map is as one with an empty map. -/
def callbacksAt (d : Dispatcher σ) : (slot : Slot) → CallbackMap (Callback σ slot.Wrapper)
  | .plain kind => d.callbacks kind
  | .component kind componentId => ((d.componentCallbacks kind).find componentId).getD .new

def addAt (d : Dispatcher σ) (key : CallbackKey) :
    (slot : Slot) → Callback σ slot.Wrapper → Dispatcher σ
  | .plain kind, callback => d.setCallbacks kind ((d.callbacks kind).add key callback)
  | .component kind componentId, callback =>
    d.setComponentCallbacks kind
      (ComponentCallbackMap.add (d.componentCallbacks kind) componentId key callback)

/-- What all the registering functions have in common. -/
def add (d : Dispatcher σ) (r : Registered σ) : Dispatcher σ :=
  { d.addAt d.currentCallbackKey r.1 r.2 with
    currentCallbackKey := d.currentCallbackKey + 1 }

/-- A component gets a map with its first callback. -/
def hasMap (d : Dispatcher σ) : Slot → Bool
  | .plain _ => true
  | .component kind componentId => ((d.componentCallbacks kind).find componentId).isSome

/-- Change the map of a place, if it has one. -/
def modifyAt (d : Dispatcher σ) : (slot : Slot) →
    (CallbackMap (Callback σ slot.Wrapper) → CallbackMap (Callback σ slot.Wrapper)) → Dispatcher σ
  | .plain kind, f => d.setCallbacks kind (f (d.callbacks kind))
  | .component kind componentId, f =>
    match (d.componentCallbacks kind).find componentId with
    | some m =>
      d.setComponentCallbacks kind ((d.componentCallbacks kind).assign componentId (f m))
    | none => d

section

variable (d : Dispatcher σ)

@[simp] theorem callbacks_setCallbacks (kind : OpKind) (m : CallbackMap (Callback σ kind.Wrapper)) :
    (d.setCallbacks kind m).callbacks kind = m := by
  cases kind <;> rfl

theorem callbacks_setCallbacks_of_ne {kind kind' : OpKind} (h : kind ≠ kind')
    (m : CallbackMap (Callback σ kind.Wrapper)) :
    (d.setCallbacks kind m).callbacks kind' = d.callbacks kind' := by
  cases kind <;> cases kind' <;> first | rfl | exact absurd rfl h

@[simp] theorem componentCallbacks_setCallbacks (kind : OpKind)
    (m : CallbackMap (Callback σ kind.Wrapper)) (kind' : ComponentOpKind) :
    (d.setCallbacks kind m).componentCallbacks kind' = d.componentCallbacks kind' := by
  cases kind <;> cases kind' <;> rfl

@[simp] theorem componentCallbacks_setComponentCallbacks (kind : ComponentOpKind)
    (m : ComponentCallbackMap (Callback σ kind.Wrapper)) :
    (d.setComponentCallbacks kind m).componentCallbacks kind = m := by
  cases kind <;> rfl

theorem componentCallbacks_setComponentCallbacks_of_ne {kind kind' : ComponentOpKind}
    (h : kind ≠ kind') (m : ComponentCallbackMap (Callback σ kind.Wrapper)) :
    (d.setComponentCallbacks kind m).componentCallbacks kind' = d.componentCallbacks kind' := by
  cases kind <;> cases kind' <;> first | rfl | exact absurd rfl h

@[simp] theorem callbacks_setComponentCallbacks (kind : ComponentOpKind)
    (m : ComponentCallbackMap (Callback σ kind.Wrapper)) (kind' : OpKind) :
    (d.setComponentCallbacks kind m).callbacks kind' = d.callbacks kind' := by
  cases kind <;> cases kind' <;> rfl

@[simp] theorem currentCallbackKey_setCallbacks (kind : OpKind)
    (m : CallbackMap (Callback σ kind.Wrapper)) :
    (d.setCallbacks kind m).currentCallbackKey = d.currentCallbackKey := by
  cases kind <;> rfl

@[simp] theorem currentCallbackKey_setComponentCallbacks (kind : ComponentOpKind)
    (m : ComponentCallbackMap (Callback σ kind.Wrapper)) :
    (d.setComponentCallbacks kind m).currentCallbackKey = d.currentCallbackKey := by
  cases kind <;> rfl

theorem callbacksAt_withKey (key : CallbackKey) (slot : Slot) :
    ({ d with currentCallbackKey := key } : Dispatcher σ).callbacksAt slot =
      d.callbacksAt slot := by
  cases slot with
  | plain kind => cases kind <;> rfl
  | component kind componentId => cases kind <;> rfl

theorem callbacksAt_addAt (key : CallbackKey) (slot : Slot) (callback : Callback σ slot.Wrapper) :
    (d.addAt key slot callback).callbacksAt slot = (d.callbacksAt slot).add key callback := by
  cases slot with
  | plain kind => exact callbacks_setCallbacks d kind _
  | component kind componentId =>
    simp only [callbacksAt, addAt, componentCallbacks_setComponentCallbacks,
      ComponentCallbackMap.add, InsertionMap.find_assign, if_true, Option.getD_some]

theorem callbacksAt_addAt_of_ne {slot slot' : Slot} (h : slot ≠ slot') (key : CallbackKey)
    (callback : Callback σ slot.Wrapper) :
    (d.addAt key slot callback).callbacksAt slot' = d.callbacksAt slot' := by
  cases slot with
  | plain kind =>
    cases slot' with
    | plain kind' => exact callbacks_setCallbacks_of_ne d (fun heq => h (congrArg Slot.plain heq)) _
    | component kind' componentId' =>
      simp only [callbacksAt, addAt, componentCallbacks_setCallbacks]
  | component kind componentId =>
    cases slot' with
    | plain kind' => simp only [callbacksAt, addAt, callbacks_setComponentCallbacks]
    | component kind' componentId' =>
      by_cases hkind : kind = kind'
      · subst hkind
        have hne : componentId ≠ componentId' := fun heq => h (heq ▸ rfl)
        simp only [callbacksAt, addAt, componentCallbacks_setComponentCallbacks,
          ComponentCallbackMap.add, InsertionMap.find_assign, if_neg hne]
      · simp only [callbacksAt, addAt, componentCallbacks_setComponentCallbacks_of_ne d hkind]

theorem callbacksAt_modifyAt {slot : Slot} (h : d.hasMap slot = true)
    (f : CallbackMap (Callback σ slot.Wrapper) → CallbackMap (Callback σ slot.Wrapper)) :
    (d.modifyAt slot f).callbacksAt slot = f (d.callbacksAt slot) := by
  cases slot with
  | plain kind => exact callbacks_setCallbacks d kind _
  | component kind componentId =>
    obtain ⟨m, hm⟩ := Option.isSome_iff_exists.mp h
    simp only [modifyAt, callbacksAt, hm, componentCallbacks_setComponentCallbacks,
      InsertionMap.find_assign, if_true, Option.getD_some]

theorem callbacksAt_modifyAt_of_ne {slot slot' : Slot} (h : slot ≠ slot')
    (f : CallbackMap (Callback σ slot.Wrapper) → CallbackMap (Callback σ slot.Wrapper)) :
    (d.modifyAt slot f).callbacksAt slot' = d.callbacksAt slot' := by
  cases slot with
  | plain kind =>
    cases slot' with
    | plain kind' => exact callbacks_setCallbacks_of_ne d (fun heq => h (congrArg Slot.plain heq)) _
    | component kind' componentId' =>
      simp only [callbacksAt, modifyAt, componentCallbacks_setCallbacks]
  | component kind componentId =>
    cases hfind : (d.componentCallbacks kind).find componentId with
    | none => simp only [modifyAt, hfind]
    | some m =>
      cases slot' with
      | plain kind' => simp only [callbacksAt, modifyAt, hfind, callbacks_setComponentCallbacks]
      | component kind' componentId' =>
        by_cases hkind : kind = kind'
        · subst hkind
          have hne : componentId ≠ componentId' := fun heq => h (heq ▸ rfl)
          simp only [callbacksAt, modifyAt, hfind, componentCallbacks_setComponentCallbacks,
            InsertionMap.find_assign, if_neg hne]
        · simp only [callbacksAt, modifyAt, hfind,
            componentCallbacks_setComponentCallbacks_of_ne d hkind]

theorem currentCallbackKey_modifyAt (slot : Slot)
    (f : CallbackMap (Callback σ slot.Wrapper) → CallbackMap (Callback σ slot.Wrapper)) :
    (d.modifyAt slot f).currentCallbackKey = d.currentCallbackKey := by
  cases slot with
  | plain kind => exact currentCallbackKey_setCallbacks d kind _
  | component kind componentId =>
    cases hfind : (d.componentCallbacks kind).find componentId with
    | none => simp only [modifyAt, hfind]
    | some m => simp only [modifyAt, hfind, currentCallbackKey_setComponentCallbacks]

theorem hasMap_setComponentCallbacks {kind : ComponentOpKind} {componentId : ComponentId}
    (m : CallbackMap (Callback σ kind.Wrapper)) {slot : Slot} (h : d.hasMap slot = true) :
    (d.setComponentCallbacks kind ((d.componentCallbacks kind).assign componentId m)).hasMap slot =
      true := by
  cases slot with
  | plain kind' => rfl
  | component kind' componentId' =>
    by_cases hkind : kind = kind'
    · subst hkind
      rw [hasMap, componentCallbacks_setComponentCallbacks, InsertionMap.find_assign]
      split_ifs
      · rfl
      · exact h
    · rw [hasMap, componentCallbacks_setComponentCallbacks_of_ne d hkind]
      exact h

/-- Maps do not go away. -/
theorem hasMap_modifyAt {slot : Slot} (slot' : Slot) (h : d.hasMap slot = true)
    (f : CallbackMap (Callback σ slot'.Wrapper) → CallbackMap (Callback σ slot'.Wrapper)) :
    (d.modifyAt slot' f).hasMap slot = true := by
  cases slot' with
  | plain kind =>
    cases slot with
    | plain kind' => rfl
    | component kind' componentId' =>
      rw [hasMap, modifyAt, componentCallbacks_setCallbacks]
      exact h
  | component kind componentId =>
    cases hfind : (d.componentCallbacks kind).find componentId with
    | none =>
      simp only [modifyAt, hfind]
      exact h
    | some m =>
      simp only [modifyAt, hfind]
      exact hasMap_setComponentCallbacks d (f m) h

theorem hasMap_add {slot : Slot} (h : d.hasMap slot = true) (r : Registered σ) :
    (d.add r).hasMap slot = true := by
  obtain ⟨slot', callback⟩ := r
  have hkey (d : Dispatcher σ) (key : CallbackKey) :
      ({ d with currentCallbackKey := key } : Dispatcher σ).hasMap slot = d.hasMap slot := by
    cases slot with
    | plain kind => rfl
    | component kind componentId => cases kind <;> rfl
  rw [add, hkey]
  cases slot' with
  | plain kind =>
    cases slot with
    | plain kind' => rfl
    | component kind' componentId' =>
      rw [hasMap, addAt, componentCallbacks_setCallbacks]
      exact h
  | component kind componentId =>
    rw [addAt, ComponentCallbackMap.add]
    exact hasMap_setComponentCallbacks d _ h

theorem callbacksAt_of_not_hasMap {slot : Slot} (h : d.hasMap slot = false) :
    d.callbacksAt slot = .new := by
  cases slot with
  | plain kind => cases h
  | component kind componentId =>
    rw [callbacksAt, Option.not_isSome_iff_eq_none.mp (Bool.eq_false_iff.mp h)]
    rfl

theorem setCallbacks_self (kind : OpKind) : d.setCallbacks kind (d.callbacks kind) = d := by
  cases kind <;> rfl

theorem setComponentCallbacks_self (kind : ComponentOpKind) :
    d.setComponentCallbacks kind (d.componentCallbacks kind) = d := by
  cases kind <;> rfl

theorem callbacksAt_of_mem {kind : ComponentOpKind}
    {pair : ComponentId × CallbackMap (Callback σ kind.Wrapper)}
    (hpair : pair ∈ (d.componentCallbacks kind).entries) :
    d.callbacksAt (.component kind pair.1) = pair.2 := by
  rw [callbacksAt, InsertionMap.find_eq_some.mpr hpair, Option.getD_some]

/-- The switch of `Process` only chooses a place and a direction. -/
theorem handle_eq (s : σ) (op : Op) :
    d.handle s op =
      if op.reversed then (d.callbacksAt op.slot).reverseInvokeAll op.wrapper s
      else (d.callbacksAt op.slot).invokeAll op.wrapper s := by
  cases op with
  | flagUpdate op => cases hvalue : op.value <;> simp [handle, Op.reversed, hvalue] <;> rfl
  | criticalSection op =>
    cases hin : op.inCriticalSection <;> simp [handle, Op.reversed, hin] <;> rfl
  | addComponent componentId op => exact ComponentCallbackMap.invokeAll_eq _ componentId op s
  | removeComponent componentId op =>
    exact ComponentCallbackMap.reverseInvokeAll_eq _ componentId op s
  | authorityChange componentId op =>
    by_cases hauthority : op.authority = .kAuthoritative
    · simp only [handle, Op.reversed, hauthority, if_true, decide_true, Bool.not_true,
        Bool.false_eq_true, if_false]
      exact ComponentCallbackMap.invokeAll_eq _ componentId op s
    · simp only [handle, Op.reversed, hauthority, if_false, decide_false, Bool.not_false, if_true]
      exact ComponentCallbackMap.reverseInvokeAll_eq _ componentId op s
  | componentUpdate componentId op => exact ComponentCallbackMap.invokeAll_eq _ componentId op s
  | commandRequest componentId op => exact ComponentCallbackMap.invokeAll_eq _ componentId op s
  | commandResponse componentId op => exact ComponentCallbackMap.invokeAll_eq _ componentId op s
  | _ => rfl

end

/-! ## Registrations and removals -/

/-- The dispatcher holds these callbacks, by the keys they were given. -/
structure Holds (d : Dispatcher σ) (entries : List (CallbackKey × Registered σ)) : Prop where
  nodup : (entries.map Prod.fst).Nodup
  below : ∀ key ∈ entries.map Prod.fst, key < d.currentCallbackKey
  rest : ∀ slot, (d.callbacksAt slot).AtRest
  callbacks : ∀ slot, (d.callbacksAt slot).map.entries = entries.filterMap (Registered.select slot)

/-- The callbacks for an op, as they are called. -/
def calls (op : Op) (entries : List (CallbackKey × Registered σ)) : List (σ → Except σ σ) :=
  let calls := entries.filterMap fun entry => entry.2.call op
  if op.reversed then calls.reverse else calls

def runCalls (calls : List (σ → Except σ σ)) (s : σ) : Except σ σ :=
  calls.foldlM (fun s call => call s) s

theorem callbacksAt_new (slot : Slot) : (new : Dispatcher σ).callbacksAt slot = .new := by
  cases slot with
  | plain kind => cases kind <;> rfl
  | component kind componentId => cases kind <;> rfl

theorem holds_new : (new : Dispatcher σ).Holds [] where
  nodup := List.nodup_nil
  below := by simp
  rest slot := callbacksAt_new slot ▸ CallbackMap.atRest_new
  callbacks slot := by
    rw [callbacksAt_new]
    rfl

theorem Holds.mem_keys {d : Dispatcher σ} {entries : List (CallbackKey × Registered σ)}
    (h : d.Holds entries) {slot : Slot} {key : CallbackKey} :
    key ∈ (d.callbacksAt slot).map.keys ↔ ∃ entry ∈ entries, entry.1 = key ∧ entry.2.1 = slot := by
  rw [InsertionMap.keys, h.callbacks]
  exact Registered.mem_keys_select

theorem Holds.add {d : Dispatcher σ} {entries : List (CallbackKey × Registered σ)}
    (h : d.Holds entries) (r : Registered σ) :
    (d.add r).Holds (entries ++ [(d.currentCallbackKey, r)]) := by
  obtain ⟨slot, callback⟩ := r
  have hnew : d.currentCallbackKey ∉ entries.map Prod.fst := fun hmem =>
    Nat.lt_irrefl _ (h.below _ hmem)
  have hkeys : d.currentCallbackKey ∉ (d.callbacksAt slot).map.keys := by
    rw [h.mem_keys]
    rintro ⟨entry, hentry, hkey, -⟩
    exact hnew (hkey ▸ List.mem_map_of_mem hentry)
  have hadd := CallbackMap.add_eq (h.rest slot) d.currentCallbackKey callback
  refine ⟨?_, ?_, fun slot' => ?_, fun slot' => ?_⟩
  · rw [List.map_append, List.nodup_append]
    refine ⟨h.nodup, by simp, ?_⟩
    intro key hkey key' hkey' heq
    obtain rfl : key' = d.currentCallbackKey := by simpa using hkey'
    exact hnew (heq ▸ hkey)
  · intro key hkey
    rw [List.map_append, List.mem_append] at hkey
    show key < d.currentCallbackKey + 1
    rcases hkey with hold | hlast
    · exact Nat.lt_succ_of_lt (h.below key hold)
    · obtain rfl : key = d.currentCallbackKey := by simpa using hlast
      exact Nat.lt_succ_self _
  · rw [Dispatcher.add, callbacksAt_withKey]
    by_cases hslot : slot = slot'
    · subst hslot
      rw [callbacksAt_addAt, hadd]
      exact ⟨(h.rest slot).toAdd, (h.rest slot).toRemove, (h.rest slot).callDepth⟩
    · rw [callbacksAt_addAt_of_ne d hslot]
      exact h.rest slot'
  · rw [Dispatcher.add, callbacksAt_withKey, List.filterMap_append]
    by_cases hslot : slot = slot'
    · subst hslot
      rw [callbacksAt_addAt, hadd, ← h.callbacks slot]
      simp only [InsertionMap.entries_emplace hkeys, List.filterMap_cons,
        Registered.select_self, List.filterMap_nil]
    · have hnone : Registered.select slot' (d.currentCallbackKey, ⟨slot, callback⟩) = none :=
        Registered.select_of_ne hslot
      rw [callbacksAt_addAt_of_ne d hslot, h.callbacks slot', List.filterMap_cons_none hnone,
        List.filterMap_nil, List.append_nil]

/-- An op runs the callbacks for it. -/
theorem Holds.handle {d : Dispatcher σ} {entries : List (CallbackKey × Registered σ)}
    (h : d.Holds entries) (s : σ) (op : Op) :
    d.handle s op = runCalls (calls op entries) s := by
  have hcalls : (entries.filterMap fun entry => entry.2.call op) =
      (d.callbacksAt op.slot).map.entries.map fun selected => selected.2 op.wrapper := by
    rw [h.callbacks, List.map_filterMap]
    exact List.filterMap_congr fun entry _ => Registered.call_eq op entry
  rw [handle_eq, runCalls, calls, hcalls]
  split_ifs
  · rw [← List.map_reverse, List.foldlM_map]
    rfl
  · rw [List.foldlM_map]
    rfl

theorem Holds.process {d : Dispatcher σ} {entries : List (CallbackKey × Registered σ)}
    (h : d.Holds entries) (ops : OpList) (s : σ) :
    d.process ops s = ops.foldlM (fun s op => runCalls (calls op entries) s) s := by
  have hhandle : d.handle = fun s op => runCalls (calls op entries) s := by
    ext s op
    exact h.handle s op
  rw [Dispatcher.process, hhandle]

/-- Removing a key from the maps of one op type, and whether it was there. -/
def removeAt (d : Dispatcher σ) (key : CallbackKey) :
    OpKind ⊕ ComponentOpKind → Dispatcher σ × Bool
  | .inl kind =>
    let (m, removed) := (d.callbacks kind).remove key
    (d.setCallbacks kind m, removed)
  | .inr kind =>
    let (m, removed) := ComponentCallbackMap.remove (d.componentCallbacks kind) key
    (d.setComponentCallbacks kind m, removed)

/-- `none` is a call of `std::terminate`. -/
def removeFrom (key : CallbackKey) :
    List (OpKind ⊕ ComponentOpKind) → Dispatcher σ → Option (Dispatcher σ)
  | [], _ => none
  | kind :: kinds, d =>
    let (d, removed) := d.removeAt key kind
    if removed then some d else removeFrom key kinds d

/-- In this order. -/
def removalOrder : List (OpKind ⊕ ComponentOpKind) :=
  [.inl .disconnect, .inl .flagUpdate, .inl .logMessage, .inl .metrics, .inl .criticalSection,
    .inl .addEntity, .inl .removeEntity, .inl .reserveEntityIdResponse,
    .inl .reserveEntityIdsResponse, .inl .createEntityResponse, .inl .deleteEntityResponse,
    .inl .entityQueryResponse, .inr .addComponent, .inr .removeComponent, .inr .authorityChange,
    .inr .componentUpdate, .inr .commandRequest, .inr .commandResponse]

def remove (d : Dispatcher σ) (key : CallbackKey) : Option (Dispatcher σ) :=
  removeFrom key removalOrder d

/-- A key that no place of an op type holds. -/
theorem removeAt_of_absent {d : Dispatcher σ} {key : CallbackKey}
    {kind : OpKind ⊕ ComponentOpKind}
    (h : ∀ slot, slot.kind = kind → (d.callbacksAt slot).remove key = (d.callbacksAt slot, false)) :
    d.removeAt key kind = (d, false) := by
  cases kind with
  | inl kind =>
    have hremove : (d.callbacks kind).remove key = (d.callbacks kind, false) := h (.plain kind) rfl
    rw [removeAt, hremove]
    exact Prod.ext (setCallbacks_self d kind) rfl
  | inr kind =>
    have habsent : ∀ pair ∈ (d.componentCallbacks kind).entries,
        pair.2.remove key = (pair.2, false) := by
      intro pair hpair
      have hremove := h (.component kind pair.1) rfl
      rwa [callbacksAt_of_mem d hpair] at hremove
    obtain ⟨hentries, hremoved⟩ :=
      Prod.ext_iff.mp (ComponentCallbackMap.removeLoop_of_absent habsent)
    have hremove : ComponentCallbackMap.remove (d.componentCallbacks kind) key =
        (d.componentCallbacks kind, false) := Prod.ext (InsertionMap.ext_entries hentries) hremoved
    rw [removeAt, hremove]
    exact Prod.ext (setComponentCallbacks_self d kind) rfl

/-- A key that one place holds, and no other one. -/
theorem removeAt_of_held {d : Dispatcher σ} {key : CallbackKey} {slot : Slot}
    (hmap : d.hasMap slot = true) (hheld : ((d.callbacksAt slot).remove key).2 = true)
    (h : ∀ slot', slot ≠ slot' →
      (d.callbacksAt slot').remove key = (d.callbacksAt slot', false)) :
    d.removeAt key slot.kind = (d.modifyAt slot fun m => (m.remove key).1, true) := by
  cases slot with
  | plain kind => exact Prod.ext rfl hheld
  | component kind componentId =>
    obtain ⟨m, hm⟩ := Option.isSome_iff_exists.mp hmap
    have hmem := InsertionMap.find_eq_some.mp hm
    rw [callbacksAt, hm, Option.getD_some] at hheld
    have hothers : ∀ pair ∈ (d.componentCallbacks kind).entries, pair.1 ≠ componentId →
        pair.2.remove key = (pair.2, false) := by
      intro pair hpair hne
      have hremove := h (.component kind pair.1) fun heq => hne (Slot.component.inj heq).2.symm
      rwa [callbacksAt_of_mem d hpair] at hremove
    obtain ⟨hentries, hremoved⟩ := Prod.ext_iff.mp (ComponentCallbackMap.removeLoop_of_held
      (d.componentCallbacks kind).nodup hmem (Prod.ext rfl hheld) hothers)
    have hkey : componentId ∈ (d.componentCallbacks kind).keys :=
      InsertionMap.mem_keys.mpr ⟨m, hmem⟩
    have hremove : ComponentCallbackMap.remove (d.componentCallbacks kind) key =
        ((d.componentCallbacks kind).assign componentId (m.remove key).1, true) := by
      refine Prod.ext (InsertionMap.ext_entries ?_) hremoved
      rw [InsertionMap.entries_assign_of_mem hkey]
      exact hentries
    rw [Slot.kind, removeAt, hremove]
    simp only [modifyAt, hm]

theorem mem_removalOrder (kind : OpKind ⊕ ComponentOpKind) : kind ∈ removalOrder := by
  rcases kind with kind | kind <;> cases kind <;> simp [removalOrder]

/-- Dropping a key from the entries drops it from every place. -/
theorem filterMap_select_filter (entries : List (CallbackKey × Registered σ)) (key : CallbackKey)
    (slot : Slot) :
    (entries.filter fun entry => entry.1 ≠ key).filterMap (Registered.select slot) =
      (entries.filterMap (Registered.select slot)).filter fun selected => selected.1 ≠ key := by
  rw [List.filter_filterMap, List.filterMap_filter]
  apply List.filterMap_congr
  intro entry _
  cases hselect : Registered.select slot entry with
  | none => simp
  | some selected =>
    have hfst := (Registered.fst_of_select hselect).1
    by_cases hkey : selected.1 = key <;> simp [hfst, hkey, Option.filter]

theorem removeFrom_of_absent {d : Dispatcher σ} {key : CallbackKey}
    (h : ∀ slot, (d.callbacksAt slot).remove key = (d.callbacksAt slot, false))
    (kinds : List (OpKind ⊕ ComponentOpKind)) : removeFrom key kinds d = none := by
  induction kinds with
  | nil => rfl
  | cons kind kinds ih =>
    rw [removeFrom, removeAt_of_absent fun slot _ => h slot]
    exact ih

theorem removeFrom_of_held {d : Dispatcher σ} {key : CallbackKey} {slot : Slot}
    (hmap : d.hasMap slot = true) (hheld : ((d.callbacksAt slot).remove key).2 = true)
    (h : ∀ slot', slot ≠ slot' → (d.callbacksAt slot').remove key = (d.callbacksAt slot', false))
    {kinds : List (OpKind ⊕ ComponentOpKind)} (hkind : slot.kind ∈ kinds) :
    removeFrom key kinds d = some (d.modifyAt slot fun m => (m.remove key).1) := by
  induction kinds with
  | nil => cases hkind
  | cons kind kinds ih =>
    by_cases heq : slot.kind = kind
    · subst heq
      rw [removeFrom, removeAt_of_held hmap hheld h]
      rfl
    · have hne : ∀ slot', slot'.kind = kind → slot ≠ slot' := by
        rintro slot' hslot' rfl
        exact heq hslot'
      rw [removeFrom, removeAt_of_absent fun slot' hslot' => h slot' (hne slot' hslot')]
      exact ih ((List.mem_cons.mp hkind).resolve_left heq)

theorem Holds.remove_of_notMem {d : Dispatcher σ} {entries : List (CallbackKey × Registered σ)}
    (h : d.Holds entries) {key : CallbackKey} {slot : Slot}
    (hkey : ¬ ∃ entry ∈ entries, entry.1 = key ∧ entry.2.1 = slot) :
    (d.callbacksAt slot).remove key = (d.callbacksAt slot, false) := by
  rw [← h.mem_keys] at hkey
  rw [CallbackMap.remove_eq (h.rest slot), CallbackMap.eraseKey_of_notMem hkey]
  exact Prod.ext rfl (decide_eq_false hkey)

/-- Removing terminates the program when the key is not registered. -/
theorem Holds.remove {d : Dispatcher σ} {entries : List (CallbackKey × Registered σ)}
    (h : d.Holds entries) (key : CallbackKey) :
    (d.remove key = none ∧ key ∉ entries.map Prod.fst) ∨
      ∃ d', d.remove key = some d' ∧ key ∈ entries.map Prod.fst ∧
        d'.currentCallbackKey = d.currentCallbackKey ∧
        d'.Holds (entries.filter fun entry => entry.1 ≠ key) := by
  by_cases hkey : key ∈ entries.map Prod.fst
  · obtain ⟨⟨key, slot, callback⟩, hentry, rfl⟩ := List.mem_map.mp hkey
    have hother : ∀ slot', slot ≠ slot' →
        ¬ ∃ entry ∈ entries, entry.1 = key ∧ entry.2.1 = slot' := by
      rintro slot' hne ⟨entry, hentry', hfst, rfl⟩
      obtain rfl := List.inj_on_of_nodup_map h.nodup hentry hentry' hfst.symm
      exact hne rfl
    have hmem : key ∈ (d.callbacksAt slot).map.keys := h.mem_keys.mpr ⟨_, hentry, rfl, rfl⟩
    have hmap : d.hasMap slot = true := by
      by_contra hnone
      rw [callbacksAt_of_not_hasMap d (Bool.eq_false_iff.mpr hnone)] at hmem
      simp [CallbackMap.new] at hmem
    have hremove := CallbackMap.remove_eq (h.rest slot) key
    have hheld : ((d.callbacksAt slot).remove key).2 = true := by
      rw [hremove]
      exact decide_eq_true hmem
    refine Or.inr ⟨_, removeFrom_of_held hmap hheld (fun slot' hne => h.remove_of_notMem
      (hother slot' hne)) (mem_removalOrder _), hkey, currentCallbackKey_modifyAt d slot _, ?_⟩
    have hsublist : (entries.filter fun entry => entry.1 ≠ key).map Prod.fst |>.Sublist
        (entries.map Prod.fst) := List.filter_sublist.map _
    refine ⟨h.nodup.sublist hsublist, fun k hk => ?_, fun slot' => ?_, fun slot' => ?_⟩
    · rw [currentCallbackKey_modifyAt]
      exact h.below k (hsublist.subset hk)
    · by_cases hne : slot = slot'
      · subst hne
        rw [callbacksAt_modifyAt d hmap, hremove]
        exact (h.rest slot).eraseKey key
      · rw [callbacksAt_modifyAt_of_ne d hne]
        exact h.rest slot'
    · rw [filterMap_select_filter, ← h.callbacks]
      by_cases hne : slot = slot'
      · subst hne
        rw [callbacksAt_modifyAt d hmap, hremove]
        rfl
      · rw [callbacksAt_modifyAt_of_ne d hne]
        refine (List.filter_eq_self.mpr fun selected hselected => ?_).symm
        have hselected' : selected.1 ≠ key := fun heq =>
          hother slot' hne (h.mem_keys.mp (heq ▸ List.mem_map_of_mem hselected))
        simpa using hselected'
  · refine Or.inl ⟨removeFrom_of_absent (fun slot => h.remove_of_notMem ?_) removalOrder, hkey⟩
    rintro ⟨entry, hentry, hfst, -⟩
    exact hkey (hfst ▸ List.mem_map_of_mem hentry)

end Dispatcher

/-- A call of one of the registering functions. The component callbacks come
with what reads the object behind the handle of an op. -/
inductive Registration (σ : Type) : Type 1
  | disconnect (callback : Callback σ DisconnectOp)
  | flagUpdate (callback : Callback σ FlagUpdateOp)
  | logMessage (callback : Callback σ LogMessageOp)
  | metrics (callback : Callback σ MetricsOp)
  | criticalSection (callback : Callback σ CriticalSectionOp)
  | addEntity (callback : Callback σ AddEntityOp)
  | removeEntity (callback : Callback σ RemoveEntityOp)
  | reserveEntityIdResponse (callback : Callback σ ReserveEntityIdResponseOp)
  | reserveEntityIdsResponse (callback : Callback σ ReserveEntityIdsResponseOp)
  | createEntityResponse (callback : Callback σ CreateEntityResponseOp)
  | deleteEntityResponse (callback : Callback σ DeleteEntityResponseOp)
  | entityQueryResponse {ε : Type} (read : EntityQueryResponseWrapperOp → EntityQueryResponseOp ε)
    (callback : Callback σ (EntityQueryResponseOp ε))
  | addComponent {δ : Type} (componentId : ComponentId) (get : ClientHandle → δ)
    (callback : Callback σ (AddComponentOp δ))
  | removeComponent (componentId : ComponentId) (callback : Callback σ RemoveComponentOp)
  | authorityChange (componentId : ComponentId) (callback : Callback σ AuthorityChangeOp)
  | componentUpdate {υ : Type} (componentId : ComponentId) (get : ClientHandle → υ)
    (callback : Callback σ (ComponentUpdateOp υ))
  | commandRequest {γ ρ : Type} (componentId : ComponentId) (commandId : ℕ)
    (get : ClientHandle → GenericCommandObject γ) (data : γ → ρ)
    (callback : Callback σ (CommandRequestOp ρ))
  | commandResponse {γ ρ : Type} (componentId : ComponentId) (commandId : ℕ)
    (get : ClientHandle → GenericCommandObject γ) (data : γ → ρ)
    (callback : Callback σ (CommandResponseOp ρ))

namespace Dispatcher

def register (d : Dispatcher σ) : Registration σ → Dispatcher σ
  | .disconnect callback => d.onDisconnect callback
  | .flagUpdate callback => d.onFlagUpdate callback
  | .logMessage callback => d.onLogMessage callback
  | .metrics callback => d.onMetrics callback
  | .criticalSection callback => d.onCriticalSection callback
  | .addEntity callback => d.onAddEntity callback
  | .removeEntity callback => d.onRemoveEntity callback
  | .reserveEntityIdResponse callback => d.onReserveEntityIdResponse callback
  | .reserveEntityIdsResponse callback => d.onReserveEntityIdsResponse callback
  | .createEntityResponse callback => d.onCreateEntityResponse callback
  | .deleteEntityResponse callback => d.onDeleteEntityResponse callback
  | .entityQueryResponse read callback => d.onEntityQueryResponse read callback
  | .addComponent componentId get callback => d.onAddComponent componentId get callback
  | .removeComponent componentId callback => d.onRemoveComponent componentId callback
  | .authorityChange componentId callback => d.onAuthorityChange componentId callback
  | .componentUpdate componentId get callback => d.onComponentUpdate componentId get callback
  | .commandRequest componentId commandId get data callback =>
    d.onCommandRequest componentId commandId get data callback
  | .commandResponse componentId commandId get data callback =>
    d.onCommandResponse componentId commandId get data callback

end Dispatcher

namespace Registration

/-- The callback that is kept, which for a component is the wrapper of the
user's one. -/
def registered : Registration σ → Registered σ
  | .disconnect callback => ⟨.plain .disconnect, callback⟩
  | .flagUpdate callback => ⟨.plain .flagUpdate, callback⟩
  | .logMessage callback => ⟨.plain .logMessage, callback⟩
  | .metrics callback => ⟨.plain .metrics, callback⟩
  | .criticalSection callback => ⟨.plain .criticalSection, callback⟩
  | .addEntity callback => ⟨.plain .addEntity, callback⟩
  | .removeEntity callback => ⟨.plain .removeEntity, callback⟩
  | .reserveEntityIdResponse callback => ⟨.plain .reserveEntityIdResponse, callback⟩
  | .reserveEntityIdsResponse callback => ⟨.plain .reserveEntityIdsResponse, callback⟩
  | .createEntityResponse callback => ⟨.plain .createEntityResponse, callback⟩
  | .deleteEntityResponse callback => ⟨.plain .deleteEntityResponse, callback⟩
  | .entityQueryResponse read callback =>
    ⟨.plain .entityQueryResponse, fun op => callback (read op)⟩
  | .addComponent componentId get callback =>
    ⟨.component .addComponent componentId, fun op => callback ⟨op.entityId, get op.handle⟩⟩
  | .removeComponent componentId callback => ⟨.component .removeComponent componentId, callback⟩
  | .authorityChange componentId callback => ⟨.component .authorityChange componentId, callback⟩
  | .componentUpdate componentId get callback =>
    ⟨.component .componentUpdate componentId, fun op => callback ⟨op.entityId, get op.handle⟩⟩
  | .commandRequest componentId commandId get data callback =>
    ⟨.component .commandRequest componentId, fun op s =>
      if (get op.request).commandId ≠ commandId then .ok s
      else
        callback ⟨op.requestId, op.entityId, op.timeoutMillis, op.callerWorkerId,
          op.callerAttribute, data (get op.request).commandObject⟩ s⟩
  | .commandResponse componentId commandId get data callback =>
    ⟨.component .commandResponse componentId, fun op s =>
      if op.commandId ≠ commandId then .ok s
      else
        callback ⟨op.requestId, op.entityId, op.statusCode, op.message,
          op.response.map fun handle => data (get handle).commandObject⟩ s⟩

/-- What happens on an op that the registered callback is for. -/
def call (op : Op) (r : Registration σ) : Option (σ → Except σ σ) := r.registered.call op

end Registration

namespace Dispatcher

theorem register_eq (d : Dispatcher σ) (r : Registration σ) :
    d.register r = d.add r.registered := by
  cases r <;> rfl

/-- What a program asks of a dispatcher. -/
inductive Action (σ : Type) : Type 1
  | register (r : Registration σ)
  | remove (key : CallbackKey)

def act (d : Dispatcher σ) : Action σ → Option (Dispatcher σ)
  | .register r => some (d.register r)
  | .remove key => d.remove key

/-- The next key, and the registrations that were not removed. -/
abbrev Registrations (σ : Type) := CallbackKey × List (CallbackKey × Registration σ)

def Registrations.step (rs : Registrations σ) : Action σ → Registrations σ
  | .register r => (rs.1 + 1, rs.2 ++ [(rs.1, r)])
  | .remove key => (rs.1, rs.2.filter fun entry => entry.1 ≠ key)

def registrations (actions : List (Action σ)) : Registrations σ :=
  actions.foldl Registrations.step (0, [])

/-- The callbacks that are kept for the registrations. -/
def entriesOf (rs : List (CallbackKey × Registration σ)) : List (CallbackKey × Registered σ) :=
  rs.map fun entry => (entry.1, entry.2.registered)

theorem keys_entriesOf (rs : List (CallbackKey × Registration σ)) :
    (entriesOf rs).map Prod.fst = rs.map Prod.fst := by
  rw [entriesOf, List.map_map]
  rfl

theorem holds_of_run {actions : List (Action σ)} {d : Dispatcher σ}
    (hrun : run act new actions = some d) :
    d.currentCallbackKey = (registrations actions).1 ∧
      d.Holds (entriesOf (registrations actions).2) := by
  refine run_history (P := fun actions d => d.currentCallbackKey = (registrations actions).1 ∧
    d.Holds (entriesOf (registrations actions).2)) ⟨rfl, holds_new⟩ ?_ hrun
  intro actions d action d' ⟨hnext, hholds⟩ hact
  rw [registrations, List.foldl_append, ← registrations]
  cases action with
  | register r =>
    obtain rfl := Option.some.inj hact
    rw [register_eq]
    refine ⟨congrArg (· + 1) hnext, ?_⟩
    have hadd := hholds.add r.registered
    rw [hnext] at hadd
    rw [List.foldl_cons, List.foldl_nil, Registrations.step, entriesOf, List.map_append]
    exact hadd
  | remove key =>
    rcases hholds.remove key with ⟨hnone, -⟩ | ⟨d'', hsome, -, hcounter, hrest⟩
    · rw [act, hnone] at hact
      cases hact
    · rw [act, hsome] at hact
      obtain rfl := Option.some.inj hact
      refine ⟨hcounter.trans hnext, ?_⟩
      rw [entriesOf, List.filter_map] at hrest
      exact hrest

theorem calls_entriesOf (op : Op) (rs : List (CallbackKey × Registration σ)) :
    calls op (entriesOf rs) =
      if op.reversed then (rs.filterMap fun entry => entry.2.call op).reverse
      else rs.filterMap fun entry => entry.2.call op := by
  have hcalls : (entriesOf rs).filterMap (fun entry => entry.2.call op) =
      rs.filterMap fun entry => entry.2.call op := by
    rw [entriesOf, List.filterMap_map]
    rfl
  rw [calls, hcalls]

/-- After any registrations and removals, an op runs the callbacks that are
still registered for it, in the order of their registration or, if it takes
something away, in the reverse order. A removal terminates the program exactly
when its key is not registered. -/
theorem process_of_run {actions : List (Action σ)} {d : Dispatcher σ}
    (hrun : run act new actions = some d) :
    (∀ ops s, d.process ops s = ops.foldlM (fun s op =>
      runCalls (if op.reversed
        then ((registrations actions).2.filterMap fun entry => entry.2.call op).reverse
        else (registrations actions).2.filterMap fun entry => entry.2.call op) s) s) ∧
      ∀ key, d.remove key = none ↔ key ∉ (registrations actions).2.map Prod.fst := by
  obtain ⟨-, hholds⟩ := holds_of_run hrun
  constructor
  · intro ops s
    simp only [hholds.process, calls_entriesOf]
  · intro key
    rw [← keys_entriesOf]
    rcases hholds.remove key with ⟨hnone, habsent⟩ | ⟨d', hsome, hpresent, -⟩
    · exact iff_of_true hnone habsent
    · exact iff_of_false (by rw [hsome]; exact Option.some_ne_none d') (not_not_intro hpresent)

theorem process_of_run_flag :
    ∃ d : Dispatcher (List ℕ), run act new
        [.register (.flagUpdate fun _ s => .ok (s ++ [1])), .register (.metrics fun _ s => .ok s),
          .register (.flagUpdate fun _ s => .ok (s ++ [2])),
          .register (.flagUpdate fun _ s => .ok (s ++ [3])), .remove 2] = some d ∧
      d.process [.flagUpdate ⟨"f", none⟩] [] = .ok [3, 1] := by
  obtain ⟨d, hd⟩ : ∃ d : Dispatcher (List ℕ), run act new
      [.register (.flagUpdate fun _ s => .ok (s ++ [1])), .register (.metrics fun _ s => .ok s),
        .register (.flagUpdate fun _ s => .ok (s ++ [2])),
        .register (.flagUpdate fun _ s => .ok (s ++ [3])), .remove 2] = some d := ⟨_, rfl⟩
  refine ⟨d, hd, ?_⟩
  rw [(process_of_run hd).1]
  rfl

end Dispatcher

end SpatialWorkers
