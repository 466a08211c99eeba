import SpatialWorkers.Registry

/-!
# The view

A view is a dispatcher that keeps the known state of the entities. Its
constructor registers callbacks for entities and, for each component it tracks,
four more; what they do to the state is `step`. `δ` and `υ` stand for the data
and the updates of the components, which the view only stores and applies.
-/
namespace SpatialWorkers
open InsertionMaps

variable {δ υ τ σ T : Type}

/-- What the view uses of a component metaclass. -/
structure Metaclass (δ υ : Type) where
  componentId : ComponentId
  getData : ClientHandle → δ
  getUpdate : ClientHandle → υ
  applyTo : υ → δ → δ

/-- `worker::Entity`: the data of each component that the entity has. -/
abbrev EntityOf (δ : Type) := InsertionMap ComponentId δ

namespace EntityOf

/-- No effect if the entity has the component already. -/
def add (e : EntityOf δ) (componentId : ComponentId) (data : δ) : EntityOf δ :=
  e.emplace componentId data

def update (e : EntityOf δ) (m : Metaclass δ υ) (u : υ) : EntityOf δ :=
  match e.find m.componentId with
  | some data => e.assign m.componentId (m.applyTo u data)
  | none => e

end EntityOf

structure View (δ : Type) where
  entities : InsertionMap EntityId (EntityOf δ)
  componentAuthority : InsertionMap EntityId (InsertionMap ComponentId Authority)

namespace View

def empty : View δ := ⟨.empty, .empty⟩

def getAuthority (v : View δ) (entityId : EntityId) (componentId : ComponentId) : Authority :=
  match v.componentAuthority.find entityId with
  | none => .kNotAuthoritative
  | some authority => (authority.find componentId).getD .kNotAuthoritative

/-- `Entities[op.EntityId]` inserts an empty entity if there is none. -/
def addEntity (op : AddEntityOp) (v : View δ) : View δ where
  entities := v.entities.emplace op.entityId .empty
  componentAuthority := v.componentAuthority.emplace op.entityId .empty

def removeEntity (op : RemoveEntityOp) (v : View δ) : View δ where
  entities := v.entities.erase op.entityId
  componentAuthority := v.componentAuthority.erase op.entityId

/-- `ComponentAuthority[entityId][componentId] = authority`. -/
def setAuthority (entityId : EntityId) (componentId : ComponentId) (authority : Authority)
    (v : View δ) : View δ :=
  { v with
    componentAuthority :=
      v.componentAuthority.assign entityId
        (((v.componentAuthority.find entityId).getD .empty).assign componentId authority) }

def addComponent (m : Metaclass δ υ) (op : AddComponentOp δ) (v : View δ) : View δ :=
  match v.entities.find op.entityId with
  | some entity =>
    setAuthority op.entityId m.componentId .kNotAuthoritative
      { v with entities := v.entities.assign op.entityId (entity.add m.componentId op.data) }
  | none => v

def removeComponent (m : Metaclass δ υ) (op : RemoveComponentOp) (v : View δ) : View δ where
  entities :=
    match v.entities.find op.entityId with
    | some entity => v.entities.assign op.entityId (entity.erase m.componentId)
    | none => v.entities
  componentAuthority :=
    match v.componentAuthority.find op.entityId with
    | some authority => v.componentAuthority.assign op.entityId (authority.erase m.componentId)
    | none => v.componentAuthority

def authorityChange (m : Metaclass δ υ) (op : AuthorityChangeOp) (v : View δ) : View δ :=
  setAuthority op.entityId m.componentId op.authority v

def componentUpdate (m : Metaclass δ υ) (op : ComponentUpdateOp υ) (v : View δ) : View δ :=
  match v.entities.find op.entityId with
  | some entity =>
    if (entity.find m.componentId).isSome then
      { v with entities := v.entities.assign op.entityId (entity.update m op.update) }
    else v
  | none => v

/-- A callback that captures the view, beside what the user's ones capture. -/
def callback (f : T → View δ → View δ) : Callback (View δ × τ) T := fun op s => .ok (f op s.1, s.2)

/-- `TrackComponentHandler::Accept`. -/
def trackComponent (d : Dispatcher (View δ × τ)) (m : Metaclass δ υ) : Dispatcher (View δ × τ) :=
  let d := d.onAddComponent m.componentId m.getData (callback (addComponent m))
  let d := d.onRemoveComponent m.componentId (callback (removeComponent m))
  let d := d.onAuthorityChange m.componentId (callback (authorityChange m))
  d.onComponentUpdate m.componentId m.getUpdate (callback (componentUpdate m))

/-- The constructor, for a list of component metaclasses. -/
def dispatcher (components : List (Metaclass δ υ)) : Dispatcher (View δ × τ) :=
  let d := Dispatcher.new.onAddEntity (callback addEntity)
  let d := d.onRemoveEntity (callback removeEntity)
  components.foldl trackComponent d

/-- What the callbacks of a tracked component do. -/
def componentStep (m : Metaclass δ υ) : Op → View δ → View δ
  | .addComponent _ op => addComponent m ⟨op.entityId, m.getData op.handle⟩
  | .removeComponent _ op => removeComponent m op
  | .authorityChange _ op => authorityChange m op
  | .componentUpdate _ op => componentUpdate m ⟨op.entityId, m.getUpdate op.handle⟩
  | _ => id

/-- The component of the ops that the view tracks by component. -/
def componentId? : Op → Option ComponentId
  | .addComponent componentId _ => some componentId
  | .removeComponent componentId _ => some componentId
  | .authorityChange componentId _ => some componentId
  | .componentUpdate componentId _ => some componentId
  | _ => none

def tracked (components : List (Metaclass δ υ)) (op : Op) : Option (Metaclass δ υ) :=
  components.find? fun m => componentId? op = some m.componentId

/-- What the callbacks for entities do. -/
def entityStep : Op → View δ → View δ
  | .addEntity op => addEntity op
  | .removeEntity op => removeEntity op
  | _ => id

/-- What the view does on an op. -/
def step (components : List (Metaclass δ υ)) (v : View δ) (op : Op) : View δ :=
  match tracked components op with
  | some m => componentStep m op v
  | none => entityStep op v

end View

namespace ComponentCallbackMap

/-- The first callback of a component is alone, and the other components keep
theirs. -/
theorem find_add_of_none {β : Type} {m : ComponentCallbackMap β} {c : ComponentId}
    (h : m.find c = none) (key : CallbackKey) (cb : β) (c' : ComponentId) :
    (add m c key cb).find c' = if c = c' then some (CallbackMap.new.add key cb) else m.find c' := by
  unfold add
  rw [InsertionMap.find_assign, h, Option.getD_none]

theorem invokeAll_add_of_none {m : ComponentCallbackMap (Callback σ T)} {c : ComponentId}
    (h : m.find c = none) (key : CallbackKey) (cb : Callback σ T) (c' : ComponentId) (op : T)
    (s : σ) :
    invokeAll (add m c key cb) c' op s = if c = c' then cb op s else invokeAll m c' op s := by
  unfold invokeAll
  rw [find_add_of_none h]
  split_ifs with hc
  · exact CallbackMap.invokeAll_add_new key cb op s
  · rfl

theorem reverseInvokeAll_add_of_none {m : ComponentCallbackMap (Callback σ T)} {c : ComponentId}
    (h : m.find c = none) (key : CallbackKey) (cb : Callback σ T) (c' : ComponentId) (op : T)
    (s : σ) :
    reverseInvokeAll (add m c key cb) c' op s =
      if c = c' then cb op s else reverseInvokeAll m c' op s := by
  unfold reverseInvokeAll
  rw [find_add_of_none h]
  split_ifs with hc
  · exact CallbackMap.reverseInvokeAll_add_new key cb op s
  · rfl

end ComponentCallbackMap

namespace View

/-- No callback of the component is registered yet. -/
structure Untracked (d : Dispatcher σ) (c : ComponentId) : Prop where
  addComponent : d.addComponentCallbacks.find c = none
  removeComponent : d.removeComponentCallbacks.find c = none
  authorityChange : d.authorityChangeCallbacks.find c = none
  componentUpdate : d.componentUpdateCallbacks.find c = none

theorem untracked_trackComponent {d : Dispatcher (View δ × τ)} {m : Metaclass δ υ}
    {c : ComponentId} (hm : Untracked d m.componentId) (hc : Untracked d c)
    (hne : m.componentId ≠ c) : Untracked (trackComponent d m) c where
  addComponent := by
    refine (ComponentCallbackMap.find_add_of_none hm.addComponent _ _ c).trans ?_
    rw [if_neg hne, hc.addComponent]
  removeComponent := by
    refine (ComponentCallbackMap.find_add_of_none hm.removeComponent _ _ c).trans ?_
    rw [if_neg hne, hc.removeComponent]
  authorityChange := by
    refine (ComponentCallbackMap.find_add_of_none hm.authorityChange _ _ c).trans ?_
    rw [if_neg hne, hc.authorityChange]
  componentUpdate := by
    refine (ComponentCallbackMap.find_add_of_none hm.componentUpdate _ _ c).trans ?_
    rw [if_neg hne, hc.componentUpdate]

/-- A component is tracked by its own callbacks, and nothing else changes. -/
theorem handle_trackComponent {d : Dispatcher (View δ × τ)} {m : Metaclass δ υ}
    (h : Untracked d m.componentId) (s : View δ × τ) (op : Op) :
    (trackComponent d m).handle s op =
      if componentId? op = some m.componentId then .ok (componentStep m op s.1, s.2)
      else d.handle s op := by
  have hsymm (c : ComponentId) : some c = some m.componentId ↔ m.componentId = c := by
    rw [Option.some.injEq, eq_comm]
  cases op with
  | addComponent c op =>
    refine (ComponentCallbackMap.invokeAll_add_of_none h.addComponent _ _ c op s).trans ?_
    simp only [componentId?, hsymm]
    rfl
  | removeComponent c op =>
    refine (ComponentCallbackMap.reverseInvokeAll_add_of_none h.removeComponent _ _ c op s).trans ?_
    simp only [componentId?, hsymm]
    rfl
  | componentUpdate c op =>
    refine (ComponentCallbackMap.invokeAll_add_of_none h.componentUpdate _ _ c op s).trans ?_
    simp only [componentId?, hsymm]
    rfl
  | authorityChange c op =>
    simp only [componentId?, hsymm, Dispatcher.handle]
    split
    · refine (ComponentCallbackMap.invokeAll_add_of_none h.authorityChange _ _ c op s).trans ?_
      rfl
    · refine
        (ComponentCallbackMap.reverseInvokeAll_add_of_none h.authorityChange _ _ c op s).trans ?_
      rfl
  | _ => rfl

theorem handle_foldl_trackComponent {components : List (Metaclass δ υ)}
    {d : Dispatcher (View δ × τ)} (hnodup : (components.map Metaclass.componentId).Nodup)
    (huntracked : ∀ m ∈ components, Untracked d m.componentId) (s : View δ × τ) (op : Op) :
    (components.foldl trackComponent d).handle s op =
      match tracked components op with
      | some m => .ok (componentStep m op s.1, s.2)
      | none => d.handle s op := by
  induction components generalizing d with
  | nil => rfl
  | cons m components ih =>
    obtain ⟨hm, hnodup'⟩ := List.nodup_cons.mp hnodup
    have hd := huntracked m List.mem_cons_self
    rw [List.foldl_cons, ih hnodup' ?_]
    · rw [handle_trackComponent hd]
      by_cases hop : componentId? op = some m.componentId
      · have hnone : tracked components op = none := by
          refine List.find?_eq_none.mpr fun m' hm' => ?_
          rw [hop, decide_eq_true_eq, Option.some.injEq]
          exact fun heq => hm (heq ▸ List.mem_map_of_mem hm')
        have hsome : tracked (m :: components) op = some m := by
          simp [tracked, hop]
        simp only [hnone, hsome, if_pos hop]
      · have hrest : tracked (m :: components) op = tracked components op := by
          simp [tracked, hop]
        simp only [hrest, if_neg hop]
    · intro m' hm'
      refine untracked_trackComponent hd (huntracked m' (List.mem_cons_of_mem m hm')) ?_
      exact fun heq => hm (heq ▸ List.mem_map_of_mem hm')

theorem handle_entities (s : View δ × τ) (op : Op) :
    ((Dispatcher.new.onAddEntity (callback addEntity)).onRemoveEntity
      (callback removeEntity)).handle s op = .ok (entityStep op s.1, s.2) := by
  cases op with
  | addEntity op => exact CallbackMap.invokeAll_add_new _ _ op s
  | removeEntity op => exact CallbackMap.reverseInvokeAll_add_new _ _ op s
  | flagUpdate op =>
    simp only [Dispatcher.handle]
    split <;> rfl
  | criticalSection op =>
    simp only [Dispatcher.handle]
    split <;> rfl
  | authorityChange c op =>
    simp only [Dispatcher.handle]
    split <;> rfl
  | _ => rfl

/-- The dispatcher of a view does on each op what `step` says, and leaves the
rest of the state alone. -/
theorem handle_dispatcher {components : List (Metaclass δ υ)}
    (hnodup : (components.map Metaclass.componentId).Nodup) (s : View δ × τ) (op : Op) :
    (dispatcher components).handle s op = .ok (step components s.1 op, s.2) := by
  unfold dispatcher step
  rw [handle_foldl_trackComponent hnodup fun _ _ => ⟨rfl, rfl, rfl, rfl⟩]
  cases tracked components op with
  | some m => rfl
  | none => exact handle_entities s op

theorem process_dispatcher {components : List (Metaclass δ υ)}
    (hnodup : (components.map Metaclass.componentId).Nodup) (ops : OpList) (s : View δ × τ) :
    (dispatcher components).process ops s = .ok (ops.foldl (step components) s.1, s.2) := by
  induction ops generalizing s with
  | nil => rfl
  | cons op ops ih =>
    rw [Dispatcher.process_cons, handle_dispatcher hnodup]
    exact ih _

/-- Each entity of the view has an authority map, and no map mentions a
component that is not tracked. -/
structure Coherent (components : List (Metaclass δ υ)) (v : View δ) : Prop where
  authority : ∀ id ∈ v.entities.keys, id ∈ v.componentAuthority.keys
  entities : ∀ {id entity}, v.entities.find id = some entity →
    ∀ c ∈ entity.keys, c ∈ components.map Metaclass.componentId
  authorities : ∀ {id authority}, v.componentAuthority.find id = some authority →
    ∀ c ∈ authority.keys, c ∈ components.map Metaclass.componentId

theorem coherent_empty (components : List (Metaclass δ υ)) : Coherent components empty :=
  ⟨by simp [empty], by simp [empty], by simp [empty]⟩

theorem coherent_assign_entity {components : List (Metaclass δ υ)} {v : View δ}
    (h : Coherent components v) {id : EntityId} {old entity : EntityOf δ}
    (hold : v.entities.find id = some old)
    (hentity : ∀ c ∈ entity.keys, c ∈ components.map Metaclass.componentId) :
    Coherent components { v with entities := v.entities.assign id entity } where
  authority id' hid' := by
    rcases InsertionMap.mem_keys_assign.mp hid' with rfl | hid'
    · exact h.authority id (InsertionMap.isSome_find.mp (by rw [hold]; rfl))
    · exact h.authority id' hid'
  entities {id' entity'} hfind := by
    rw [InsertionMap.find_assign] at hfind
    split_ifs at hfind with hid
    · exact Option.some.inj hfind ▸ hentity
    · exact h.entities hfind
  authorities := h.authorities

theorem coherent_assign_authority {components : List (Metaclass δ υ)} {v : View δ}
    (h : Coherent components v) {id : EntityId} {authority : InsertionMap ComponentId Authority}
    (hauthority : ∀ c ∈ authority.keys, c ∈ components.map Metaclass.componentId) :
    Coherent components
      { v with componentAuthority := v.componentAuthority.assign id authority } where
  authority id' hid' := InsertionMap.mem_keys_assign.mpr (Or.inr (h.authority id' hid'))
  entities := h.entities
  authorities {id' authority'} hfind := by
    rw [InsertionMap.find_assign] at hfind
    split_ifs at hfind with hid
    · exact Option.some.inj hfind ▸ hauthority
    · exact h.authorities hfind

theorem coherent_setAuthority {components : List (Metaclass δ υ)} {v : View δ}
    (h : Coherent components v) {m : Metaclass δ υ} (hm : m ∈ components) (id : EntityId)
    (authority : Authority) : Coherent components (setAuthority id m.componentId authority v) := by
  apply coherent_assign_authority h
  intro c hc
  rcases InsertionMap.mem_keys_assign.mp hc with rfl | hc
  · exact List.mem_map_of_mem hm
  · cases hfind : v.componentAuthority.find id with
    | none => simp [hfind] at hc
    | some old => exact h.authorities hfind c (by simpa [hfind] using hc)

theorem coherent_entityStep {components : List (Metaclass δ υ)} {v : View δ}
    (h : Coherent components v) (op : Op) : Coherent components (entityStep op v) := by
  cases op with
  | addEntity op =>
    refine ⟨fun id hid => ?_, fun {id entity} hfind => ?_, fun {id authority} hfind => ?_⟩
    · rcases InsertionMap.mem_keys_emplace.mp hid with rfl | hid
      · exact InsertionMap.mem_keys_emplace.mpr (Or.inl rfl)
      · exact InsertionMap.mem_keys_emplace.mpr (Or.inr (h.authority id hid))
    · simp only [entityStep, addEntity, InsertionMap.find_emplace] at hfind
      split_ifs at hfind with hid
      · obtain rfl := Option.some.inj hfind
        cases hold : v.entities.find op.entityId with
        | none => simp
        | some old => exact h.entities hold
      · exact h.entities hfind
    · simp only [entityStep, addEntity, InsertionMap.find_emplace] at hfind
      split_ifs at hfind with hid
      · obtain rfl := Option.some.inj hfind
        cases hold : v.componentAuthority.find op.entityId with
        | none => simp
        | some old => exact h.authorities hold
      · exact h.authorities hfind
  | removeEntity op =>
    refine ⟨fun id hid => ?_, fun {id entity} hfind => ?_, fun {id authority} hfind => ?_⟩
    · obtain ⟨hne, hid⟩ := InsertionMap.mem_keys_erase.mp hid
      exact InsertionMap.mem_keys_erase.mpr ⟨hne, h.authority id hid⟩
    · simp only [entityStep, removeEntity, InsertionMap.find_erase] at hfind
      split_ifs at hfind
      exact h.entities hfind
    · simp only [entityStep, removeEntity, InsertionMap.find_erase] at hfind
      split_ifs at hfind
      exact h.authorities hfind
  | _ => exact h

theorem coherent_componentStep {components : List (Metaclass δ υ)} {v : View δ}
    (h : Coherent components v) {m : Metaclass δ υ} (hm : m ∈ components) (op : Op) :
    Coherent components (componentStep m op v) := by
  have hmem : m.componentId ∈ components.map Metaclass.componentId := List.mem_map_of_mem hm
  cases op with
  | addComponent c op =>
    simp only [componentStep, addComponent]
    cases hentity : v.entities.find op.entityId with
    | none => exact h
    | some entity =>
      refine coherent_setAuthority (coherent_assign_entity h hentity fun c hc => ?_) hm _ _
      rcases InsertionMap.mem_keys_emplace.mp hc with rfl | hc
      · exact hmem
      · exact h.entities hentity c hc
  | removeComponent c op =>
    have herase {β : Type} {map : InsertionMap ComponentId β}
        (hmap : ∀ c ∈ map.keys, c ∈ components.map Metaclass.componentId) :
        ∀ c ∈ (map.erase m.componentId).keys, c ∈ components.map Metaclass.componentId :=
      fun c hc => hmap c (InsertionMap.mem_keys_erase.mp hc).2
    simp only [componentStep, removeComponent]
    cases hentity : v.entities.find op.entityId with
    | none =>
      cases hauthority : v.componentAuthority.find op.entityId with
      | none => exact h
      | some authority =>
        exact coherent_assign_authority h (herase (h.authorities hauthority))
    | some entity =>
      have h' := coherent_assign_entity h hentity (herase (h.entities hentity))
      cases hauthority : v.componentAuthority.find op.entityId with
      | none => exact h'
      | some authority =>
        exact coherent_assign_authority h' (herase (h.authorities hauthority))
  | authorityChange c op => exact coherent_setAuthority h hm op.entityId op.authority
  | componentUpdate c op =>
    simp only [componentStep, componentUpdate]
    cases hentity : v.entities.find op.entityId with
    | none => exact h
    | some entity =>
      simp only
      split_ifs with hdata
      · apply coherent_assign_entity h hentity
        intro c hc
        unfold EntityOf.update at hc
        cases hfind : InsertionMap.find entity m.componentId with
        | none => simp [hfind] at hdata
        | some data =>
          simp only [hfind, InsertionMap.mem_keys_assign] at hc
          rcases hc with rfl | hc
          · exact hmem
          · exact h.entities hentity c hc
      · exact h
  | _ => exact h

theorem coherent_step {components : List (Metaclass δ υ)} {v : View δ}
    (h : Coherent components v) (op : Op) : Coherent components (step components v op) := by
  unfold step
  cases htracked : tracked components op with
  | some m => exact coherent_componentStep h (List.mem_of_find?_eq_some htracked) op
  | none => exact coherent_entityStep h op

/-- Every view that ops can lead to is coherent. -/
theorem coherent_of_process {components : List (Metaclass δ υ)}
    (hnodup : (components.map Metaclass.componentId).Nodup) {ops : OpList} {s : View δ × τ} {t : τ}
    (h : (dispatcher components).process ops (empty, t) = .ok s) : Coherent components s.1 := by
  rw [process_dispatcher hnodup] at h
  obtain rfl := Except.ok.inj h
  have hfold : ∀ v : View δ, Coherent components v →
      Coherent components (ops.foldl (step components) v) := by
    clear h
    induction ops with
    | nil => exact fun v hv => hv
    | cons op ops ih => exact fun v hv => ih _ (coherent_step hv op)
  exact hfold empty (coherent_empty components)

/-- A component with one field; its handles are read as the value itself. -/
def oneField (componentId : ComponentId) : Metaclass ℕ ℕ := ⟨componentId, id, id, fun u _ => u⟩

theorem coherent_of_process_oneField :
    ((([oneField 54] : List (Metaclass ℕ ℕ)).map Metaclass.componentId).Nodup ∧
      (dispatcher [oneField 54]).process [.addEntity ⟨1⟩, .addComponent 54 ⟨1, 7⟩] (empty, ()) =
        .ok ([Op.addEntity ⟨1⟩, .addComponent 54 ⟨1, 7⟩].foldl (step [oneField 54]) empty, ())) ∧
      Coherent [oneField 54]
        ([Op.addEntity ⟨1⟩, .addComponent 54 ⟨1, 7⟩].foldl (step [oneField 54]) empty) := by
  have hnodup : (([oneField 54] : List (Metaclass ℕ ℕ)).map Metaclass.componentId).Nodup := by
    decide
  have hprocess := process_dispatcher hnodup
    [.addEntity ⟨1⟩, .addComponent 54 ⟨1, 7⟩] (empty, ())
  exact ⟨⟨hnodup, hprocess⟩, coherent_of_process hnodup hprocess⟩

end View

end SpatialWorkers
