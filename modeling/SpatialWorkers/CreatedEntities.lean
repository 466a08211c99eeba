import SpatialWorkers.Replication

/-!
# Created entities

A program sends an entity to be created, and the ops that tell another of it
build the entity up in the other's view. The view's own entities, which are
keyed by component id and hold data of any type, are those of `Entity` as far as
the view tracks their components.
-/
namespace SpatialWorkers
open InsertionMaps Pbio

variable {Obj τ : Type} [Pbio Obj]

/-- What `WorkerProtocol_Connection_SendCreateEntityRequest` is given; none of
the null handle of a component that the registry lacks. -/
structure SentCreateEntityRequest (Obj : Type) where
  components : List (ComponentId × Obj)
  entityId : Option EntityId
  timeoutMillis : Option ℕ

def sendCreateEntityRequest (registry : List Component) (e : Entity) (entityId : Option EntityId)
    (timeoutMillis : Option ℕ) : Option (SentCreateEntityRequest Obj) :=
  (serializeComponents (extractEntityComponents registry e)).map fun components =>
    ⟨components, entityId, timeoutMillis⟩

/-- The C API accepts an entity if the registry covers it. -/
theorem sendCreateEntityRequest_eq (registry : List Component) (e : Entity)
    (entityId : Option EntityId) (timeoutMillis : Option ℕ) :
    (sendCreateEntityRequest registry e entityId timeoutMillis :
        Option (SentCreateEntityRequest Obj)) =
      if e.Covered registry then some ⟨e.serialize, entityId, timeoutMillis⟩ else none := by
  rw [sendCreateEntityRequest, serializeComponents_extract]
  split_ifs <;> rfl

namespace Entity

/-- An entity as a view keeps it. -/
def asEntityOf (e : Entity) : EntityOf AnyData :=
  ⟨e.components.map fun data => (data.1.componentId, some data), by
    have hids := e.nodup.map Component.componentId_injective
    rw [List.keys, List.map_map] at hids
    rwa [List.map_map]⟩

theorem entries_asEntityOf (e : Entity) :
    e.asEntityOf.entries = e.components.map fun data => (data.1.componentId, some data) := rfl

theorem mem_keys_asEntityOf {e : Entity} {c : Component} :
    c.componentId ∈ e.asEntityOf.keys ↔ c ∈ e.components.keys := by
  have hkeys : e.asEntityOf.keys = e.components.keys.map Component.componentId := by
    rw [InsertionMap.keys, asEntityOf, List.map_map, List.keys, List.map_map]
    rfl
  rw [hkeys, List.mem_map_of_injective Component.componentId_injective]

/-- Adding to the one is adding to the other. -/
theorem asEntityOf_add (e : Entity) (data : ComponentData) :
    (e.add data).asEntityOf = e.asEntityOf.add data.1.componentId (some data) := by
  have hmem := mem_keys_asEntityOf (e := e) (c := data.1)
  by_cases h : data.1 ∈ e.components.keys
  · rw [add, dif_pos h, EntityOf.add, InsertionMap.emplace, dif_pos (hmem.mpr h)]
  · refine InsertionMap.ext_entries ?_
    rw [EntityOf.add, InsertionMap.entries_emplace (fun hkey => h (hmem.mp hkey)),
      entries_asEntityOf, entries_asEntityOf, components_add h, List.map_append,
      List.map_singleton]

end Entity

/-- An op that brings a component of an entity to a program with these
components; the handle of one that it lacks may lead anywhere. -/
inductive ShowsComponent (components : List Component) (heap : Heap) (id : EntityId) :
    ComponentId × Obj → Op → Prop
  | mk {c : Component} {object : Obj} {handle : ClientHandle}
    (h : c ∈ components → heap handle = some (.data c (c.deserializeSnapshot object))) :
    ShowsComponent components heap id (c.componentId, object)
      (.addComponent c.componentId ⟨id, handle⟩)

/-- The op can change the data that a view has of the entity. -/
def Op.isAbout (id : EntityId) : Op → Bool
  | .addEntity op => op.entityId = id
  | .removeEntity op => op.entityId = id
  | .addComponent _ op => op.entityId = id
  | .removeComponent _ op => op.entityId = id
  | .componentUpdate _ op => op.entityId = id
  | _ => false

namespace View

variable {δ υ : Type}

theorem find_entities_entityStep {op : Op} {id : EntityId} (h : op.isAbout id = false)
    (v : View δ) : (entityStep op v).entities.find id = v.entities.find id := by
  cases op with
  | addEntity op =>
    have hne : op.entityId ≠ id := by simpa [Op.isAbout] using h
    rw [entityStep, addEntity, InsertionMap.find_emplace, if_neg hne]
  | removeEntity op =>
    have hne : op.entityId ≠ id := by simpa [Op.isAbout] using h
    rw [entityStep, removeEntity, InsertionMap.find_erase, if_neg hne]
  | _ => rfl

theorem find_entities_componentStep {op : Op} {id : EntityId} (h : op.isAbout id = false)
    (m : Metaclass δ υ) (v : View δ) :
    (componentStep m op v).entities.find id = v.entities.find id := by
  cases op with
  | addComponent c op =>
    have hne : op.entityId ≠ id := by simpa [Op.isAbout] using h
    rw [componentStep, addComponent]
    cases v.entities.find op.entityId with
    | none => rfl
    | some entity => exact (InsertionMap.find_assign ..).trans (if_neg hne)
  | removeComponent c op =>
    have hne : op.entityId ≠ id := by simpa [Op.isAbout] using h
    rw [componentStep, removeComponent]
    cases v.entities.find op.entityId with
    | none => rfl
    | some entity => exact (InsertionMap.find_assign ..).trans (if_neg hne)
  | componentUpdate c op =>
    have hne : op.entityId ≠ id := by simpa [Op.isAbout] using h
    rw [componentStep, componentUpdate]
    cases v.entities.find op.entityId with
    | none => rfl
    | some entity =>
      simp only
      split_ifs
      · exact (InsertionMap.find_assign ..).trans (if_neg hne)
      · rfl
  | _ => rfl

theorem find_entities_step {op : Op} {id : EntityId} (h : op.isAbout id = false)
    (components : List (Metaclass δ υ)) (v : View δ) :
    (step components v op).entities.find id = v.entities.find id := by
  unfold step
  cases tracked components op with
  | some m => exact find_entities_componentStep h m v
  | none => exact find_entities_entityStep h v

variable {components : List Component} {heap : Heap} {id : EntityId}

theorem tracked_addComponent (components : List Component) (heap : Heap) (c : Component)
    (op : ComponentWrapperOp) :
    tracked (components.map (Component.metaclass heap)) (.addComponent c.componentId op) =
      if c ∈ components then some (c.metaclass heap) else none := by
  have hregistered := @registered_componentId components c
  unfold registered at hregistered
  have hmatch : (fun c' : Component => decide (componentId? (.addComponent c.componentId op) =
      some (c'.metaclass heap).componentId)) =
        fun c' => decide (c'.componentId = c.componentId) := by
    ext c'
    simp [componentId?, Component.metaclass, eq_comm]
  rw [tracked, List.find?_map, Function.comp_def, hmatch, hregistered]
  split_ifs <;> rfl

/-- What is shown of a component goes to the entity, if the view tracks it. -/
theorem find_entities_shows {object : ComponentId × Obj} {op : Op}
    (h : ShowsComponent components heap id object op) {v : View AnyData} {e : Entity}
    (hentity : v.entities.find id = some e.asEntityOf) :
    (step (components.map (Component.metaclass heap)) v op).entities.find id =
      some (e.addAll (deserializeComponents components [object])).asEntityOf := by
  obtain @⟨c, object, handle, hhandle⟩ := h
  rw [step, tracked_addComponent, deserializeComponents, List.filterMap_cons,
    registered_componentId]
  by_cases hc : c ∈ components
  · have hdata : c.getData heap handle = some ⟨c, c.deserializeSnapshot object⟩ := by
      simp [Component.getData, hhandle hc]
    simp only [hc, if_true, Option.map_some, List.filterMap_nil]
    rw [componentStep, addComponent, hentity]
    refine (InsertionMap.find_assign ..).trans ((if_pos rfl).trans (congrArg some ?_))
    exact (congrArg (EntityOf.add e.asEntityOf c.componentId) hdata).trans
      (e.asEntityOf_add ⟨c, c.deserializeSnapshot object⟩).symm
  · simp only [hc, if_false, Option.map_none, List.filterMap_nil]
    exact hentity

theorem find_entities_foldl {objects : List (ComponentId × Obj)} {ops : OpList}
    (h : List.Forall₂ (ShowsComponent components heap id) objects
      (ops.filter (Op.isAbout id))) {v : View AnyData} {e : Entity}
    (hentity : v.entities.find id = some e.asEntityOf) :
    (ops.foldl (step (components.map (Component.metaclass heap))) v).entities.find id =
      some (e.addAll (deserializeComponents components objects)).asEntityOf := by
  induction ops generalizing objects v e with
  | nil =>
    obtain rfl := List.forall₂_nil_right_iff.mp h
    exact hentity
  | cons op ops ih =>
    rw [List.foldl_cons]
    cases hop : op.isAbout id with
    | false =>
      rw [List.filter_cons_of_neg (by simp [hop])] at h
      exact ih h ((find_entities_step hop _ v).trans hentity)
    | true =>
      rw [List.filter_cons_of_pos hop] at h
      obtain ⟨object, objects, hhead, htail, rfl⟩ := List.forall₂_cons_right_iff.mp h
      rw [ih htail (find_entities_shows hhead hentity)]
      have hsplit : deserializeComponents components (object :: objects) =
          deserializeComponents components [object] ++ deserializeComponents components objects :=
        List.filterMap_append (l := [object])
      rw [hsplit, Entity.addAll, Entity.addAll, Entity.addAll, List.foldl_append]

/-- An entity that was sent to be created, and that ops bring to another
program, mixed with any ops about other entities: the view of that program has
it with the components that it tracks, and with the data that was sent. -/
theorem process_created (hnodup : components.Nodup) {writer : List Component} {e : Entity}
    {entityId : Option EntityId} {timeoutMillis : Option ℕ} {sent : SentCreateEntityRequest Obj}
    (hsent : sendCreateEntityRequest writer e entityId timeoutMillis = some sent) (hfits : e.Fits)
    {before ops : OpList} (hbefore : before.filter (Op.isAbout id) = [])
    (hops : List.Forall₂ (ShowsComponent components heap id) sent.components
      (ops.filter (Op.isAbout id))) (t : τ) :
    ∃ v, (dispatcher (components.map (Component.metaclass heap))).process
        (before ++ .addEntity ⟨id⟩ :: ops) (empty, t) = .ok (v, t) ∧
      v.entities.find id = some (e.restrict components).asEntityOf := by
  have hids := nodup_componentId_metaclass hnodup heap
  rw [sendCreateEntityRequest_eq] at hsent
  split_ifs at hsent with hcovered
  obtain rfl := Option.some.inj hsent
  refine ⟨_, process_dispatcher hids _ _, ?_⟩
  have hquiet : ∀ op ∈ before, op.isAbout id = false := by
    simpa [List.filter_eq_nil_iff] using hbefore
  have hunknown (v : View AnyData) (hv : v.entities.find id = none) :
      (before.foldl (step (components.map (Component.metaclass heap))) v).entities.find id =
        none := by
    clear hbefore
    induction before generalizing v with
    | nil => exact hv
    | cons op before ih =>
      obtain ⟨hop, hrest⟩ := List.forall_mem_cons.mp hquiet
      exact ih hrest _ ((find_entities_step hop _ v).trans hv)
  have hempty := hunknown empty rfl
  rw [List.foldl_append, List.foldl_cons]
  generalize before.foldl (step (components.map (Component.metaclass heap))) empty = v at hempty ⊢
  have hadded : (step (components.map (Component.metaclass heap)) v
      (.addEntity ⟨id⟩)).entities.find id = some Entity.empty.asEntityOf := by
    have htracked : tracked (components.map (Component.metaclass heap)) (.addEntity ⟨id⟩) =
        none := by simp [tracked, componentId?]
    rw [step, htracked]
    show (v.entities.emplace id .empty).find id = _
    rw [InsertionMap.find_emplace, if_pos rfl, hempty]
    rfl
  rw [find_entities_foldl hops hadded, deserializeComponents_serialize components hfits,
    Entity.addAll_empty]

/-- The view of a program that knows only one of the two components. -/
theorem process_created_position :
    ∃ v, (dispatcher ([Component.metadata, .position].map
        (Component.metaclass positionHeap))).process
        ([.addEntity ⟨2⟩] ++ .addEntity ⟨1⟩ :: [.addComponent 1003 ⟨1, 9⟩, .metrics ⟨.new⟩,
          .addComponent 54 ⟨1, 0⟩]) (empty, ()) = .ok (v, ()) ∧
      (v.entities.find 1).map InsertionMap.entries =
        some [(54, some ⟨.position, ⟨⟨1, 2, 3⟩⟩⟩)] := by
  let e : Entity := ⟨[⟨.turnTaker, ⟨⟩⟩, ⟨.position, ⟨⟨1, 2, 3⟩⟩⟩], by simp⟩
  have hfits : e.Fits := by simp [e, Entity.Fits, Component.DataFits]
  have hcovered : e.Covered [.position, .turnTaker] := by decide
  obtain ⟨v, hv, hentity⟩ := @process_created PbioTree Unit _ [.metadata, .position] positionHeap 1
    (by decide) [.position, .turnTaker] e none none _
    ((sendCreateEntityRequest_eq _ e none none).trans (if_pos hcovered)) hfits
    [.addEntity ⟨2⟩] [.addComponent 1003 ⟨1, 9⟩, .metrics ⟨.new⟩, .addComponent 54 ⟨1, 0⟩] rfl
    (.cons (@ShowsComponent.mk _ _ _ _ _ .turnTaker _ _ (by simp))
      (.cons (@ShowsComponent.mk _ _ _ _ _ .position _ _ fun _ => rfl) .nil)) ()
  refine ⟨v, hv, ?_⟩
  rw [hentity]
  rfl

end View

end SpatialWorkers
