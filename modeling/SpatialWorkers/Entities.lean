import Mathlib.Data.List.Sigma
import SpatialWorkers.Components

/-!
# Entities

An entity holds data for some of the components. It goes to the C API as an
array of handles, one for each of its components, and comes back as another: a
registry says which components a program can write and read. What lies between
is what the vtables serialize.
-/
namespace SpatialWorkers
open Pbio

/-- Data of some component. -/
abbrev ComponentData := Sigma Component.Data

/-- What a vtable allocates behind a client handle. -/
inductive ClientObject
  | data (c : Component) (data : c.Data)
  | update (c : Component) (update : c.Update)
  | request (c : Component) (request : c.Request)
  | response (c : Component) (response : c.Response)

/-- The objects that are allocated. -/
abbrev Heap := ClientHandle → Option ClientObject

/-- The data behind a handle; none where there is an object of another kind. -/
def Heap.data (heap : Heap) (handle : ClientHandle) : Option ComponentData :=
  match heap handle with
  | some (.data c data) => some ⟨c, data⟩
  | _ => none

/-- `worker::Entity`: data for some of the components. -/
structure Entity where
  components : List ComponentData
  nodup : components.NodupKeys

namespace Entity

def empty : Entity := ⟨[], List.nodupKeys_nil⟩

/-- `Get`. -/
def find (e : Entity) (c : Component) : Option c.Data := e.components.dlookup c

/-- `Add`: no effect if the entity has the component already. -/
def add (e : Entity) (data : ComponentData) : Entity :=
  if h : data.1 ∈ e.components.keys then e
  else ⟨e.components ++ [data], by
    rw [List.nodupKeys_middle, List.append_nil, List.nodupKeys_cons]
    exact ⟨h, e.nodup⟩⟩

def addAll (e : Entity) (components : List ComponentData) : Entity := components.foldl add e

def getComponentIds (e : Entity) : List ComponentId :=
  e.components.map fun data => data.1.componentId

/-- The components of the entity that a registry has. -/
def restrict (registry : List Component) (e : Entity) : Entity :=
  ⟨e.components.filter fun data => data.1 ∈ registry, e.nodup.sublist List.filter_sublist⟩

/-- No string, list or map in the data is too long to be serialized. -/
def Fits (e : Entity) : Prop := ∀ data ∈ e.components, data.1.DataFits data.2

def Covered (registry : List Component) (e : Entity) : Prop :=
  ∀ data ∈ e.components, data.1 ∈ registry

instance (registry : List Component) (e : Entity) : Decidable (e.Covered registry) :=
  inferInstanceAs (Decidable (∀ data ∈ e.components, data.1 ∈ registry))

theorem ext_components {e e' : Entity} (h : e.components = e'.components) : e = e' := by
  cases e
  cases e'
  simpa using h

theorem find_of_mem {e : Entity} {data : ComponentData} (h : data ∈ e.components) :
    e.find data.1 = some data.2 := List.mem_dlookup e.nodup h

theorem components_add {e : Entity} {data : ComponentData} (h : data.1 ∉ e.components.keys) :
    (e.add data).components = e.components ++ [data] := by
  rw [add, dif_neg h]

/-- Data that is there already is kept. -/
theorem find_add (e : Entity) (data : ComponentData) (c : Component) :
    (e.add data).find c = (e.find c).or ([data].dlookup c) := by
  by_cases h : data.1 ∈ e.components.keys
  · rw [add, dif_pos h]
    by_cases hc : data.1 = c
    · obtain ⟨old, hold⟩ := Option.isSome_iff_exists.mp (List.dlookup_isSome.mpr (hc ▸ h))
      rw [find, hold, Option.some_or]
    · rw [List.dlookup_cons_ne _ _ (Ne.symm hc), List.dlookup_nil, Option.or_none]
  · rw [find, components_add h, List.dlookup_append]
    rfl

/-- Of several data for a component, the first counts. -/
theorem find_addAll (e : Entity) (components : List ComponentData) (c : Component) :
    (e.addAll components).find c = (e.find c).or (components.dlookup c) := by
  induction components generalizing e with
  | nil => simp [addAll]
  | cons data components ih =>
    have happend : (data :: components).dlookup c =
        ([data].dlookup c).or (components.dlookup c) :=
      List.dlookup_append [data] components c
    rw [happend, ← Option.or_assoc, ← find_add]
    exact ih (e.add data)

/-- Data for new components is appended. -/
theorem components_addAll {e : Entity} {components : List ComponentData}
    (h : (e.components ++ components).NodupKeys) :
    (e.addAll components).components = e.components ++ components := by
  induction components generalizing e with
  | nil => simp [addAll]
  | cons data components ih =>
    have hnew : data.1 ∉ e.components.keys := by
      have hmiddle := (List.nodupKeys_cons.mp (List.nodupKeys_middle.mp h)).1
      simp only [List.keys, List.map_append, List.mem_append, not_or] at hmiddle
      exact hmiddle.1
    have hadd := components_add hnew
    have hrest := ih (e := e.add data) (by rw [hadd, List.append_assoc]; exact h)
    rw [hadd, List.append_assoc] at hrest
    exact hrest

/-- The components of an entity make the same entity again. -/
theorem addAll_empty (e : Entity) : empty.addAll e.components = e := by
  refine ext_components ?_
  rw [components_addAll]
  · exact List.nil_append e.components
  · exact e.nodup

theorem dlookup_filter (registry : List Component) (components : List ComponentData)
    (c : Component) :
    (components.filter fun data => data.1 ∈ registry).dlookup c =
      if c ∈ registry then components.dlookup c else none := by
  induction components with
  | nil => simp
  | cons data components ih =>
    obtain ⟨c', value⟩ := data
    by_cases hc' : c' ∈ registry
    · rw [List.filter_cons_of_pos (by simpa using hc')]
      by_cases hc : c = c'
      · subst hc
        simp [hc']
      · rw [List.dlookup_cons_ne _ _ hc, List.dlookup_cons_ne _ _ hc, ih]
    · rw [List.filter_cons_of_neg (by simpa using hc'), ih]
      by_cases hc : c ∈ registry
      · have hne : c ≠ c' := fun heq => hc' (heq ▸ hc)
        rw [List.dlookup_cons_ne _ _ hne]
      · simp only [hc, if_false]

theorem find_restrict (registry : List Component) (e : Entity) (c : Component) :
    (e.restrict registry).find c = if c ∈ registry then e.find c else none :=
  dlookup_filter registry e.components c

end Entity

/-- The component that a registry has for an id. -/
def registered (registry : List Component) (componentId : ComponentId) : Option Component :=
  registry.find? fun c => c.componentId = componentId

theorem registered_componentId {registry : List Component} {c : Component} :
    registered registry c.componentId = if c ∈ registry then some c else none := by
  induction registry with
  | nil => rfl
  | cons c' registry ih =>
    unfold registered at ih ⊢
    by_cases h : c' = c
    · subst h
      simp
    · have hid : c'.componentId ≠ c.componentId := fun he => h (Component.componentId_injective he)
      rw [List.find?_cons_of_neg (by simpa using hid), ih]
      simp [Ne.symm h]

theorem registered_eq_some {registry : List Component} {componentId : ComponentId} {c : Component}
    (h : registered registry componentId = some c) : c ∈ registry ∧ c.componentId = componentId :=
  ⟨List.mem_of_find?_eq_some h, by simpa using List.find?_some h⟩

/-! ## Handles -/

/-- `ExtractEntityComponents`: a null handle for a component that the registry
lacks. -/
def extractEntityComponents (registry : List Component) (e : Entity) :
    List (ComponentId × Option ComponentData) :=
  e.getComponentIds.map fun componentId =>
    match registered registry componentId with
    | some c => (componentId, (e.find c).map (Sigma.mk c))
    | none => (componentId, none)

/-- `MoveSnapshotIntoEntity`, for a component that the registry has; an object
of another type counts as none. -/
def moveSnapshotIntoEntity (registry : List Component) (e : Entity)
    (component : ComponentId × Option ComponentData) : Entity :=
  match registered registry component.1, component.2 with
  | some c, some data => if data.1 = c then e.add data else e
  | _, _ => e

variable {Obj : Type} [Pbio Obj]

/-- What the C API makes of the handles; none of the null handle, which is its
error for an unknown component. -/
def serializeComponents (handles : List (ComponentId × Option ComponentData)) :
    Option (List (ComponentId × Obj)) :=
  handles.mapM fun handle =>
    handle.2.map fun data => (handle.1, data.1.serializeSnapshot data.2 newObject)

/-- What the vtables of a registry make of the objects of an entity. -/
def deserializeComponents (registry : List Component) (objects : List (ComponentId × Obj)) :
    List ComponentData :=
  objects.filterMap fun object =>
    (registered registry object.1).map fun c => ⟨c, c.deserializeSnapshot object.2⟩

/-- The handles lead to the objects of an entity, as far as the registry has
their components; others may be there as well. -/
def Hands (registry : List Component) (objects : List (ComponentId × Obj))
    (handles : List (ComponentId × Option ComponentData)) : Prop :=
  handles.filter (fun handle => (registered registry handle.1).isSome) =
    (deserializeComponents registry objects).map fun data => (data.1.componentId, some data)

/-- One object for each component. -/
def Entity.serialize (e : Entity) : List (ComponentId × Obj) :=
  e.components.map fun data => (data.1.componentId, data.1.serializeSnapshot data.2 newObject)

theorem extractEntityComponents_eq (registry : List Component) (e : Entity) :
    extractEntityComponents registry e = e.components.map fun data =>
      (data.1.componentId, if data.1 ∈ registry then some data else none) := by
  rw [extractEntityComponents, Entity.getComponentIds, List.map_map]
  apply List.map_congr_left
  intro data hdata
  simp only [Function.comp_apply, registered_componentId]
  by_cases h : data.1 ∈ registry
  · simp [h, Entity.find_of_mem hdata]
  · simp [h]

theorem mapM_ite {α β : Type} {p : α → Prop} [DecidablePred p] (f : α → β) (l : List α) :
    (l.mapM fun a => if p a then some (f a) else none) =
      if ∀ a ∈ l, p a then some (l.map f) else none := by
  induction l with
  | nil => simp
  | cons a l ih =>
    rw [List.mapM_cons, ih]
    by_cases ha : p a
    · by_cases hl : ∀ a ∈ l, p a
      · have hall : ∀ a' ∈ a :: l, p a' := List.forall_mem_cons.mpr ⟨ha, hl⟩
        rw [if_pos ha, if_pos hl, if_pos hall]
        rfl
      · have hall : ¬ ∀ a' ∈ a :: l, p a' := fun h => hl (List.forall_mem_cons.mp h).2
        rw [if_pos ha, if_neg hl, if_neg hall]
        rfl
    · simp [ha]

/-- An entity is serialized component by component, if the registry has all. -/
theorem serializeComponents_extract (registry : List Component) (e : Entity) :
    serializeComponents (extractEntityComponents registry e) =
      if e.Covered registry then some (e.serialize : List (ComponentId × Obj)) else none := by
  have hite := mapM_ite (p := fun data : ComponentData => data.1 ∈ registry)
    (fun data => (data.1.componentId,
      data.1.serializeSnapshot data.2 (newObject : Obj))) e.components
  rw [extractEntityComponents_eq, serializeComponents, List.mapM_map]
  refine Eq.trans ?_ hite
  congr 1
  funext data
  simp only [Function.comp_apply]
  split_ifs <;> rfl

/-- What was serialized is deserialized, as far as the registry goes. -/
theorem deserializeComponents_serialize (registry : List Component) {e : Entity} (h : e.Fits) :
    deserializeComponents registry (e.serialize : List (ComponentId × Obj)) =
      (e.restrict registry).components := by
  unfold Entity.Fits at h
  unfold deserializeComponents Entity.serialize
  show _ = e.components.filter fun data => data.1 ∈ registry
  generalize e.components = components at h ⊢
  induction components with
  | nil => rfl
  | cons data components ih =>
    obtain ⟨hdata, hrest⟩ := List.forall_mem_cons.mp h
    have hread := @Component.deserializeSnapshot_serialize Obj _ data.1 data.2 hdata
    rw [List.map_cons, List.filterMap_cons, registered_componentId, ih hrest]
    by_cases hc : data.1 ∈ registry
    · simp [hc, hread]
    · simp [hc]

/-- Handles of components that the registry lacks are passed over; of the
others, all data is added. -/
theorem foldl_moveSnapshotIntoEntity {registry : List Component}
    {objects : List (ComponentId × Obj)} {handles : List (ComponentId × Option ComponentData)}
    (h : Hands registry objects handles) (e : Entity) :
    handles.foldl (moveSnapshotIntoEntity registry) e =
      e.addAll (deserializeComponents registry objects) := by
  have hskip : (handles.filter fun handle => (registered registry handle.1).isSome).foldl
      (moveSnapshotIntoEntity registry) e = handles.foldl (moveSnapshotIntoEntity registry) e := by
    rw [List.foldl_filter]
    congr 1
    ext e handle
    cases hregistered : registered registry handle.1 <;> simp [moveSnapshotIntoEntity, hregistered]
  have hmem : ∀ data ∈ deserializeComponents registry objects, data.1 ∈ registry := by
    intro data hdata
    obtain ⟨object, -, hobject⟩ := List.mem_filterMap.mp hdata
    obtain ⟨c, hc, rfl⟩ := Option.map_eq_some_iff.mp hobject
    exact (registered_eq_some hc).1
  rw [← hskip, h, List.foldl_map, Entity.addAll]
  apply List.foldl_ext _ _ _
  intro e data hdata
  simp [moveSnapshotIntoEntity, registered_componentId, hmem data hdata]

end SpatialWorkers
