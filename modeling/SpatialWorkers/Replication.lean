import SpatialWorkers.Entities
import SpatialWorkers.ViewCells

/-!
# Replicated entities

What one worker does to its entities reaches the view of another as ops whose
handles point to deserialized objects. The view holds what the changes say,
wherever the objects were allocated and whatever other ops come between.
-/
namespace SpatialWorkers
open InsertionMaps FieldObjects Pbio

/-- Data of some component; none where the code would read an object of
another type. -/
abbrev AnyData := Option ComponentData

abbrev AnyUpdate := Option ((c : Component) × c.Update)

namespace Component

def getData (c : Component) (heap : Heap) (handle : ClientHandle) : AnyData :=
  match heap handle with
  | some (.data c' data) => if c' = c then some ⟨c', data⟩ else none
  | _ => none

def getUpdate (c : Component) (heap : Heap) (handle : ClientHandle) : AnyUpdate :=
  match heap handle with
  | some (.update c' update) => if c' = c then some ⟨c', update⟩ else none
  | _ => none

def applyToAny : AnyUpdate → AnyData → AnyData
  | some ⟨c, update⟩, some ⟨c', data⟩ =>
    if h : c = c' then some ⟨c', c'.applyTo (h ▸ update) data⟩ else none
  | _, _ => none

def metaclass (heap : Heap) (c : Component) : Metaclass AnyData AnyUpdate where
  componentId := c.componentId
  getData := c.getData heap
  getUpdate := c.getUpdate heap
  applyTo := applyToAny

end Component

/-- A change to the entities, with the data that it is about. -/
inductive EntityChange
  | addEntity (entityId : EntityId)
  | removeEntity (entityId : EntityId)
  | addComponent (c : Component) (entityId : EntityId) (data : c.Data)
  | removeComponent (c : Component) (entityId : EntityId)
  | authorityChange (c : Component) (entityId : EntityId) (authority : Authority)
  | componentUpdate (c : Component) (entityId : EntityId) (update : c.Update)

namespace EntityChange

/-- The op that tells of a change. Its handle points to what the receiver makes
of the object that the sender serialized. -/
inductive Delivers (Obj : Type) [Pbio Obj] (heap : Heap) : EntityChange → Op → Prop
  | addEntity (id : EntityId) : Delivers Obj heap (addEntity id) (.addEntity ⟨id⟩)
  | removeEntity (id : EntityId) : Delivers Obj heap (removeEntity id) (.removeEntity ⟨id⟩)
  | addComponent {c : Component} (id : EntityId) {data : c.Data} {handle : ClientHandle}
    (h : heap handle =
      some (.data c (c.deserializeSnapshot (c.serializeSnapshot data (newObject : Obj))))) :
    Delivers Obj heap (addComponent c id data) (.addComponent c.componentId ⟨id, handle⟩)
  | removeComponent (c : Component) (id : EntityId) :
    Delivers Obj heap (removeComponent c id) (.removeComponent c.componentId ⟨id⟩)
  | authorityChange (c : Component) (id : EntityId) (authority : Authority) :
    Delivers Obj heap (authorityChange c id authority)
      (.authorityChange c.componentId ⟨id, authority⟩)
  | componentUpdate {c : Component} (id : EntityId) {update : c.Update} {handle : ClientHandle}
    (h : heap handle =
      some (.update c (c.deserializeUpdate (c.serializeUpdate update (newObject : Obj))))) :
    Delivers Obj heap (componentUpdate c id update) (.componentUpdate c.componentId ⟨id, handle⟩)

/-- Nothing in the change is too long to be serialized. -/
def Fits : EntityChange → Prop
  | addComponent c _ data => c.DataFits data
  | componentUpdate c _ update => c.UpdateFits update
  | _ => True

/-- What a change does to the component `c` of an entity. -/
def step (c : Component) (entityId : EntityId) (cell : Cell c.Data) : EntityChange → Cell c.Data
  | addEntity id => if id = entityId then { cell with known := true } else cell
  | removeEntity id => if id = entityId then .blank else cell
  | addComponent c' id data =>
    if h : c' = c then if id = entityId then cell.addComponent (h ▸ data) else cell else cell
  | removeComponent c' id =>
    if c' = c ∧ id = entityId then ⟨cell.known, none, none⟩ else cell
  | authorityChange c' id authority =>
    if c' = c ∧ id = entityId then { cell with authority := some authority } else cell
  | componentUpdate c' id update =>
    if h : c' = c then
      if id = entityId then { cell with data := cell.data.map (c.applyTo (h ▸ update)) } else cell
    else cell

end EntityChange

namespace Cell

variable {δ δ' : Type}

def map (f : δ → δ') (cell : Cell δ) : Cell δ' where
  known := cell.known
  data := cell.data.map f
  authority := cell.authority

theorem addComponent_map (f : δ → δ') (data : δ) (cell : Cell δ) :
    (cell.addComponent data).map f = (cell.map f).addComponent (f data) := by
  obtain ⟨known, old, authority⟩ := cell
  cases known with
  | true => cases old <;> rfl
  | false => rfl

end Cell

namespace EntityChange

variable {Obj : Type} [Pbio Obj]

def wrap (c : Component) (data : c.Data) : AnyData := some ⟨c, data⟩

/-- The op does to the wrapped data what the change does to the data. -/
theorem step_of_delivers {heap : Heap} {change : EntityChange} {op : Op}
    (hdelivers : Delivers Obj heap change op) (hfits : change.Fits) (c : Component)
    (id : EntityId) (cell : Cell c.Data) :
    Cell.step (c.metaclass heap) id (cell.map (wrap c)) op =
      (step c id cell change).map (wrap c) := by
  have hid (c' : Component) : c'.componentId = (c.metaclass heap).componentId ↔ c' = c :=
    Component.componentId_injective.eq_iff
  cases hdelivers with
  | addEntity id' =>
    simp only [Cell.step, step]
    split_ifs <;> rfl
  | removeEntity id' =>
    simp only [Cell.step, step]
    split_ifs <;> rfl
  | @addComponent c' id' data handle h =>
    rw [Component.deserializeSnapshot_serialize hfits] at h
    simp only [Cell.step, step, hid]
    by_cases hc : c' = c
    · subst hc
      have hget : (c'.metaclass heap).getData handle = wrap c' data := by
        simp [Component.metaclass, Component.getData, h, wrap]
      simp only [true_and, dite_true, hget]
      split_ifs
      · exact (Cell.addComponent_map (wrap c') data cell).symm
      · rfl
    · simp [hc]
  | removeComponent c' id' =>
    simp only [Cell.step, step, hid]
    split_ifs <;> rfl
  | authorityChange c' id' authority =>
    simp only [Cell.step, step, hid]
    split_ifs <;> rfl
  | @componentUpdate c' id' update handle h =>
    rw [Component.deserializeUpdate_serialize hfits] at h
    simp only [Cell.step, step, hid]
    by_cases hc : c' = c
    · subst hc
      have hget : (c'.metaclass heap).getUpdate handle = some ⟨c', update⟩ := by
        simp [Component.metaclass, Component.getUpdate, h]
      simp only [true_and, dite_true, hget]
      split_ifs
      · cases hdata : cell.data <;>
          simp [Cell.map, hdata, Component.metaclass, Component.applyToAny, wrap]
      · rfl
    · simp [hc]

theorem foldl_step_of_delivers {heap : Heap} {changes : List EntityChange} {ops : OpList}
    (hdelivers : List.Forall₂ (Delivers Obj heap) changes ops)
    (hfits : ∀ change ∈ changes, change.Fits) (c : Component) (id : EntityId)
    (cell : Cell c.Data) :
    ops.foldl (Cell.step (c.metaclass heap) id) (cell.map (wrap c)) =
      (changes.foldl (step c id) cell).map (wrap c) := by
  induction hdelivers generalizing cell with
  | nil => rfl
  | cons hhead htail ih =>
    rw [List.foldl_cons, List.foldl_cons,
      step_of_delivers hhead (hfits _ List.mem_cons_self)]
    exact ih (fun change hchange => hfits change (List.mem_cons_of_mem _ hchange)) _

end EntityChange

/-- Ops that tell of a change to the entities. -/
def Op.isEntityOp : Op → Bool
  | .addEntity _ => true
  | .removeEntity _ => true
  | .addComponent _ _ => true
  | .removeComponent _ _ => true
  | .authorityChange _ _ => true
  | .componentUpdate _ _ => true
  | _ => false

theorem Cell.isEntityOp_of_concerns {componentId : ComponentId} {entityId : EntityId} {op : Op}
    (h : Cell.concerns componentId entityId op = true) : op.isEntityOp = true := by
  cases op with
  | _ => first | rfl | cases h

variable {Obj τ : Type} [Pbio Obj]

namespace View

variable {components : List Component} {heap : Heap} {changes : List EntityChange} {ops : OpList}

theorem nodup_componentId_metaclass (hnodup : components.Nodup) (heap : Heap) :
    ((components.map (Component.metaclass heap)).map Metaclass.componentId).Nodup := by
  rw [List.map_map]
  exact hnodup.map Component.componentId_injective

theorem cell_foldl_delivered (hnodup : components.Nodup)
    (hdelivers : List.Forall₂ (EntityChange.Delivers Obj heap) changes
      (ops.filter Op.isEntityOp))
    (hfits : ∀ change ∈ changes, change.Fits) {c : Component} (hc : c ∈ components)
    (id : EntityId) :
    (ops.foldl (step (components.map (Component.metaclass heap))) empty).cell id c.componentId =
      (changes.foldl (EntityChange.step c id) .blank).map (EntityChange.wrap c) := by
  have hfilter : (ops.filter Op.isEntityOp).filter (Cell.concerns c.componentId id) =
      ops.filter (Cell.concerns c.componentId id) := by
    rw [List.filter_filter]
    apply List.filter_congr
    intro op _
    cases hconcerns : Cell.concerns c.componentId id op with
    | true => simp [Cell.isEntityOp_of_concerns hconcerns]
    | false => rfl
  have hcell := cell_foldl_step (nodup_componentId_metaclass hnodup heap)
    (List.mem_map_of_mem hc) empty ops id
  have hops := Cell.foldl_step_filter (c.metaclass heap) id ops
    (Cell.map (EntityChange.wrap c) .blank)
  have hentity := Cell.foldl_step_filter (c.metaclass heap) id (ops.filter Op.isEntityOp)
    (Cell.map (EntityChange.wrap c) .blank)
  calc _ = ops.foldl (Cell.step (c.metaclass heap) id)
        (Cell.map (EntityChange.wrap c) .blank) := hcell
    _ = (ops.filter Op.isEntityOp).foldl (Cell.step (c.metaclass heap) id)
        (Cell.map (EntityChange.wrap c) .blank) := by
      rw [← hops, ← hentity]
      exact congrArg _ hfilter.symm
    _ = _ := EntityChange.foldl_step_of_delivers hdelivers hfits c id .blank

end View

/-- A view that processes the ops of any changes, mixed with any other ops,
holds for each component of each entity what the changes say. -/
theorem View.process_delivered {components : List Component} (hnodup : components.Nodup)
    {heap : Heap} {changes : List EntityChange} {ops : OpList}
    (hdelivers : List.Forall₂ (EntityChange.Delivers Obj heap) changes
      (ops.filter Op.isEntityOp))
    (hfits : ∀ change ∈ changes, change.Fits) (t : τ) :
    ∃ v, (View.dispatcher (components.map (Component.metaclass heap))).process ops
        (View.empty, t) = .ok (v, t) ∧
      ∀ c ∈ components, ∀ id, v.cell id c.componentId =
        (changes.foldl (EntityChange.step c id) .blank).map (EntityChange.wrap c) := by
  have hids := nodup_componentId_metaclass hnodup heap
  refine ⟨_, process_dispatcher hids ops (View.empty, t), fun c hc id => ?_⟩
  exact cell_foldl_delivered hnodup hdelivers hfits hc id

/-- The objects behind the handles 0 and 1 of the example below. -/
def positionHeap : Heap
  | 0 => some (.data .position (Component.position.deserializeSnapshot
      (Component.position.serializeSnapshot ⟨⟨1, 2, 3⟩⟩ (newObject : PbioTree))))
  | 1 => some (.update .position (Component.position.deserializeUpdate
      (Component.position.serializeUpdate ⟨some ⟨4, 5, 6⟩⟩ (newObject : PbioTree))))
  | _ => none

theorem View.process_delivered_position :
    ∃ v, (View.dispatcher ([Component.metadata, .position].map
        (Component.metaclass positionHeap))).process
        [.addEntity ⟨1⟩, .addComponent 54 ⟨1, 0⟩, .metrics ⟨.new⟩, .componentUpdate 54 ⟨1, 1⟩]
        (View.empty, ()) = .ok (v, ()) ∧
      v.cell 1 54 =
        ⟨true, some (some ⟨.position, ⟨⟨4, 5, 6⟩⟩⟩), some .kNotAuthoritative⟩ := by
  obtain ⟨v, hv, hcell⟩ := @View.process_delivered PbioTree Unit _ [.metadata, .position]
    (by decide) positionHeap
    [.addEntity 1, .addComponent .position 1 ⟨⟨1, 2, 3⟩⟩,
      .componentUpdate .position 1 ⟨some ⟨4, 5, 6⟩⟩]
    [.addEntity ⟨1⟩, .addComponent 54 ⟨1, 0⟩, .metrics ⟨.new⟩, .componentUpdate 54 ⟨1, 1⟩]
    (.cons (.addEntity 1) (.cons (.addComponent 1 rfl) (.cons (.componentUpdate 1 rfl) .nil)))
    (by simp [EntityChange.Fits, Component.DataFits, Component.UpdateFits]) ()
  exact ⟨v, hv, hcell .position (by decide) 1⟩

/-! ## Complete updates -/

namespace EntityChange

/-- A component that is held is one of a known entity. -/
theorem known_foldl_step (c : Component) (id : EntityId) (changes : List EntityChange) :
    (changes.foldl (step c id) .blank).data.isSome = true →
      (changes.foldl (step c id) .blank).known = true := by
  refine List.foldlRecOn (motive := fun cell : Cell c.Data =>
    cell.data.isSome = true → cell.known = true) changes (step c id) nofun ?_
  intro cell ih change _
  cases change with
  | componentUpdate c' id' update =>
    simp only [step]
    split_ifs with hc hid
    · simpa using ih
    · exact ih
    · exact ih
  | addComponent c' id' data =>
    simp only [step, Cell.addComponent]
    split_ifs with hc hid hknown
    · exact fun _ => rfl
    all_goals exact ih
  | _ =>
    simp only [step]
    split_ifs <;> simp_all [Cell.blank]

/-- The authority has no say in what the data becomes. -/
theorem data_foldl_step (c : Component) (id : EntityId) (changes : List EntityChange)
    {cell cell' : Cell c.Data} (hknown : cell.known = cell'.known)
    (hdata : cell.data = cell'.data) :
    (changes.foldl (step c id) cell).data = (changes.foldl (step c id) cell').data := by
  induction changes generalizing cell cell' with
  | nil => exact hdata
  | cons change changes ih =>
    have hstep : (step c id cell change).known = (step c id cell' change).known ∧
        (step c id cell change).data = (step c id cell' change).data := by
      cases change <;> simp only [step, Cell.addComponent] <;> split_ifs <;> simp_all
    exact ih hstep.1 hstep.2

end EntityChange

/-- A complete update of a component that is held makes the data before it
irrelevant: what the view holds in the end is what the later changes make of the
data of the update. -/
theorem View.process_since_completeUpdate {components : List Component}
    (hnodup : components.Nodup) {heap : Heap} {c : Component} (hc : c ∈ components)
    {id : EntityId} {update : c.Update} {data : c.Data}
    (hcomplete : c.toInitialData update = some data) {before after : List EntityChange}
    {ops : OpList}
    (hdelivers : List.Forall₂ (EntityChange.Delivers Obj heap)
      (before ++ .componentUpdate c id update :: after) (ops.filter Op.isEntityOp))
    (hfits : ∀ change ∈ before ++ .componentUpdate c id update :: after, change.Fits)
    (hheld : (before.foldl (EntityChange.step c id) .blank).data.isSome = true) (t : τ) :
    ∃ v, (View.dispatcher (components.map (Component.metaclass heap))).process ops
        (View.empty, t) = .ok (v, t) ∧
      (v.cell id c.componentId).data =
        (after.foldl (EntityChange.step c id) ⟨true, some data, none⟩).data.map
          (EntityChange.wrap c) := by
  have hids := nodup_componentId_metaclass hnodup heap
  refine ⟨_, process_dispatcher hids ops (View.empty, t), ?_⟩
  have hcell := cell_foldl_delivered hnodup hdelivers hfits hc id
  have hknown := EntityChange.known_foldl_step c id before hheld
  obtain ⟨old, hold⟩ := Option.isSome_iff_exists.mp hheld
  rw [hcell, List.foldl_append, List.foldl_cons]
  refine congrArg (Option.map (EntityChange.wrap c)) (EntityChange.data_foldl_step c id after ?_ ?_)
  · simp [EntityChange.step, hknown]
  · simp [EntityChange.step, hold, Component.applyTo_of_toInitialData hcomplete]

theorem View.process_since_completeUpdate_position :
    ∃ v, (View.dispatcher ([Component.metadata, .position].map
        (Component.metaclass positionHeap))).process
        [.addEntity ⟨1⟩, .addComponent 54 ⟨1, 0⟩, .metrics ⟨.new⟩, .componentUpdate 54 ⟨1, 1⟩]
        (View.empty, ()) = .ok (v, ()) ∧
      (v.cell 1 54).data = some (some ⟨.position, ⟨⟨4, 5, 6⟩⟩⟩) := by
  obtain ⟨v, hv, hdata⟩ := @View.process_since_completeUpdate PbioTree Unit _
    [.metadata, .position] (by decide) positionHeap .position (by decide) 1
    (Component.position.fromInitialData ⟨⟨4, 5, 6⟩⟩) _
    (Component.toInitialData_fromInitialData _)
    [.addEntity 1, .addComponent .position 1 ⟨⟨1, 2, 3⟩⟩] []
    [.addEntity ⟨1⟩, .addComponent 54 ⟨1, 0⟩, .metrics ⟨.new⟩, .componentUpdate 54 ⟨1, 1⟩]
    (.cons (.addEntity 1) (.cons (.addComponent 1 rfl) (.cons (.componentUpdate 1 rfl) .nil)))
    (by simp [EntityChange.Fits, Component.DataFits, Component.UpdateFits]) rfl ()
  exact ⟨v, hv, hdata⟩

end SpatialWorkers
