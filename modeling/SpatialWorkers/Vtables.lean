import SpatialWorkers.Othello
import SpatialWorkers.Registry
import SpatialWorkers.StandardLibrary

/-!
# Component vtables

Each component brings an update class, with an option for each field of its
data, and a vtable that serializes data, updates, requests and responses. An
update holds its fields in an object of their own. A map that is empty leaves
no trace there, so that its field number is written to a list apart; a
component without commands writes no request and reads none.
-/
namespace SpatialWorkers
open InsertionMaps FieldObjects Pbio

variable {β γ δ Obj : Type} [Pbio Obj]

/-! ## What the vtables have in common -/

namespace Vtable

/-- The initial data is an object under the number of the component. -/
def serializeSnapshot (componentId : ComponentId) (write : δ → Obj → Obj) (data : δ) (root : Obj) :
    Obj :=
  addObject root componentId (write data newObject)

/-- Without such an object, one with all defaults is read. -/
def deserializeSnapshot (componentId : ComponentId) (read : Obj → δ) (root : Obj) : δ :=
  read (getObject root componentId)

/-- Fields to clear go to field 1, the entity state to field 2. -/
def serializeUpdate (componentId : ComponentId) (fieldsToClear : List ℕ) (stateObject root : Obj) :
    Obj :=
  let root := fieldsToClear.foldl (fun root field => addUint32 root 1 field) root
  addObject root 2 (addObject newObject componentId stateObject)

/-- The set that is made of the list is only asked whether it has an element. -/
def fieldsToClear (root : Obj) : List ℕ := getUint32List root 1

/-- Where the fields of an update are. -/
def stateObject (componentId : ComponentId) (root : Obj) : Obj :=
  getObject (getObject root 2) componentId

/-- A map that is there and empty adds nothing. -/
def addMap (object : Obj) (field : ℕ) (write : β → Obj → Obj) (m : Option (InsertionMap ℕ β)) :
    Obj :=
  match m with
  | some m => Improbable.addPairs object field write m
  | none => object

/-- A map that is there and empty. -/
def clears (field : ℕ) (m : Option (InsertionMap ℕ β)) : List ℕ :=
  match m with
  | some m => if m.entries.isEmpty then [field] else []
  | none => []

/-- A map is there if it has an entry or its field is to be cleared. -/
def getMap (fieldsToClear : List ℕ) (object : Obj) (field : ℕ) (read : Obj → β) :
    Option (InsertionMap ℕ β) :=
  if getObjectCount object field ≠ 0 ∨ field ∈ fieldsToClear then
    some (Improbable.getPairs object field read)
  else none

/-- A request or response is told by the field of its command. -/
def serializeCommand (componentId : ComponentId) (commandObject root : Obj) : Obj :=
  addObject root componentId commandObject

/-- The command fields are looked at in turn, and the last one that is there
counts. -/
def deserializeCommand (componentId : ComponentId) (fields : List (ℕ × (Obj → γ))) (root : Obj) :
    Option γ :=
  fields.foldl (fun handle field =>
    ((getOptionalObject (getObject root componentId) field.1).map field.2).or handle) none

/-- An optional string that fits is passed as it is. -/
theorem map_castSize {s : Option String} (h : ∀ data ∈ s, data.length < uint32Size) :
    s.map castSize = s := by
  cases s with
  | none => rfl
  | some data => exact congrArg some (castSize_eq (h data rfl))

/-- Initial data is read back if its type is. -/
@[simp] theorem deserializeSnapshot_serialize (componentId : ComponentId) {write : δ → Obj → Obj}
    {read : Obj → δ} {data : δ} (h : read (write data newObject) = data) :
    deserializeSnapshot componentId read (serializeSnapshot componentId write data newObject) =
      data := by
  simp [deserializeSnapshot, serializeSnapshot, h]

/-- The fields to clear are one repeated field. -/
theorem serializeUpdate_eq (componentId : ComponentId) (fields : List ℕ) (state root : Obj) :
    serializeUpdate componentId fields state root =
      addObject (FieldObject.addList FieldKind.uint32 root 1 fields) 2
        (addObject newObject componentId state) := rfl

/-- The fields to clear are not in the way of the state. -/
@[simp] theorem stateObject_serializeUpdate (componentId : ComponentId) (fields : List ℕ)
    (state : Obj) :
    stateObject componentId (serializeUpdate componentId fields state newObject) = state := by
  simp [stateObject, serializeUpdate_eq]

/-- Nor is the state in the way of the fields to clear. -/
@[simp] theorem fieldsToClear_serializeUpdate (componentId : ComponentId) {fields : List ℕ}
    (state : Obj) (h : fields.length < uint32Size) :
    fieldsToClear (serializeUpdate componentId fields state newObject) = fields := by
  simp [fieldsToClear, serializeUpdate_eq, h]

/-- There is one field to clear for a map at most. -/
@[simp] theorem length_clears_lt (field : ℕ) (m : Option (InsertionMap ℕ β)) :
    (clears field m).length < uint32Size := by
  cases m with
  | none => exact uint32Size_pos
  | some m =>
    simp only [clears]
    split_ifs
    · exact one_lt_uint32Size
    · exact uint32Size_pos

/-- A map leaves the other fields alone. -/
@[simp] theorem getOptionalObject_addMap_of_ne {field field' : ℕ} (h : field ≠ field')
    (object : Obj) (write : β → Obj → Obj) (m : Option (InsertionMap ℕ β)) :
    getOptionalObject (addMap object field write m) field' = getOptionalObject object field' := by
  cases m with
  | none => rfl
  | some m => exact FieldObject.getOption_addList_of_ne h _ _

/-- Absent, empty and filled maps are told apart. -/
theorem getMap_addMap_self (object : Obj) (field : ℕ) {write : β → Obj → Obj} {read : Obj → β}
    {m : Option (InsertionMap ℕ β)} (hobject : getObjectCount object field = 0)
    (hcount : ∀ entries ∈ m, entries.entries.length < uint32Size)
    (hread : ∀ entries ∈ m, ∀ item ∈ entries.entries, read (write item.2 newObject) = item.2) :
    getMap (clears field m) (addMap object field write m) field read = m := by
  cases m with
  | none => simp [getMap, clears, addMap, hobject]
  | some m =>
    have hlength := hcount m rfl
    have hpairs := Improbable.getPairs_addPairs_self object field hobject hlength (hread m rfl)
    have hpresent : getObjectCount (Improbable.addPairs object field write m) field ≠ 0 ∨
        field ∈ clears field (some m) := by
      rw [getObjectCount, FieldObject.count_addList_self hobject (by simpa using hlength)]
      by_cases hempty : m.entries = []
      · right
        simp [clears, hempty]
      · left
        simpa using hempty
    rw [getMap, addMap, if_pos hpresent, hpairs]

end Vtable

open Vtable

/-! ## The components of the standard library -/

namespace Improbable

namespace EntityAcl

/-- One option for each field, as in all update classes. -/
structure Update where
  readAcl : Option WorkerRequirementSet
  componentWriteAcl : Option (InsertionMap ComponentId WorkerRequirementSet)

namespace Update

/-- The update that sets every field. -/
def fromInitialData (data : EntityAclData) : Update :=
  ⟨some data.readAcl, some data.componentWriteAcl⟩

/-- Undefined unless every field is there. -/
def toInitialData (u : Update) : Option EntityAclData := do
  return ⟨← u.readAcl, ← u.componentWriteAcl⟩

/-- A field that is there replaces the one of the data. -/
def applyTo (u : Update) (data : EntityAclData) : EntityAclData where
  readAcl := u.readAcl.getD data.readAcl
  componentWriteAcl := u.componentWriteAcl.getD data.componentWriteAcl

/-- What is there of the update is not too long. -/
structure Fits (u : Update) : Prop where
  readAcl : ∀ data ∈ u.readAcl, data.Fits
  componentWriteAcl : ∀ data ∈ u.componentWriteAcl, MapFits WorkerRequirementSet.Fits data

end Update

/-- The list of fields to clear names field 2 if the map is empty. -/
def serializeUpdate (data : Update) (root : Obj) : Obj :=
  let stateObject := addOptionalObject newObject 1
    (data.readAcl.map fun d => writeWorkerRequirementSet d newObject)
  let stateObject := addMap stateObject 2 writeWorkerRequirementSet data.componentWriteAcl
  Vtable.serializeUpdate 50 (clears 2 data.componentWriteAcl) stateObject root

/-- An update without the map differs from one with an empty map. -/
def deserializeUpdate (root : Obj) : Update :=
  let object := stateObject 50 root
  { readAcl := (getOptionalObject object 1).map readWorkerRequirementSet
    componentWriteAcl := getMap (fieldsToClear root) object 2 readWorkerRequirementSet }

/-- Each field is read back as it was, there or not. -/
theorem deserializeUpdate_serialize {u : Update} (h : u.Fits) :
    deserializeUpdate (serializeUpdate u (newObject : Obj)) = u := by
  obtain ⟨readAcl, componentWriteAcl⟩ := u
  have hmap := getMap_addMap_self
    (addOptionalObject (newObject : Obj) 1
      (readAcl.map fun d => writeWorkerRequirementSet d newObject)) 2 (by simp)
    (fun m hm => (h.componentWriteAcl m hm).count) fun m hm item hitem =>
      readWorkerRequirementSet_write ((h.componentWriteAcl m hm).values item hitem)
  have hread : readAcl.map (readWorkerRequirementSet ∘ fun d =>
      writeWorkerRequirementSet d (newObject : Obj)) = readAcl := by
    cases readAcl with
    | none => rfl
    | some data => exact congrArg some (readWorkerRequirementSet_write (h.readAcl data rfl))
  simp [deserializeUpdate, serializeUpdate, hmap, hread]

end EntityAcl

namespace Metadata

/-- The type is the only field. -/
structure Update where
  entityType : Option String
  deriving DecidableEq, Repr

namespace Update

def fromInitialData (data : MetadataData) : Update := ⟨some data.entityType⟩

def toInitialData (u : Update) : Option MetadataData := do
  return ⟨← u.entityType⟩

def applyTo (u : Update) (data : MetadataData) : MetadataData where
  entityType := u.entityType.getD data.entityType

/-- The string, if it is there, is not too long. -/
structure Fits (u : Update) : Prop where
  entityType : ∀ data ∈ u.entityType, data.length < uint32Size

end Update

/-- Nothing is ever cleared by an update of plain fields. -/
def serializeUpdate (data : Update) (root : Obj) : Obj :=
  Vtable.serializeUpdate 53 [] (addOptionalBytes newObject 1 data.entityType) root

def deserializeUpdate (root : Obj) : Update where
  entityType := getOptionalBytes (stateObject 53 root) 1

theorem deserializeUpdate_serialize {u : Update} (h : u.Fits) :
    deserializeUpdate (serializeUpdate u (newObject : Obj)) = u := by
  obtain ⟨entityType⟩ := u
  simp [deserializeUpdate, serializeUpdate, map_castSize h.entityType]

end Metadata

namespace Position

/-- Either all coordinates or none. -/
structure Update where
  coords : Option Coordinates
  deriving DecidableEq, Repr

namespace Update

def fromInitialData (data : PositionData) : Update := ⟨some data.coords⟩

def toInitialData (u : Update) : Option PositionData := do
  return ⟨← u.coords⟩

def applyTo (u : Update) (data : PositionData) : PositionData where
  coords := u.coords.getD data.coords

end Update

/-- The coordinates are an object in the state. -/
def serializeUpdate (data : Update) (root : Obj) : Obj :=
  let stateObject := addOptionalObject newObject 1
    (data.coords.map fun d => writeCoordinates d newObject)
  Vtable.serializeUpdate 54 [] stateObject root

def deserializeUpdate (root : Obj) : Update where
  coords := (getOptionalObject (stateObject 54 root) 1).map readCoordinates

/-- Doubles always fit. -/
@[simp] theorem deserializeUpdate_serialize (u : Update) :
    deserializeUpdate (serializeUpdate u (newObject : Obj)) = u := by
  simp [deserializeUpdate, serializeUpdate, Function.comp_def]

end Position

namespace Persistence

/-- An update that changes nothing. -/
structure Update where
  deriving DecidableEq, Repr

namespace Update

def fromInitialData (_ : PersistenceData) : Update := ⟨⟩

def toInitialData (_ : Update) : Option PersistenceData := some ⟨⟩

def applyTo (_ : Update) (data : PersistenceData) : PersistenceData := data

end Update

/-- The state is there, without a field. -/
def serializeUpdate (_ : Update) (root : Obj) : Obj := Vtable.serializeUpdate 55 [] newObject root

def deserializeUpdate (_ : Obj) : Update := ⟨⟩

end Persistence

namespace Interest

/-- The map is the only field. -/
structure Update where
  componentInterest : Option (InsertionMap ComponentId ComponentInterest)

namespace Update

def fromInitialData (data : InterestData) : Update := ⟨some data.componentInterest⟩

def toInitialData (u : Update) : Option InterestData := do
  return ⟨← u.componentInterest⟩

def applyTo (u : Update) (data : InterestData) : InterestData where
  componentInterest := u.componentInterest.getD data.componentInterest

/-- The map, if it is there, and all that is in it are not too long. -/
structure Fits (u : Update) : Prop where
  componentInterest : ∀ data ∈ u.componentInterest, MapFits ComponentInterest.Fits data

end Update

/-- Field 1 is to be cleared if the map is empty. -/
def serializeUpdate (data : Update) (root : Obj) : Obj :=
  let stateObject := addMap newObject 1 writeComponentInterest data.componentInterest
  Vtable.serializeUpdate 58 (clears 1 data.componentInterest) stateObject root

def deserializeUpdate (root : Obj) : Update where
  componentInterest := getMap (fieldsToClear root) (stateObject 58 root) 1 readComponentInterest

/-- An empty map is read back as an empty map. -/
theorem deserializeUpdate_serialize {u : Update} (h : u.Fits) :
    deserializeUpdate (serializeUpdate u (newObject : Obj)) = u := by
  obtain ⟨componentInterest⟩ := u
  have hmap := getMap_addMap_self (newObject : Obj) 1 (by simp)
    (fun m hm => (h.componentInterest m hm).count) fun m hm item hitem =>
      readComponentInterest_write ((h.componentInterest m hm).values item hitem)
  simp [deserializeUpdate, serializeUpdate, hmap]

end Interest

end Improbable

/-! ## The components of the game -/

namespace Othello

namespace Game

structure Update where
  deriving DecidableEq, Repr

namespace Update

def fromInitialData (_ : GameData) : Update := ⟨⟩

def toInitialData (_ : Update) : Option GameData := some ⟨⟩

def applyTo (_ : Update) (data : GameData) : GameData := data

end Update

def serializeUpdate (_ : Update) (root : Obj) : Obj := Vtable.serializeUpdate 1000 [] newObject root

def deserializeUpdate (_ : Obj) : Update := ⟨⟩

/-- `GenericCommandObject` for the requests of the component. -/
inductive Request
  | createPlayer (request : Void)
  | placeDisc (request : PlaceDiscRequest)
  deriving DecidableEq, Repr

/-- Each response belongs to the command of the same name. -/
inductive Response
  | createPlayer (response : CreatePlayerResult)
  | placeDisc (response : SuccessResult)
  deriving DecidableEq, Repr

/-- The number of the command in the schema, from 1. -/
def Request.commandId : Request → ℕ
  | createPlayer _ => 1
  | placeDisc _ => 2

def Response.commandId : Response → ℕ
  | createPlayer _ => 1
  | placeDisc _ => 2

/-- The request of command `i` goes to field `2 * i - 1`. -/
def serializeRequest (data : Request) (root : Obj) : Obj :=
  let commandObject := match data with
    | .createPlayer request => addObject newObject 1 (writeVoid request newObject)
    | .placeDisc request => addObject newObject 3 (writePlaceDiscRequest request newObject)
  serializeCommand 1000 commandObject root

/-- None if there is no request of either command. -/
def deserializeRequest (root : Obj) : Option Request :=
  deserializeCommand 1000 [(1, fun object => .createPlayer (readVoid object)),
    (3, fun object => .placeDisc (readPlaceDiscRequest object))] root

/-- Its response goes to field `2 * i`. -/
def serializeResponse (data : Response) (root : Obj) : Obj :=
  let commandObject := match data with
    | .createPlayer response => addObject newObject 2 (writeCreatePlayerResult response newObject)
    | .placeDisc response => addObject newObject 4 (writeSuccessResult response newObject)
  serializeCommand 1000 commandObject root

def deserializeResponse (root : Obj) : Option Response :=
  deserializeCommand 1000 [(2, fun object => .createPlayer (readCreatePlayerResult object)),
    (4, fun object => .placeDisc (readSuccessResult object))] root

/-- Command and request are read back. -/
@[simp] theorem deserializeRequest_serialize (data : Request) :
    deserializeRequest (serializeRequest data (newObject : Obj)) = some data := by
  cases data <;> simp [deserializeRequest, serializeRequest, deserializeCommand, serializeCommand]

@[simp] theorem deserializeResponse_serialize (data : Response) :
    deserializeResponse (serializeResponse data (newObject : Obj)) = some data := by
  cases data <;> simp [deserializeResponse, serializeResponse, deserializeCommand, serializeCommand]

end Game

namespace Color

/-- The color is the only field. -/
structure Update where
  black : Option Bool
  deriving DecidableEq, Repr

namespace Update

def fromInitialData (data : ColorData) : Update := ⟨some data.black⟩

def toInitialData (u : Update) : Option ColorData := do
  return ⟨← u.black⟩

def applyTo (u : Update) (data : ColorData) : ColorData where
  black := u.black.getD data.black

end Update

/-- A `false` is written, unlike an absent value. -/
def serializeUpdate (data : Update) (root : Obj) : Obj :=
  Vtable.serializeUpdate 1001 [] (addOptionalBool newObject 1 data.black) root

def deserializeUpdate (root : Obj) : Update where
  black := getOptionalBool (stateObject 1001 root) 1

@[simp] theorem deserializeUpdate_serialize (u : Update) :
    deserializeUpdate (serializeUpdate u (newObject : Obj)) = u := by
  simp [deserializeUpdate, serializeUpdate]

/-- The component has one command. -/
inductive Request
  | findColor (request : FindColorRequest)
  deriving DecidableEq, Repr

inductive Response
  | findColor (response : SuccessResult)
  deriving DecidableEq, Repr

def Request.commandId : Request → ℕ
  | findColor _ => 1

def Response.commandId : Response → ℕ
  | findColor _ => 1

/-- The request goes to field 1, its response to field 2. -/
def serializeRequest (data : Request) (root : Obj) : Obj :=
  let commandObject := match data with
    | .findColor request => addObject newObject 1 (writeFindColorRequest request newObject)
  serializeCommand 1001 commandObject root

def deserializeRequest (root : Obj) : Option Request :=
  deserializeCommand 1001 [(1, fun object => .findColor (readFindColorRequest object))] root

def serializeResponse (data : Response) (root : Obj) : Obj :=
  let commandObject := match data with
    | .findColor response => addObject newObject 2 (writeSuccessResult response newObject)
  serializeCommand 1001 commandObject root

def deserializeResponse (root : Obj) : Option Response :=
  deserializeCommand 1001 [(2, fun object => .findColor (readSuccessResult object))] root

/-- The only request is read back. -/
@[simp] theorem deserializeRequest_serialize (data : Request) :
    deserializeRequest (serializeRequest data (newObject : Obj)) = some data := by
  cases data
  simp [deserializeRequest, serializeRequest, deserializeCommand, serializeCommand]

@[simp] theorem deserializeResponse_serialize (data : Response) :
    deserializeResponse (serializeResponse data (newObject : Obj)) = some data := by
  cases data
  simp [deserializeResponse, serializeResponse, deserializeCommand, serializeCommand]

end Color

namespace Player

/-- The worker is the only field. -/
structure Update where
  worker : Option String
  deriving DecidableEq, Repr

namespace Update

def fromInitialData (data : PlayerData) : Update := ⟨some data.worker⟩

def toInitialData (u : Update) : Option PlayerData := do
  return ⟨← u.worker⟩

def applyTo (u : Update) (data : PlayerData) : PlayerData where
  worker := u.worker.getD data.worker

/-- The worker id, if it is there, is not too long. -/
structure Fits (u : Update) : Prop where
  worker : ∀ data ∈ u.worker, data.length < uint32Size

end Update

def serializeUpdate (data : Update) (root : Obj) : Obj :=
  Vtable.serializeUpdate 1002 [] (addOptionalBytes newObject 1 data.worker) root

def deserializeUpdate (root : Obj) : Update where
  worker := getOptionalBytes (stateObject 1002 root) 1

/-- An empty worker id is not taken for an absent one. -/
theorem deserializeUpdate_serialize {u : Update} (h : u.Fits) :
    deserializeUpdate (serializeUpdate u (newObject : Obj)) = u := by
  obtain ⟨worker⟩ := u
  simp [deserializeUpdate, serializeUpdate, map_castSize h.worker]

end Player

namespace TurnTaker

/-- The component has no fields, and a single command. -/
structure Update where
  deriving DecidableEq, Repr

namespace Update

def fromInitialData (_ : TurnTakerData) : Update := ⟨⟩

def toInitialData (_ : Update) : Option TurnTakerData := some ⟨⟩

def applyTo (_ : Update) (data : TurnTakerData) : TurnTakerData := data

end Update

def serializeUpdate (_ : Update) (root : Obj) : Obj := Vtable.serializeUpdate 1003 [] newObject root

def deserializeUpdate (_ : Obj) : Update := ⟨⟩

/-- The request tells nothing but that it is there. -/
inductive Request
  | yourTurn (request : Void)
  deriving DecidableEq, Repr

inductive Response
  | yourTurn (response : Void)
  deriving DecidableEq, Repr

def Request.commandId : Request → ℕ
  | yourTurn _ => 1

def Response.commandId : Response → ℕ
  | yourTurn _ => 1

def serializeRequest (data : Request) (root : Obj) : Obj :=
  let commandObject := match data with
    | .yourTurn request => addObject newObject 1 (writeVoid request newObject)
  serializeCommand 1003 commandObject root

def deserializeRequest (root : Obj) : Option Request :=
  deserializeCommand 1003 [(1, fun object => .yourTurn (readVoid object))] root

/-- Request and response are both empty, in different fields. -/
def serializeResponse (data : Response) (root : Obj) : Obj :=
  let commandObject := match data with
    | .yourTurn response => addObject newObject 2 (writeVoid response newObject)
  serializeCommand 1003 commandObject root

def deserializeResponse (root : Obj) : Option Response :=
  deserializeCommand 1003 [(2, fun object => .yourTurn (readVoid object))] root

@[simp] theorem deserializeRequest_serialize (data : Request) :
    deserializeRequest (serializeRequest data (newObject : Obj)) = some data := by
  cases data
  simp [deserializeRequest, serializeRequest, deserializeCommand, serializeCommand]

@[simp] theorem deserializeResponse_serialize (data : Response) :
    deserializeResponse (serializeResponse data (newObject : Obj)) = some data := by
  cases data
  simp [deserializeResponse, serializeResponse, deserializeCommand, serializeCommand]

end TurnTaker

end Othello

end SpatialWorkers
