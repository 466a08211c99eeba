import SpatialWorkers.Vtables

/-!
# The components of both schemas

The vtables and update classes, by component. What is proved here of every
component is all that the rest of the development uses of them.
-/
namespace SpatialWorkers
open InsertionMaps FieldObjects Pbio Improbable Othello

variable {Obj : Type} [Pbio Obj]

/-- The metaclasses that the schema compiler generates. -/
inductive Component
  | entityAcl
  | metadata
  | position
  | persistence
  | interest
  | game
  | color
  | player
  | turnTaker
  deriving DecidableEq, Repr

namespace Component

/-- The ids in the two schemas. -/
def componentId : Component → ComponentId
  | entityAcl => 50
  | metadata => 53
  | position => 54
  | persistence => 55
  | interest => 58
  | game => 1000
  | color => 1001
  | player => 1002
  | turnTaker => 1003

/-- A component is known by its id. -/
theorem componentId_injective : Function.Injective componentId := by
  intro c c' h
  cases c <;> cases c' <;> first | rfl | cases h

/-- `T::Data`. -/
abbrev Data : Component → Type
  | entityAcl => EntityAclData
  | metadata => MetadataData
  | position => PositionData
  | persistence => PersistenceData
  | interest => InterestData
  | game => GameData
  | color => ColorData
  | player => PlayerData
  | turnTaker => TurnTakerData

/-- `T::Update`. -/
abbrev Update : Component → Type
  | entityAcl => EntityAcl.Update
  | metadata => Metadata.Update
  | position => Position.Update
  | persistence => Persistence.Update
  | interest => Interest.Update
  | game => Game.Update
  | color => Color.Update
  | player => Player.Update
  | turnTaker => TurnTaker.Update

/-- A component without commands has none. -/
abbrev Request : Component → Type
  | game => Game.Request
  | color => Color.Request
  | turnTaker => TurnTaker.Request
  | _ => Empty

/-- `T::Response`, as the requests. -/
abbrev Response : Component → Type
  | game => Game.Response
  | color => Color.Response
  | turnTaker => TurnTaker.Response
  | _ => Empty

/-- The branch of `VtableSerialize` for initial data. -/
def serializeSnapshot (c : Component) (data : c.Data) (root : Obj) : Obj :=
  match c, data with
  | entityAcl, data => Vtable.serializeSnapshot 50 writeEntityAclData data root
  | metadata, data => Vtable.serializeSnapshot 53 writeMetadataData data root
  | position, data => Vtable.serializeSnapshot 54 writePositionData data root
  | persistence, data => Vtable.serializeSnapshot 55 writePersistenceData data root
  | interest, data => Vtable.serializeSnapshot 58 writeInterestData data root
  | game, data => Vtable.serializeSnapshot 1000 writeGameData data root
  | color, data => Vtable.serializeSnapshot 1001 writeColorData data root
  | player, data => Vtable.serializeSnapshot 1002 writePlayerData data root
  | turnTaker, data => Vtable.serializeSnapshot 1003 writeTurnTakerData data root

/-- The branch of `VtableDeserialize` for initial data. -/
def deserializeSnapshot (c : Component) (root : Obj) : c.Data :=
  match c with
  | entityAcl => Vtable.deserializeSnapshot 50 readEntityAclData root
  | metadata => Vtable.deserializeSnapshot 53 readMetadataData root
  | position => Vtable.deserializeSnapshot 54 readPositionData root
  | persistence => Vtable.deserializeSnapshot 55 readPersistenceData root
  | interest => Vtable.deserializeSnapshot 58 readInterestData root
  | game => Vtable.deserializeSnapshot 1000 readGameData root
  | color => Vtable.deserializeSnapshot 1001 readColorData root
  | player => Vtable.deserializeSnapshot 1002 readPlayerData root
  | turnTaker => Vtable.deserializeSnapshot 1003 readTurnTakerData root

/-- The branch for updates. -/
def serializeUpdate (c : Component) (update : c.Update) (root : Obj) : Obj :=
  match c, update with
  | entityAcl, update => EntityAcl.serializeUpdate update root
  | metadata, update => Metadata.serializeUpdate update root
  | position, update => Position.serializeUpdate update root
  | persistence, update => Persistence.serializeUpdate update root
  | interest, update => Interest.serializeUpdate update root
  | game, update => Game.serializeUpdate update root
  | color, update => Color.serializeUpdate update root
  | player, update => Player.serializeUpdate update root
  | turnTaker, update => TurnTaker.serializeUpdate update root

def deserializeUpdate (c : Component) (root : Obj) : c.Update :=
  match c with
  | entityAcl => EntityAcl.deserializeUpdate root
  | metadata => Metadata.deserializeUpdate root
  | position => Position.deserializeUpdate root
  | persistence => Persistence.deserializeUpdate root
  | interest => Interest.deserializeUpdate root
  | game => Game.deserializeUpdate root
  | color => Color.deserializeUpdate root
  | player => Player.deserializeUpdate root
  | turnTaker => TurnTaker.deserializeUpdate root

/-- The branch for requests. -/
def serializeRequest (c : Component) (request : c.Request) (root : Obj) : Obj :=
  match c, request with
  | game, request => Game.serializeRequest request root
  | color, request => Color.serializeRequest request root
  | turnTaker, request => TurnTaker.serializeRequest request root

/-- None where the object has no field of a command that the component has. -/
def deserializeRequest (c : Component) (root : Obj) : Option c.Request :=
  match c with
  | game => Game.deserializeRequest root
  | color => Color.deserializeRequest root
  | turnTaker => TurnTaker.deserializeRequest root
  | entityAcl => none
  | metadata => none
  | position => none
  | persistence => none
  | interest => none
  | player => none

def serializeResponse (c : Component) (response : c.Response) (root : Obj) : Obj :=
  match c, response with
  | game, response => Game.serializeResponse response root
  | color, response => Color.serializeResponse response root
  | turnTaker, response => TurnTaker.serializeResponse response root

def deserializeResponse (c : Component) (root : Obj) : Option c.Response :=
  match c with
  | game => Game.deserializeResponse root
  | color => Color.deserializeResponse root
  | turnTaker => TurnTaker.deserializeResponse root
  | entityAcl => none
  | metadata => none
  | position => none
  | persistence => none
  | interest => none
  | player => none

/-- The id of the command that a generic request belongs to. -/
def requestCommandId (c : Component) (request : c.Request) : ℕ :=
  match c, request with
  | game, request => Game.Request.commandId request
  | color, request => Color.Request.commandId request
  | turnTaker, request => TurnTaker.Request.commandId request

def responseCommandId (c : Component) (response : c.Response) : ℕ :=
  match c, response with
  | game, response => Game.Response.commandId response
  | color, response => Color.Response.commandId response
  | turnTaker, response => TurnTaker.Response.commandId response

/-- `Update::FromInitialData`. -/
def fromInitialData (c : Component) (data : c.Data) : c.Update :=
  match c, data with
  | entityAcl, data => EntityAcl.Update.fromInitialData data
  | metadata, data => Metadata.Update.fromInitialData data
  | position, data => Position.Update.fromInitialData data
  | persistence, data => Persistence.Update.fromInitialData data
  | interest, data => Interest.Update.fromInitialData data
  | game, data => Game.Update.fromInitialData data
  | color, data => Color.Update.fromInitialData data
  | player, data => Player.Update.fromInitialData data
  | turnTaker, data => TurnTaker.Update.fromInitialData data

/-- `Update::ToInitialData`; undefined unless the update is complete. -/
def toInitialData (c : Component) (update : c.Update) : Option c.Data :=
  match c, update with
  | entityAcl, update => EntityAcl.Update.toInitialData update
  | metadata, update => Metadata.Update.toInitialData update
  | position, update => Position.Update.toInitialData update
  | persistence, update => Persistence.Update.toInitialData update
  | interest, update => Interest.Update.toInitialData update
  | game, update => Game.Update.toInitialData update
  | color, update => Color.Update.toInitialData update
  | player, update => Player.Update.toInitialData update
  | turnTaker, update => TurnTaker.Update.toInitialData update

/-- `Update::ApplyTo`, with the data it leaves as the result. -/
def applyTo (c : Component) (update : c.Update) (data : c.Data) : c.Data :=
  match c, update, data with
  | entityAcl, update, data => EntityAcl.Update.applyTo update data
  | metadata, update, data => Metadata.Update.applyTo update data
  | position, update, data => Position.Update.applyTo update data
  | persistence, update, data => Persistence.Update.applyTo update data
  | interest, update, data => Interest.Update.applyTo update data
  | game, update, data => Game.Update.applyTo update data
  | color, update, data => Color.Update.applyTo update data
  | player, update, data => Player.Update.applyTo update data
  | turnTaker, update, data => TurnTaker.Update.applyTo update data

/-- No string, list or map in the data has `2 ^ 32` elements or more. -/
def DataFits (c : Component) (data : c.Data) : Prop :=
  match c, data with
  | entityAcl, data => EntityAclData.Fits data
  | metadata, data => MetadataData.Fits data
  | interest, data => InterestData.Fits data
  | player, data => PlayerData.Fits data
  | position, _ => True
  | persistence, _ => True
  | game, _ => True
  | color, _ => True
  | turnTaker, _ => True

/-- The same of what is there of an update. -/
def UpdateFits (c : Component) (update : c.Update) : Prop :=
  match c, update with
  | entityAcl, update => EntityAcl.Update.Fits update
  | metadata, update => Metadata.Update.Fits update
  | interest, update => Interest.Update.Fits update
  | player, update => Player.Update.Fits update
  | position, _ => True
  | persistence, _ => True
  | game, _ => True
  | color, _ => True
  | turnTaker, _ => True

/-- An update that was made of data is complete. -/
@[simp] theorem toInitialData_fromInitialData {c : Component} (data : c.Data) :
    c.toInitialData (c.fromInitialData data) = some data := by
  cases c <;> rfl

/-- A complete update leaves nothing of the data that it is applied to. -/
theorem applyTo_of_toInitialData {c : Component} {update : c.Update} {data : c.Data}
    (h : c.toInitialData update = some data) (old : c.Data) : c.applyTo update old = data := by
  cases c with
  | entityAcl =>
    obtain ⟨readAcl, componentWriteAcl⟩ := update
    cases readAcl <;> cases componentWriteAcl <;> cases h
    rfl
  | metadata =>
    obtain ⟨entityType⟩ := update
    cases entityType <;> cases h
    rfl
  | position =>
    obtain ⟨coords⟩ := update
    cases coords <;> cases h
    rfl
  | interest =>
    obtain ⟨componentInterest⟩ := update
    cases componentInterest <;> cases h
    rfl
  | color =>
    obtain ⟨black⟩ := update
    cases black <;> cases h
    rfl
  | player =>
    obtain ⟨worker⟩ := update
    cases worker <;> cases h
    rfl
  | persistence => rfl
  | game => rfl
  | turnTaker => rfl

/-- Initial data arrives as it was sent. -/
theorem deserializeSnapshot_serialize {c : Component} {data : c.Data} (h : c.DataFits data) :
    c.deserializeSnapshot (c.serializeSnapshot data (newObject : Obj)) = data := by
  cases c with
  | entityAcl => exact Vtable.deserializeSnapshot_serialize 50 (readEntityAclData_write h)
  | metadata => exact Vtable.deserializeSnapshot_serialize 53 (readMetadataData_write h)
  | position => exact Vtable.deserializeSnapshot_serialize 54 (readPositionData_write data)
  | persistence => rfl
  | interest => exact Vtable.deserializeSnapshot_serialize 58 (readInterestData_write h)
  | game => rfl
  | color => exact Vtable.deserializeSnapshot_serialize 1001 (readColorData_write data)
  | player => exact Vtable.deserializeSnapshot_serialize 1002 (readPlayerData_write h)
  | turnTaker => rfl

/-- So does an update, whichever fields are there. -/
theorem deserializeUpdate_serialize {c : Component} {update : c.Update} (h : c.UpdateFits update) :
    c.deserializeUpdate (c.serializeUpdate update (newObject : Obj)) = update := by
  cases c with
  | entityAcl => exact EntityAcl.deserializeUpdate_serialize h
  | metadata => exact Metadata.deserializeUpdate_serialize h
  | position => exact Position.deserializeUpdate_serialize update
  | persistence => rfl
  | interest => exact Interest.deserializeUpdate_serialize h
  | game => rfl
  | color => exact Color.deserializeUpdate_serialize update
  | player => exact Player.deserializeUpdate_serialize h
  | turnTaker => rfl

/-- A request arrives as one of the same command. -/
theorem deserializeRequest_serialize {c : Component} (request : c.Request) :
    c.deserializeRequest (c.serializeRequest request (newObject : Obj)) = some request := by
  cases c with
  | game => exact Game.deserializeRequest_serialize request
  | color => exact Color.deserializeRequest_serialize request
  | turnTaker => exact TurnTaker.deserializeRequest_serialize request
  | _ => exact request.elim

theorem deserializeResponse_serialize {c : Component} (response : c.Response) :
    c.deserializeResponse (c.serializeResponse response (newObject : Obj)) = some response := by
  cases c with
  | game => exact Game.deserializeResponse_serialize response
  | color => exact Color.deserializeResponse_serialize response
  | turnTaker => exact TurnTaker.deserializeResponse_serialize response
  | _ => exact response.elim

end Component

end SpatialWorkers
