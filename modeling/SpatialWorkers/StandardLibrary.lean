import SpatialWorkers.Ops
import SpatialWorkers.Pbio

/-!
# The types of the standard schema library

Each type is written to a protobuf object field by field and read back from
it. Lists, maps and strings are written with a 32-bit count: `Fits` says that
nothing in a value is too long for it, and what fits is read back as it was.
-/
namespace SpatialWorkers
open Doubles InsertionMaps FieldObjects Pbio

variable {β Obj : Type} [Pbio Obj]

namespace Improbable

/-- A `Char` of an attribute stands for one byte of the `std::string`, as in all
strings that are written. -/
structure WorkerAttributeSet where
  attributes : List String
  deriving DecidableEq, Repr

/-- A list of attribute sets. -/
structure WorkerRequirementSet where
  attributeSet : List WorkerAttributeSet
  deriving DecidableEq, Repr

/-- No string and no list in the value has `2 ^ 32` elements or more. -/
structure WorkerAttributeSet.Fits (data : WorkerAttributeSet) : Prop where
  count : data.attributes.length < uint32Size
  attributes : ∀ item ∈ data.attributes, item.length < uint32Size

/-- The same of each attribute set in the list. -/
structure WorkerRequirementSet.Fits (data : WorkerRequirementSet) : Prop where
  count : data.attributeSet.length < uint32Size
  attributeSet : ∀ item ∈ data.attributeSet, item.Fits

/-- Doubles are kept as their bits, so that a NaN is read back as it was. -/
structure Coordinates where
  x : Double
  y : Double
  z : Double
  deriving DecidableEq, Repr

/-- The constructor, with whole numbers for its arguments. -/
def Coordinates.ofNat (x y z : ℕ) : Coordinates := ⟨.ofNat x, .ofNat y, .ofNat z⟩

/-- The sides of a box. -/
structure EdgeLength where
  x : Double
  y : Double
  z : Double
  deriving DecidableEq, Repr

namespace ComponentInterest

/-- The members are named as in the schema, in camel case. -/
structure SphereConstraint where
  center : Coordinates
  radius : Double
  deriving DecidableEq, Repr

structure CylinderConstraint where
  center : Coordinates
  radius : Double
  deriving DecidableEq, Repr

/-- The box is given by its center and its sides. -/
structure BoxConstraint where
  center : Coordinates
  edgeLength : EdgeLength
  deriving DecidableEq, Repr

/-- The relative constraints have no center of their own. -/
structure RelativeSphereConstraint where
  radius : Double
  deriving DecidableEq, Repr

structure RelativeCylinderConstraint where
  radius : Double
  deriving DecidableEq, Repr

structure RelativeBoxConstraint where
  edgeLength : EdgeLength
  deriving DecidableEq, Repr

/-- The type allows any of the options to be there, alone or with others, and
the two lists nest. -/
structure QueryConstraint where
  sphereConstraint : Option SphereConstraint
  cylinderConstraint : Option CylinderConstraint
  boxConstraint : Option BoxConstraint
  relativeSphereConstraint : Option RelativeSphereConstraint
  relativeCylinderConstraint : Option RelativeCylinderConstraint
  relativeBoxConstraint : Option RelativeBoxConstraint
  entityIdConstraint : Option EntityId
  componentConstraint : Option ComponentId
  andConstraint : List QueryConstraint
  orConstraint : List QueryConstraint

/-- The frequency is a float, kept as its bits. -/
structure Query where
  constraint : QueryConstraint
  fullSnapshotResult : Option Bool
  resultComponentId : List ComponentId
  frequency : Option (BitVec 32)

/-- No list is too long, at any depth of the tree. -/
inductive QueryConstraint.Fits : QueryConstraint → Prop
  | mk {data : QueryConstraint} (andCount : data.andConstraint.length < uint32Size)
    (orCount : data.orConstraint.length < uint32Size)
    (andConstraint : ∀ item ∈ data.andConstraint, item.Fits)
    (orConstraint : ∀ item ∈ data.orConstraint, item.Fits) : data.Fits

/-- The number of component ids is cast, too. -/
structure Query.Fits (data : Query) : Prop where
  constraint : data.constraint.Fits
  resultComponentId : data.resultComponentId.length < uint32Size

end ComponentInterest

/-- The queries of one component. -/
structure ComponentInterest where
  queries : List ComponentInterest.Query

/-- Each query fits, and there are not too many. -/
structure ComponentInterest.Fits (data : ComponentInterest) : Prop where
  count : data.queries.length < uint32Size
  queries : ∀ item ∈ data.queries, item.Fits

/-- Who may read the entity, and who may write each of its components. -/
structure EntityAclData where
  readAcl : WorkerRequirementSet
  componentWriteAcl : InsertionMap ComponentId WorkerRequirementSet

/-- The name of the kind of entity. -/
structure MetadataData where
  entityType : String
  deriving DecidableEq, Repr

structure PositionData where
  coords : Coordinates
  deriving DecidableEq, Repr

/-- The component tells by being there; it has no fields. -/
structure PersistenceData where
  deriving DecidableEq, Repr

/-- The interest of an entity, by component. -/
structure InterestData where
  componentInterest : InsertionMap ComponentId ComponentInterest

/-! ## Fields that hold a map -/

/-- One object for each entry, its key in field 1 and its value in field 2. -/
abbrev addPairs (object : Obj) (field : ℕ) (write : β → Obj → Obj) (m : InsertionMap ℕ β) : Obj :=
  addObjects object field
    (m.entries.map fun item => addObject (addUint32 newObject 1 item.1) 2 (write item.2 newObject))

/-- A key that occurs again is passed over. -/
def getPairs (object : Obj) (field : ℕ) (read : Obj → β) : InsertionMap ℕ β :=
  InsertionMap.empty.insert
    ((getObjects object field).map fun pair => (getUint32 pair 1, read (getObject pair 2)))

/-- No entry of the map is too long. -/
structure MapFits (fits : β → Prop) (m : InsertionMap ℕ β) : Prop where
  count : m.entries.length < uint32Size
  values : ∀ item ∈ m.entries, fits item.2

/-- One object for each item of a list. -/
abbrev addItems (object : Obj) (field : ℕ) (write : β → Obj → Obj) (items : List β) : Obj :=
  addObjects object field (items.map fun item => write item newObject)

/-- Reads one item of each object, in order. -/
def getItems (object : Obj) (field : ℕ) (read : Obj → β) : List β :=
  (getObjects object field).map read

/-- A list in a field of its own is read back, if each item is. -/
@[simp] theorem getItems_addItems_self (object : Obj) (field : ℕ) (write : β → Obj → Obj)
    (read : Obj → β) {items : List β} (hobject : getObjectCount object field = 0)
    (hcount : items.length < uint32Size)
    (hread : ∀ item ∈ items, read (write item newObject) = item) :
    getItems (addItems object field write items) field read = items := by
  unfold getItems addItems
  rw [getObjects, FieldObject.getList_addList_self hobject (by simpa using hcount), List.map_map]
  exact (List.map_congr_left hread).trans (List.map_id _)

/-- So is a map, in the order of its entries. -/
@[simp] theorem getPairs_addPairs_self (object : Obj) (field : ℕ) {write : β → Obj → Obj}
    {read : Obj → β} {m : InsertionMap ℕ β} (hobject : getObjectCount object field = 0)
    (hcount : m.entries.length < uint32Size)
    (hread : ∀ item ∈ m.entries, read (write item.2 newObject) = item.2) :
    getPairs (addPairs object field write m) field read = m := by
  have hitems := getItems_addItems_self object field
    (fun item pair => addObject (addUint32 pair 1 item.1) 2 (write item.2 newObject))
    (fun pair => (getUint32 pair 1, read (getObject pair 2))) hobject hcount
    fun item hitem => by simp [hread item hitem]
  exact (congrArg InsertionMap.empty.insert hitems).trans (InsertionMap.insert_entries m)

/-! ## Reading and writing -/

/-- `Write_Coordinates`; the fields are numbered as in the schema. -/
def writeCoordinates (data : Coordinates) (object : Obj) : Obj :=
  let object := addDouble object 1 data.x
  let object := addDouble object 2 data.y
  addDouble object 3 data.z

/-- `Read_Coordinates`, as in all types below. -/
def readCoordinates (object : Obj) : Coordinates where
  x := getDouble object 1
  y := getDouble object 2
  z := getDouble object 3

/-- What is written to a new object is read back from it. -/
@[simp] theorem readCoordinates_write (data : Coordinates) :
    readCoordinates (writeCoordinates data (newObject : Obj)) = data := by
  simp [readCoordinates, writeCoordinates]

def writeEdgeLength (data : EdgeLength) (object : Obj) : Obj :=
  let object := addDouble object 1 data.x
  let object := addDouble object 2 data.y
  addDouble object 3 data.z

def readEdgeLength (object : Obj) : EdgeLength where
  x := getDouble object 1
  y := getDouble object 2
  z := getDouble object 3

@[simp] theorem readEdgeLength_write (data : EdgeLength) :
    readEdgeLength (writeEdgeLength data (newObject : Obj)) = data := by
  simp [readEdgeLength, writeEdgeLength]

namespace ComponentInterest

/-- A center goes to an object under field 1. -/
def writeSphereConstraint (data : SphereConstraint) (object : Obj) : Obj :=
  let object := addObject object 1 (writeCoordinates data.center newObject)
  addDouble object 2 data.radius

def readSphereConstraint (object : Obj) : SphereConstraint where
  center := readCoordinates (getObject object 1)
  radius := getDouble object 2

@[simp] theorem readSphereConstraint_write (data : SphereConstraint) :
    readSphereConstraint (writeSphereConstraint data (newObject : Obj)) = data := by
  simp [readSphereConstraint, writeSphereConstraint]

def writeCylinderConstraint (data : CylinderConstraint) (object : Obj) : Obj :=
  let object := addObject object 1 (writeCoordinates data.center newObject)
  addDouble object 2 data.radius

def readCylinderConstraint (object : Obj) : CylinderConstraint where
  center := readCoordinates (getObject object 1)
  radius := getDouble object 2

@[simp] theorem readCylinderConstraint_write (data : CylinderConstraint) :
    readCylinderConstraint (writeCylinderConstraint data (newObject : Obj)) = data := by
  simp [readCylinderConstraint, writeCylinderConstraint]

/-- Both fields hold objects. -/
def writeBoxConstraint (data : BoxConstraint) (object : Obj) : Obj :=
  let object := addObject object 1 (writeCoordinates data.center newObject)
  addObject object 2 (writeEdgeLength data.edgeLength newObject)

def readBoxConstraint (object : Obj) : BoxConstraint where
  center := readCoordinates (getObject object 1)
  edgeLength := readEdgeLength (getObject object 2)

/-- The two objects are not mixed up. -/
@[simp] theorem readBoxConstraint_write (data : BoxConstraint) :
    readBoxConstraint (writeBoxConstraint data (newObject : Obj)) = data := by
  simp [readBoxConstraint, writeBoxConstraint]

/-- Without a center, the radius is field 1. -/
def writeRelativeSphereConstraint (data : RelativeSphereConstraint) (object : Obj) : Obj :=
  addDouble object 1 data.radius

def readRelativeSphereConstraint (object : Obj) : RelativeSphereConstraint where
  radius := getDouble object 1

@[simp] theorem readRelativeSphereConstraint_write (data : RelativeSphereConstraint) :
    readRelativeSphereConstraint (writeRelativeSphereConstraint data (newObject : Obj)) = data := by
  simp [readRelativeSphereConstraint, writeRelativeSphereConstraint]

def writeRelativeCylinderConstraint (data : RelativeCylinderConstraint) (object : Obj) : Obj :=
  addDouble object 1 data.radius

def readRelativeCylinderConstraint (object : Obj) : RelativeCylinderConstraint where
  radius := getDouble object 1

@[simp] theorem readRelativeCylinderConstraint_write (data : RelativeCylinderConstraint) :
    readRelativeCylinderConstraint (writeRelativeCylinderConstraint data (newObject : Obj)) =
      data := by
  simp [readRelativeCylinderConstraint, writeRelativeCylinderConstraint]

def writeRelativeBoxConstraint (data : RelativeBoxConstraint) (object : Obj) : Obj :=
  addObject object 1 (writeEdgeLength data.edgeLength newObject)

def readRelativeBoxConstraint (object : Obj) : RelativeBoxConstraint where
  edgeLength := readEdgeLength (getObject object 1)

@[simp] theorem readRelativeBoxConstraint_write (data : RelativeBoxConstraint) :
    readRelativeBoxConstraint (writeRelativeBoxConstraint data (newObject : Obj)) = data := by
  simp [readRelativeBoxConstraint, writeRelativeBoxConstraint]

/-- An object or number for each option that is there, and one object for each
element of the lists. -/
def writeQueryConstraint (data : QueryConstraint) (object : Obj) : Obj :=
  let object := addOptionalObject object 1
    (data.sphereConstraint.map fun d => writeSphereConstraint d newObject)
  let object := addOptionalObject object 2
    (data.cylinderConstraint.map fun d => writeCylinderConstraint d newObject)
  let object := addOptionalObject object 3
    (data.boxConstraint.map fun d => writeBoxConstraint d newObject)
  let object := addOptionalObject object 4
    (data.relativeSphereConstraint.map fun d => writeRelativeSphereConstraint d newObject)
  let object := addOptionalObject object 5
    (data.relativeCylinderConstraint.map fun d => writeRelativeCylinderConstraint d newObject)
  let object := addOptionalObject object 6
    (data.relativeBoxConstraint.map fun d => writeRelativeBoxConstraint d newObject)
  let object := addOptionalInt64 object 7 data.entityIdConstraint
  let object := addOptionalUint32 object 8 data.componentConstraint
  let object := addObjects object 9
    (data.andConstraint.map fun item => writeQueryConstraint item newObject)
  addObjects object 10 (data.orConstraint.map fun item => writeQueryConstraint item newObject)
termination_by sizeOf data
decreasing_by
  all_goals
    have := List.sizeOf_lt_of_mem ‹_›
    cases data
    simp_all only [QueryConstraint.mk.sizeOf_spec]
    omega

/-- The objects under fields 9 and 10 are read in turn, to any depth. -/
def readQueryConstraint (object : Obj) : QueryConstraint :=
  { sphereConstraint := (getOptionalObject object 1).map readSphereConstraint
    cylinderConstraint := (getOptionalObject object 2).map readCylinderConstraint
    boxConstraint := (getOptionalObject object 3).map readBoxConstraint
    relativeSphereConstraint := (getOptionalObject object 4).map readRelativeSphereConstraint
    relativeCylinderConstraint := (getOptionalObject object 5).map readRelativeCylinderConstraint
    relativeBoxConstraint := (getOptionalObject object 6).map readRelativeBoxConstraint
    entityIdConstraint := getOptionalInt64 object 7
    componentConstraint := getOptionalUint32 object 8
    andConstraint := (List.finRange (getObjectCount object 9)).map fun index : Fin _ =>
      readQueryConstraint (FieldObject.index FieldKind.object object 9 index)
    orConstraint := (List.finRange (getObjectCount object 10)).map fun index : Fin _ =>
      readQueryConstraint (FieldObject.index FieldKind.object object 10 index) }
termination_by rank object
decreasing_by
  · exact rank_index object 9 index index.isLt
  · exact rank_index object 10 index index.isLt

/-- The recursive fields are read like any list of objects. -/
theorem map_finRange_index (object : Obj) (field : ℕ) (read : Obj → β) :
    ((List.finRange (getObjectCount object field)).map fun index : Fin _ =>
      read (FieldObject.index FieldKind.object object field index)) =
      getItems object field read := by
  unfold getItems
  rw [getObjects, FieldObject.getList, List.map_map, ← List.map_coe_finRange_eq_range, List.map_map]
  rfl

omit [Pbio Obj] in
/-- Reading undoes writing on lists if it does so on each element. -/
theorem map_read_write {α : Type} {write : α → Obj} {read : Obj → α} {items : List α}
    (hread : ∀ item ∈ items, read (write item) = item) :
    (items.map write).map read = items :=
  (List.map_map ..).trans ((List.map_congr_left hread).trans (List.map_id _))

/-- A constraint tree is read back as it was, whatever its depth. -/
theorem readQueryConstraint_write {data : QueryConstraint} (h : data.Fits) :
    readQueryConstraint (writeQueryConstraint data (newObject : Obj)) = data := by
  induction h with
  | @mk data andCount orCount _ _ ihAnd ihOr =>
    have hands := map_read_write ihAnd
    have hors := map_read_write ihOr
    rw [readQueryConstraint, writeQueryConstraint]
    simp only [map_finRange_index, getItems]
    simp [andCount, orCount, hands, hors, Function.comp_def]
    cases data
    rfl

/-- The result component ids are added in one call, with a cast count. -/
def writeQuery (data : Query) (object : Obj) : Obj :=
  let object := addObject object 1 (writeQueryConstraint data.constraint newObject)
  let object := addOptionalBool object 2 data.fullSnapshotResult
  let object := addUint32List object 3 data.resultComponentId
  addOptionalFloat object 4 data.frequency

def readQuery (object : Obj) : Query where
  constraint := readQueryConstraint (getObject object 1)
  fullSnapshotResult := getOptionalBool object 2
  resultComponentId := getUint32List object 3
  frequency := getOptionalFloat object 4

/-- The constraint tree and the list of ids have to fit. -/
theorem readQuery_write {data : Query} (h : data.Fits) :
    readQuery (writeQuery data (newObject : Obj)) = data := by
  simp [readQuery, writeQuery, readQueryConstraint_write h.constraint, h.resultComponentId]

end ComponentInterest

open ComponentInterest

/-- One object under field 1 for each query. -/
def writeComponentInterest (data : ComponentInterest) (object : Obj) : Obj :=
  addItems object 1 writeQuery data.queries

def readComponentInterest (object : Obj) : ComponentInterest where
  queries := getItems object 1 readQuery

theorem readComponentInterest_write {data : ComponentInterest} (h : data.Fits) :
    readComponentInterest (writeComponentInterest data (newObject : Obj)) = data := by
  have hqueries := getItems_addItems_self (newObject : Obj) 1 writeQuery readQuery (by simp)
    h.count fun item hitem => readQuery_write (h.queries item hitem)
  rw [readComponentInterest, writeComponentInterest, hqueries]

/-- One string is added for each attribute. -/
def writeWorkerAttributeSet (data : WorkerAttributeSet) (object : Obj) : Obj :=
  data.attributes.foldl (fun object item => addBytes object 1 item) object

def readWorkerAttributeSet (object : Obj) : WorkerAttributeSet where
  attributes := getBytesList object 1

/-- Attributes are read back in order, none cut short. -/
theorem readWorkerAttributeSet_write {data : WorkerAttributeSet} (h : data.Fits) :
    readWorkerAttributeSet (writeWorkerAttributeSet data (newObject : Obj)) = data := by
  have hcast : data.attributes.map castSize = data.attributes :=
    (List.map_congr_left fun item hitem => castSize_eq (h.attributes item hitem)).trans
      (List.map_id _)
  have hwrite : writeWorkerAttributeSet data (newObject : Obj) =
      FieldObject.addList FieldKind.bytes newObject 1 data.attributes := by
    conv_rhs => rw [← hcast]
    rw [FieldObject.addList, List.foldl_map]
    rfl
  simp [readWorkerAttributeSet, hwrite, h.count]

/-- One object under field 1 for each attribute set. -/
def writeWorkerRequirementSet (data : WorkerRequirementSet) (object : Obj) : Obj :=
  addItems object 1 writeWorkerAttributeSet data.attributeSet

def readWorkerRequirementSet (object : Obj) : WorkerRequirementSet where
  attributeSet := getItems object 1 readWorkerAttributeSet

theorem readWorkerRequirementSet_write {data : WorkerRequirementSet} (h : data.Fits) :
    readWorkerRequirementSet (writeWorkerRequirementSet data (newObject : Obj)) = data := by
  have hitems := getItems_addItems_self (newObject : Obj) 1 writeWorkerAttributeSet
    readWorkerAttributeSet (by simp) h.count fun item hitem =>
      readWorkerAttributeSet_write (h.attributeSet item hitem)
  rw [readWorkerRequirementSet, writeWorkerRequirementSet, hitems]

/-- The map of write permissions goes to field 2, one object for each entry. -/
def writeEntityAclData (data : EntityAclData) (object : Obj) : Obj :=
  let object := addObject object 1 (writeWorkerRequirementSet data.readAcl newObject)
  addPairs object 2 writeWorkerRequirementSet data.componentWriteAcl

def readEntityAclData (object : Obj) : EntityAclData where
  readAcl := readWorkerRequirementSet (getObject object 1)
  componentWriteAcl := getPairs object 2 readWorkerRequirementSet

/-- Neither the sets nor the map are too long. -/
structure EntityAclData.Fits (data : EntityAclData) : Prop where
  readAcl : data.readAcl.Fits
  componentWriteAcl : MapFits WorkerRequirementSet.Fits data.componentWriteAcl

/-- Permissions are read back, those for writing in their order. -/
theorem readEntityAclData_write {data : EntityAclData} (h : data.Fits) :
    readEntityAclData (writeEntityAclData data (newObject : Obj)) = data := by
  have hmap := getPairs_addPairs_self
    (addObject newObject 1 (writeWorkerRequirementSet data.readAcl (newObject : Obj))) 2
    (by simp) h.componentWriteAcl.count fun item hitem =>
      readWorkerRequirementSet_write (h.componentWriteAcl.values item hitem)
  simp [readEntityAclData, writeEntityAclData, hmap, readWorkerRequirementSet_write h.readAcl]

/-- One object under field 1 for each component. -/
def writeInterestData (data : InterestData) (object : Obj) : Obj :=
  addPairs object 1 writeComponentInterest data.componentInterest

def readInterestData (object : Obj) : InterestData where
  componentInterest := getPairs object 1 readComponentInterest

structure InterestData.Fits (data : InterestData) : Prop where
  componentInterest : MapFits ComponentInterest.Fits data.componentInterest

/-- Every query of every component is read back. -/
theorem readInterestData_write {data : InterestData} (h : data.Fits) :
    readInterestData (writeInterestData data (newObject : Obj)) = data := by
  have hmap := getPairs_addPairs_self (newObject : Obj) 1 (by simp)
    h.componentInterest.count fun item hitem =>
      readComponentInterest_write (h.componentInterest.values item hitem)
  rw [readInterestData, writeInterestData, hmap]

/-- The size of the string is cast. -/
def writeMetadataData (data : MetadataData) (object : Obj) : Obj :=
  addBytes object 1 data.entityType

def readMetadataData (object : Obj) : MetadataData where
  entityType := getBytes object 1

structure MetadataData.Fits (data : MetadataData) : Prop where
  entityType : data.entityType.length < uint32Size

theorem readMetadataData_write {data : MetadataData} (h : data.Fits) :
    readMetadataData (writeMetadataData data (newObject : Obj)) = data := by
  simp [readMetadataData, writeMetadataData, h.entityType]

/-- Nothing is added, and nothing is read. -/
def writePersistenceData (_ : PersistenceData) (object : Obj) : Obj := object

def readPersistenceData (_ : Obj) : PersistenceData := ⟨⟩

/-- The coordinates are an object of their own. -/
def writePositionData (data : PositionData) (object : Obj) : Obj :=
  addObject object 1 (writeCoordinates data.coords newObject)

def readPositionData (object : Obj) : PositionData where
  coords := readCoordinates (getObject object 1)

@[simp] theorem readPositionData_write (data : PositionData) :
    readPositionData (writePositionData data (newObject : Obj)) = data := by
  simp [readPositionData, writePositionData]

end Improbable

end SpatialWorkers
