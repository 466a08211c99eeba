import SpatialWorkers.Pbio

/-!
# The types of the game's schema

The data of the four components of the board game, and the requests and
responses of their commands.
-/
namespace SpatialWorkers.Othello
open Pbio

variable {Obj : Type} [Pbio Obj]

/-- An enum class over `std::uint32_t`: a number that names no direction is
cast without a check. -/
inductive Direction
  | NORTH
  | EAST
  | SOUTH
  | WEST
  | unnamed (value : ℕ) (h : 4 ≤ value)
  deriving DecidableEq, Repr

namespace Direction

/-- `static_cast<std::uint32_t>`. -/
def toUint32 : Direction → ℕ
  | NORTH => 0
  | EAST => 1
  | SOUTH => 2
  | WEST => 3
  | unnamed value _ => value

/-- `static_cast<::othello::Direction>`. -/
def ofUint32 : ℕ → Direction
  | 0 => NORTH
  | 1 => EAST
  | 2 => SOUTH
  | 3 => WEST
  | value + 4 => unnamed (value + 4) (Nat.le_add_left 4 value)

/-- The casts are inverse to each other, also where no direction is named. -/
@[simp] theorem ofUint32_toUint32 (dir : Direction) : ofUint32 dir.toUint32 = dir := by
  cases dir with
  | unnamed value h =>
    obtain ⟨rest, rfl⟩ := Nat.exists_eq_add_of_le' h
    rfl
  | _ => rfl

end Direction

/-- The component `Color`: black or not. -/
structure ColorData where
  black : Bool
  deriving DecidableEq, Repr

/-- The response of `Game.CreatePlayer`. -/
structure CreatePlayerResult where
  black : Bool
  deriving DecidableEq, Repr

/-- The request of `Color.FindColor`. -/
structure FindColorRequest where
  dir : Direction
  black : Bool
  deriving DecidableEq, Repr

/-- A component without fields, which has commands only. -/
structure GameData where
  deriving DecidableEq, Repr

/-- The request of `Game.PlaceDisc`; both numbers are 64 bits wide. -/
structure PlaceDiscRequest where
  x : ℤ
  z : ℤ
  deriving DecidableEq, Repr

/-- The component `Player`, with the id of its worker. -/
structure PlayerData where
  worker : String
  deriving DecidableEq, Repr

/-- The response of two commands, `Game.PlaceDisc` and `Color.FindColor`. -/
structure SuccessResult where
  success : Bool
  deriving DecidableEq, Repr

structure TurnTakerData where
  deriving DecidableEq, Repr

/-- The request or response of a command that tells nothing. -/
structure Void where
  deriving DecidableEq, Repr

/-- The worker id, one `Char` for each byte, is not too long for its size to be
cast. -/
structure PlayerData.Fits (data : PlayerData) : Prop where
  worker : data.worker.length < uint32Size

/-- `Write_ColorData`. As every function of this name it adds to an object that
it is given. -/
def writeColorData (data : ColorData) (object : Obj) : Obj := addBool object 1 data.black

/-- `Read_ColorData`. A field that is not there is read as its default. -/
def readColorData (object : Obj) : ColorData where
  black := getBool object 1

/-- What is written to a new object is read back from it. -/
@[simp] theorem readColorData_write (data : ColorData) :
    readColorData (writeColorData data (newObject : Obj)) = data := by
  simp [readColorData, writeColorData]

def writeCreatePlayerResult (data : CreatePlayerResult) (object : Obj) : Obj :=
  addBool object 1 data.black

def readCreatePlayerResult (object : Obj) : CreatePlayerResult where
  black := getBool object 1

@[simp] theorem readCreatePlayerResult_write (data : CreatePlayerResult) :
    readCreatePlayerResult (writeCreatePlayerResult data (newObject : Obj)) = data := by
  simp [readCreatePlayerResult, writeCreatePlayerResult]

/-- A direction is written as a number. -/
def writeFindColorRequest (data : FindColorRequest) (object : Obj) : Obj :=
  let object := addUint32 object 1 data.dir.toUint32
  addBool object 2 data.black

/-- Any number is taken for a direction. -/
def readFindColorRequest (object : Obj) : FindColorRequest where
  dir := .ofUint32 (getUint32 object 1)
  black := getBool object 2

/-- No direction is lost, named or not. -/
@[simp] theorem readFindColorRequest_write (data : FindColorRequest) :
    readFindColorRequest (writeFindColorRequest data (newObject : Obj)) = data := by
  simp [readFindColorRequest, writeFindColorRequest]

/-- Nothing is added for a type without fields, and nothing read. -/
def writeGameData (_ : GameData) (object : Obj) : Obj := object

def readGameData (_ : Obj) : GameData := ⟨⟩

/-- The numbers go to fields 1 and 2. -/
def writePlaceDiscRequest (data : PlaceDiscRequest) (object : Obj) : Obj :=
  let object := addInt64 object 1 data.x
  addInt64 object 2 data.z

def readPlaceDiscRequest (object : Obj) : PlaceDiscRequest where
  x := getInt64 object 1
  z := getInt64 object 2

@[simp] theorem readPlaceDiscRequest_write (data : PlaceDiscRequest) :
    readPlaceDiscRequest (writePlaceDiscRequest data (newObject : Obj)) = data := by
  simp [readPlaceDiscRequest, writePlaceDiscRequest]

def writePlayerData (data : PlayerData) (object : Obj) : Obj := addBytes object 1 data.worker

def readPlayerData (object : Obj) : PlayerData where
  worker := getBytes object 1

/-- A worker id is read back unless its size was cut. -/
theorem readPlayerData_write {data : PlayerData} (h : data.Fits) :
    readPlayerData (writePlayerData data (newObject : Obj)) = data := by
  simp [readPlayerData, writePlayerData, h.worker]

def writeSuccessResult (data : SuccessResult) (object : Obj) : Obj := addBool object 1 data.success

def readSuccessResult (object : Obj) : SuccessResult where
  success := getBool object 1

@[simp] theorem readSuccessResult_write (data : SuccessResult) :
    readSuccessResult (writeSuccessResult data (newObject : Obj)) = data := by
  simp [readSuccessResult, writeSuccessResult]

def writeTurnTakerData (_ : TurnTakerData) (object : Obj) : Obj := object

def readTurnTakerData (_ : Obj) : TurnTakerData := ⟨⟩

/-- The object stays as it is, and tells by being there. -/
def writeVoid (_ : Void) (object : Obj) : Obj := object

def readVoid (_ : Obj) : Void := ⟨⟩

end SpatialWorkers.Othello
