import SpatialWorkers.Doubles
import SpatialWorkers.FieldObjects

/-!
# The protobuf interface

`pbio.h` declares the objects that component data is written to and read from.
The library behind it is not part of the repository: `Pbio` says what its
comments promise, and `PbioTree` is one implementation. Counts and lengths are
`std::uint32_t`, a float and a double are kept as their bits.
-/
namespace SpatialWorkers
open Doubles FieldObjects

/-- The kinds of fields that the generated code adds and reads. -/
inductive FieldKind
  | float
  | double
  | bool
  | int64
  | uint32
  | bytes
  | object
  deriving DecidableEq, Repr

/-- What one value of a field is. A string stands for its bytes: a `Char` of a
`String` is one byte of the `std::string`, whose encoding nothing here looks at.
-/
abbrev FieldValue : FieldKind → Type → Type
  | .float, _ => BitVec 32
  | .double, _ => Double
  | .bool, _ => Bool
  | .int64, _ => ℤ
  | .uint32, _ => ℕ
  | .bytes, _ => String
  | .object, Obj => Obj

/-- One more than the largest `std::uint32_t`. -/
def uint32Size : ℕ := 2 ^ 32

@[simp] theorem one_lt_uint32Size : 1 < uint32Size := by
  unfold uint32Size
  norm_num

@[simp] theorem uint32Size_pos : 0 < uint32Size := by
  unfold uint32Size
  norm_num

/-- `Pbio_Object`. An object is of higher rank than those in its fields: none
contains itself. -/
class Pbio (Obj : Type) extends FieldObject uint32Size FieldValue Obj where
  rank : Obj → ℕ
  rank_index (o : Obj) (field i : ℕ) (h : i < count .object o field) :
    rank (index .object o field i) < rank o

namespace Pbio

variable {Obj : Type} [Pbio Obj]

/-- A root object, to which nothing was added. -/
abbrev newObject : Obj := FieldObject.empty

/-- `Pbio_AddDouble`, as the others below without the prefix. -/
abbrev addDouble (o : Obj) (field : ℕ) (v : Double) : Obj :=
  FieldObject.add FieldKind.double o field v

abbrev addBool (o : Obj) (field : ℕ) (v : Bool) : Obj := FieldObject.add FieldKind.bool o field v

abbrev addInt64 (o : Obj) (field : ℕ) (v : ℤ) : Obj := FieldObject.add FieldKind.int64 o field v

abbrev addUint32 (o : Obj) (field : ℕ) (v : ℕ) : Obj := FieldObject.add FieldKind.uint32 o field v

abbrev addObject (o : Obj) (field : ℕ) (v : Obj) : Obj :=
  FieldObject.add FieldKind.object o field v

/-- The first `static_cast<std::uint32_t>(values.size())` elements. -/
def castLength {α : Type} (values : List α) : List α := values.take (values.length % uint32Size)

/-- The bytes that a call with `static_cast<std::uint32_t>(s.size())` passes;
each is a `Char` of the string. -/
def castSize (s : String) : String := String.ofList (castLength s.toList)

/-- `Pbio_AddBytes`; the size of the string is cast. -/
abbrev addBytes (o : Obj) (field : ℕ) (s : String) : Obj :=
  FieldObject.add FieldKind.bytes o field (castSize s)

/-- `Pbio_AddUint32List`; the size of the list is cast. -/
abbrev addUint32List (o : Obj) (field : ℕ) (values : List ℕ) : Obj :=
  FieldObject.addList FieldKind.uint32 o field (castLength values)

/-- One call of `Pbio_AddObject` for each object, in order. -/
abbrev addObjects (o : Obj) (field : ℕ) (values : List Obj) : Obj :=
  FieldObject.addList FieldKind.object o field values

/-! Fields that are written if a value is there, and read if the field is there. -/

abbrev addOptionalFloat (o : Obj) (field : ℕ) (v : Option (BitVec 32)) : Obj :=
  FieldObject.addOption FieldKind.float o field v

abbrev addOptionalBool (o : Obj) (field : ℕ) (v : Option Bool) : Obj :=
  FieldObject.addOption FieldKind.bool o field v

abbrev addOptionalInt64 (o : Obj) (field : ℕ) (v : Option ℤ) : Obj :=
  FieldObject.addOption FieldKind.int64 o field v

abbrev addOptionalUint32 (o : Obj) (field : ℕ) (v : Option ℕ) : Obj :=
  FieldObject.addOption FieldKind.uint32 o field v

/-- The size of the string is cast here as well. -/
abbrev addOptionalBytes (o : Obj) (field : ℕ) (s : Option String) : Obj :=
  FieldObject.addOption FieldKind.bytes o field (s.map castSize)

abbrev addOptionalObject (o : Obj) (field : ℕ) (v : Option Obj) : Obj :=
  FieldObject.addOption FieldKind.object o field v

abbrev getOptionalFloat (o : Obj) (field : ℕ) : Option (BitVec 32) :=
  FieldObject.getOption FieldKind.float o field

abbrev getOptionalBool (o : Obj) (field : ℕ) : Option Bool :=
  FieldObject.getOption FieldKind.bool o field

abbrev getOptionalInt64 (o : Obj) (field : ℕ) : Option ℤ :=
  FieldObject.getOption FieldKind.int64 o field

abbrev getOptionalUint32 (o : Obj) (field : ℕ) : Option ℕ :=
  FieldObject.getOption FieldKind.uint32 o field

abbrev getOptionalBytes (o : Obj) (field : ℕ) : Option String :=
  FieldObject.getOption FieldKind.bytes o field

abbrev getOptionalObject (o : Obj) (field : ℕ) : Option Obj :=
  FieldObject.getOption FieldKind.object o field

/-! Fields that are there, or whose default is read. -/

abbrev getDouble (o : Obj) (field : ℕ) : Double := FieldObject.get FieldKind.double o field

abbrev getBool (o : Obj) (field : ℕ) : Bool := FieldObject.get FieldKind.bool o field

abbrev getInt64 (o : Obj) (field : ℕ) : ℤ := FieldObject.get FieldKind.int64 o field

abbrev getUint32 (o : Obj) (field : ℕ) : ℕ := FieldObject.get FieldKind.uint32 o field

abbrev getBytes (o : Obj) (field : ℕ) : String := FieldObject.get FieldKind.bytes o field

abbrev getObject (o : Obj) (field : ℕ) : Obj := FieldObject.get FieldKind.object o field

/-- Every value of the field, in the order in which they were added. -/
abbrev getUint32List (o : Obj) (field : ℕ) : List ℕ := FieldObject.getList FieldKind.uint32 o field

abbrev getBytesList (o : Obj) (field : ℕ) : List String :=
  FieldObject.getList FieldKind.bytes o field

abbrev getObjects (o : Obj) (field : ℕ) : List Obj := FieldObject.getList FieldKind.object o field

/-- Whether a field is there is asked by its count. -/
abbrev getObjectCount (o : Obj) (field : ℕ) : ℕ := FieldObject.count FieldKind.object o field

/-- The cast is harmless below `2 ^ 32` elements. -/
@[simp] theorem castLength_eq {α : Type} {values : List α} (h : values.length < uint32Size) :
    castLength values = values := by
  rw [castLength, Nat.mod_eq_of_lt h, List.take_length]

/-- What a cast leaves is never too long to be added. -/
@[simp] theorem length_castLength_lt {α : Type} (values : List α) :
    (castLength values).length < uint32Size := by
  have h : values.length % uint32Size < uint32Size := Nat.mod_lt _ uint32Size_pos
  rw [castLength, List.length_take]
  omega

@[simp] theorem castSize_eq {s : String} (h : s.length < uint32Size) : castSize s = s := by
  rw [castSize, castLength_eq (by rwa [String.length_toList]), String.ofList_toList]

end Pbio

/-- Fields in the order in which they were added, the last one outermost. -/
inductive PbioTree
  | empty
  | scalar (rest : PbioTree) (field : ℕ) (k : FieldKind) (v : FieldValue k Empty)
  | object (rest : PbioTree) (field : ℕ) (v : PbioTree)

namespace PbioTree

/-- The field becomes the outermost one; an object goes to a tree of its own. -/
def add : (k : FieldKind) → PbioTree → ℕ → FieldValue k PbioTree → PbioTree
  | .float, o, f, v => .scalar o f .float v
  | .double, o, f, v => .scalar o f .double v
  | .bool, o, f, v => .scalar o f .bool v
  | .int64, o, f, v => .scalar o f .int64 v
  | .uint32, o, f, v => .scalar o f .uint32 v
  | .bytes, o, f, v => .scalar o f .bytes v
  | .object, o, f, v => .object o f v

/-- A value that is no object does not depend on what objects are. -/
def scalarValue : (k : FieldKind) → FieldValue k Empty → FieldValue k PbioTree
  | .float, v => v
  | .double, v => v
  | .bool, v => v
  | .int64, v => v
  | .uint32, v => v
  | .bytes, v => v
  | .object, v => v.elim

/-- The values of a field, first added first. A value that was added as another
kind is passed over. -/
def values (k : FieldKind) : PbioTree → ℕ → List (FieldValue k PbioTree)
  | .empty, _ => []
  | .scalar rest f' k' v, f =>
    if f' = f then
      if h : k' = k then rest.values k f ++ [h ▸ scalarValue k' v] else rest.values k f
    else rest.values k f
  | .object rest f' v, f =>
    if f' = f then
      if h : FieldKind.object = k then rest.values k f ++ [h ▸ v] else rest.values k f
    else rest.values k f

/-- What is read of a field that is not there. -/
def default : (k : FieldKind) → FieldValue k PbioTree
  | .float => 0
  | .double => 0
  | .bool => false
  | .int64 => 0
  | .uint32 => 0
  | .bytes => ""
  | .object => .empty

/-- How many objects are in the tree, at any depth. -/
def rank : PbioTree → ℕ
  | .empty => 0
  | .scalar rest _ _ _ => rest.rank
  | .object rest _ v => rest.rank + v.rank + 1

/-- What is added to a field comes last in it. -/
theorem values_add_self (k : FieldKind) (o : PbioTree) (f : ℕ) (v : FieldValue k PbioTree) :
    (add k o f v).values k f = o.values k f ++ [v] := by
  cases k <;> simp [add, values, scalarValue]

/-- The other fields stay, whatever their kind. -/
theorem values_add_of_ne (k k' : FieldKind) (o : PbioTree) (f f' : ℕ) (v : FieldValue k PbioTree)
    (h : f ≠ f') : (add k o f v).values k' f' = o.values k' f' := by
  cases k <;> simp [add, values, h]

theorem rank_of_mem_values {o v : PbioTree} {f : ℕ} (h : v ∈ o.values .object f) :
    v.rank < o.rank := by
  induction o with
  | empty => simp [values] at h
  | scalar rest f' k s ih =>
    have hrest : v ∈ rest.values .object f := by
      simp only [values] at h
      split_ifs at h with hf hk
      · subst hk
        exact s.elim
      · exact h
      · exact h
    exact ih hrest
  | object rest f' w ih ihw =>
    simp only [values, dite_true] at h
    split_ifs at h with hf
    · rcases List.mem_append.mp h with hrest | hlast
      · have := ih hrest
        simp only [rank]
        omega
      · obtain rfl := List.mem_singleton.mp hlast
        simp only [rank]
        omega
    · have := ih h
      simp only [rank]
      omega

/-- The promises of the header hold of the trees. -/
instance : Pbio PbioTree where
  toFieldObject :=
    FieldObject.ofValues uint32Size .empty add values default (fun _ _ => rfl) values_add_self
      values_add_of_ne
  rank := rank
  rank_index o f i h := by
    have hlt : i < (o.values .object f).length := h
    refine rank_of_mem_values (f := f) (o := o) (v := (o.values .object f).getD i .empty) ?_
    rw [List.getD_eq_getElem?_getD, List.getElem?_eq_getElem hlt]
    exact List.getElem_mem hlt

end PbioTree

end SpatialWorkers
