import SpatialWorkers.ArrayStores
import SpatialWorkers.Pbio
import SpatialWorkers.Ops

/-!
# Entity queries

A query is sent as C structs: `ConvertConstraint` turns its constraint tree
into structs that point to arrays, which are owned by a storage on the side.
-/
namespace SpatialWorkers
open ArrayStores Pbio

namespace Query

/-- `query::Constraint`, with doubles as their bits. -/
inductive Constraint
  | entityId (entityId : EntityId)
  | sphere (x y z radius : BitVec 64)
  | component (componentId : ComponentId)
  | and (constraints : List Constraint)
  | or (constraints : List Constraint)
  | not (constraint : Constraint)

inductive ResultType
  | count
  | snapshot (componentIds : Option (List ComponentId))
  deriving DecidableEq, Repr

structure EntityQuery where
  constraint : Constraint
  resultType : ResultType

end Query

open Query

/-- `WorkerProtocol_Constraint`; a new array holds no particular values. -/
inductive ProtocolConstraint
  | uninitialized
  | entityId (entityId : EntityId)
  | component (componentId : ComponentId)
  | sphere (positionX positionY positionZ radius : BitVec 64)
  | and (constraintCount constraint : ℕ)
  | or (constraintCount constraint : ℕ)
  | not (constraint : ℕ)
  deriving DecidableEq, Repr

abbrev Storage := Store ProtocolConstraint

mutual

/-- The sizes of the arrays are cast to `std::uint32_t`. -/
def convertConstraint (constraint : Constraint) (storage : Storage) :
    ProtocolConstraint × Storage :=
  match constraint with
  | .entityId entityId => (.entityId entityId, storage)
  | .component componentId => (.component componentId, storage)
  | .sphere x y z radius => (.sphere x y z radius, storage)
  | .and constraints =>
    let size := constraints.length % uint32Size
    let (ptr, storage) := storage.alloc size .uninitialized
    (.and size ptr, convertConstraints constraints ptr 0 size storage)
  | .or constraints =>
    let size := constraints.length % uint32Size
    let (ptr, storage) := storage.alloc size .uninitialized
    (.or size ptr, convertConstraints constraints ptr 0 size storage)
  | .not constraint =>
    let (ptr, storage) := storage.alloc 1 .uninitialized
    let (result, storage) := convertConstraint constraint storage
    (.not ptr, storage.write ptr 0 result)

/-- The loop over an array, from its element `i` on. -/
def convertConstraints (constraints : List Constraint) (ptr i size : ℕ) (storage : Storage) :
    Storage :=
  match constraints with
  | [] => storage
  | constraint :: constraints =>
    if i < size then
      let (result, storage) := convertConstraint constraint storage
      convertConstraints constraints ptr (i + 1) size (storage.write ptr i result)
    else storage

end

mutual

/-- The struct stands for the tree; its pointers are not below `lo`. -/
def Represents (storage : Storage) (lo : ℕ) (protocol : ProtocolConstraint)
    (constraint : Constraint) : Prop :=
  match constraint with
  | .entityId entityId => protocol = .entityId entityId
  | .component componentId => protocol = .component componentId
  | .sphere x y z radius => protocol = .sphere x y z radius
  | .and constraints => ∃ ptr array, protocol = .and array.length ptr ∧ lo ≤ ptr ∧
      storage[ptr]? = some array ∧ RepresentsAll storage lo array constraints
  | .or constraints => ∃ ptr array, protocol = .or array.length ptr ∧ lo ≤ ptr ∧
      storage[ptr]? = some array ∧ RepresentsAll storage lo array constraints
  | .not constraint => ∃ ptr result, protocol = .not ptr ∧ lo ≤ ptr ∧
      storage[ptr]? = some [result] ∧ Represents storage lo result constraint

def RepresentsAll (storage : Storage) (lo : ℕ) (array : List ProtocolConstraint)
    (constraints : List Constraint) : Prop :=
  match constraints with
  | [] => array = []
  | constraint :: constraints => ∃ head tail, array = head :: tail ∧
      Represents storage lo head constraint ∧ RepresentsAll storage lo tail constraints

end

namespace Query

mutual

/-- Every list of the tree has fewer than `2 ^ 32` elements. -/
def Constraint.Fits : Constraint → Prop
  | .entityId _ => True
  | .component _ => True
  | .sphere _ _ _ _ => True
  | .and constraints => constraints.length < uint32Size ∧ AllFit constraints
  | .or constraints => constraints.length < uint32Size ∧ AllFit constraints
  | .not constraint => constraint.Fits

def AllFit : List Constraint → Prop
  | [] => True
  | constraint :: constraints => constraint.Fits ∧ AllFit constraints

end

end Query

mutual

/-- The arrays that a struct points to are all that it depends on. -/
theorem represents_mono {storage storage' : Storage} {lo lo' : ℕ}
    (h : storage.Extends lo storage') (hlo : lo' ≤ lo) (constraint : Constraint)
    {protocol : ProtocolConstraint} :
    Represents storage lo protocol constraint → Represents storage' lo' protocol constraint := by
  cases constraint with
  | entityId entityId => exact id
  | component componentId => exact id
  | sphere x y z radius => exact id
  | and constraints =>
    rintro ⟨ptr, array, hprotocol, hptr, harray, hall⟩
    exact ⟨ptr, array, hprotocol, hlo.trans hptr, h ptr array hptr harray,
      representsAll_mono h hlo constraints hall⟩
  | or constraints =>
    rintro ⟨ptr, array, hprotocol, hptr, harray, hall⟩
    exact ⟨ptr, array, hprotocol, hlo.trans hptr, h ptr array hptr harray,
      representsAll_mono h hlo constraints hall⟩
  | not constraint =>
    rintro ⟨ptr, result, hprotocol, hptr, harray, hresult⟩
    exact ⟨ptr, result, hprotocol, hlo.trans hptr, h ptr _ hptr harray,
      represents_mono h hlo constraint hresult⟩

theorem representsAll_mono {storage storage' : Storage} {lo lo' : ℕ}
    (h : storage.Extends lo storage') (hlo : lo' ≤ lo) (constraints : List Constraint)
    {array : List ProtocolConstraint} :
    RepresentsAll storage lo array constraints → RepresentsAll storage' lo' array constraints := by
  cases constraints with
  | nil => exact id
  | cons constraint constraints =>
    rintro ⟨head, tail, harray, hhead, htail⟩
    exact ⟨head, tail, harray, represents_mono h hlo constraint hhead,
      representsAll_mono h hlo constraints htail⟩

end

/-- What the loop over an array does: it fills the array from the element `i`
on, and leaves the other arrays alone. -/
structure Fills (storage storage' : Storage) (ptr i : ℕ) (array : List ProtocolConstraint)
    (constraints : List Constraint) : Prop where
  others : ∀ ptr' array', ptr' ≠ ptr → storage[ptr']? = some array' →
    storage'[ptr']? = some array'
  filled : ∃ array', storage'[ptr]? = some array' ∧ array'.length = array.length ∧
    array'.take i = array.take i ∧ RepresentsAll storage' (ptr + 1) (array'.drop i) constraints

theorem represents_array {storage storage' : Storage} {size : ℕ} {constraints : List Constraint}
    (h : Fills (storage.alloc size .uninitialized).2 storage' storage.length 0
      (List.replicate size .uninitialized) constraints) :
    storage.Extends 0 storage' ∧ ∃ array, storage'[storage.length]? = some array ∧
      array.length = size ∧ RepresentsAll storage' storage.length array constraints := by
  obtain ⟨array, harray, hlength, -, hall⟩ := h.filled
  refine ⟨fun ptr array' hptr harray' => ?_, array, harray, by simpa using hlength, ?_⟩
  · obtain ⟨hlt, -⟩ := List.getElem?_eq_some_iff.mp harray'
    have hnew := Store.extends_alloc 0 storage size .uninitialized ptr array' hptr harray'
    exact h.others ptr array' (by omega) hnew
  · exact representsAll_mono (Store.extends_refl _ _) (Nat.le_succ _) constraints hall

mutual

/-- The struct represents the tree, and no array that was there changes. -/
theorem convertConstraint_spec (constraint : Constraint) (h : constraint.Fits)
    (storage : Storage) :
    storage.Extends 0 (convertConstraint constraint storage).2 ∧
      Represents (convertConstraint constraint storage).2 storage.length
        (convertConstraint constraint storage).1 constraint := by
  cases constraint with
  | entityId entityId => exact ⟨Store.extends_refl 0 storage, rfl⟩
  | component componentId => exact ⟨Store.extends_refl 0 storage, rfl⟩
  | sphere x y z radius => exact ⟨Store.extends_refl 0 storage, rfl⟩
  | and constraints =>
    obtain ⟨hlength, hfit⟩ := h
    have hsize := Nat.mod_eq_of_lt hlength
    have hfills := convertConstraints_spec constraints hfit (storage.alloc _ .uninitialized).2
      (Store.getElem?_alloc storage (constraints.length % uint32Size) .uninitialized)
      List.length_replicate (show 0 + constraints.length = _ by omega)
    obtain ⟨hextends, array, harray, hcount, hall⟩ := represents_array hfills
    refine ⟨hextends, storage.length, array, ?_, le_rfl, harray, hall⟩
    rw [hcount]
    rfl
  | or constraints =>
    obtain ⟨hlength, hfit⟩ := h
    have hsize := Nat.mod_eq_of_lt hlength
    have hfills := convertConstraints_spec constraints hfit (storage.alloc _ .uninitialized).2
      (Store.getElem?_alloc storage (constraints.length % uint32Size) .uninitialized)
      List.length_replicate (show 0 + constraints.length = _ by omega)
    obtain ⟨hextends, array, harray, hcount, hall⟩ := represents_array hfills
    refine ⟨hextends, storage.length, array, ?_, le_rfl, harray, hall⟩
    rw [hcount]
    rfl
  | not constraint =>
    obtain ⟨hextends, hresult⟩ :=
      convertConstraint_spec constraint h (storage.alloc 1 .uninitialized).2
    have hptr := hextends storage.length _ (Nat.zero_le _)
      (Store.getElem?_alloc storage 1 .uninitialized)
    have hwrite := Store.getElem?_write_self hptr 0
      (convertConstraint constraint (storage.alloc 1 .uninitialized).2).1
    have hother := Store.extends_write
      (convertConstraint constraint (storage.alloc 1 .uninitialized).2).2
      (Nat.lt_succ_self storage.length) 0
      (convertConstraint constraint (storage.alloc 1 .uninitialized).2).1
    rw [Store.length_alloc] at hresult
    refine ⟨fun ptr array hlo harray => ?_, storage.length, _, rfl, le_rfl, hwrite, ?_⟩
    · obtain ⟨hlt, -⟩ := List.getElem?_eq_some_iff.mp harray
      have hnew := Store.extends_alloc 0 storage 1 .uninitialized ptr array hlo harray
      exact (Store.getElem?_write_of_ne _ (by omega) 0 _).trans (hextends ptr array hlo hnew)
    · exact represents_mono hother (Nat.le_succ _) constraint hresult

theorem convertConstraints_spec (constraints : List Constraint) (h : AllFit constraints)
    (storage : Storage) {ptr i size : ℕ} {array : List ProtocolConstraint}
    (harray : storage[ptr]? = some array) (hlength : array.length = size)
    (hsize : i + constraints.length = size) :
    Fills storage (convertConstraints constraints ptr i size storage) ptr i array constraints := by
  cases constraints with
  | nil =>
    refine ⟨fun _ _ _ harray' => harray', array, harray, rfl, rfl, ?_⟩
    exact List.drop_eq_nil_of_le (by rw [List.length_nil] at hsize; omega)
  | cons constraint constraints =>
    obtain ⟨hhead, htail⟩ := h
    rw [List.length_cons] at hsize
    obtain ⟨hextends, hresult⟩ := convertConstraint_spec constraint hhead storage
    obtain ⟨hlt, -⟩ := List.getElem?_eq_some_iff.mp harray
    have hwrite := Store.getElem?_write_self (hextends ptr array (Nat.zero_le _) harray) i
      (convertConstraint constraint storage).1
    have hrest : i + 1 + constraints.length = size := by omega
    have hfills := convertConstraints_spec constraints htail _ hwrite
      ((List.length_set ..).trans hlength) hrest
    rw [convertConstraints, if_pos (by omega)]
    obtain ⟨array', harray', hlength', htake, hall⟩ := hfills.filled
    have hi : array'[i]? = some (convertConstraint constraint storage).1 := by
      have hset := congrArg (fun l : List ProtocolConstraint => l[i]?) htake
      simpa [List.getElem?_take, hlength, show i < size by omega] using hset
    refine ⟨fun ptr' array'' hne harray'' => ?_, array', harray', ?_, ?_, ?_⟩
    · refine hfills.others ptr' array'' hne ?_
      rw [Store.getElem?_write_of_ne _ (Ne.symm hne)]
      exact hextends ptr' array'' (Nat.zero_le _) harray''
    · rw [hlength', List.length_set]
    · have hset := congrArg (List.take i) htake
      rw [List.take_take, List.take_take, List.take_set, List.set_eq_of_length_le] at hset
      · simpa using hset
      · rw [List.length_take]
        omega
    · obtain ⟨hlt', hget⟩ := List.getElem?_eq_some_iff.mp hi
      have hdrop : array'.drop i =
          (convertConstraint constraint storage).1 :: array'.drop (i + 1) := by
        rw [List.drop_eq_getElem_cons hlt', hget]
      refine ⟨(convertConstraint constraint storage).1, array'.drop (i + 1), hdrop, ?_, hall⟩
      refine represents_mono (fun ptr' array'' hptr' harray'' => ?_) hlt constraint hresult
      refine hfills.others ptr' array'' (by omega) ?_
      rw [Store.getElem?_write_of_ne _ (by omega), harray'']

end

mutual

/-- A struct represents at most one tree. -/
theorem represents_unique {storage : Storage} {lo lo' : ℕ} (constraint : Constraint)
    {constraint' : Constraint} {protocol : ProtocolConstraint}
    (h : Represents storage lo protocol constraint)
    (h' : Represents storage lo' protocol constraint') : constraint = constraint' := by
  cases constraint with
  | entityId entityId =>
    obtain rfl : protocol = .entityId entityId := h
    cases constraint' <;> simp_all [Represents]
  | component componentId =>
    obtain rfl : protocol = .component componentId := h
    cases constraint' <;> simp_all [Represents]
  | sphere x y z radius =>
    obtain rfl : protocol = .sphere x y z radius := h
    cases constraint' <;> simp_all [Represents]
  | and constraints =>
    obtain ⟨ptr, array, rfl, -, harray, hall⟩ := h
    cases constraint' with
    | and constraints' =>
      obtain ⟨ptr', array', heq, -, harray', hall'⟩ := h'
      obtain ⟨-, rfl⟩ := ProtocolConstraint.and.inj heq
      obtain rfl : array = array' := Option.some.inj (harray.symm.trans harray')
      rw [representsAll_unique constraints hall hall']
    | _ => simp [Represents] at h'
  | or constraints =>
    obtain ⟨ptr, array, rfl, -, harray, hall⟩ := h
    cases constraint' with
    | or constraints' =>
      obtain ⟨ptr', array', heq, -, harray', hall'⟩ := h'
      obtain ⟨-, rfl⟩ := ProtocolConstraint.or.inj heq
      obtain rfl : array = array' := Option.some.inj (harray.symm.trans harray')
      rw [representsAll_unique constraints hall hall']
    | _ => simp [Represents] at h'
  | not constraint =>
    obtain ⟨ptr, result, rfl, -, harray, hresult⟩ := h
    cases constraint' with
    | not constraint' =>
      obtain ⟨ptr', result', heq, -, harray', hresult'⟩ := h'
      obtain rfl := ProtocolConstraint.not.inj heq
      obtain rfl : result = result' := by simpa using harray.symm.trans harray'
      rw [represents_unique constraint hresult hresult']
    | _ => simp [Represents] at h'

theorem representsAll_unique {storage : Storage} {lo lo' : ℕ} (constraints : List Constraint)
    {constraints' : List Constraint} {array : List ProtocolConstraint}
    (h : RepresentsAll storage lo array constraints)
    (h' : RepresentsAll storage lo' array constraints') : constraints = constraints' := by
  cases constraints with
  | nil =>
    obtain rfl : array = [] := h
    cases constraints' with
    | nil => rfl
    | cons constraint' constraints' =>
      obtain ⟨head, tail, heq, -⟩ := h'
      cases heq
  | cons constraint constraints =>
    obtain ⟨head, tail, rfl, hhead, htail⟩ := h
    cases constraints' with
    | nil => cases h'
    | cons constraint' constraints' =>
      obtain ⟨head', tail', heq, hhead', htail'⟩ := h'
      obtain ⟨rfl, rfl⟩ := List.cons.inj heq
      rw [represents_unique constraint hhead hhead', representsAll_unique constraints htail htail']

end

/-- `WorkerProtocol_EntityQuery`, with the array behind the pointer to the
component ids unless that is null. -/
structure ProtocolQuery where
  constraint : ProtocolConstraint
  resultType : ℕ
  componentIdCount : ℕ
  componentIds : Option (List ComponentId)
  deriving DecidableEq, Repr

/-- `SendEntityQueryRequest`, up to the call of the C API. -/
def convertQuery (query : EntityQuery) : ProtocolQuery × Storage :=
  let (constraint, storage) := convertConstraint query.constraint []
  match query.resultType with
  | .count => (⟨constraint, 1, 0, none⟩, storage)
  | .snapshot none => (⟨constraint, 2, 0, none⟩, storage)
  | .snapshot (some componentIds) =>
    let size := componentIds.length % uint32Size
    (⟨constraint, 2, size, some (componentIds.take size)⟩, storage)

/-- No filter is a null pointer; a filter is an array, which may be empty. -/
def RepresentsResultType (protocol : ProtocolQuery) : ResultType → Prop
  | .count => protocol.resultType = 1
  | .snapshot none => protocol.resultType = 2 ∧ protocol.componentIds = none
  | .snapshot (some componentIds) => protocol.resultType = 2 ∧
      protocol.componentIdCount = componentIds.length ∧ protocol.componentIds = some componentIds

def RepresentsQuery (storage : Storage) (protocol : ProtocolQuery) (query : EntityQuery) : Prop :=
  Represents storage 0 protocol.constraint query.constraint ∧
    RepresentsResultType protocol query.resultType

namespace Query

structure EntityQuery.Fits (query : EntityQuery) : Prop where
  constraint : query.constraint.Fits
  componentIds : ∀ componentIds, query.resultType = .snapshot (some componentIds) →
    componentIds.length < uint32Size

end Query

theorem representsResultType_unique {protocol : ProtocolQuery} {resultType resultType' : ResultType}
    (h : RepresentsResultType protocol resultType)
    (h' : RepresentsResultType protocol resultType') : resultType = resultType' := by
  rcases resultType with _ | _ | componentIds <;> rcases resultType' with _ | _ | componentIds' <;>
    simp_all [RepresentsResultType]

/-- The query that is sent stands for the query that was asked, and for no
other, whatever the depth of its constraint tree. -/
theorem convertQuery_represents {query : EntityQuery} (h : query.Fits) (query' : EntityQuery) :
    RepresentsQuery (convertQuery query).2 (convertQuery query).1 query' ↔ query' = query := by
  obtain ⟨-, hconstraint⟩ := convertConstraint_spec query.constraint h.constraint []
  have hquery : RepresentsQuery (convertQuery query).2 (convertQuery query).1 query := by
    obtain ⟨constraint, resultType⟩ := query
    rcases resultType with _ | _ | componentIds
    · exact ⟨hconstraint, rfl⟩
    · exact ⟨hconstraint, rfl, rfl⟩
    · have hlength := h.componentIds componentIds rfl
      have hmod := Nat.mod_eq_of_lt hlength
      refine ⟨hconstraint, rfl, hmod, ?_⟩
      simp [convertQuery, hmod]
  constructor
  · rintro ⟨hconstraint', hresult'⟩
    have hconstraints := represents_unique query'.constraint hconstraint' hquery.1
    have hresults := representsResultType_unique hresult' hquery.2
    cases query
    cases query'
    exact congrArg₂ EntityQuery.mk hconstraints hresults
  · rintro rfl
    exact hquery

/-- `(not Position) and (7 or 8)`, with no component data. -/
def nestedQuery : EntityQuery :=
  ⟨.and [.not (.component 54), .or [.entityId 7, .entityId 8]], .snapshot (some [])⟩

example : (convertQuery nestedQuery).2 =
    [[.not 1, .or 2 2], [.component 54], [.entityId 7, .entityId 8]] := by
  decide +kernel

theorem convertQuery_represents_nested :
    nestedQuery.Fits ∧
      RepresentsQuery (convertQuery nestedQuery).2 (convertQuery nestedQuery).1 nestedQuery := by
  have hfits : nestedQuery.Fits := by
    have hsize : 2 < uint32Size := by
      unfold uint32Size
      norm_num
    refine ⟨⟨hsize, trivial, ⟨hsize, trivial, trivial, trivial⟩, trivial⟩, ?_⟩
    intro componentIds hids
    obtain rfl : [] = componentIds := by simpa [nestedQuery] using hids
    exact uint32Size_pos
  exact ⟨hfits, (convertQuery_represents hfits nestedQuery).mpr rfl⟩

end SpatialWorkers
