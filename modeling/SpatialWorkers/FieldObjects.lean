import Mathlib.Data.List.Basic
import Mathlib.Tactic

/-!
# Objects made of numbered fields

An object holds, under each field number, a list of values of some kind. Values
are appended one at a time; they are read back by position, or as the single
value of a field. Nothing is said about a field that is read as a single value
but occurs several times, about values of two kinds under one number, or about
a field with `capacity` values or more.
-/
namespace SpatialWorkers.FieldObjects

variable {Kind : Type}

/-- The operations on objects of type `Obj`, where `Value k Obj` is the type of
the values of kind `k`, and the laws that they obey. -/
class FieldObject {Kind : outParam Type} (capacity : outParam ℕ)
    (Value : outParam (Kind → Type → Type)) (Obj : Type) where
  empty : Obj
  add (k : Kind) (o : Obj) (field : ℕ) (v : Value k Obj) : Obj
  count (k : Kind) (o : Obj) (field : ℕ) : ℕ
  get (k : Kind) (o : Obj) (field : ℕ) : Value k Obj
  index (k : Kind) (o : Obj) (field i : ℕ) : Value k Obj
  count_empty (k : Kind) (f : ℕ) : count k empty f = 0
  count_add_self (k : Kind) (o : Obj) (f : ℕ) (v : Value k Obj) (h : count k o f + 1 < capacity) :
    count k (add k o f v) f = count k o f + 1
  count_add_of_ne (k k' : Kind) (o : Obj) (f f' : ℕ) (v : Value k Obj) (h : f ≠ f') :
    count k' (add k o f v) f' = count k' o f'
  index_add_self (k : Kind) (o : Obj) (f : ℕ) (v : Value k Obj) (h : count k o f + 1 < capacity) :
    index k (add k o f v) f (count k o f) = v
  index_add_of_lt (k : Kind) (o : Obj) (f : ℕ) (v : Value k Obj) (i : ℕ) (h : i < count k o f) :
    index k (add k o f v) f i = index k o f i
  index_add_of_ne (k k' : Kind) (o : Obj) (f f' : ℕ) (v : Value k Obj) (i : ℕ) (h : f ≠ f') :
    index k' (add k o f v) f' i = index k' o f' i
  get_add_self (k : Kind) (o : Obj) (f : ℕ) (v : Value k Obj) (h : count k o f = 0) :
    get k (add k o f v) f = v
  get_add_of_ne (k k' : Kind) (o : Obj) (f f' : ℕ) (v : Value k Obj) (h : f ≠ f') :
    get k' (add k o f v) f' = get k' o f'

namespace FieldObject

attribute [simp] count_empty count_add_self count_add_of_ne get_add_self get_add_of_ne

variable {capacity : ℕ} {Value : Kind → Type → Type} {Obj : Type}
  [FieldObject capacity Value Obj] {k k' : Kind}

/-- Append each value of a list. -/
def addList (k : Kind) (o : Obj) (field : ℕ) (vs : List (Value k Obj)) : Obj :=
  vs.foldl (fun o v => add k o field v) o

/-- Append the value if there is one. -/
def addOption (k : Kind) (o : Obj) (field : ℕ) (v : Option (Value k Obj)) : Obj :=
  addList k o field v.toList

/-- All values of a field, in order. -/
def getList (k : Kind) (o : Obj) (field : ℕ) : List (Value k Obj) :=
  (List.range (count k o field)).map (index k o field)

/-- The single value of a field, if the field is there. -/
def getOption (k : Kind) (o : Obj) (field : ℕ) : Option (Value k Obj) :=
  if count k o field = 0 then none else some (get k o field)

@[simp] theorem addList_nil (o : Obj) (f : ℕ) :
    addList k o f ([] : List (Value k Obj)) = o := rfl

theorem addList_cons (o : Obj) (f : ℕ) (v : Value k Obj) (vs : List (Value k Obj)) :
    addList k o f (v :: vs) = addList k (add k o f v) f vs := rfl

@[simp] theorem getList_empty (f : ℕ) :
    (getList k (empty : Obj) f : List (Value k Obj)) = [] := by
  rw [getList, count_empty]
  rfl

theorem getList_add_self {o : Obj} {f : ℕ} (h : count k o f + 1 < capacity)
    (v : Value k Obj) : getList k (add k o f v) f = getList k o f ++ [v] := by
  unfold getList
  rw [count_add_self k o f v h, List.range_succ, List.map_append, List.map_singleton,
    index_add_self k o f v h]
  congr 1
  apply List.map_congr_left
  intro i hi
  exact index_add_of_lt k o f v i (List.mem_range.mp hi)

@[simp] theorem getList_add_of_ne {f f' : ℕ} (h : f ≠ f') (o : Obj) (v : Value k Obj) :
    getList k' (add k o f v) f' = (getList k' o f' : List (Value k' Obj)) := by
  unfold getList
  rw [count_add_of_ne k k' o f f' v h]
  exact List.map_congr_left fun i _ => index_add_of_ne k k' o f f' v i h

/-- What is read of a field is what was appended to it, behind what it held. -/
theorem getList_addList {o : Obj} {f : ℕ} {vs : List (Value k Obj)}
    (h : count k o f + vs.length < capacity) :
    getList k (addList k o f vs) f = getList k o f ++ vs := by
  induction vs generalizing o with
  | nil => exact (List.append_nil _).symm
  | cons v vs ih =>
    rw [List.length_cons] at h
    have hone : count k o f + 1 < capacity := by omega
    have hrest : count k (add k o f v) f + vs.length < capacity := by
      rw [count_add_self k o f v hone]
      omega
    rw [addList_cons, ih hrest, getList_add_self hone, List.append_assoc, List.singleton_append]

/-- A field that is written once, as a list, is read as that list. -/
@[simp] theorem getList_addList_self {o : Obj} {f : ℕ} {vs : List (Value k Obj)}
    (ho : count k o f = 0) (h : vs.length < capacity) :
    getList k (addList k o f vs) f = vs := by
  rw [getList_addList (by omega), getList, ho]
  rfl

/-- The other fields are as they were. -/
@[simp] theorem getList_addList_of_ne {f f' : ℕ} (h : f ≠ f') (o : Obj)
    (vs : List (Value k Obj)) :
    getList k' (addList k o f vs) f' = (getList k' o f' : List (Value k' Obj)) := by
  induction vs generalizing o with
  | nil => rfl
  | cons v vs ih => rw [addList_cons, ih, getList_add_of_ne h]

@[simp] theorem count_addList_of_ne {f f' : ℕ} (h : f ≠ f') (o : Obj)
    (vs : List (Value k Obj)) :
    count k' (addList k o f vs) f' = count k' o f' := by
  induction vs generalizing o with
  | nil => rfl
  | cons v vs ih => rw [addList_cons, ih, count_add_of_ne k k' o f f' v h]

@[simp] theorem count_addList_self {o : Obj} {f : ℕ} {vs : List (Value k Obj)}
    (ho : count k o f = 0) (h : vs.length < capacity) :
    count k (addList k o f vs) f = vs.length := by
  have hlength := congrArg List.length (getList_addList_self ho h)
  simpa [getList] using hlength

@[simp] theorem get_addList_of_ne {f f' : ℕ} (h : f ≠ f') (o : Obj) (vs : List (Value k Obj)) :
    get k' (addList k o f vs) f' = (get k' o f' : Value k' Obj) := by
  induction vs generalizing o with
  | nil => rfl
  | cons v vs ih => rw [addList_cons, ih, get_add_of_ne k k' o f f' v h]

@[simp] theorem count_addOption_of_ne {f f' : ℕ} (h : f ≠ f') (o : Obj)
    (v : Option (Value k Obj)) :
    count k' (addOption k o f v) f' = count k' o f' :=
  count_addList_of_ne h o v.toList

@[simp] theorem get_addOption_of_ne {f f' : ℕ} (h : f ≠ f') (o : Obj) (v : Option (Value k Obj)) :
    get k' (addOption k o f v) f' = (get k' o f' : Value k' Obj) :=
  get_addList_of_ne h o v.toList

@[simp] theorem getList_addOption_of_ne {f f' : ℕ} (h : f ≠ f') (o : Obj)
    (v : Option (Value k Obj)) :
    getList k' (addOption k o f v) f' = (getList k' o f' : List (Value k' Obj)) :=
  getList_addList_of_ne h o v.toList

/-- A field that is written at most once is read as an option. -/
@[simp] theorem getOption_addOption_self {o : Obj} {f : ℕ} (ho : count k o f = 0)
    (h : 1 < capacity) (v : Option (Value k Obj)) :
    getOption k (addOption k o f v) f = v := by
  cases v with
  | none => exact if_pos ho
  | some v =>
    have hcount : count k (add k o f v) f = 1 := by
      rw [count_add_self k o f v (by omega), ho]
    have hget : getOption k (add k o f v) f = some v := by
      rw [getOption, hcount, if_neg one_ne_zero, get_add_self k o f v ho]
    exact hget

@[simp] theorem getOption_add_self {o : Obj} {f : ℕ} (ho : count k o f = 0)
    (h : 1 < capacity) (v : Value k Obj) : getOption k (add k o f v) f = some v :=
  getOption_addOption_self ho h (some v)

@[simp] theorem getOption_empty (f : ℕ) :
    (getOption k (empty : Obj) f : Option (Value k Obj)) = none :=
  if_pos (count_empty k f)

@[simp] theorem getOption_add_of_ne {f f' : ℕ} (h : f ≠ f') (o : Obj) (v : Value k Obj) :
    getOption k' (add k o f v) f' = (getOption k' o f' : Option (Value k' Obj)) := by
  unfold getOption
  rw [count_add_of_ne k k' o f f' v h, get_add_of_ne k k' o f f' v h]

@[simp] theorem getOption_addList_of_ne {f f' : ℕ} (h : f ≠ f') (o : Obj)
    (vs : List (Value k Obj)) :
    getOption k' (addList k o f vs) f' = (getOption k' o f' : Option (Value k' Obj)) := by
  unfold getOption
  rw [count_addList_of_ne h, get_addList_of_ne h]

@[simp] theorem getOption_addOption_of_ne {f f' : ℕ} (h : f ≠ f') (o : Obj)
    (v : Option (Value k Obj)) :
    getOption k' (addOption k o f v) f' = (getOption k' o f' : Option (Value k' Obj)) :=
  getOption_addList_of_ne h o v.toList

/-- Objects that list the values of each field, and read the last one as the
single value. -/
abbrev ofValues (capacity : ℕ) (empty : Obj)
    (add : (k : Kind) → Obj → ℕ → Value k Obj → Obj)
    (values : (k : Kind) → Obj → ℕ → List (Value k Obj)) (default : (k : Kind) → Value k Obj)
    (hempty : ∀ k f, values k empty f = [])
    (hself : ∀ k o f v, values k (add k o f v) f = values k o f ++ [v])
    (hne : ∀ k k' o f f' v, f ≠ f' → values k' (add k o f v) f' = values k' o f') :
    FieldObject capacity Value Obj where
  empty := empty
  add := add
  count k o f := (values k o f).length
  get k o f := (values k o f).getLastD (default k)
  index k o f i := (values k o f).getD i (default k)
  count_empty k f := by rw [hempty, List.length_nil]
  count_add_self k o f v _ := by rw [hself, List.length_append, List.length_singleton]
  count_add_of_ne k k' o f f' v h := by rw [hne k k' o f f' v h]
  index_add_self k o f v _ := by simp [hself]
  index_add_of_lt k o f v i h := by simp [hself, List.getElem?_append, h]
  index_add_of_ne k k' o f f' v i h := by rw [hne k k' o f f' v h]
  get_add_self k o f v _ := by simp [hself]
  get_add_of_ne k k' o f f' v h := by rw [hne k k' o f f' v h]

end FieldObject

end SpatialWorkers.FieldObjects
