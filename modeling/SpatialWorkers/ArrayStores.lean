import Mathlib.Data.List.Basic
import Mathlib.Tactic

/-!
# Stores of arrays

A store owns arrays of fixed size. A pointer is the position of its array in
the store, which only grows: an array that is there stays where it is, and
changes only where it is written to.
-/
namespace SpatialWorkers.ArrayStores

variable {α : Type}

abbrev Store (α : Type) := List (List α)

namespace Store

/-- `new T[size]`, every element being `a`. -/
def alloc (s : Store α) (size : ℕ) (a : α) : ℕ × Store α :=
  (s.length, s ++ [List.replicate size a])

/-- `ptr[i] = a`. -/
def write (s : Store α) (ptr i : ℕ) (a : α) : Store α := s.modify ptr fun array => array.set i a

/-- The arrays from the pointer `lo` on are still there, as they were. -/
def Extends (lo : ℕ) (s s' : Store α) : Prop :=
  ∀ ptr array, lo ≤ ptr → s[ptr]? = some array → s'[ptr]? = some array

theorem extends_refl (lo : ℕ) (s : Store α) : Extends lo s s := fun _ _ _ h => h

theorem Extends.trans {lo : ℕ} {s s' s'' : Store α} (h : Extends lo s s')
    (h' : Extends lo s' s'') : Extends lo s s'' :=
  fun ptr array hptr harray => h' ptr array hptr (h ptr array hptr harray)

theorem Extends.mono {lo lo' : ℕ} {s s' : Store α} (h : Extends lo s s') (hlo : lo ≤ lo') :
    Extends lo' s s' :=
  fun ptr array hptr harray => h ptr array (hlo.trans hptr) harray

theorem extends_alloc (lo : ℕ) (s : Store α) (size : ℕ) (a : α) :
    Extends lo s (s.alloc size a).2 := by
  intro ptr array _ harray
  obtain ⟨hlt, -⟩ := List.getElem?_eq_some_iff.mp harray
  rw [alloc, List.getElem?_append_left hlt, harray]

theorem getElem?_alloc (s : Store α) (size : ℕ) (a : α) :
    (s.alloc size a).2[(s.alloc size a).1]? = some (List.replicate size a) := by
  simp [alloc]

theorem getElem?_write_self {s : Store α} {ptr : ℕ} {array : List α}
    (h : s[ptr]? = some array) (i : ℕ) (a : α) :
    (s.write ptr i a)[ptr]? = some (array.set i a) := by
  simp [write, h]

theorem getElem?_write_of_ne (s : Store α) {ptr ptr' : ℕ} (h : ptr ≠ ptr') (i : ℕ) (a : α) :
    (s.write ptr i a)[ptr']? = s[ptr']? := by
  simp [write, h]

theorem extends_write (s : Store α) {lo ptr : ℕ} (h : ptr < lo) (i : ℕ) (a : α) :
    Extends lo s (s.write ptr i a) := by
  intro ptr' array hptr harray
  rw [getElem?_write_of_ne s (by omega), harray]

@[simp] theorem length_write (s : Store α) (ptr i : ℕ) (a : α) :
    (s.write ptr i a).length = s.length := by
  simp [write]

@[simp] theorem length_alloc (s : Store α) (size : ℕ) (a : α) :
    (s.alloc size a).2.length = s.length + 1 := by
  simp [alloc]

end Store

/-- `array[i++] = item` for each item. -/
def writeFrom (array : List α) (i : ℕ) (items : List α) : List α × ℕ :=
  items.foldl (fun (array, i) item => (array.set i item, i + 1)) (array, i)

theorem writeFrom_append (done rest items : List α) (h : items.length ≤ rest.length) :
    writeFrom (done ++ rest) done.length items =
      (done ++ items ++ rest.drop items.length, done.length + items.length) := by
  induction items generalizing done rest with
  | nil => simp [writeFrom]
  | cons item items ih =>
    obtain ⟨a, rest, rfl⟩ := List.exists_cons_of_length_pos (Nat.lt_of_lt_of_le (by simp) h)
    have hset : (done ++ a :: rest).set done.length item = (done ++ [item]) ++ rest := by
      rw [List.set_append_right _ _ le_rfl, Nat.sub_self]
      simp
    have hrest := ih (done ++ [item]) rest (by simpa using h)
    rw [List.length_append, List.length_singleton, ← hset] at hrest
    refine hrest.trans (Prod.ext ?_ ?_)
    · simp
    · rw [List.length_cons]
      omega

end SpatialWorkers.ArrayStores
