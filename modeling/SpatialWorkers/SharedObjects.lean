import SpatialWorkers.InsertionMaps

/-!
# Shared objects

Objects that live as long as something holds them: each has a count, which a
new holder increments and a released one decrements; the last one takes the
object away. The holders themselves are known to the invariant only.
-/
namespace SpatialWorkers.SharedObjects
open InsertionMaps

variable {τ : Type*}

abbrev ObjectId := ℕ

/-- The objects with their counts, and an id that no object had yet. -/
structure Shared (τ : Type*) where
  objects : InsertionMap ObjectId (τ × ℕ)
  next : ObjectId

namespace Shared

def empty : Shared τ := ⟨.empty, 0⟩

def value (m : Shared τ) (id : ObjectId) : Option τ := (m.objects.find id).map Prod.fst

/-- The count of an object that is not there is 0. -/
def count (m : Shared τ) (id : ObjectId) : ℕ := ((m.objects.find id).map Prod.snd).getD 0

/-- A new object, with one holder. -/
def make (m : Shared τ) (t : τ) : ObjectId × Shared τ :=
  (m.next, ⟨m.objects.assign m.next (t, 1), m.next + 1⟩)

/-- One more holder; none if there is no such object. -/
def share (m : Shared τ) (id : ObjectId) : Option (Shared τ) :=
  (m.objects.find id).map fun object =>
    { m with objects := m.objects.assign id (object.1, object.2 + 1) }

def release (m : Shared τ) (id : ObjectId) : Shared τ :=
  match m.objects.find id with
  | some object =>
    if object.2 ≤ 1 then { m with objects := m.objects.erase id }
    else { m with objects := m.objects.assign id (object.1, object.2 - 1) }
  | none => m

def write (m : Shared τ) (id : ObjectId) (t : τ) : Option (Shared τ) :=
  (m.objects.find id).map fun object =>
    { m with objects := m.objects.assign id (t, object.2) }

/-- The counts are those of the holders, and what nobody holds is gone. -/
structure Counted (m : Shared τ) (holders : List ObjectId) : Prop where
  count : ∀ id, m.count id = holders.count id
  held : ∀ id, (m.value id).isSome → id ∈ holders
  below : ∀ id ∈ m.objects.keys, id < m.next

theorem counted_empty : (empty : Shared τ).Counted [] := ⟨fun _ => rfl, by simp [value, empty],
  by simp [empty]⟩

theorem Counted.perm {m : Shared τ} {holders holders' : List ObjectId} (h : m.Counted holders)
    (hperm : holders.Perm holders') : m.Counted holders' :=
  ⟨fun id => (h.count id).trans (hperm.count_eq id), fun id hid => hperm.mem_iff.mp (h.held id hid),
    h.below⟩

/-- No holder has an object that is gone. -/
theorem Counted.find_of_mem {m : Shared τ} {holders : List ObjectId} (h : m.Counted holders)
    {id : ObjectId} (hid : id ∈ holders) :
    ∃ t, m.objects.find id = some (t, holders.count id) := by
  have hcount := h.count id
  have hpos : 0 < holders.count id := List.count_pos_iff.mpr hid
  cases hfind : m.objects.find id with
  | none =>
    rw [Shared.count, hfind] at hcount
    simp only [Option.map_none, Option.getD_none] at hcount
    omega
  | some object =>
    rw [Shared.count, hfind] at hcount
    exact ⟨object.1, congrArg some (Prod.ext rfl hcount)⟩

theorem Counted.isSome_value {m : Shared τ} {holders : List ObjectId} (h : m.Counted holders)
    {id : ObjectId} : (m.value id).isSome ↔ id ∈ holders := by
  constructor
  · exact h.held id
  · intro hid
    obtain ⟨t, ht⟩ := h.find_of_mem hid
    simp [value, ht]

theorem count_assign (m : Shared τ) (id : ObjectId) (object : τ × ℕ) (next id' : ObjectId) :
    (⟨m.objects.assign id object, next⟩ : Shared τ).count id' =
      if id = id' then object.2 else m.count id' := by
  simp only [count, InsertionMap.find_assign]
  split_ifs <;> rfl

theorem value_assign (m : Shared τ) (id : ObjectId) (object : τ × ℕ) (next id' : ObjectId) :
    (⟨m.objects.assign id object, next⟩ : Shared τ).value id' =
      if id = id' then some object.1 else m.value id' := by
  simp only [value, InsertionMap.find_assign]
  split_ifs <;> rfl

theorem value_make (m : Shared τ) (t : τ) (id : ObjectId) :
    (m.make t).2.value id = if m.next = id then some t else m.value id :=
  value_assign m m.next (t, 1) _ id

theorem Counted.next_notMem {m : Shared τ} {holders : List ObjectId} (h : m.Counted holders) :
    m.next ∉ holders := by
  intro hmem
  obtain ⟨t, ht⟩ := h.find_of_mem hmem
  have hkey : m.next ∈ m.objects.keys := by
    rw [← InsertionMap.isSome_find, ht]
    rfl
  exact Nat.lt_irrefl _ (h.below _ hkey)

theorem Counted.make {m : Shared τ} {holders : List ObjectId} (h : m.Counted holders) (t : τ) :
    (m.make t).2.Counted ((m.make t).1 :: holders) := by
  refine ⟨fun id => ?_, fun id hid => ?_, fun id hid => ?_⟩
  · rw [Shared.make, count_assign, List.count_cons, h.count]
    by_cases hid : m.next = id
    · subst hid
      simp [List.count_eq_zero_of_not_mem h.next_notMem]
    · simp [hid]
  · rw [value_make] at hid
    by_cases hnext : m.next = id
    · exact hnext ▸ List.mem_cons_self
    · rw [if_neg hnext] at hid
      exact List.mem_cons_of_mem _ (h.held id hid)
  · have hkey : m.next = id ∨ id ∈ m.objects.keys := InsertionMap.mem_keys_assign.mp hid
    show id < m.next + 1
    rcases hkey with hself | hold
    · exact hself ▸ Nat.lt_succ_self _
    · exact Nat.lt_succ_of_lt (h.below id hold)

/-- The holders of `m.assign` where only the count of `id` changes. -/
theorem Counted.assign {m : Shared τ} {holders holders' : List ObjectId} (h : m.Counted holders)
    {id : ObjectId} (hid : id ∈ holders) {t : τ} {n : ℕ} (hself : n = holders'.count id)
    (hmem : id ∈ holders') (hother : ∀ id', id ≠ id' → holders'.count id' = holders.count id') :
    (⟨m.objects.assign id (t, n), m.next⟩ : Shared τ).Counted holders' := by
  obtain ⟨old, hold⟩ := h.find_of_mem hid
  refine ⟨fun id' => ?_, fun id' hid' => ?_, fun id' hid' => ?_⟩
  · rw [count_assign]
    by_cases heq : id = id'
    · subst heq
      simpa using hself
    · rw [if_neg heq, h.count, hother id' heq]
  · rw [value_assign] at hid'
    by_cases heq : id = id'
    · exact heq ▸ hmem
    · rw [if_neg heq] at hid'
      have hpos : 0 < holders'.count id' := by
        rw [hother id' heq]
        exact List.count_pos_iff.mpr (h.held id' hid')
      exact List.count_pos_iff.mp hpos
  · rcases InsertionMap.mem_keys_assign.mp hid' with rfl | hkey
    · refine h.below _ ?_
      rw [← InsertionMap.isSome_find, hold]
      rfl
    · exact h.below id' hkey

theorem Counted.share {m : Shared τ} {holders : List ObjectId} (h : m.Counted holders)
    {id : ObjectId} (hid : id ∈ holders) :
    ∃ m', m.share id = some m' ∧ m'.Counted (id :: holders) ∧ m'.value = m.value := by
  obtain ⟨t, ht⟩ := h.find_of_mem hid
  have hshare : m.share id =
      some ⟨m.objects.assign id (t, holders.count id + 1), m.next⟩ := by rw [Shared.share, ht]; rfl
  refine ⟨_, hshare, h.assign hid (by simp) List.mem_cons_self (fun id' hne => by simp [hne]), ?_⟩
  ext id'
  rw [value_assign]
  by_cases heq : id = id'
  · subst heq
    simp [value, ht]
  · rw [if_neg heq]

theorem Counted.write {m : Shared τ} {holders : List ObjectId} (h : m.Counted holders)
    {id : ObjectId} (hid : id ∈ holders) (t : τ) :
    ∃ m', m.write id t = some m' ∧ m'.Counted holders ∧
      ∀ id', m'.value id' = if id = id' then some t else m.value id' := by
  obtain ⟨old, hold⟩ := h.find_of_mem hid
  have hwrite : m.write id t = some ⟨m.objects.assign id (t, holders.count id), m.next⟩ := by
    rw [Shared.write, hold]
    rfl
  exact ⟨_, hwrite, h.assign hid rfl hid fun _ _ => rfl, value_assign m id _ _⟩

/-- The other holders find what they hold. -/
theorem Counted.release {m : Shared τ} {holders : List ObjectId} {id : ObjectId}
    (h : m.Counted (id :: holders)) :
    (m.release id).Counted holders ∧ ∀ id' ∈ holders, (m.release id).value id' = m.value id' := by
  obtain ⟨t, ht⟩ := h.find_of_mem List.mem_cons_self
  rw [List.count_cons_self] at ht
  by_cases hlast : holders.count id = 0
  · have hnotMem : id ∉ holders := List.count_eq_zero.mp hlast
    have hrelease : m.release id = { m with objects := m.objects.erase id } := by
      rw [Shared.release, ht]
      exact if_pos (by simp [hlast])
    have hfind : ∀ id', (m.release id).objects.find id' =
        if id = id' then none else m.objects.find id' := by
      intro id'
      rw [hrelease]
      exact InsertionMap.find_erase _ _ _
    refine ⟨⟨fun id' => ?_, fun id' hid' => ?_, fun id' hid' => ?_⟩, fun id' hid' => ?_⟩
    · rw [Shared.count, hfind]
      by_cases heq : id = id'
      · subst heq
        simp [hlast]
      · rw [if_neg heq]
        have hcount := h.count id'
        rw [List.count_cons_of_ne heq] at hcount
        exact hcount
    · rw [value, hfind] at hid'
      by_cases heq : id = id'
      · simp [heq] at hid'
      · rw [if_neg heq] at hid'
        exact (List.mem_cons.mp (h.held id' hid')).resolve_left (Ne.symm heq)
    · rw [hrelease] at hid' ⊢
      exact h.below id' (InsertionMap.mem_keys_erase.mp hid').2
    · have hne : id ≠ id' := fun heq => hnotMem (heq ▸ hid')
      rw [value, hfind, if_neg hne]
      rfl
  · have hrelease : m.release id =
        ⟨m.objects.assign id (t, holders.count id), m.next⟩ := by
      rw [Shared.release, ht]
      have hmany : ¬ holders.count id + 1 ≤ 1 := by omega
      simp [hmany]
    rw [hrelease]
    have hmem : id ∈ holders := List.count_pos_iff.mp (by omega)
    refine ⟨h.assign List.mem_cons_self rfl hmem fun id' hne => (List.count_cons_of_ne hne).symm,
      fun id' _ => ?_⟩
    rw [value_assign]
    by_cases heq : id = id'
    · subst heq
      simp [value, ht]
    · rw [if_neg heq]

end Shared

end SpatialWorkers.SharedObjects
