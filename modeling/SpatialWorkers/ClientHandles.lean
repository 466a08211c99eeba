import SpatialWorkers.LabelledRuns
import SpatialWorkers.Ops
import SpatialWorkers.SharedObjects

/-!
# Client handles

A client handle lends an object of the client, or holds a shared one. A lent
object is copied or moved only when its handle is copied or asked for a mutable
reference; no run can tell this from handles that copy it when they are made.
-/
namespace SpatialWorkers
open InsertionMaps SharedObjects LabelledRuns

variable {τ : Type}

/-- Where an object of the client is. -/
abbrev RawPointer := ℕ

/-- The fields of `ClientHandle<T>`. -/
structure HandleFields where
  copyableRaw : Option RawPointer
  movableRaw : Option RawPointer
  shared : Option ObjectId
  deriving DecidableEq

/-- The objects of the client, the shared ones, the handles, and what has been
read of them so far. -/
structure HandleStore (τ : Type) where
  raw : RawPointer → τ
  objects : Shared τ
  handles : InsertionMap ClientHandle HandleFields
  shown : List τ

/-- What the client and the C API do with handles. A copy is made at `result`;
`getMutable` reads the object and then assigns `t` to it; `write` is the client
assigning to an object of its own. -/
inductive HandleAction (τ : Type)
  | allocate (handle : ClientHandle) (t : τ)
  | copyable (handle : ClientHandle) (ptr : RawPointer)
  | movable (handle : ClientHandle) (ptr : RawPointer)
  | free (handle : ClientHandle)
  | newCopy (handle result : ClientHandle)
  | get (handle : ClientHandle)
  | getMutable (handle : ClientHandle) (t : τ)
  | write (ptr : RawPointer) (t : τ)

namespace HandleStore

/-- `shared = std::make_shared<T>(t)`. -/
def makeShared (s : HandleStore τ) (fields : HandleFields) (t : τ) :
    HandleStore τ × HandleFields :=
  let (id, objects) := s.objects.make t
  let objects := match fields.shared with
    | some old => objects.release old
    | none => objects
  ({ s with objects := objects }, { fields with shared := some id })

/-- For the handle with these fields; `movedFrom` is what moving leaves behind. -/
def promoteToShared (movedFrom : τ → τ) (s : HandleStore τ) (handle : ClientHandle)
    (fields : HandleFields) : HandleStore τ × HandleFields :=
  let (s, fields) := match fields.copyableRaw with
    | some ptr =>
      let (s, fields) := s.makeShared fields (s.raw ptr)
      (s, { fields with copyableRaw := none })
    | none => (s, fields)
  let (s, fields) := match fields.movableRaw with
    | some ptr =>
      let t := s.raw ptr
      let (s, fields) := s.makeShared fields t
      ({ s with raw := Function.update s.raw ptr (movedFrom t) },
        { fields with movableRaw := none })
    | none => (s, fields)
  ({ s with handles := s.handles.assign handle fields }, fields)

/-- `get() const`; none if it dereferences a null or dangling pointer. -/
def content (s : HandleStore τ) (fields : HandleFields) : Option τ :=
  match fields.copyableRaw, fields.movableRaw with
  | some ptr, _ => some (s.raw ptr)
  | none, some ptr => some (s.raw ptr)
  | none, none => fields.shared.bind s.objects.value

/-- Assign to `movable_raw ? *movable_raw : *shared`. -/
def setContent (s : HandleStore τ) (fields : HandleFields) (t : τ) : Option (HandleStore τ) :=
  match fields.movableRaw with
  | some ptr => some { s with raw := Function.update s.raw ptr t }
  | none =>
    (fields.shared.bind fun id => s.objects.write id t).map fun objects =>
      { s with objects := objects }

def act (movedFrom : τ → τ) (s : HandleStore τ) : HandleAction τ → Option (HandleStore τ)
  | .allocate handle t =>
    let (id, objects) := s.objects.make t
    some { s with objects := objects, handles := s.handles.assign handle ⟨none, none, some id⟩ }
  | .copyable handle ptr =>
    some { s with handles := s.handles.assign handle ⟨some ptr, none, none⟩ }
  | .movable handle ptr =>
    some { s with handles := s.handles.assign handle ⟨none, some ptr, none⟩ }
  | .free handle =>
    (s.handles.find handle).map fun fields =>
      { s with
        objects := match fields.shared with
          | some id => s.objects.release id
          | none => s.objects
        handles := s.handles.erase handle }
  | .newCopy handle result => do
    let fields ← s.handles.find handle
    let (s, fields) := promoteToShared movedFrom s handle fields
    let objects ← match fields.shared with
      | some id => s.objects.share id
      | none => some s.objects
    some { s with
      objects := objects
      handles := s.handles.assign result ⟨none, none, fields.shared⟩ }
  | .get handle => do
    let fields ← s.handles.find handle
    let t ← s.content fields
    some { s with shown := s.shown ++ [t] }
  | .getMutable handle t => do
    let fields ← s.handles.find handle
    let (s, fields) := if fields.copyableRaw.isSome then promoteToShared movedFrom s handle fields
      else (s, fields)
    let old ← s.content fields
    let s ← s.setContent fields t
    some { s with shown := s.shown ++ [old] }
  | .write ptr t => some { s with raw := Function.update s.raw ptr t }

def new (raw : RawPointer → τ) : HandleStore τ := ⟨raw, .empty, .empty, []⟩

end HandleStore

/-! ## Handles that copy at once -/

/-- A handle is one of the names of a cell. What was lent to make it is
remembered for as long as it exists. -/
structure PlainHandle where
  cell : ℕ
  lent : Option RawPointer

/-- An object that was lent to be moved is unspecified until it is assigned. -/
structure PlainStore (τ : Type) where
  raw : RawPointer → Option τ
  cells : List τ
  handles : InsertionMap ClientHandle PlainHandle
  shown : List τ

namespace PlainStore

def isLent (p : PlainStore τ) (ptr : RawPointer) : Prop :=
  ∃ entry ∈ p.handles.entries, entry.2.lent = some ptr

instance (p : PlainStore τ) (ptr : RawPointer) : Decidable (p.isLent ptr) :=
  inferInstanceAs (Decidable (∃ entry ∈ p.handles.entries, entry.2.lent = some ptr))

/-- A new handle for a new cell. -/
def create (p : PlainStore τ) (handle : ClientHandle) (lent : Option RawPointer) (t : τ) :
    PlainStore τ :=
  { p with
    cells := p.cells ++ [t]
    handles := p.handles.assign handle ⟨p.cells.length, lent⟩ }

/-- The rules for clients: a new handle is not in use, and an object is neither
assigned nor lent to be moved as long as a handle exists that it was lent to. -/
def act (p : PlainStore τ) : HandleAction τ → Option (PlainStore τ)
  | .allocate handle t =>
    if handle ∈ p.handles.keys then none else some (p.create handle none t)
  | .copyable handle ptr =>
    if handle ∈ p.handles.keys then none
    else (p.raw ptr).map fun t => p.create handle (some ptr) t
  | .movable handle ptr =>
    if handle ∈ p.handles.keys ∨ p.isLent ptr then none
    else (p.raw ptr).map fun t =>
      { p.create handle (some ptr) t with raw := Function.update p.raw ptr none }
  | .free handle =>
    (p.handles.find handle).map fun _ => { p with handles := p.handles.erase handle }
  | .newCopy handle result =>
    if result ∈ p.handles.keys then none
    else (p.handles.find handle).map fun plain =>
      { p with handles := p.handles.assign result ⟨plain.cell, none⟩ }
  | .get handle => do
    let plain ← p.handles.find handle
    let t ← p.cells[plain.cell]?
    some { p with shown := p.shown ++ [t] }
  | .getMutable handle t => do
    let plain ← p.handles.find handle
    let old ← p.cells[plain.cell]?
    some { p with cells := p.cells.set plain.cell t, shown := p.shown ++ [old] }
  | .write ptr t =>
    if p.isLent ptr then none else some { p with raw := Function.update p.raw ptr (some t) }

def new (raw : RawPointer → τ) : PlainStore τ := ⟨fun ptr => some (raw ptr), [], .empty, []⟩

end PlainStore

/-! ## Agreement -/

/-- Who holds the shared objects. -/
def holders (handles : InsertionMap ClientHandle HandleFields) : List ObjectId :=
  handles.entries.filterMap fun entry => entry.2.shared

theorem filterMap_cons_shared (entry : ClientHandle × HandleFields)
    (entries : List (ClientHandle × HandleFields)) :
    ((entry :: entries).filterMap fun entry => entry.2.shared) =
      entry.2.shared.toList ++ entries.filterMap fun entry => entry.2.shared := by
  rw [List.filterMap_cons]
  cases entry.2.shared <;> rfl

theorem holders_of_find {handles : InsertionMap ClientHandle HandleFields}
    {handle : ClientHandle} {fields : HandleFields} (h : handles.find handle = some fields) :
    (holders handles).Perm (fields.shared.toList ++ holders (handles.erase handle)) := by
  have hperm := (InsertionMap.perm_of_find h).filterMap fun entry => entry.2.shared
  rw [filterMap_cons_shared] at hperm
  exact hperm

theorem holders_assign (handles : InsertionMap ClientHandle HandleFields)
    (handle : ClientHandle) (fields : HandleFields) :
    (holders (handles.assign handle fields)).Perm
      (fields.shared.toList ++ holders (handles.erase handle)) := by
  have hperm := (InsertionMap.perm_assign handles handle fields).filterMap
    fun entry => entry.2.shared
  rw [filterMap_cons_shared] at hperm
  exact hperm

theorem mem_holders {handles : InsertionMap ClientHandle HandleFields} {handle : ClientHandle}
    {fields : HandleFields} {id : ObjectId} (h : handles.find handle = some fields)
    (hid : fields.shared = some id) : id ∈ holders handles := by
  rw [(holders_of_find h).mem_iff, hid]
  simp

/-- A handle and the plain one that it stands for, with their object. -/
inductive Stands (s : HandleStore τ) (p : PlainStore τ) : HandleFields → PlainHandle → τ → Prop
  | copyable {ptr : RawPointer} {cell : ℕ} {t : τ} (h : p.raw ptr = some t) :
    Stands s p ⟨some ptr, none, none⟩ ⟨cell, some ptr⟩ t
  | movable {ptr : RawPointer} {cell : ℕ} {t : τ} (hraw : p.raw ptr = none)
    (h : s.raw ptr = t) : Stands s p ⟨none, some ptr, none⟩ ⟨cell, some ptr⟩ t
  | shared {id : ObjectId} {plain : PlainHandle} {t : τ} (h : s.objects.value id = some t) :
    Stands s p ⟨none, none, some id⟩ plain t

theorem Stands.lent {s : HandleStore τ} {p : PlainStore τ} {fields : HandleFields}
    {plain : PlainHandle} {t : τ} (h : Stands s p fields plain t) {ptr : RawPointer}
    (hptr : fields.movableRaw = some ptr) : plain.lent = some ptr := by
  cases h with
  | movable hraw ht => exact hptr
  | _ => cases hptr

/-- Nothing else matters to a handle than what it points to. -/
theorem Stands.transfer {s s' : HandleStore τ} {p p' : PlainStore τ} {fields : HandleFields}
    {plain : PlainHandle} {t : τ} (h : Stands s p fields plain t)
    (hraw : ∀ ptr, plain.lent = some ptr → p'.raw ptr = p.raw ptr)
    (hmovable : ∀ ptr, fields.movableRaw = some ptr → s'.raw ptr = s.raw ptr)
    (hvalue : ∀ id, fields.shared = some id → s'.objects.value id = s.objects.value id) :
    Stands s' p' fields plain t := by
  cases h with
  | copyable hcopyable => exact .copyable ((hraw _ rfl).trans hcopyable)
  | movable hnone ht => exact .movable ((hraw _ rfl).trans hnone) ((hmovable _ rfl).trans ht)
  | shared hshared => exact .shared ((hvalue _ rfl).trans hshared)

structure Agrees (s : HandleStore τ) (p : PlainStore τ) : Prop where
  keys : ∀ handle, handle ∈ s.handles.keys ↔ handle ∈ p.handles.keys
  stands : ∀ {handle fields plain}, s.handles.find handle = some fields →
    p.handles.find handle = some plain →
      ∃ t, p.cells[plain.cell]? = some t ∧ Stands s p fields plain t
  same : ∀ {handle handle' fields fields' plain plain'},
    s.handles.find handle = some fields → p.handles.find handle = some plain →
    s.handles.find handle' = some fields' → p.handles.find handle' = some plain' →
      (plain.cell = plain'.cell ↔
        handle = handle' ∨ ∃ id, fields.shared = some id ∧ fields'.shared = some id)
  lent : ∀ {handle handle' fields fields' ptr}, s.handles.find handle = some fields →
    s.handles.find handle' = some fields' → fields.movableRaw = some ptr →
      fields'.movableRaw = some ptr → handle = handle'
  raw : ∀ {ptr t}, p.raw ptr = some t → s.raw ptr = t
  counted : s.objects.Counted (holders s.handles)
  shown : s.shown = p.shown

theorem agrees_new (raw : RawPointer → τ) : Agrees (HandleStore.new raw) (PlainStore.new raw) where
  keys _ := Iff.rfl
  stands h := by simp [HandleStore.new] at h
  same h := by simp [HandleStore.new] at h
  lent h := by simp [HandleStore.new] at h
  raw h := Option.some.inj h
  counted := Shared.counted_empty
  shown := rfl

namespace Agrees

variable {s : HandleStore τ} {p : PlainStore τ}

theorem exists_plain (h : Agrees s p) {handle : ClientHandle} {fields : HandleFields}
    (hfind : s.handles.find handle = some fields) :
    ∃ plain, p.handles.find handle = some plain := by
  have hkey : handle ∈ s.handles.keys := by
    rw [← InsertionMap.isSome_find, hfind]
    rfl
  exact Option.isSome_iff_exists.mp (InsertionMap.isSome_find.mpr ((h.keys handle).mp hkey))

theorem exists_fields (h : Agrees s p) {handle : ClientHandle} {plain : PlainHandle}
    (hfind : p.handles.find handle = some plain) :
    ∃ fields, s.handles.find handle = some fields := by
  have hkey : handle ∈ p.handles.keys := by
    rw [← InsertionMap.isSome_find, hfind]
    rfl
  exact Option.isSome_iff_exists.mp (InsertionMap.isSome_find.mpr ((h.keys handle).mpr hkey))

/-- `get` finds the object. -/
theorem content_of_find (h : Agrees s p) {handle : ClientHandle} {fields : HandleFields}
    {plain : PlainHandle} {t : τ} (hf : s.handles.find handle = some fields)
    (hp : p.handles.find handle = some plain) (ht : p.cells[plain.cell]? = some t) :
    s.content fields = some t := by
  obtain ⟨t', ht', hstands⟩ := h.stands hf hp
  obtain rfl := Option.some.inj (ht'.symm.trans ht)
  cases hstands with
  | copyable hraw => exact congrArg some (h.raw hraw)
  | movable hraw hmoved => exact congrArg some hmoved
  | shared hvalue => exact hvalue

theorem read (h : Agrees s p) (t : τ) :
    Agrees { s with shown := s.shown ++ [t] } { p with shown := p.shown ++ [t] } := by
  refine ⟨h.keys, fun hf hp => ?_, h.same, h.lent, h.raw, h.counted, congrArg (· ++ [t]) h.shown⟩
  obtain ⟨t', ht', hstands⟩ := h.stands hf hp
  exact ⟨t', ht', hstands.transfer (fun _ _ => rfl) (fun _ _ => rfl) fun _ _ => rfl⟩

theorem isLent_of_find {handle : ClientHandle} {plain : PlainHandle} {ptr : RawPointer}
    (hfind : p.handles.find handle = some plain) (hlent : plain.lent = some ptr) : p.isLent ptr :=
  ⟨_, InsertionMap.find_eq_some.mp hfind, hlent⟩

theorem cell_lt (h : Agrees s p) {handle : ClientHandle} {plain : PlainHandle}
    (hfind : p.handles.find handle = some plain) : plain.cell < p.cells.length := by
  obtain ⟨fields, hfields⟩ := h.exists_fields hfind
  obtain ⟨t, ht, -⟩ := h.stands hfields hfind
  exact (List.getElem?_eq_some_iff.mp ht).1

/-- The rule for a step that sets one handle on either side: what it must
establish about this handle, and about each of the others. -/
theorem assign (h : Agrees s p) {handle : ClientHandle} {fields : HandleFields}
    {plain : PlainHandle} {s' : HandleStore τ} {p' : PlainStore τ}
    (hs' : s'.handles = s.handles.assign handle fields)
    (hp' : p'.handles = p.handles.assign handle plain)
    (hself : ∃ t, p'.cells[plain.cell]? = some t ∧ Stands s' p' fields plain t)
    (hother : ∀ {handle' fields' plain'}, handle ≠ handle' →
      s.handles.find handle' = some fields' → p.handles.find handle' = some plain' →
        (∃ t, p'.cells[plain'.cell]? = some t ∧ Stands s' p' fields' plain' t) ∧
          (plain.cell = plain'.cell ↔ ∃ id, fields.shared = some id ∧ fields'.shared = some id) ∧
          ∀ ptr, fields.movableRaw = some ptr → fields'.movableRaw ≠ some ptr)
    (hraw : ∀ {ptr t}, p'.raw ptr = some t → s'.raw ptr = t)
    (hcounted : s'.objects.Counted (fields.shared.toList ++ holders (s.handles.erase handle)))
    (hshown : s'.shown = p'.shown) : Agrees s' p' := by
  have hfields : ∀ {handle' fields'}, s'.handles.find handle' = some fields' →
      handle = handle' ∧ fields = fields' ∨
        handle ≠ handle' ∧ s.handles.find handle' = some fields' := by
    intro handle' fields' hfind
    rw [hs', InsertionMap.find_assign] at hfind
    by_cases hne : handle = handle'
    · rw [if_pos hne] at hfind
      exact Or.inl ⟨hne, Option.some.inj hfind⟩
    · rw [if_neg hne] at hfind
      exact Or.inr ⟨hne, hfind⟩
  have hplain : ∀ {handle' plain'}, p'.handles.find handle' = some plain' →
      handle = handle' ∧ plain = plain' ∨
        handle ≠ handle' ∧ p.handles.find handle' = some plain' := by
    intro handle' plain' hfind
    rw [hp', InsertionMap.find_assign] at hfind
    by_cases hne : handle = handle'
    · rw [if_pos hne] at hfind
      exact Or.inl ⟨hne, Option.some.inj hfind⟩
    · rw [if_neg hne] at hfind
      exact Or.inr ⟨hne, hfind⟩
  refine ⟨fun handle' => ?_, fun hf hp => ?_, fun hf₁ hp₁ hf₂ hp₂ => ?_,
    fun hf₁ hf₂ hm₁ hm₂ => ?_, hraw, ?_, hshown⟩
  · rw [hs', hp', InsertionMap.mem_keys_assign, InsertionMap.mem_keys_assign, h.keys]
  · rcases hfields hf with ⟨rfl, rfl⟩ | ⟨hne, hold⟩
    · rcases hplain hp with ⟨-, rfl⟩ | ⟨hne, -⟩
      · exact hself
      · exact absurd rfl hne
    · rcases hplain hp with ⟨heq, -⟩ | ⟨-, hold'⟩
      · exact absurd heq hne
      · exact (hother hne hold hold').1
  · rcases hfields hf₁ with ⟨rfl, rfl⟩ | ⟨hne₁, hold₁⟩
    · obtain ⟨-, rfl⟩ := (hplain hp₁).resolve_right fun hne => hne.1 rfl
      rcases hfields hf₂ with ⟨rfl, rfl⟩ | ⟨hne₂, hold₂⟩
      · obtain ⟨-, rfl⟩ := (hplain hp₂).resolve_right fun hne => hne.1 rfl
        exact iff_of_true rfl (Or.inl rfl)
      · obtain ⟨-, hold₂'⟩ := (hplain hp₂).resolve_left fun heq => hne₂ heq.1
        rw [(hother hne₂ hold₂ hold₂').2.1, or_iff_right hne₂]
    · obtain ⟨-, hold₁'⟩ := (hplain hp₁).resolve_left fun heq => hne₁ heq.1
      rcases hfields hf₂ with ⟨rfl, rfl⟩ | ⟨hne₂, hold₂⟩
      · obtain ⟨-, rfl⟩ := (hplain hp₂).resolve_right fun hne => hne.1 rfl
        rw [eq_comm, (hother hne₁ hold₁ hold₁').2.1, or_iff_right (Ne.symm hne₁)]
        exact exists_congr fun id => and_comm
      · obtain ⟨-, hold₂'⟩ := (hplain hp₂).resolve_left fun heq => hne₂ heq.1
        exact h.same hold₁ hold₁' hold₂ hold₂'
  · rcases hfields hf₁ with ⟨rfl, rfl⟩ | ⟨hne₁, hold₁⟩
    · rcases hfields hf₂ with ⟨heq, -⟩ | ⟨hne₂, hold₂⟩
      · exact heq
      · obtain ⟨plain₂, hplain₂⟩ := h.exists_plain hold₂
        exact absurd hm₂ ((hother hne₂ hold₂ hplain₂).2.2 _ hm₁)
    · rcases hfields hf₂ with ⟨rfl, rfl⟩ | ⟨hne₂, hold₂⟩
      · obtain ⟨plain₁, hplain₁⟩ := h.exists_plain hold₁
        exact absurd hm₁ ((hother hne₁ hold₁ hplain₁).2.2 _ hm₂)
      · exact h.lent hold₁ hold₂ hm₁ hm₂
  · rw [hs']
    exact hcounted.perm (holders_assign s.handles handle fields).symm

/-- A handle for a new cell. -/
theorem create (h : Agrees s p) {handle : ClientHandle} (hnew : handle ∉ p.handles.keys)
    {fields : HandleFields} {lent : Option RawPointer} {t : τ} {objects : Shared τ}
    {raw : RawPointer → Option τ}
    (hstands : Stands { s with objects := objects } { p with raw := raw } fields
      ⟨p.cells.length, lent⟩ t)
    (hcounted : objects.Counted (fields.shared.toList ++ holders s.handles))
    (hobjects : ∀ id ∈ holders s.handles, fields.shared ≠ some id ∧
      objects.value id = s.objects.value id)
    (hlent : ∀ ptr, p.isLent ptr → fields.movableRaw ≠ some ptr ∧ raw ptr = p.raw ptr)
    (hraw : ∀ {ptr t}, raw ptr = some t → p.raw ptr = some t) :
    Agrees { s with objects := objects, handles := s.handles.assign handle fields }
      { p.create handle lent t with raw := raw } := by
  have hnew' : handle ∉ s.handles.keys := fun hkey => hnew ((h.keys handle).mp hkey)
  refine h.assign rfl rfl ⟨t, by simp [PlainStore.create], ?_⟩ ?_ (fun hptr => h.raw (hraw hptr))
    ?_ h.shown
  · exact hstands.transfer (fun _ _ => rfl) (fun _ _ => rfl) fun _ _ => rfl
  · intro handle' fields' plain' hne hf hp
    obtain ⟨t', ht', hstands'⟩ := h.stands hf hp
    have hlt := h.cell_lt hp
    refine ⟨⟨t', (List.getElem?_append_left hlt).trans ht', ?_⟩, ?_, ?_⟩
    · exact hstands'.transfer (fun ptr hptr => (hlent ptr (isLent_of_find hp hptr)).2)
        (fun _ _ => rfl) fun id hid => (hobjects id (mem_holders hf hid)).2
    · refine iff_of_false (Nat.ne_of_gt hlt) ?_
      rintro ⟨id, hid, hid'⟩
      exact (hobjects id (mem_holders hf hid')).1 hid
    · intro ptr hptr hptr'
      exact (hlent ptr (isLent_of_find hp (hstands'.lent hptr'))).1 hptr
  · rw [InsertionMap.erase_of_notMem hnew']
    exact hcounted

/-- A lent object becomes a shared one, which no plain handle can tell. -/
theorem promote (h : Agrees s p) {handle : ClientHandle} {fields : HandleFields}
    {plain : PlainHandle} {t : τ} (hf : s.handles.find handle = some fields)
    (hp : p.handles.find handle = some plain) (ht : p.cells[plain.cell]? = some t)
    (hshared : fields.shared = none) {raw : RawPointer → τ}
    (hraw : ∀ {ptr t}, p.raw ptr = some t → raw ptr = t)
    (hmovable : ∀ ptr, fields.movableRaw ≠ some ptr → p.raw ptr = none → raw ptr = s.raw ptr) :
    Agrees { s with
      raw := raw
      objects := (s.objects.make t).2
      handles := s.handles.assign handle ⟨none, none, some s.objects.next⟩ } p := by
  have hholders := (holders_of_find hf).symm
  rw [hshared] at hholders
  have hcounted := h.counted.make t
  have hvalue : ∀ id ∈ holders s.handles, s.objects.next ≠ id := fun id hid hnext =>
    h.counted.next_notMem (hnext ▸ hid)
  refine h.assign rfl (InsertionMap.assign_of_find hp).symm ⟨t, ht, ?_⟩ ?_ hraw ?_ h.shown
  · refine .shared ?_
    rw [Shared.value_make, if_pos rfl]
  · intro handle' fields' plain' hne hf' hp'
    obtain ⟨t', ht', hstands'⟩ := h.stands hf' hp'
    refine ⟨⟨t', ht', ?_⟩, ?_, by simp⟩
    · cases hstands' with
      | copyable hcopyable => exact .copyable hcopyable
      | @movable ptr cell _ hnone hmoved =>
        have hother : fields.movableRaw ≠ some ptr := fun hptr => hne (h.lent hf hf' hptr rfl)
        exact .movable hnone ((hmovable ptr hother hnone).trans hmoved)
      | @shared id _ _ hid =>
        refine .shared ?_
        rw [Shared.value_make, if_neg (hvalue id (mem_holders hf' rfl))]
        exact hid
    · have hcell : plain.cell ≠ plain'.cell := by
        intro heq
        rcases (h.same hf hp hf' hp').mp heq with heq' | ⟨id, hid, -⟩
        · exact hne heq'
        · rw [hshared] at hid
          cases hid
      refine iff_of_false hcell ?_
      rintro ⟨id, hid, hid'⟩
      exact hvalue id (mem_holders hf' hid') (Option.some.inj hid)
  · exact hcounted.perm (List.Perm.cons _ hholders.symm)

/-- `PromoteToShared` leaves a handle with a shared object, and the handles
agree with the plain ones as before. -/
theorem promoteToShared (h : Agrees s p) (movedFrom : τ → τ) {handle : ClientHandle}
    {fields : HandleFields} (hf : s.handles.find handle = some fields) :
    ∃ s' id, s.promoteToShared movedFrom handle fields = (s', ⟨none, none, some id⟩) ∧
      s'.handles.find handle = some ⟨none, none, some id⟩ ∧ Agrees s' p := by
  obtain ⟨plain, hp⟩ := h.exists_plain hf
  obtain ⟨t, ht, hstands⟩ := h.stands hf hp
  have hself : ∀ id : ObjectId, (s.handles.assign handle ⟨none, none, some id⟩).find handle =
      some ⟨none, none, some id⟩ := by
    intro id
    rw [InsertionMap.find_assign, if_pos rfl]
  cases hstands with
  | @copyable ptr _ _ hcopyable =>
    obtain rfl := h.raw hcopyable
    exact ⟨_, s.objects.next, rfl, hself _, h.promote hf hp ht rfl h.raw fun _ _ _ => rfl⟩
  | @movable ptr cell _ hnone hmoved =>
    subst hmoved
    refine ⟨_, s.objects.next, rfl, hself _, h.promote hf hp ht rfl ?_ ?_⟩
    · intro ptr' t' hptr'
      have hne : ptr' ≠ ptr := by
        rintro rfl
        simp [hnone] at hptr'
      exact (Function.update_of_ne hne _ _).trans (h.raw hptr')
    · intro ptr' hne hptr'
      exact Function.update_of_ne (fun heq => hne (congrArg some heq.symm)) _ _
  | @shared id _ _ hvalue =>
    refine ⟨s, id, ?_, hf, h⟩
    have hassign := InsertionMap.assign_of_find hf
    exact congrArg (fun handles => ({ s with handles := handles }, _)) hassign

/-- A copy of a handle with a shared object names the same cell. -/
theorem copyShared (h : Agrees s p) {handle result : ClientHandle} {plain : PlainHandle}
    {id : ObjectId} (hf : s.handles.find handle = some ⟨none, none, some id⟩)
    (hp : p.handles.find handle = some plain) (hresult : result ∉ p.handles.keys) :
    ∃ objects, s.objects.share id = some objects ∧
      Agrees { s with
          objects := objects
          handles := s.handles.assign result ⟨none, none, some id⟩ }
        { p with handles := p.handles.assign result ⟨plain.cell, none⟩ } := by
  obtain ⟨objects, hshare, hcounted, hvalue⟩ := h.counted.share (mem_holders hf rfl)
  have hresult' : result ∉ s.handles.keys := fun hkey => hresult ((h.keys result).mp hkey)
  obtain ⟨t, ht, hstands⟩ := h.stands hf hp
  refine ⟨objects, hshare, h.assign rfl rfl ⟨t, ht, ?_⟩ ?_ h.raw ?_ h.shown⟩
  · cases hstands with
    | shared hid => exact .shared ((congrFun hvalue id).trans hid)
  · intro handle' fields' plain' hne hf' hp'
    obtain ⟨t', ht', hstands'⟩ := h.stands hf' hp'
    refine ⟨⟨t', ht', hstands'.transfer (fun _ _ => rfl) (fun _ _ => rfl)
      fun id' _ => congrFun hvalue id'⟩, ?_, by simp⟩
    rw [h.same hf hp hf' hp']
    refine or_iff_right_of_imp fun heq => ⟨id, rfl, ?_⟩
    subst heq
    rw [hf] at hf'
    exact congrArg HandleFields.shared (Option.some.inj hf').symm
  · rw [InsertionMap.erase_of_notMem hresult']
    exact hcounted

/-- An assignment through a handle reaches the handles of the same cell. -/
theorem setContent (h : Agrees s p) {handle : ClientHandle} {fields : HandleFields}
    {plain : PlainHandle} (hf : s.handles.find handle = some fields)
    (hp : p.handles.find handle = some plain) (hcopyable : fields.copyableRaw = none) (t : τ) :
    ∃ s', s.setContent fields t = some s' ∧
      Agrees s' { p with cells := p.cells.set plain.cell t } := by
  obtain ⟨old, hold, hstands⟩ := h.stands hf hp
  have hcell : (p.cells.set plain.cell t)[plain.cell]? = some t :=
    List.getElem?_set_self (h.cell_lt hp)
  cases hstands with
  | copyable => cases hcopyable
  | @movable ptr cell _ hnone hmoved =>
    refine ⟨_, rfl, h.assign (InsertionMap.assign_of_find hf).symm
      (InsertionMap.assign_of_find hp).symm ⟨t, hcell, .movable hnone ?_⟩ ?_ ?_ ?_ h.shown⟩
    · exact Function.update_self _ _ _
    · intro handle' fields' plain' hne hf' hp'
      obtain ⟨t', ht', hstands'⟩ := h.stands hf' hp'
      have hdistinct := (h.same hf hp hf' hp').trans (or_iff_right hne)
      have hother : ∀ ptr', fields'.movableRaw = some ptr' → ptr' ≠ ptr := by
        rintro ptr' hptr' rfl
        exact hne (h.lent hf hf' rfl hptr')
      refine ⟨⟨t', ?_, ?_⟩, hdistinct, fun ptr' hptr' heq => ?_⟩
      · have hne' : cell ≠ plain'.cell := fun heq => by simpa using hdistinct.mp heq
        rw [List.getElem?_set_ne hne']
        exact ht'
      · exact hstands'.transfer (fun _ _ => rfl)
          (fun ptr' hptr' => Function.update_of_ne (hother ptr' hptr') _ _) fun _ _ => rfl
      · exact hother ptr' heq (Option.some.inj hptr').symm
    · intro ptr' t' hptr'
      have hne : ptr' ≠ ptr := by
        rintro rfl
        simp [hnone] at hptr'
      exact (Function.update_of_ne hne _ _).trans (h.raw hptr')
    · exact h.counted.perm (holders_of_find hf)
  | @shared id _ _ hid =>
    obtain ⟨objects, hwrite, hcounted, hvalue⟩ := h.counted.write (mem_holders hf rfl) t
    refine ⟨{ s with objects := objects }, by simp [HandleStore.setContent, hwrite],
      h.assign (InsertionMap.assign_of_find hf).symm (InsertionMap.assign_of_find hp).symm
        ⟨t, hcell, .shared ?_⟩ ?_ h.raw ?_ h.shown⟩
    · exact (hvalue id).trans (if_pos rfl)
    · intro handle' fields' plain' hne hf' hp'
      obtain ⟨t', ht', hstands'⟩ := h.stands hf' hp'
      have hsame := (h.same hf hp hf' hp').trans (or_iff_right hne)
      refine ⟨?_, hsame, by simp⟩
      by_cases heq : plain.cell = plain'.cell
      · obtain ⟨id', hid', hfields'⟩ := hsame.mp heq
        obtain rfl := Option.some.inj hid'
        refine ⟨t, heq ▸ hcell, ?_⟩
        cases hstands' with
        | shared _ =>
          obtain rfl := Option.some.inj hfields'
          exact .shared ((hvalue _).trans (if_pos rfl))
        | _ => cases hfields'
      · refine ⟨t', ?_, hstands'.transfer (fun _ _ => rfl) (fun _ _ => rfl) fun id' hid' => ?_⟩
        · rw [List.getElem?_set_ne heq]
          exact ht'
        · refine (hvalue id').trans (if_neg ?_)
          rintro rfl
          exact heq (hsame.mpr ⟨id, rfl, hid'⟩)
    · exact hcounted.perm (holders_of_find hf)

theorem free (h : Agrees s p) {handle : ClientHandle} {fields : HandleFields}
    (hf : s.handles.find handle = some fields) :
    Agrees { s with
        objects := match fields.shared with
          | some id => s.objects.release id
          | none => s.objects
        handles := s.handles.erase handle }
      { p with handles := p.handles.erase handle } := by
  have hfound : ∀ {β : Type} {m : InsertionMap ClientHandle β} {handle' : ClientHandle} {b : β},
      (m.erase handle).find handle' = some b → m.find handle' = some b := by
    intro β m handle' b hfind
    rw [InsertionMap.find_erase] at hfind
    split_ifs at hfind
    exact hfind
  have hobjects : (match fields.shared with
        | some id => s.objects.release id
        | none => s.objects).Counted (holders (s.handles.erase handle)) ∧
      ∀ id ∈ holders (s.handles.erase handle), (match fields.shared with
        | some id => s.objects.release id
        | none => s.objects).value id = s.objects.value id := by
    have hcounted := h.counted.perm (holders_of_find hf)
    cases hshared : fields.shared with
    | some id =>
      rw [hshared] at hcounted
      exact Shared.Counted.release hcounted
    | none =>
      rw [hshared] at hcounted
      exact ⟨hcounted, fun _ _ => rfl⟩
  refine ⟨fun handle' => ?_, fun hf' hp' => ?_, fun hf₁ hp₁ hf₂ hp₂ =>
    h.same (hfound hf₁) (hfound hp₁) (hfound hf₂) (hfound hp₂), fun hf₁ hf₂ =>
    h.lent (hfound hf₁) (hfound hf₂), h.raw, hobjects.1, h.shown⟩
  · rw [InsertionMap.mem_keys_erase, InsertionMap.mem_keys_erase, h.keys]
  · obtain ⟨t, ht, hstands⟩ := h.stands (hfound hf') (hfound hp')
    exact ⟨t, ht, hstands.transfer (fun _ _ => rfl) (fun _ _ => rfl)
      fun id hid => hobjects.2 id (mem_holders hf' hid)⟩

/-- What the client assigns to its own objects is none of the handles' business. -/
theorem write (h : Agrees s p) {ptr : RawPointer} (hptr : ¬ p.isLent ptr) (t : τ) :
    Agrees { s with raw := Function.update s.raw ptr t }
      { p with raw := Function.update p.raw ptr (some t) } := by
  refine ⟨h.keys, fun hf hp => ?_, h.same, h.lent, fun {ptr' t'} hptr' => ?_, h.counted, h.shown⟩
  · obtain ⟨t', ht', hstands⟩ := h.stands hf hp
    have hne : ∀ ptr', _ = some ptr' → ptr' ≠ ptr := fun ptr' hlent heq =>
      hptr (heq ▸ isLent_of_find hp hlent)
    exact ⟨t', ht', hstands.transfer
      (fun ptr' hlent => Function.update_of_ne (hne ptr' hlent) _ _)
      (fun ptr' hmovable => Function.update_of_ne (hne ptr' (hstands.lent hmovable)) _ _)
      fun _ _ => rfl⟩
  · by_cases heq : ptr' = ptr
    · subst heq
      simp only [Function.update_self, Option.some.injEq] at hptr' ⊢
      exact hptr'
    · simp only [Function.update_of_ne heq] at hptr' ⊢
      exact h.raw hptr'

/-- A step that the rules for clients allow succeeds, and shows the same. -/
theorem step (h : Agrees s p) (movedFrom : τ → τ) {action : HandleAction τ} {p' : PlainStore τ}
    (hact : p.act action = some p') : ∃ s', s.act movedFrom action = some s' ∧ Agrees s' p' := by
  cases action with
  | allocate handle t =>
    simp only [PlainStore.act] at hact
    split_ifs at hact with hnew
    obtain rfl := Option.some.inj hact
    refine ⟨_, rfl, h.create hnew (.shared ?_) (h.counted.make t) (fun id hid => ?_)
      (fun ptr _ => ⟨by simp, rfl⟩) fun hptr => hptr⟩
    · exact (Shared.value_make s.objects t _).trans (if_pos rfl)
    · have hne : s.objects.next ≠ id := fun heq => h.counted.next_notMem (heq ▸ hid)
      exact ⟨fun heq => hne (Option.some.inj heq),
        (Shared.value_make s.objects t id).trans (if_neg hne)⟩
  | copyable handle ptr =>
    simp only [PlainStore.act] at hact
    split_ifs at hact with hnew
    obtain ⟨t, ht, rfl⟩ := Option.map_eq_some_iff.mp hact
    exact ⟨_, rfl, h.create hnew (.copyable ht) h.counted (fun _ _ => ⟨by simp, rfl⟩)
      (fun _ _ => ⟨by simp, rfl⟩) fun hptr => hptr⟩
  | movable handle ptr =>
    simp only [PlainStore.act] at hact
    split_ifs at hact with hnew
    rw [not_or] at hnew
    obtain ⟨t, ht, rfl⟩ := Option.map_eq_some_iff.mp hact
    refine ⟨_, rfl, h.create hnew.1 (.movable (Function.update_self _ _ _) (h.raw ht)) h.counted
      (fun _ _ => ⟨by simp, rfl⟩) (fun ptr' hlent => ?_) fun {ptr' t'} hptr' => ?_⟩
    · have hne : ptr' ≠ ptr := fun heq => hnew.2 (heq ▸ hlent)
      exact ⟨fun heq => hne (Option.some.inj heq).symm, Function.update_of_ne hne _ _⟩
    · have hne : ptr' ≠ ptr := by
        rintro rfl
        simp at hptr'
      rwa [Function.update_of_ne hne] at hptr'
  | free handle =>
    obtain ⟨plain, hp, rfl⟩ := Option.map_eq_some_iff.mp hact
    obtain ⟨fields, hf⟩ := h.exists_fields hp
    exact ⟨_, congrArg (Option.map _) hf, h.free hf⟩
  | newCopy handle result =>
    simp only [PlainStore.act] at hact
    split_ifs at hact with hnew
    obtain ⟨plain, hp, rfl⟩ := Option.map_eq_some_iff.mp hact
    obtain ⟨fields, hf⟩ := h.exists_fields hp
    obtain ⟨s', id, hpromote, hself, hagrees⟩ := h.promoteToShared movedFrom hf
    obtain ⟨objects, hshare, hcopy⟩ := hagrees.copyShared hself hp hnew
    exact ⟨_, by simp [HandleStore.act, hf, hpromote, hshare], hcopy⟩
  | get handle =>
    obtain ⟨plain, hp, hact⟩ := Option.bind_eq_some_iff.mp hact
    obtain ⟨t, ht, hact⟩ := Option.bind_eq_some_iff.mp hact
    obtain rfl := Option.some.inj hact
    obtain ⟨fields, hf⟩ := h.exists_fields hp
    exact ⟨_, by simp [HandleStore.act, hf, h.content_of_find hf hp ht], h.read t⟩
  | getMutable handle t =>
    obtain ⟨plain, hp, hact⟩ := Option.bind_eq_some_iff.mp hact
    obtain ⟨old, hold, hact⟩ := Option.bind_eq_some_iff.mp hact
    obtain rfl := Option.some.inj hact
    obtain ⟨fields, hf⟩ := h.exists_fields hp
    by_cases hcopyable : fields.copyableRaw = none
    · obtain ⟨s', hset, hagrees⟩ := h.setContent hf hp hcopyable t
      exact ⟨_, by simp [HandleStore.act, hf, hcopyable, h.content_of_find hf hp hold, hset],
        hagrees.read old⟩
    · have hsome := Option.isSome_iff_ne_none.mpr hcopyable
      obtain ⟨s₁, id, hpromote, hf₁, hagrees₁⟩ := h.promoteToShared movedFrom hf
      obtain ⟨s', hset, hagrees⟩ := hagrees₁.setContent hf₁ hp rfl t
      exact ⟨_, by simp [HandleStore.act, hf, hsome, hpromote,
        hagrees₁.content_of_find hf₁ hp hold, hset], hagrees.read old⟩
  | write ptr t =>
    simp only [PlainStore.act] at hact
    split_ifs at hact with hptr
    obtain rfl := Option.some.inj hact
    exact ⟨_, rfl, h.write hptr t⟩

end Agrees

/-- A run that the rules for clients allow never dereferences a null or dangling
pointer, and shows what handles show that copy at once. An object exists as long
as a handle holds it, and an object that was not lent to be moved is as the
client assigned it. -/
theorem HandleStore.agrees_of_run (movedFrom : τ → τ) (raw : RawPointer → τ)
    {actions : List (HandleAction τ)} {p : PlainStore τ}
    (hrun : run PlainStore.act (PlainStore.new raw) actions = some p) :
    ∃ s, run (HandleStore.act movedFrom) (HandleStore.new raw) actions = some s ∧
      s.shown = p.shown ∧ (∀ ptr t, p.raw ptr = some t → s.raw ptr = t) ∧
      ∀ id, s.objects.count id = (holders s.handles).count id ∧
        ((s.objects.value id).isSome ↔ id ∈ holders s.handles) := by
  have hagrees : ∃ s, run (HandleStore.act movedFrom) (HandleStore.new raw) actions = some s ∧
      Agrees s p := by
    refine run_history (P := fun actions p => ∃ s, run (HandleStore.act movedFrom)
      (HandleStore.new raw) actions = some s ∧ Agrees s p) ⟨_, rfl, agrees_new raw⟩ ?_ hrun
    intro actions p action p' ⟨s, hs, hagrees⟩ hact
    obtain ⟨s', hs', hagrees'⟩ := hagrees.step movedFrom hact
    exact ⟨s', run_append_eq_some.mpr ⟨s, hs, by rw [run_cons, hs']; rfl⟩, hagrees'⟩
  obtain ⟨s, hs, hagrees⟩ := hagrees
  exact ⟨s, hs, hagrees.shown, fun _ _ => hagrees.raw,
    fun id => ⟨hagrees.counted.count id, hagrees.counted.isSome_value⟩⟩

/-- Copies outlive what was lent, and share what is assigned to one of them. -/
theorem HandleStore.agrees_of_run_shared :
    ∃ s, run (HandleStore.act fun _ : ℕ => 0) (HandleStore.new fun ptr => 10 * ptr)
        [.copyable 1 5, .newCopy 1 2, .free 1, .write 5 99, .get 2, .movable 3 6,
          .getMutable 3 8, .newCopy 3 4, .getMutable 4 9, .get 3] = some s ∧
      s.shown = [50, 60, 8, 9] ∧ s.raw 5 = 99 := by
  obtain ⟨p, hp⟩ : ∃ p, run PlainStore.act (PlainStore.new fun ptr => 10 * ptr)
      [.copyable 1 5, .newCopy 1 2, .free 1, .write 5 99, .get 2, .movable 3 6,
        .getMutable 3 8, .newCopy 3 4, .getMutable 4 9, .get 3] = some p := ⟨_, rfl⟩
  obtain ⟨s, hs, hshown, hraw, -⟩ := HandleStore.agrees_of_run (fun _ => 0) _ hp
  obtain rfl := Option.some.inj hp
  exact ⟨s, hs, hshown, hraw 5 99 rfl⟩

end SpatialWorkers
