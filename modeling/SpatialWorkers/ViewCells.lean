import SpatialWorkers.View

/-!
# One component of one entity

A cell is what a view knows about one component of one entity. Each cell takes
steps of its own, and a view is the collection of its cells: what it holds
after any ops can be read off from the ops that concern the cell.
-/
namespace SpatialWorkers
open InsertionMaps

variable {δ υ τ : Type}

structure Cell (δ : Type) where
  known : Bool
  data : Option δ
  authority : Option Authority

namespace Cell

/-- Nothing is known about the entity. -/
def blank : Cell δ := ⟨false, none, none⟩

/-- Added to the entity if that is known; data that is there already stays. -/
def addComponent (data : δ) (cell : Cell δ) : Cell δ :=
  if cell.known then ⟨true, some (cell.data.getD data), some .kNotAuthoritative⟩ else cell

/-- What an op does to the cell of the component `m` of an entity. -/
def step (m : Metaclass δ υ) (entityId : EntityId) (cell : Cell δ) : Op → Cell δ
  | .addEntity op => if op.entityId = entityId then { cell with known := true } else cell
  | .removeEntity op => if op.entityId = entityId then blank else cell
  | .addComponent c op =>
    if c = m.componentId ∧ op.entityId = entityId then
      cell.addComponent (m.getData op.handle)
    else cell
  | .removeComponent c op =>
    if c = m.componentId ∧ op.entityId = entityId then ⟨cell.known, none, none⟩ else cell
  | .authorityChange c op =>
    if c = m.componentId ∧ op.entityId = entityId then
      { cell with authority := some op.authority }
    else cell
  | .componentUpdate c op =>
    if c = m.componentId ∧ op.entityId = entityId then
      { cell with data := cell.data.map (m.applyTo (m.getUpdate op.handle)) }
    else cell
  | _ => cell

/-- Whether an op can change the cell. -/
def concerns (componentId : ComponentId) (entityId : EntityId) : Op → Bool
  | .addEntity op => op.entityId = entityId
  | .removeEntity op => op.entityId = entityId
  | .addComponent c op => c = componentId ∧ op.entityId = entityId
  | .removeComponent c op => c = componentId ∧ op.entityId = entityId
  | .authorityChange c op => c = componentId ∧ op.entityId = entityId
  | .componentUpdate c op => c = componentId ∧ op.entityId = entityId
  | _ => false

theorem step_of_not_concerns {m : Metaclass δ υ} {entityId : EntityId} {op : Op}
    (h : concerns m.componentId entityId op = false) (cell : Cell δ) :
    step m entityId cell op = cell := by
  cases op <;> simp_all [concerns, step]

theorem foldl_step_filter (m : Metaclass δ υ) (entityId : EntityId) (ops : OpList)
    (cell : Cell δ) :
    (ops.filter (concerns m.componentId entityId)).foldl (step m entityId) cell =
      ops.foldl (step m entityId) cell := by
  induction ops generalizing cell with
  | nil => rfl
  | cons op ops ih =>
    by_cases hop : concerns m.componentId entityId op = true
    · rw [List.filter_cons_of_pos hop, List.foldl_cons, List.foldl_cons, ih]
    · rw [List.filter_cons_of_neg hop, List.foldl_cons,
        step_of_not_concerns (Bool.not_eq_true _ ▸ hop), ih]

end Cell

namespace View

def cell (v : View δ) (entityId : EntityId) (componentId : ComponentId) : Cell δ where
  known := (v.entities.find entityId).isSome
  data := (v.entities.find entityId).bind fun entity => entity.find componentId
  authority :=
    (v.componentAuthority.find entityId).bind fun authority => authority.find componentId

theorem getAuthority_eq_cell (v : View δ) (entityId : EntityId) (componentId : ComponentId) :
    v.getAuthority entityId componentId =
      (v.cell entityId componentId).authority.getD .kNotAuthoritative := by
  unfold getAuthority cell
  cases v.componentAuthority.find entityId with
  | none => rfl
  | some authority => rfl

@[simp] theorem cell_empty (entityId : EntityId) (componentId : ComponentId) :
    (empty : View δ).cell entityId componentId = .blank := rfl

theorem cell_addEntity (op : AddEntityOp) (v : View δ) (id : EntityId) (c : ComponentId) :
    (addEntity op v).cell id c =
      if op.entityId = id then { v.cell id c with known := true } else v.cell id c := by
  simp only [cell, addEntity, InsertionMap.find_emplace]
  split_ifs with hid
  · subst hid
    cases hentity : v.entities.find op.entityId <;>
      cases hauthority : v.componentAuthority.find op.entityId <;> rfl
  · rfl

theorem cell_removeEntity (op : RemoveEntityOp) (v : View δ) (id : EntityId) (c : ComponentId) :
    (removeEntity op v).cell id c = if op.entityId = id then .blank else v.cell id c := by
  simp only [cell, removeEntity, InsertionMap.find_erase]
  split_ifs with hid <;> rfl

theorem cell_setAuthority (entityId : EntityId) (componentId : ComponentId)
    (authority : Authority) (v : View δ) (id : EntityId) (c : ComponentId) :
    (setAuthority entityId componentId authority v).cell id c =
      if componentId = c ∧ entityId = id then { v.cell id c with authority := some authority }
      else v.cell id c := by
  simp only [cell, setAuthority, InsertionMap.find_assign]
  by_cases hid : entityId = id
  · subst hid
    by_cases hc : componentId = c
    · simp [InsertionMap.find_assign, hc]
    · cases hauthority : v.componentAuthority.find entityId <;>
        simp [InsertionMap.find_assign, hc]
  · simp [hid]

theorem cell_addComponent (m : Metaclass δ υ) (op : AddComponentOp δ) (v : View δ)
    (id : EntityId) (c : ComponentId) :
    (addComponent m op v).cell id c =
      if m.componentId = c ∧ op.entityId = id then (v.cell id c).addComponent op.data
      else v.cell id c := by
  unfold addComponent
  cases hentity : v.entities.find op.entityId with
  | none =>
    split_ifs with h
    · obtain ⟨-, rfl⟩ := h
      simp [Cell.addComponent, cell, hentity]
    · rfl
  | some entity =>
    rw [cell_setAuthority]
    by_cases hid : op.entityId = id
    · subst hid
      by_cases hc : m.componentId = c
      · subst hc
        simp [cell, Cell.addComponent, hentity, InsertionMap.find_assign, EntityOf.add,
          InsertionMap.find_emplace]
      · simp [cell, hentity, InsertionMap.find_assign, EntityOf.add, InsertionMap.find_emplace, hc]
    · simp [cell, InsertionMap.find_assign, hid]

theorem cell_removeComponent (m : Metaclass δ υ) (op : RemoveComponentOp) (v : View δ)
    (id : EntityId) (c : ComponentId) :
    (removeComponent m op v).cell id c =
      if m.componentId = c ∧ op.entityId = id then ⟨(v.cell id c).known, none, none⟩
      else v.cell id c := by
  by_cases hid : op.entityId = id
  · subst hid
    by_cases hc : m.componentId = c
    · subst hc
      cases hentity : v.entities.find op.entityId <;>
        cases hauthority : v.componentAuthority.find op.entityId <;>
        simp [cell, removeComponent, hentity, hauthority, InsertionMap.find_assign,
          InsertionMap.find_erase]
    · cases hentity : v.entities.find op.entityId <;>
        cases hauthority : v.componentAuthority.find op.entityId <;>
        simp [cell, removeComponent, hentity, hauthority, InsertionMap.find_assign,
          InsertionMap.find_erase, hc]
  · cases hentity : v.entities.find op.entityId <;>
      cases hauthority : v.componentAuthority.find op.entityId <;>
      simp [cell, removeComponent, hentity, hauthority, InsertionMap.find_assign, hid]

theorem cell_componentUpdate (m : Metaclass δ υ) (op : ComponentUpdateOp υ) (v : View δ)
    (id : EntityId) (c : ComponentId) :
    (componentUpdate m op v).cell id c =
      if m.componentId = c ∧ op.entityId = id then
        { v.cell id c with data := (v.cell id c).data.map (m.applyTo op.update) }
      else v.cell id c := by
  unfold componentUpdate
  cases hentity : v.entities.find op.entityId with
  | none =>
    split_ifs with h
    · obtain ⟨-, rfl⟩ := h
      simp [cell, hentity]
    · rfl
  | some entity =>
    cases hdata : entity.find m.componentId with
    | none =>
      simp only [hdata, Option.isSome_none, Bool.false_eq_true, if_false]
      split_ifs with h
      · obtain ⟨rfl, rfl⟩ := h
        simp [cell, hentity, hdata]
      · rfl
    | some data =>
      simp only [hdata, Option.isSome_some, if_true]
      by_cases hid : op.entityId = id
      · subst hid
        by_cases hc : m.componentId = c
        · subst hc
          simp [cell, hentity, hdata, EntityOf.update, InsertionMap.find_assign]
        · simp [cell, hentity, hdata, EntityOf.update, InsertionMap.find_assign, hc]
      · simp [cell, InsertionMap.find_assign, hid]

/-- The callbacks of one component take a step of its own cells, and leave the
cells of the other components alone. -/
theorem cell_componentStep (m : Metaclass δ υ) {op : Op}
    (hop : componentId? op = some m.componentId) (v : View δ) (id : EntityId) (c : ComponentId) :
    (componentStep m op v).cell id c =
      if m.componentId = c then Cell.step m id (v.cell id c) op else v.cell id c := by
  cases op with
  | addComponent c' op =>
    obtain rfl := Option.some.inj hop
    rw [componentStep, cell_addComponent, Cell.step]
    by_cases hc : m.componentId = c <;> simp [hc]
  | removeComponent c' op =>
    obtain rfl := Option.some.inj hop
    rw [componentStep, cell_removeComponent, Cell.step]
    by_cases hc : m.componentId = c <;> simp [hc]
  | authorityChange c' op =>
    obtain rfl := Option.some.inj hop
    rw [componentStep, authorityChange, cell_setAuthority, Cell.step]
    by_cases hc : m.componentId = c <;> simp [hc]
  | componentUpdate c' op =>
    obtain rfl := Option.some.inj hop
    rw [componentStep, cell_componentUpdate, Cell.step]
    by_cases hc : m.componentId = c <;> simp [hc]
  | _ => cases hop

theorem tracked_eq_some {components : List (Metaclass δ υ)} {op : Op} {m : Metaclass δ υ}
    (h : tracked components op = some m) : m ∈ components ∧ componentId? op = some m.componentId :=
  ⟨List.mem_of_find?_eq_some h, by simpa using List.find?_some h⟩

theorem cell_entityStep {m : Metaclass δ υ} {op : Op} (hop : componentId? op ≠ some m.componentId)
    (v : View δ) (id : EntityId) :
    (entityStep op v).cell id m.componentId = Cell.step m id (v.cell id m.componentId) op := by
  cases op with
  | addEntity op => exact cell_addEntity op v id m.componentId
  | removeEntity op => exact cell_removeEntity op v id m.componentId
  | _ => simp_all [componentId?, entityStep, Cell.step]

/-- Each step of a view is a step of each of its cells. -/
theorem cell_step {components : List (Metaclass δ υ)}
    (hnodup : (components.map Metaclass.componentId).Nodup) {m : Metaclass δ υ}
    (hm : m ∈ components) (v : View δ) (op : Op) (id : EntityId) :
    (step components v op).cell id m.componentId =
      Cell.step m id (v.cell id m.componentId) op := by
  unfold step
  cases htracked : tracked components op with
  | some m' =>
    obtain ⟨hm', hop⟩ := tracked_eq_some htracked
    simp only
    rw [cell_componentStep m' hop]
    split_ifs with hc
    · rw [List.inj_on_of_nodup_map hnodup hm' hm hc]
    · rw [Cell.step_of_not_concerns]
      cases op <;> simp_all [componentId?, Cell.concerns]
  | none =>
    have hne : componentId? op ≠ some m.componentId := by
      simpa using List.find?_eq_none.mp htracked m hm
    exact cell_entityStep hne v id

theorem cell_foldl_step {components : List (Metaclass δ υ)}
    (hnodup : (components.map Metaclass.componentId).Nodup) {m : Metaclass δ υ}
    (hm : m ∈ components) (v : View δ) (ops : OpList) (id : EntityId) :
    (ops.foldl (step components) v).cell id m.componentId =
      ops.foldl (Cell.step m id) (v.cell id m.componentId) := by
  induction ops generalizing v with
  | nil => rfl
  | cons op ops ih => rw [List.foldl_cons, List.foldl_cons, ih, cell_step hnodup hm]

/-- Whatever the ops and their order, processing them never fails, and leaves in
each cell what the ops that concern it, and those alone, say. -/
theorem process_cells {components : List (Metaclass δ υ)}
    (hnodup : (components.map Metaclass.componentId).Nodup) (ops : OpList) (t : τ) :
    ∃ v, (dispatcher components).process ops (empty, t) = .ok (v, t) ∧
      ∀ m ∈ components, ∀ id, v.cell id m.componentId =
        (ops.filter (Cell.concerns m.componentId id)).foldl (Cell.step m id) .blank := by
  refine ⟨ops.foldl (step components) empty, process_dispatcher hnodup ops (empty, t), ?_⟩
  intro m hm id
  rw [cell_foldl_step hnodup hm, Cell.foldl_step_filter, cell_empty]

theorem process_cells_oneField :
    ∃ v : View ℕ, (dispatcher [oneField 54]).process
        [.addEntity ⟨1⟩, .addComponent 54 ⟨1, 7⟩, .componentUpdate 54 ⟨1, 8⟩] (empty, ()) =
        .ok (v, ()) ∧
      v.cell 1 54 = ⟨true, some 8, some .kNotAuthoritative⟩ := by
  obtain ⟨v, hv, hcell⟩ := @process_cells ℕ ℕ Unit [oneField 54] (by decide)
    [.addEntity ⟨1⟩, .addComponent 54 ⟨1, 7⟩, .componentUpdate 54 ⟨1, 8⟩] ()
  exact ⟨v, hv, hcell (oneField 54) List.mem_cons_self 1⟩

/-- The op takes the component away, alone or with its entity. -/
def removes (componentId : ComponentId) (entityId : EntityId) : Op → Bool
  | .removeEntity op => op.entityId = entityId
  | .removeComponent c op => c = componentId ∧ op.entityId = entityId
  | _ => false

/-- The update of the component that the op carries. -/
def updateOf (m : Metaclass δ υ) (entityId : EntityId) : Op → Option υ
  | .componentUpdate c op =>
    if c = m.componentId ∧ op.entityId = entityId then some (m.getUpdate op.handle) else none
  | _ => none

/-- The authority over the component that the op leaves; a repeated
`AddComponent` takes it back. -/
def authorityOf (componentId : ComponentId) (entityId : EntityId) : Op → Option Authority
  | .authorityChange c op =>
    if c = componentId ∧ op.entityId = entityId then some op.authority else none
  | .addComponent c op =>
    if c = componentId ∧ op.entityId = entityId then some .kNotAuthoritative else none
  | _ => none

theorem step_of_present (m : Metaclass δ υ) (id : EntityId) {op : Op}
    (hkept : removes m.componentId id op = false) (data : δ) (authority : Authority) :
    Cell.step m id ⟨true, some data, some authority⟩ op =
      ⟨true, some ((updateOf m id op).elim data fun u => m.applyTo u data),
        some ((authorityOf m.componentId id op).getD authority)⟩ := by
  cases op with
  | addEntity op =>
    simp only [Cell.step, updateOf, authorityOf]
    split_ifs <;> rfl
  | removeEntity op =>
    have h : op.entityId ≠ id := by simpa [removes] using hkept
    simp [Cell.step, h, updateOf, authorityOf]
  | removeComponent c op =>
    have h : ¬ (c = m.componentId ∧ op.entityId = id) := by simpa [removes] using hkept
    simp only [Cell.step, if_neg h, updateOf, authorityOf]
    rfl
  | addComponent c op =>
    simp only [Cell.step, updateOf, authorityOf]
    split_ifs <;> rfl
  | authorityChange c op =>
    simp only [Cell.step, updateOf, authorityOf]
    split_ifs <;> rfl
  | componentUpdate c op =>
    simp only [Cell.step, updateOf, authorityOf]
    split_ifs <;> rfl
  | _ => rfl

theorem foldl_step_of_present (m : Metaclass δ υ) (id : EntityId) {ops : OpList}
    (hkept : ∀ op ∈ ops, removes m.componentId id op = false) (data : δ)
    (authority : Authority) :
    ops.foldl (Cell.step m id) ⟨true, some data, some authority⟩ =
      ⟨true, some ((ops.filterMap (updateOf m id)).foldl (fun d u => m.applyTo u d) data),
        some ((ops.filterMap (authorityOf m.componentId id)).getLastD authority)⟩ := by
  induction ops generalizing data authority with
  | nil => rfl
  | cons op ops ih =>
    rw [List.foldl_cons, step_of_present m id (hkept op List.mem_cons_self),
      ih fun op' hop' => hkept op' (List.mem_cons_of_mem op hop')]
    cases hupdate : updateOf m id op <;> cases hauthority : authorityOf m.componentId id op <;>
      simp only [List.filterMap_cons, hupdate, hauthority, List.getLastD_cons, List.foldl_cons,
        Option.elim_none, Option.elim_some, Option.getD_none, Option.getD_some]

/-- An op that adds the component to a known entity counts from there on, as
long as neither the component nor its entity is removed: the view holds the data
that was there already, else that of the op, with every later update applied in
order, and the authority of the last change. For an entity that is not known the
op counts for nothing. -/
theorem process_since_addComponent {components : List (Metaclass δ υ)}
    (hnodup : (components.map Metaclass.componentId).Nodup) {m : Metaclass δ υ}
    (hm : m ∈ components) {before after : OpList} {handle : ClientHandle} {id : EntityId}
    {v₀ : View δ} {t : τ}
    (hbefore : (dispatcher components).process before (empty, t) = .ok (v₀, t))
    (hkept : ∀ op ∈ after, removes m.componentId id op = false) :
    ∃ v, (dispatcher components).process
        (before ++ .addComponent m.componentId ⟨id, handle⟩ :: after) (empty, t) = .ok (v, t) ∧
      if (v₀.cell id m.componentId).known then
        v.cell id m.componentId =
          ⟨true, some ((after.filterMap (updateOf m id)).foldl (fun d u => m.applyTo u d)
              ((v₀.cell id m.componentId).data.getD (m.getData handle))),
            some (v.getAuthority id m.componentId)⟩ ∧
        v.getAuthority id m.componentId =
          (after.filterMap (authorityOf m.componentId id)).getLastD .kNotAuthoritative
      else
        ∃ v', (dispatcher components).process (before ++ after) (empty, t) = .ok (v', t) ∧
          v.cell id m.componentId = v'.cell id m.componentId := by
  refine ⟨_, process_dispatcher hnodup _ _, ?_⟩
  rw [process_dispatcher hnodup] at hbefore
  have hv : before.foldl (step components) empty = v₀ := congrArg Prod.fst (Except.ok.inj hbefore)
  have hcell : ((before ++ .addComponent m.componentId ⟨id, handle⟩ :: after).foldl
      (step components) empty).cell id m.componentId =
      after.foldl (Cell.step m id)
        ((v₀.cell id m.componentId).addComponent (m.getData handle)) := by
    rw [List.foldl_append, List.foldl_cons, cell_foldl_step hnodup hm, cell_step hnodup hm, hv]
    simp only [Cell.step, and_self, if_true]
  split_ifs with hknown
  · have hdata := foldl_step_of_present m id hkept
      ((v₀.cell id m.componentId).data.getD (m.getData handle)) .kNotAuthoritative
    rw [Cell.addComponent, if_pos hknown, hdata] at hcell
    have hauthority := getAuthority_eq_cell ((before ++
      .addComponent m.componentId ⟨id, handle⟩ :: after).foldl (step components) empty)
      id m.componentId
    rw [hcell, Option.getD_some] at hauthority
    exact ⟨by rw [hcell, hauthority], hauthority⟩
  · refine ⟨_, process_dispatcher hnodup _ _, ?_⟩
    rw [Cell.addComponent, if_neg hknown] at hcell
    rw [hcell, List.foldl_append, cell_foldl_step hnodup hm, hv]

theorem process_since_addComponent_oneField :
    ∃ v : View ℕ, (dispatcher [oneField 54]).process
        ([.addEntity ⟨1⟩] ++ .addComponent 54 ⟨1, 7⟩ ::
          [.componentUpdate 54 ⟨1, 8⟩, .authorityChange 54 ⟨1, .kAuthoritative⟩])
        (empty, ()) = .ok (v, ()) ∧
      v.cell 1 54 = ⟨true, some 8, some .kAuthoritative⟩ := by
  obtain ⟨v, hv, hcell, hauthority⟩ := @process_since_addComponent ℕ ℕ Unit [oneField 54]
    (by decide) (oneField 54) List.mem_cons_self [.addEntity ⟨1⟩]
    [.componentUpdate 54 ⟨1, 8⟩, .authorityChange 54 ⟨1, .kAuthoritative⟩] 7 1 _ ()
    (process_dispatcher (by decide) [.addEntity ⟨1⟩] (empty, ())) (by decide)
  rw [hauthority] at hcell
  exact ⟨v, hv, hcell⟩

/-- Removing an entity forgets it: the ops before no longer count. -/
theorem process_since_removeEntity {components : List (Metaclass δ υ)}
    (hnodup : (components.map Metaclass.componentId).Nodup) {m : Metaclass δ υ}
    (hm : m ∈ components) (before after : OpList) (id : EntityId) (t : τ) :
    ∃ v v', (dispatcher components).process (before ++ .removeEntity ⟨id⟩ :: after) (empty, t) =
        .ok (v, t) ∧
      (dispatcher components).process after (empty, t) = .ok (v', t) ∧
      v.cell id m.componentId = v'.cell id m.componentId := by
  refine ⟨_, _, process_dispatcher hnodup _ _, process_dispatcher hnodup _ _, ?_⟩
  rw [List.foldl_append, List.foldl_cons, cell_foldl_step hnodup hm, cell_foldl_step hnodup hm,
    cell_step hnodup hm]
  simp [Cell.step]

theorem process_since_removeEntity_oneField :
    ∃ v v' : View ℕ, (dispatcher [oneField 54]).process
        ([.addEntity ⟨1⟩, .addComponent 54 ⟨1, 7⟩] ++ .removeEntity ⟨1⟩ :: [.addEntity ⟨1⟩])
        (empty, ()) = .ok (v, ()) ∧
      (dispatcher [oneField 54]).process [.addEntity ⟨1⟩] (empty, ()) = .ok (v', ()) ∧
      v.cell 1 54 = v'.cell 1 54 :=
  process_since_removeEntity (m := oneField 54) (by decide) List.mem_cons_self
    [.addEntity ⟨1⟩, .addComponent 54 ⟨1, 7⟩] [.addEntity ⟨1⟩] 1 ()

end View

end SpatialWorkers
