import SpatialWorkers.Dispatching
import SpatialWorkers.View

/-!
# Callbacks of a program beside those of the view

A program registers its own callbacks with a view after the view has registered
its. On an op that adds something they find the view with the op applied, and on
an op that takes something away they still find what is about to go.
-/
namespace SpatialWorkers
open InsertionMaps LabelledRuns Dispatcher

variable {δ υ σ τ T : Type}

namespace View

def trackRegistrations (m : Metaclass δ υ) : List (Registration (View δ × τ)) :=
  [.addComponent m.componentId m.getData (callback (addComponent m)),
    .removeComponent m.componentId (callback (removeComponent m)),
    .authorityChange m.componentId (callback (authorityChange m)),
    .componentUpdate m.componentId m.getUpdate (callback (componentUpdate m))]

/-- What the constructor registers. -/
def ownRegistrations (components : List (Metaclass δ υ)) : List (Registration (View δ × τ)) :=
  .addEntity (callback addEntity) :: .removeEntity (callback removeEntity) ::
    components.flatMap trackRegistrations

theorem dispatcher_eq (components : List (Metaclass δ υ)) :
    (dispatcher components : Dispatcher (View δ × τ)) =
      (ownRegistrations components).foldl register new := by
  have htrack : ∀ d : Dispatcher (View δ × τ),
      components.foldl trackComponent d =
        (components.flatMap trackRegistrations).foldl register d := by
    induction components with
    | nil => exact fun _ => rfl
    | cons m components ih =>
      intro d
      rw [List.foldl_cons, ih, List.flatMap_cons, List.foldl_append]
      rfl
  exact htrack _

end View

namespace Dispatcher

/-- The registrations that are left of some actions, the first key being `next`. -/
def laterRegistrations (next : CallbackKey) (actions : List (Action σ)) :
    List (CallbackKey × Registration σ) :=
  (actions.foldl Registrations.step (next, [])).2

theorem foldl_step_append {rs : List (CallbackKey × Registration σ)} {actions : List (Action σ)}
    (hkept : ∀ key, .remove key ∈ actions → key ∉ rs.map Prod.fst) (next : CallbackKey)
    (later : List (CallbackKey × Registration σ)) :
    actions.foldl Registrations.step (next, rs ++ later) =
      ((actions.foldl Registrations.step (next, later)).1,
        rs ++ (actions.foldl Registrations.step (next, later)).2) := by
  induction actions generalizing next later with
  | nil => rfl
  | cons action actions ih =>
    have hrest := ih fun key hkey => hkept key (List.mem_cons_of_mem _ hkey)
    rw [List.foldl_cons, List.foldl_cons]
    cases action with
    | register r =>
      rw [Registrations.step, Registrations.step, List.append_assoc]
      exact hrest _ _
    | remove key =>
      have hrs : rs.filter (fun entry => entry.1 ≠ key) = rs := by
        apply List.filter_eq_self.mpr
        intro entry hentry
        have hne : entry.1 ≠ key := fun heq =>
          hkept key List.mem_cons_self (heq ▸ List.mem_map_of_mem hentry)
        simpa using hne
      rw [Registrations.step, Registrations.step, List.filter_append, hrs]
      exact hrest _ _

theorem run_register (d : Dispatcher σ) (rs : List (Registration σ)) :
    run act d (rs.map Action.register) = some (rs.foldl register d) := by
  induction rs generalizing d with
  | nil => rfl
  | cons r rs ih => exact ih (d.register r)

/-- Without removals the keys count the registrations. -/
theorem registrations_register (rs : List (Registration σ)) :
    (registrations (rs.map Action.register)).1 = rs.length ∧
      (registrations (rs.map Action.register)).2.map Prod.snd = rs ∧
      ∀ key ∈ (registrations (rs.map Action.register)).2.map Prod.fst, key < rs.length := by
  induction rs using List.reverseRecOn with
  | nil => exact ⟨rfl, rfl, by simp [registrations]⟩
  | append_singleton rs r ih =>
    obtain ⟨hnext, hrs, hkeys⟩ := ih
    rw [List.map_append, registrations, List.foldl_append, ← registrations, List.map_singleton,
      List.foldl_cons, List.foldl_nil, Registrations.step, List.length_append]
    refine ⟨congrArg (· + 1) hnext, ?_, fun key hkey => ?_⟩
    · rw [List.map_append, hrs, List.map_singleton]
    · rw [List.map_append, List.mem_append] at hkey
      rcases hkey with hold | hlast
      · exact Nat.lt_succ_of_lt (hkeys key hold)
      · obtain rfl : key = (registrations (rs.map Action.register)).1 := by simpa using hlast
        rw [hnext]
        exact Nat.lt_succ_self _

theorem runCalls_append (calls calls' : List (σ → Except σ σ)) (s : σ) :
    runCalls (calls ++ calls') s = (runCalls calls s).bind (runCalls calls') := by
  unfold runCalls
  rw [List.foldlM_append]
  rfl

end Dispatcher

namespace View

/-- The callbacks of the program for an op, of those that are left. -/
def programCalls (components : List (Metaclass δ υ)) (actions : List (Action (View δ × τ)))
    (op : Op) : List (View δ × τ → Except (View δ × τ) (View δ × τ)) :=
  (laterRegistrations (ownRegistrations components : List (Registration (View δ × τ))).length
    actions).filterMap fun entry => entry.2.call op

/-- Whatever a program registers with a view, and removes of it, its callbacks
run on the view as it is after an op that adds something, and before an op that
takes something away. -/
theorem process_with_callbacks {components : List (Metaclass δ υ)}
    (hnodup : (components.map Metaclass.componentId).Nodup)
    {actions : List (Action (View δ × τ))} {d : Dispatcher (View δ × τ)}
    (hrun : run act (dispatcher components) actions = some d)
    (hkeys : ∀ key, .remove key ∈ actions →
      (ownRegistrations components : List (Registration (View δ × τ))).length ≤ key)
    (ops : OpList) (s : View δ × τ) :
    d.process ops s = ops.foldlM (fun s op =>
      if op.reversed then
        (runCalls (programCalls components actions op).reverse s).bind fun s =>
          .ok (step components s.1 op, s.2)
      else runCalls (programCalls components actions op) (step components s.1 op, s.2)) s := by
  obtain ⟨hnext, -, hbelow⟩ :=
    registrations_register (ownRegistrations components : List (Registration (View δ × τ)))
  have hview : run act new (((ownRegistrations components : List (Registration (View δ × τ)))).map
      Action.register) = some (dispatcher components) := by
    rw [run_register, dispatcher_eq]
  have hall := run_append_eq_some.mpr ⟨_, hview, hrun⟩
  have hviewHolds := (holds_of_run hview).2
  have hallHolds := (holds_of_run hall).2
  rw [registrations, List.foldl_append, ← registrations] at hallHolds
  generalize registrations ((ownRegistrations components : List (Registration (View δ × τ))).map
    Action.register) = first at hnext hbelow hviewHolds hallHolds
  obtain ⟨next, rs⟩ := first
  obtain rfl : next = _ := hnext
  have hkept : ∀ key, .remove key ∈ actions → key ∉ rs.map Prod.fst := fun key hkey hmem =>
    Nat.lt_irrefl _ ((hbelow key hmem).trans_le (hkeys key hkey))
  have happend := foldl_step_append hkept
    (ownRegistrations components : List (Registration (View δ × τ))).length []
  rw [List.append_nil] at happend
  rw [happend] at hallHolds
  rw [hallHolds.process]
  refine congrArg (fun f => ops.foldlM f s) (funext fun s => funext fun op => ?_)
  have hown : ∀ s : View δ × τ,
      runCalls (calls op (entriesOf rs)) s = .ok (step components s.1 op, s.2) := by
    intro s
    rw [← hviewHolds.handle, handle_dispatcher hnodup]
  rw [calls_entriesOf] at hown
  rw [calls_entriesOf, List.filterMap_append]
  cases hreversed : op.reversed with
  | true =>
    simp only [hreversed, if_true] at hown ⊢
    rw [List.reverse_append, runCalls_append]
    exact congrArg _ (funext hown)
  | false =>
    simp only [hreversed, Bool.false_eq_true, if_false] at hown ⊢
    rw [runCalls_append, hown]
    rfl

/-- A callback that records whether an entity is in the view. -/
def recordKnown (entityId : EntityId) : T → View δ × List Bool → Except (View δ × List Bool)
    (View δ × List Bool) :=
  fun _ s => .ok (s.1, s.2 ++ [(s.1.entities.find entityId).isSome])

theorem process_with_callbacks_known :
    ∃ d : Dispatcher (View ℕ × List Bool), run act (dispatcher [oneField 54])
        [.register (.addEntity (recordKnown 1)), .register (.removeEntity (recordKnown 1)),
          .register (.removeEntity (recordKnown 1)), .remove 7] = some d ∧
      d.process [.addEntity ⟨1⟩, .removeEntity ⟨1⟩] (empty, []) = .ok (empty, [true, true]) := by
  obtain ⟨d, hd⟩ : ∃ d : Dispatcher (View ℕ × List Bool), run act (dispatcher [oneField 54])
      [.register (.addEntity (recordKnown 1)), .register (.removeEntity (recordKnown 1)),
        .register (.removeEntity (recordKnown 1)), .remove 7] = some d := ⟨_, rfl⟩
  refine ⟨d, hd, ?_⟩
  rw [process_with_callbacks (by decide) hd]
  · rfl
  · intro key hkey
    obtain rfl : key = 7 := by simpa using hkey
    decide

end View

end SpatialWorkers
