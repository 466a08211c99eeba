import Mathlib.Data.List.Basic
import Mathlib.Tactic

/-!
# Runs of labelled partial steps

A component is a partial step function: `step s a` is the state after the label
`a`, or `none` when `a` is not enabled in `s`. A run folds the steps over a list
of labels. Two components compose by synchronisation: each label of the whole
is, for each component, one of its own labels or none at all.
-/
namespace SpatialWorkers.LabelledRuns

variable {σ τ α β ℓ γ : Type*}

/-- Take the labelled steps in order; `none` as soon as one is not enabled. -/
def run (step : σ → α → Option σ) (s : σ) (as : List α) : Option σ := as.foldlM step s

@[simp] theorem run_nil (step : σ → α → Option σ) (s : σ) : run step s [] = some s := rfl

@[simp] theorem run_cons (step : σ → α → Option σ) (s : σ) (a : α) (as : List α) :
    run step s (a :: as) = (step s a).bind (fun t => run step t as) := by
  simp only [run, List.foldlM_cons, Option.bind_eq_bind]

theorem run_append (step : σ → α → Option σ) (s : σ) (as bs : List α) :
    run step s (as ++ bs) = (run step s as).bind (fun t => run step t bs) := by
  simp only [run, List.foldlM_append, Option.bind_eq_bind]

theorem run_append_eq_some {step : σ → α → Option σ} {s s' : σ} {as bs : List α} :
    run step s (as ++ bs) = some s' ↔ ∃ t, run step s as = some t ∧ run step t bs = some s' := by
  rw [run_append, Option.bind_eq_some_iff]

theorem run_cons_eq_some {step : σ → α → Option σ} {s s' : σ} {a : α} {as : List α} :
    run step s (a :: as) = some s' ↔ ∃ t, step s a = some t ∧ run step t as = some s' := by
  rw [run_cons, Option.bind_eq_some_iff]

/-- Induction along a run, for an assertion about the labels taken so far and
the state they lead to. -/
theorem run_history {step : σ → α → Option σ} {s₀ : σ} {P : List α → σ → Prop}
    (hinit : P [] s₀)
    (hstep : ∀ as s a s', P as s → step s a = some s' → P (as ++ [a]) s')
    {as : List α} {s : σ} (h : run step s₀ as = some s) : P as s := by
  induction as using List.reverseRecOn generalizing s with
  | nil =>
    obtain rfl : s₀ = s := by simpa using h
    exact hinit
  | append_singleton as a ih =>
    obtain ⟨t, ht, hlast⟩ := run_append_eq_some.mp h
    obtain ⟨s', hs', hend⟩ := run_cons_eq_some.mp hlast
    obtain rfl : s' = s := by simpa using hend
    exact hstep as t a s' (ih ht) hs'

/-- `finish s as` says what completing from `s` with the labels `as` gives. If
one step does not change it, neither does a run. -/
theorem run_completion {step : σ → α → Option σ} (finish : σ → List α → γ)
    (hstep : ∀ s a s' as, step s a = some s' → finish s (a :: as) = finish s' as)
    {as : List α} {s s' : σ} (h : run step s as = some s') (bs : List α) :
    finish s (as ++ bs) = finish s' bs := by
  induction as generalizing s with
  | nil =>
    obtain rfl : s = s' := by simpa using h
    rfl
  | cons a as ih =>
    obtain ⟨t, ht, hrest⟩ := run_cons_eq_some.mp h
    calc
      finish s (a :: (as ++ bs)) = finish t (as ++ bs) := hstep s a t (as ++ bs) ht
      _ = finish s' bs := ih hrest

/-- A component moves on its own labels and stays where it is on the others. -/
def advance (step : σ → α → Option σ) (s : σ) : Option α → Option σ
  | none => some s
  | some a => step s a

/-- Two components side by side. A label moves each component that has a part
in it, and is enabled when each of these is willing. -/
def sync (stepA : σ → α → Option σ) (stepB : τ → β → Option τ)
    (partA : ℓ → Option α) (partB : ℓ → Option β) (s : σ × τ) (l : ℓ) : Option (σ × τ) :=
  (advance stepA s.1 (partA l)).bind fun a =>
    (advance stepB s.2 (partB l)).map fun b => (a, b)

theorem sync_eq_some {stepA : σ → α → Option σ} {stepB : τ → β → Option τ}
    {partA : ℓ → Option α} {partB : ℓ → Option β} {s s' : σ × τ} {l : ℓ} :
    sync stepA stepB partA partB s l = some s' ↔
      advance stepA s.1 (partA l) = some s'.1 ∧ advance stepB s.2 (partB l) = some s'.2 := by
  simp only [sync, Option.bind_eq_some_iff, Option.map_eq_some_iff]
  constructor
  · rintro ⟨a, ha, b, hb, rfl⟩
    exact ⟨ha, hb⟩
  · rintro ⟨ha, hb⟩
    exact ⟨s'.1, ha, s'.2, hb, rfl⟩

/-- One more label of the whole is at most one more label of a component. -/
theorem run_advance {step : σ → α → Option σ} {s t s' : σ} {as : List α} {part : Option α}
    (h : run step s as = some t) (ha : advance step t part = some s') :
    run step s (as ++ part.toList) = some s' := by
  cases part with
  | none =>
    obtain rfl : t = s' := by simpa [advance] using ha
    simpa using h
  | some a =>
    rw [run_append, h]
    simpa [advance] using ha

theorem filterMap_concat (part : ℓ → Option α) (ls : List ℓ) (l : ℓ) :
    (ls ++ [l]).filterMap part = ls.filterMap part ++ (part l).toList := by
  rw [List.filterMap_append, List.filterMap_cons, List.filterMap_nil]
  cases part l <;> rfl

/-- The first component of a synchronised run takes a run of its own. -/
theorem run_sync_fst {stepA : σ → α → Option σ} {stepB : τ → β → Option τ}
    {partA : ℓ → Option α} {partB : ℓ → Option β} {s s' : σ × τ} {ls : List ℓ}
    (h : run (sync stepA stepB partA partB) s ls = some s') :
    run stepA s.1 (ls.filterMap partA) = some s'.1 := by
  refine run_history (P := fun ls t => run stepA s.1 (ls.filterMap partA) = some t.1) rfl ?_ h
  intro ls t l t' ht hl
  rw [filterMap_concat]
  exact run_advance ht (sync_eq_some.mp hl).1

/-- So does the second. -/
theorem run_sync_snd {stepA : σ → α → Option σ} {stepB : τ → β → Option τ}
    {partA : ℓ → Option α} {partB : ℓ → Option β} {s s' : σ × τ} {ls : List ℓ}
    (h : run (sync stepA stepB partA partB) s ls = some s') :
    run stepB s.2 (ls.filterMap partB) = some s'.2 := by
  refine run_history (P := fun ls t => run stepB s.2 (ls.filterMap partB) = some t.2) rfl ?_ h
  intro ls t l t' ht hl
  rw [filterMap_concat]
  exact run_advance ht (sync_eq_some.mp hl).2

end SpatialWorkers.LabelledRuns
