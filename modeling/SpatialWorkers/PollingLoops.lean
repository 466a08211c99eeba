import Mathlib.Data.List.Basic
import Mathlib.Tactic

/-!
# Guarded loops that poll for batches

`pollLoop guard body` is the loop `while (guard) { body(next batch) }` run on a
finite sequence of batches. The body may abort the whole program in the middle
of a batch, and the guard is read at the head of the loop only, so a batch that
closes the guard is still handled to its end. What the loop computes is related
to one fold over the concatenated batches, and a loop whose body keeps more
state is related to a loop on a view of that state.
-/
namespace SpatialWorkers.PollingLoops

variable {ε ε' σ τ α : Type*}

/-- How a polling loop ends on the batches it was given: still polling, stopped
by its guard, or aborted inside the body. -/
inductive Outcome (ε σ : Type*)
  | polling (state : σ)
  | stopped (state : σ)
  | aborted (state : ε)
  deriving DecidableEq, Repr

namespace Outcome

def map (f : σ → τ) (g : ε → ε') : Outcome ε σ → Outcome ε' τ
  | polling s => polling (f s)
  | stopped s => stopped (f s)
  | aborted e => aborted (g e)

/-- Read something off the state in which the loop was left. -/
def elim (f : σ → τ) (g : ε → τ) : Outcome ε σ → τ
  | polling s => f s
  | stopped s => f s
  | aborted e => g e

end Outcome

/-- An outcome and the batches that were never asked for. -/
structure Polled (ε σ α : Type*) where
  outcome : Outcome ε σ
  unread : List (List α)
  deriving DecidableEq, Repr

/-- The loop itself: one batch an iteration, the guard read before each. -/
def pollLoop (guard : σ → Bool) (body : σ → List α → Except ε σ) :
    σ → List (List α) → Polled ε σ α
  | s, [] => if guard s then ⟨.polling s, []⟩ else ⟨.stopped s, []⟩
  | s, batch :: rest =>
    if guard s then
      match body s batch with
      | .ok s' => pollLoop guard body s' rest
      | .error e => ⟨.aborted e, rest⟩
    else ⟨.stopped s, batch :: rest⟩

section Equations

variable {guard : σ → Bool} {body : σ → List α → Except ε σ} {s : σ}

theorem pollLoop_closed (hs : guard s = false) (batches : List (List α)) :
    pollLoop guard body s batches = ⟨.stopped s, batches⟩ := by
  cases batches <;> simp [pollLoop, hs]

theorem pollLoop_nil (hs : guard s = true) : pollLoop guard body s [] = ⟨.polling s, []⟩ := by
  simp [pollLoop, hs]

theorem pollLoop_ok {batch : List α} {s' : σ} (hs : guard s = true)
    (hb : body s batch = .ok s') (rest : List (List α)) :
    pollLoop guard body s (batch :: rest) = pollLoop guard body s' rest := by
  simp [pollLoop, hs, hb]

theorem pollLoop_error {batch : List α} {e : ε} (hs : guard s = true)
    (hb : body s batch = .error e) (rest : List (List α)) :
    pollLoop guard body s (batch :: rest) = ⟨.aborted e, rest⟩ := by
  simp [pollLoop, hs, hb]

end Equations

/-- How a fold over the whole stream is read as an outcome of the loop. -/
def settle (guard : σ → Bool) : Except ε σ → Outcome ε σ
  | .ok s => if guard s then .polling s else .stopped s
  | .error e => .aborted e

/-- Batch independence. If the guard can only close at the end of the stream,
the loop ends as one fold over the stream does, however it was split. -/
theorem pollLoop_outcome_eq_settle (guard : σ → Bool) (f : σ → α → Except ε σ) (s : σ)
    (batches : List (List α))
    (hclose : ∀ front back s', batches.flatten = front ++ back → back ≠ [] →
      front.foldlM f s = .ok s' → guard s' = true) :
    (pollLoop guard (fun s batch => batch.foldlM f s) s batches).outcome =
      settle guard (batches.flatten.foldlM f s) := by
  induction batches generalizing s with
  | nil => cases hs : guard s <;> simp [pollLoop, settle, pure, Except.pure, hs]
  | cons batch rest ih =>
    cases hs : guard s with
    | false =>
      have hempty : (batch :: rest).flatten = [] := by
        by_contra hne
        rw [hclose [] _ s rfl hne rfl] at hs
        contradiction
      rw [pollLoop_closed hs, hempty]
      simp [settle, pure, Except.pure, hs]
    | true =>
      rw [List.flatten_cons, List.foldlM_append]
      cases hb : batch.foldlM f s with
      | error e =>
        rw [pollLoop_error hs hb]
        rfl
      | ok s' =>
        rw [pollLoop_ok hs hb]
        refine ih s' ?_
        intro front back s'' hfront hback hrun
        refine hclose (batch ++ front) back s'' ?_ hback ?_
        · rw [List.flatten_cons, hfront, List.append_assoc]
        · rw [List.foldlM_append, hb]
          exact hrun

/-- Simulation. A view that decides the guard and commutes with the body
commutes with the loop; the same batches stay unread. -/
theorem pollLoop_map (guard : σ → Bool) (guard' : τ → Bool)
    (body : σ → List α → Except ε σ) (body' : τ → List α → Except ε' τ)
    (view : σ → τ) (viewErr : ε → ε') (hguard : ∀ s, guard' (view s) = guard s)
    (hbody : ∀ s batch, body' (view s) batch = ((body s batch).map view).mapError viewErr)
    (s : σ) (batches : List (List α)) :
    pollLoop guard' body' (view s) batches =
      ⟨(pollLoop guard body s batches).outcome.map view viewErr,
        (pollLoop guard body s batches).unread⟩ := by
  induction batches generalizing s with
  | nil => cases hs : guard s <;> simp [pollLoop, hguard, hs, Outcome.map]
  | cons batch rest ih =>
    cases hs : guard s with
    | false =>
      rw [pollLoop_closed hs, pollLoop_closed (by rw [hguard, hs])]
      rfl
    | true =>
      have hs' : guard' (view s) = true := by rw [hguard, hs]
      cases hb : body s batch with
      | error e =>
        have hb' : body' (view s) batch = .error (viewErr e) := by rw [hbody, hb]; rfl
        rw [pollLoop_error hs hb, pollLoop_error hs' hb']
        rfl
      | ok s' =>
        have hb' : body' (view s) batch = .ok (view s') := by rw [hbody, hb]; rfl
        rw [pollLoop_ok hs hb, pollLoop_ok hs' hb', ih]

/-- A loop that stopped has folded its body over the batches it fetched, and
closed its guard. -/
theorem pollLoop_stopped {guard : σ → Bool} {body : σ → List α → Except ε σ}
    {s s' : σ} {batches unread : List (List α)}
    (h : pollLoop guard body s batches = ⟨.stopped s', unread⟩) :
    guard s' = false ∧ ∃ fetched, batches = fetched ++ unread ∧ fetched.foldlM body s = .ok s' := by
  induction batches generalizing s with
  | nil =>
    cases hs : guard s with
    | false =>
      rw [pollLoop_closed hs] at h
      cases h
      exact ⟨hs, [], rfl, rfl⟩
    | true =>
      rw [pollLoop_nil hs] at h
      cases h
  | cons batch rest ih =>
    cases hs : guard s with
    | false =>
      rw [pollLoop_closed hs] at h
      cases h
      exact ⟨hs, [], rfl, rfl⟩
    | true =>
      cases hb : body s batch with
      | error e =>
        rw [pollLoop_error hs hb] at h
        cases h
      | ok t =>
        rw [pollLoop_ok hs hb] at h
        obtain ⟨hguard, fetched, hsplit, hfold⟩ := ih h
        refine ⟨hguard, batch :: fetched, by rw [hsplit, List.cons_append], ?_⟩
        rw [List.foldlM_cons, hb]
        exact hfold

/-- When quiet batches keep the guard and every other batch closes it, the loop
fetches up to the first batch that is not quiet and no further. -/
theorem pollLoop_unread {guard : σ → Bool} {body : σ → List α → Except ε σ} {quiet : α → Bool}
    (hquiet : ∀ s batch, guard s = true → batch.all quiet = true →
      ∃ s', body s batch = .ok s' ∧ guard s' = true)
    (hloud : ∀ s batch s', guard s = true → batch.all quiet = false →
      body s batch = .ok s' → guard s' = false)
    {s : σ} (hs : guard s = true) (batches : List (List α)) :
    (pollLoop guard body s batches).unread = (batches.dropWhile (·.all quiet)).tail := by
  induction batches generalizing s with
  | nil => rw [pollLoop_nil hs]; rfl
  | cons batch rest ih =>
    rw [List.dropWhile_cons]
    cases hq : batch.all quiet with
    | true =>
      obtain ⟨s', hb, hs'⟩ := hquiet s batch hs hq
      rw [pollLoop_ok hs hb, ih hs', if_pos rfl]
    | false =>
      rw [if_neg Bool.false_ne_true, List.tail_cons]
      cases hb : body s batch with
      | error e => rw [pollLoop_error hs hb]
      | ok s' => rw [pollLoop_ok hs hb, pollLoop_closed (hloud s batch s' hs hq hb)]

/-- A counter that every iteration advances by one counts the batches fetched. -/
theorem pollLoop_count (guard : σ → Bool) (body : σ → List α → Except ε σ)
    (count : σ → ℕ) (countErr : ε → ℕ)
    (hok : ∀ s batch s', body s batch = .ok s' → count s' = count s + 1)
    (herror : ∀ s batch e, body s batch = .error e → countErr e = count s + 1)
    (s : σ) (batches : List (List α)) :
    (pollLoop guard body s batches).outcome.elim count countErr +
      (pollLoop guard body s batches).unread.length = count s + batches.length := by
  induction batches generalizing s with
  | nil => cases hs : guard s <;> simp [pollLoop, hs, Outcome.elim]
  | cons batch rest ih =>
    cases hs : guard s with
    | false =>
      rw [pollLoop_closed hs]
      rfl
    | true =>
      cases hb : body s batch with
      | error e =>
        rw [pollLoop_error hs hb]
        have hcount := herror s batch e hb
        simp only [Outcome.elim, List.length_cons]
        omega
      | ok s' =>
        rw [pollLoop_ok hs hb]
        have hcount := hok s batch s' hb
        have hrest := ih s'
        simp only [List.length_cons]
        omega

end SpatialWorkers.PollingLoops
