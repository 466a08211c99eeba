import SpatialWorkers.Dispatcher
import SpatialWorkers.LabelledRuns

/-!
# Registering and removing callbacks during a call

A callback may register callbacks with the map that is calling it, remove some
of them, and start further calls. The map itself is left alone meanwhile: what
is asked for waits in `toAdd` and `toRemove` until the outermost call ends. A
run below is any order of such actions that a program can bring about, each
call with its own position in the map.
-/
namespace SpatialWorkers
open InsertionMaps LabelledRuns

variable {β : Type}

namespace CallbackMap

/-- Whether there was anything to remove; the guard is released afterwards. -/
def remove (m : CallbackMap β) (key : CallbackKey) : CallbackMap β × Bool :=
  let m := m.enter
  let hadPendingAdd := decide (key ∈ m.toAdd.keys)
  let dropped := { m with toAdd := m.toAdd.erase key }
  if key ∈ m.map.keys then
    (leave { dropped with toRemove := m.toRemove.emplace key 0 }, decide (key ∉ m.toRemove.keys))
  else (leave dropped, hadPendingAdd)

theorem remove_of_mem {m : CallbackMap β} {key : CallbackKey} (h : key ∈ m.map.keys) :
    m.remove key =
      (leave { m.enter with
          toAdd := m.toAdd.erase key
          toRemove := m.toRemove.emplace key 0 }, decide (key ∉ m.toRemove.keys)) := if_pos h

theorem remove_of_notMem {m : CallbackMap β} {key : CallbackKey} (h : key ∉ m.map.keys) :
    m.remove key =
      (leave { m.enter with toAdd := m.toAdd.erase key }, decide (key ∈ m.toAdd.keys)) := if_neg h

/-- The current callbacks are those in the map, plus `toAdd`, minus `toRemove`. -/
def current (m : CallbackMap β) : List (CallbackKey × β) :=
  (m.map.entries ++ m.toAdd.entries).filter fun e => e.1 ∉ m.toRemove.keys

/-- What is postponed fits the map, and no key but the `used` ones occurs. -/
structure Consistent (used : List CallbackKey) (m : CallbackMap β) : Prop where
  pending : ∀ k ∈ m.toAdd.keys, k ∉ m.map.keys
  removed : ∀ k ∈ m.toRemove.keys, k ∈ m.map.keys
  used : ∀ k ∈ m.map.keys ++ m.toAdd.keys, k ∈ used

/-- Outside any call nothing is postponed. -/
structure Valid (used : List CallbackKey) (m : CallbackMap β) : Prop extends
    Consistent used m where
  depth : 0 ≤ m.callDepth
  rest : m.callDepth = 0 → m.AtRest

theorem valid_new (used : List CallbackKey) : (new : CallbackMap β).Valid used where
  pending := by simp [new]
  removed := by simp [new]
  used := by simp [new]
  depth := le_refl 0
  rest _ := atRest_new

theorem Valid.mono {used used' : List CallbackKey} {m : CallbackMap β} (h : m.Valid used)
    (hsub : used ⊆ used') : m.Valid used' :=
  { h with used := fun k hk => hsub (h.used k hk) }

/-- Merging changes where the callbacks are kept, not which ones there are. -/
theorem entries_updateCallbacks {used : List CallbackKey} {m : CallbackMap β}
    (h : m.Consistent used) : m.updateCallbacks.map.entries = m.current := by
  simp only [updateCallbacks, InsertionMap.entries_foldl_erase, current]
  rw [InsertionMap.entries_insert m.toAdd.nodup h.pending]

theorem current_of_atRest {m : CallbackMap β} (h : m.AtRest) : m.current = m.map.entries := by
  simp [current, h.toAdd, h.toRemove]

theorem keys_current_sublist (m : CallbackMap β) :
    (m.current.map Prod.fst).Sublist (m.map.keys ++ m.toAdd.keys) := by
  have h := (List.filter_sublist (p := fun e => decide (e.1 ∉ m.toRemove.keys))
    (l := m.map.entries ++ m.toAdd.entries)).map Prod.fst
  rwa [List.map_append] at h

/-- Leaving keeps the current callbacks, whether or not the call is the
outermost one. -/
theorem valid_leave {used : List CallbackKey} {m : CallbackMap β} (h : m.Consistent used)
    (hdepth : 1 ≤ m.callDepth) : m.leave.Valid used ∧ m.leave.current = m.current := by
  by_cases hlast : m.callDepth - 1 = 0
  · have hleave : m.leave = { m with callDepth := 0 }.updateCallbacks := by
      simp [leave, hlast]
    have hrest : m.leave.AtRest := hleave ▸ ⟨rfl, rfl, rfl⟩
    have hentries : m.leave.map.entries = m.current :=
      hleave ▸ entries_updateCallbacks (m := { m with callDepth := 0 }) ⟨h.1, h.2, h.3⟩
    refine ⟨⟨⟨?_, ?_, ?_⟩, by rw [hrest.callDepth], fun _ => hrest⟩, ?_⟩
    · simp [hrest.toAdd]
    · simp [hrest.toRemove]
    · intro k hk
      rw [hrest.toAdd, InsertionMap.keys_empty, List.append_nil, InsertionMap.keys,
        hentries] at hk
      exact h.used k ((keys_current_sublist m).subset hk)
    · rw [current_of_atRest hrest, hentries]
  · have hleave : m.leave = { m with callDepth := m.callDepth - 1 } := by
      simp [leave, hlast]
    rw [hleave]
    exact ⟨⟨⟨h.1, h.2, h.3⟩, by simp only; omega, fun h0 => absurd h0 hlast⟩, rfl⟩

theorem current_enter (m : CallbackMap β) : m.enter.current = m.current := rfl

theorem valid_enter {used : List CallbackKey} {m : CallbackMap β} (h : m.Valid used) :
    m.enter.Valid used := by
  have hdepth := h.depth
  refine ⟨⟨h.pending, h.removed, h.used⟩, ?_, ?_⟩
  · simp only [enter]
    omega
  · intro h0
    simp only [enter] at h0
    omega

/-- An entry is a current callback when it is in the map or waiting, and not
about to be removed. -/
theorem mem_keys_current {used : List CallbackKey} {m : CallbackMap β} (h : m.Consistent used)
    {k : CallbackKey} : k ∈ m.current.map Prod.fst ↔
      (k ∈ m.map.keys ∧ k ∉ m.toRemove.keys) ∨ k ∈ m.toAdd.keys := by
  have hadd : k ∈ m.toAdd.keys → k ∉ m.toRemove.keys := fun hk hr =>
    h.pending k hk (h.removed k hr)
  simp only [current, List.mem_map, List.mem_filter, List.mem_append, InsertionMap.keys,
    decide_eq_true_eq] at *
  constructor
  · rintro ⟨e, ⟨he | he, hnot⟩, rfl⟩
    · exact Or.inl ⟨⟨e, he, rfl⟩, hnot⟩
    · exact Or.inr ⟨e, he, rfl⟩
  · rintro (⟨⟨e, he, rfl⟩, hnot⟩ | ⟨e, he, rfl⟩)
    · exact ⟨e, ⟨Or.inl he, hnot⟩, rfl⟩
    · exact ⟨e, ⟨Or.inr he, hadd ⟨e, he, rfl⟩⟩, rfl⟩

/-- Registering under a new key puts the callback behind all current ones. -/
theorem valid_add {used : List CallbackKey} {m : CallbackMap β} (h : m.Valid used)
    {key : CallbackKey} (hnew : key ∉ used) (callback : β) :
    (m.add key callback).Valid (key :: used) ∧
      (m.add key callback).current = m.current ++ [(key, callback)] := by
  have hdepth := h.depth
  have hkey : key ∉ m.map.keys ++ m.toAdd.keys := fun hk => hnew (h.used key hk)
  obtain ⟨hmap, hadd⟩ := not_or.mp (fun hk => hkey (List.mem_append.mpr hk))
  have hremove : key ∉ m.toRemove.keys := fun hk => hmap (h.removed key hk)
  have hentries := InsertionMap.entries_assign hadd callback
  have hkeys : (m.toAdd.assign key callback).keys = m.toAdd.keys ++ [key] := by
    simp [InsertionMap.keys, hentries]
  let m' : CallbackMap β :=
    { m.enter with toAdd := m.toAdd.assign key callback, toRemove := m.toRemove.erase key }
  have hm' : m'.Consistent (key :: used) := by
    refine ⟨?_, ?_, ?_⟩
    · intro k hk
      rcases List.mem_append.mp (hkeys ▸ hk) with hk | hk
      · exact h.pending k hk
      · obtain rfl : k = key := by simpa using hk
        exact hmap
    · intro k hk
      exact h.removed k (InsertionMap.erase_of_notMem hremove ▸ hk)
    · intro k hk
      simp only [m', enter, hkeys] at hk
      have husedk := h.used k
      simp only [List.mem_append, List.mem_cons] at hk husedk ⊢
      tauto
  have hcurrent : m'.current = m.current ++ [(key, callback)] := by
    simp only [m', current, enter, hentries, InsertionMap.erase_of_notMem hremove]
    rw [← List.append_assoc, List.filter_append]
    simp [hremove]
  have hleave := valid_leave hm' (by simp only [m', enter]; omega)
  exact ⟨hleave.1, hleave.2.trans hcurrent⟩

/-- A key in the map is marked for removal; the entry goes with the next merge. -/
theorem valid_remove_of_mem {used : List CallbackKey} {m : CallbackMap β} (h : m.Valid used)
    {key : CallbackKey} (hmap : key ∈ m.map.keys) :
    (m.remove key).1.Valid used ∧
      (m.remove key).1.current = m.current.filter (fun e => e.1 ≠ key) := by
  have hdepth := h.depth
  have hadd : key ∉ m.toAdd.keys := fun hk => h.pending key hk hmap
  let m' : CallbackMap β :=
    { m.enter with toAdd := m.toAdd.erase key, toRemove := m.toRemove.emplace key 0 }
  have hremove : (m.remove key).1 = m'.leave := by rw [remove_of_mem hmap]
  have hmem (k : CallbackKey) : k ∈ m'.toRemove.keys ↔ k = key ∨ k ∈ m.toRemove.keys := by
    rw [← InsertionMap.isSome_find, ← InsertionMap.isSome_find]
    simp only [m', InsertionMap.find_emplace]
    grind
  have hm' : m'.Consistent used := by
    refine ⟨?_, ?_, ?_⟩
    · intro k hk
      exact h.pending k (InsertionMap.erase_of_notMem hadd ▸ hk)
    · intro k hk
      rcases (hmem k).mp hk with rfl | hk
      · exact hmap
      · exact h.removed k hk
    · intro k hk
      simp only [m', enter, InsertionMap.erase_of_notMem hadd] at hk
      exact h.used k hk
  have hcurrent : m'.current = m.current.filter (fun e => e.1 ≠ key) := by
    simp only [current, hmem, List.filter_filter]
    simp only [m', enter, InsertionMap.erase_of_notMem hadd]
    apply List.filter_congr
    intro e _
    simp
  rw [hremove]
  have hleave := valid_leave hm' (by simp only [m', enter]; omega)
  exact ⟨hleave.1, hleave.2.trans hcurrent⟩

/-- A key that only waits to be added is forgotten at once. -/
theorem valid_remove_of_notMem {used : List CallbackKey} {m : CallbackMap β} (h : m.Valid used)
    {key : CallbackKey} (hmap : key ∉ m.map.keys) :
    (m.remove key).1.Valid used ∧
      (m.remove key).1.current = m.current.filter (fun e => e.1 ≠ key) := by
  have hdepth := h.depth
  let m' : CallbackMap β := { m.enter with toAdd := m.toAdd.erase key }
  have hremove : (m.remove key).1 = m'.leave := by rw [remove_of_notMem hmap]
  have hsub : m'.toAdd.keys.Sublist m.toAdd.keys := List.filter_sublist.map Prod.fst
  have hm' : m'.Consistent used := by
    refine ⟨fun k hk => h.pending k (hsub.subset hk), h.removed, fun k hk => ?_⟩
    exact h.used k ((List.Sublist.refl m.map.keys).append hsub |>.subset hk)
  have hfilter : m.map.entries.filter (fun e => e.1 ≠ key) = m.map.entries := by
    apply List.filter_eq_self.mpr
    intro e he
    have hne : e.1 ≠ key := fun hk => hmap (hk ▸ List.mem_map_of_mem he)
    simpa using hne
  have hcurrent : m'.current = m.current.filter (fun e => e.1 ≠ key) := by
    calc
      m'.current = (m.map.entries.filter (fun e => e.1 ≠ key) ++
          m.toAdd.entries.filter (fun e => e.1 ≠ key)).filter
            (fun e => e.1 ∉ m.toRemove.keys) := by
        rw [hfilter]
        rfl
      _ = ((m.map.entries ++ m.toAdd.entries).filter (fun e => e.1 ≠ key)).filter
            (fun e => e.1 ∉ m.toRemove.keys) := by
        rw [← List.filter_append]
      _ = m.current.filter (fun e => e.1 ≠ key) := by
        rw [current, List.filter_filter, List.filter_filter]
        exact List.filter_congr fun _ _ => Bool.and_comm _ _
  rw [hremove]
  have hleave := valid_leave hm' (by simp only [m', enter]; omega)
  exact ⟨hleave.1, hleave.2.trans hcurrent⟩

/-- Removing drops the callback of the key and no other. -/
theorem valid_remove {used : List CallbackKey} {m : CallbackMap β} (h : m.Valid used)
    (key : CallbackKey) :
    (m.remove key).1.Valid used ∧
      (m.remove key).1.current = m.current.filter (fun e => e.1 ≠ key) := by
  by_cases hmap : key ∈ m.map.keys
  · exact valid_remove_of_mem h hmap
  · exact valid_remove_of_notMem h hmap

/-- The answer of `remove`: whether the key had a current callback. -/
theorem remove_snd {used : List CallbackKey} {m : CallbackMap β} (h : m.Valid used)
    (key : CallbackKey) : (m.remove key).2 = true ↔ key ∈ m.current.map Prod.fst := by
  rw [mem_keys_current h.toConsistent]
  by_cases hmap : key ∈ m.map.keys
  · have hadd : key ∉ m.toAdd.keys := fun hk => h.pending key hk hmap
    rw [remove_of_mem hmap, decide_eq_true_iff]
    simp [hmap, hadd]
  · rw [remove_of_notMem hmap, decide_eq_true_iff]
    simp [hmap]

/-- What a program can do with a map: start a call, let it reach its next
callback, end it, and register or remove callbacks at any point. -/
inductive Action (β : Type)
  | invoke (reversed : Bool)
  | call (key : CallbackKey)
  | finish
  | add (key : CallbackKey) (callback : β)
  | remove (key : CallbackKey)

/-- A call in progress: its direction and the position of its iterator. -/
structure Frame where
  reversed : Bool
  position : ℕ

/-- The map, and the calls in progress from the innermost outwards. -/
structure Calling (β : Type) where
  callbacks : CallbackMap β
  frames : List Frame

def Calling.new : Calling β := ⟨.new, []⟩

/-- The entries in the order of the iteration, `rbegin` to `rend` if reversed. -/
def iterate (m : CallbackMap β) (reversed : Bool) : List (CallbackKey × β) :=
  if reversed then m.map.entries.reverse else m.map.entries

/-- The loops of `InvokeAll` and `ReverseInvokeAll`, one iteration at a time. -/
def act (s : Calling β) : Action β → Option (Calling β)
  | .invoke reversed => some ⟨s.callbacks.enter, ⟨reversed, 0⟩ :: s.frames⟩
  | .call key =>
    match s.frames with
    | [] => none
    | frame :: frames =>
      if ((s.callbacks.iterate frame.reversed)[frame.position]?).map Prod.fst = some key then
        some { s with frames := { frame with position := frame.position + 1 } :: frames }
      else none
  | .finish =>
    match s.frames with
    | [] => none
    | frame :: frames =>
      if (s.callbacks.iterate frame.reversed).length ≤ frame.position then
        some ⟨s.callbacks.leave, frames⟩
      else none
  | .add key callback => some { s with callbacks := s.callbacks.add key callback }
  | .remove key => some { s with callbacks := (s.callbacks.remove key).1 }

/-- The keys under which callbacks were registered, in order. -/
def addedKeys (as : List (Action β)) : List CallbackKey :=
  as.filterMap fun
    | .add key _ => some key
    | _ => none

/-- What is registered after the actions, if changes took effect at once. -/
def register (registered : List (CallbackKey × β)) : Action β → List (CallbackKey × β)
  | .add key callback => registered ++ [(key, callback)]
  | .remove key => registered.filter fun e => e.1 ≠ key
  | _ => registered

def registered (as : List (Action β)) : List (CallbackKey × β) := as.foldl register []

/-- The depth counts the calls in progress, and the current callbacks are the
registered ones. -/
structure Tracks (as : List (Action β)) (s : Calling β) : Prop where
  valid : s.callbacks.Valid (addedKeys as)
  depth : s.callbacks.callDepth = s.frames.length
  current : s.callbacks.current = registered as

theorem leave_callDepth (m : CallbackMap β) : m.leave.callDepth = m.callDepth - 1 := by
  simp only [leave, updateCallbacks]
  split_ifs <;> rfl

theorem add_callDepth (m : CallbackMap β) (key : CallbackKey) (callback : β) :
    (m.add key callback).callDepth = m.callDepth := by
  unfold add
  rw [leave_callDepth]
  simp [enter]

theorem remove_callDepth (m : CallbackMap β) (key : CallbackKey) :
    (m.remove key).1.callDepth = m.callDepth := by
  by_cases hmap : key ∈ m.map.keys
  · rw [remove_of_mem hmap, leave_callDepth]
    simp [enter]
  · rw [remove_of_notMem hmap, leave_callDepth]
    simp [enter]

theorem addedKeys_concat (as : List (Action β)) (a : Action β) :
    addedKeys (as ++ [a]) = addedKeys as ++ addedKeys [a] := List.filterMap_append

theorem registered_concat (as : List (Action β)) (a : Action β) :
    registered (as ++ [a]) = register (registered as) a := by
  simp [registered]

theorem tracks_step {as : List (Action β)} {s s' : Calling β} {a : Action β}
    (h : Tracks as s) (hnodup : (addedKeys (as ++ [a])).Nodup) (hstep : act s a = some s') :
    Tracks (as ++ [a]) s' := by
  obtain ⟨hvalid, hdepth, hcurrent⟩ := h
  have hmono := hvalid.mono (List.subset_append_left (addedKeys as) (addedKeys [a]))
  rw [← addedKeys_concat] at hmono
  cases a with
  | invoke reversed =>
    obtain rfl := Option.some.inj hstep
    refine ⟨valid_enter hmono, by simp [enter, hdepth], ?_⟩
    rw [registered_concat, current_enter, hcurrent]
    rfl
  | call key =>
    simp only [act] at hstep
    split at hstep
    · cases hstep
    · next frame frames hframes =>
      split_ifs at hstep
      obtain rfl := Option.some.inj hstep
      refine ⟨hmono, by rw [hdepth, hframes]; rfl, ?_⟩
      rw [registered_concat, hcurrent]
      rfl
  | finish =>
    simp only [act] at hstep
    split at hstep
    · cases hstep
    · next frame frames hframes =>
      split_ifs at hstep
      obtain rfl := Option.some.inj hstep
      rw [hframes, List.length_cons] at hdepth
      obtain ⟨hleave, hsame⟩ := valid_leave hmono.toConsistent (by omega)
      refine ⟨hleave, by rw [leave_callDepth, hdepth]; simp, ?_⟩
      rw [registered_concat, hsame, hcurrent]
      rfl
  | add key callback =>
    obtain rfl := Option.some.inj hstep
    have hnew : key ∉ addedKeys as := by
      rw [addedKeys_concat, List.nodup_append] at hnodup
      intro hk
      exact hnodup.2.2 key hk key (by simp [addedKeys]) rfl
    obtain ⟨hadd, hlast⟩ := valid_add hvalid hnew callback
    refine ⟨hadd.mono ?_, by rw [add_callDepth, hdepth], ?_⟩
    · rw [addedKeys_concat]
      simp [addedKeys]
    · rw [registered_concat, hlast, hcurrent]
      rfl
  | remove key =>
    obtain rfl := Option.some.inj hstep
    obtain ⟨hremove, hfilter⟩ := valid_remove hmono key
    refine ⟨hremove, by rw [remove_callDepth, hdepth], ?_⟩
    rw [registered_concat, hfilter, hcurrent]
    rfl

theorem tracks_of_run {as : List (Action β)} {s : Calling β} (hrun : run act .new as = some s)
    (hnodup : (addedKeys as).Nodup) : Tracks as s := by
  refine run_history (P := fun as s => (addedKeys as).Nodup → Tracks as s) ?_ ?_ hrun hnodup
  · exact fun _ => ⟨valid_new _, rfl, rfl⟩
  · intro as s a s' ih hstep hnodup
    have hnodup' := addedKeys_concat as a ▸ hnodup
    exact tracks_step (ih (List.nodup_append.mp hnodup').1) hnodup hstep

/-- After any run in which no key is registered twice, the current callbacks are
the registered ones in the order of their registration, the map holds exactly
them whenever no call is in progress, and `remove` answers whether its key is
registered. -/
theorem registered_of_run {as : List (Action β)} {s : Calling β}
    (hrun : run act .new as = some s) (hnodup : (addedKeys as).Nodup) :
    s.callbacks.current = registered as ∧
      (s.frames = [] → s.callbacks.AtRest ∧ s.callbacks.map.entries = registered as) ∧
      ∀ key, (s.callbacks.remove key).2 = true ↔ key ∈ (registered as).map Prod.fst := by
  obtain ⟨hvalid, hdepth, hcurrent⟩ := tracks_of_run hrun hnodup
  refine ⟨hcurrent, fun hframes => ?_, fun key => ?_⟩
  · have hrest : s.callbacks.AtRest := hvalid.rest (by rw [hdepth, hframes]; rfl)
    exact ⟨hrest, by rw [← hcurrent, current_of_atRest hrest]⟩
  · rw [remove_snd hvalid, hcurrent]

/-- The calls made by a frame that has `height` others on top of it; the calls
that those make are left out. -/
def directCalls : ℕ → List (Action β) → List CallbackKey
  | _, [] => []
  | height, .invoke _ :: as => directCalls (height + 1) as
  | height, .finish :: as => directCalls (height - 1) as
  | 0, .call key :: as => key :: directCalls 0 as
  | height + 1, .call _ :: as => directCalls (height + 1) as
  | height, _ :: as => directCalls height as

/-- The actions end each call that they start, and no other one. -/
def Nested : ℕ → List (Action β) → Prop
  | height, [] => height = 0
  | height, .invoke _ :: as => Nested (height + 1) as
  | 0, .finish :: _ => False
  | height + 1, .finish :: as => Nested height as
  | height, _ :: as => Nested height as

/-- The map does not change while a call is in progress. -/
theorem leave_map {m : CallbackMap β} (h : m.callDepth ≠ 1) : m.leave.map = m.map := by
  have h0 : m.callDepth - 1 ≠ 0 := by omega
  simp [leave, h0]

theorem add_map {m : CallbackMap β} (h : m.callDepth ≠ 0) (key : CallbackKey) (callback : β) :
    (m.add key callback).map = m.map := by
  unfold add
  rw [leave_map (by simp [enter, h])]
  rfl

theorem remove_map {m : CallbackMap β} (h : m.callDepth ≠ 0) (key : CallbackKey) :
    (m.remove key).1.map = m.map := by
  by_cases hmap : key ∈ m.map.keys
  · rw [remove_of_mem hmap, leave_map (by simp [enter, h])]
    rfl
  · rw [remove_of_notMem hmap, leave_map (by simp [enter, h])]
    rfl

/-- The frame at the bottom walks the map it found, whatever happens on top of
it: the calls it makes are those between its two positions. -/
theorem directCalls_of_run {as : List (Action β)} {s s' : Calling β} {inner outer : List Frame}
    {frame : Frame} (hframes : s.frames = inner ++ frame :: outer)
    (hdepth : s.callbacks.callDepth = s.frames.length) (hnested : Nested inner.length as)
    (hrun : run act s as = some s') :
    ∃ position, s'.frames = ⟨frame.reversed, position⟩ :: outer ∧
      s'.callbacks.map = s.callbacks.map ∧
      s'.callbacks.callDepth = s'.frames.length ∧
      ((s.callbacks.iterate frame.reversed).drop frame.position).map Prod.fst =
        directCalls inner.length as ++
          ((s.callbacks.iterate frame.reversed).drop position).map Prod.fst := by
  induction as generalizing s inner frame with
  | nil =>
    obtain rfl : s = s' := by simpa using hrun
    obtain rfl : inner = [] := List.length_eq_zero_iff.mp hnested
    exact ⟨frame.position, hframes, rfl, hdepth, rfl⟩
  | cons a as ih =>
    obtain ⟨t, hstep, hrest⟩ := run_cons_eq_some.mp hrun
    have hpos : s.callbacks.callDepth ≠ 0 := by
      rw [hdepth, hframes]
      simp only [List.length_append, List.length_cons]
      omega
    have hsame (inner' : List Frame) (htframes : t.frames = inner' ++ frame :: outer)
        (hmap : t.callbacks.map = s.callbacks.map)
        (htdepth : t.callbacks.callDepth = t.frames.length) (hnested' : Nested inner'.length as) :
        ∃ position, s'.frames = ⟨frame.reversed, position⟩ :: outer ∧
          s'.callbacks.map = s.callbacks.map ∧
          s'.callbacks.callDepth = s'.frames.length ∧
          ((s.callbacks.iterate frame.reversed).drop frame.position).map Prod.fst =
            directCalls inner'.length as ++
              ((s.callbacks.iterate frame.reversed).drop position).map Prod.fst := by
      have hcalls := ih htframes htdepth hnested' hrest
      unfold iterate at hcalls ⊢
      rwa [hmap] at hcalls
    cases a with
    | invoke reversed =>
      obtain rfl := Option.some.inj hstep
      refine hsame (⟨reversed, 0⟩ :: inner) ?_ rfl ?_ hnested
      · rw [hframes]
        rfl
      · simp [enter, hdepth]
    | call key =>
      simp only [act] at hstep
      cases inner with
      | nil =>
        simp only [hframes, List.nil_append] at hstep
        split_ifs at hstep with hkey
        have ht := (Option.some.inj hstep).symm
        obtain ⟨e, he, rfl⟩ := Option.map_eq_some_iff.mp hkey
        obtain ⟨hlt, hget⟩ := List.getElem?_eq_some_iff.mp he
        have htframes : t.frames = [] ++ ⟨frame.reversed, frame.position + 1⟩ :: outer := by
          rw [ht]
          rfl
        have hcallbacks : t.callbacks = s.callbacks := by rw [ht]
        obtain ⟨position, hframes', hmap, hdepth', hcalls⟩ :=
          ih htframes (by rw [hcallbacks, hdepth, hframes, htframes]; simp) hnested hrest
        rw [hcallbacks] at hmap hcalls
        refine ⟨position, hframes', hmap, hdepth', ?_⟩
        rw [List.drop_eq_getElem_cons hlt, List.map_cons, hcalls, hget]
        rfl
      | cons top inner =>
        simp only [hframes, List.cons_append] at hstep
        split_ifs at hstep with hkey
        obtain rfl := Option.some.inj hstep
        refine hsame (⟨top.reversed, top.position + 1⟩ :: inner) rfl rfl ?_ hnested
        simp [hdepth, hframes]
    | finish =>
      simp only [act] at hstep
      cases inner with
      | nil => exact absurd hnested id
      | cons top inner =>
        simp only [hframes, List.cons_append] at hstep
        split_ifs at hstep with hlast
        obtain rfl := Option.some.inj hstep
        rw [hframes] at hdepth
        simp only [List.cons_append, List.length_cons, List.length_append] at hdepth
        refine hsame inner rfl (leave_map (by omega)) ?_ hnested
        rw [leave_callDepth, hdepth]
        simp
    | add key callback =>
      obtain rfl := Option.some.inj hstep
      exact hsame inner hframes (add_map hpos key callback)
        ((add_callDepth _ _ _).trans hdepth) hnested
    | remove key =>
      obtain rfl := Option.some.inj hstep
      exact hsame inner hframes (remove_map hpos key) ((remove_callDepth _ _).trans hdepth) hnested

/-- A call started outside any other one makes exactly the calls that were
registered when it began, each once and in its direction: what is registered
meanwhile is not called, and what is removed meanwhile still is. -/
theorem calls_of_invoke {before during : List (Action β)} {s s' : Calling β} {reversed : Bool}
    (hbefore : run act .new before = some s) (hnodup : (addedKeys before).Nodup)
    (houter : s.frames = []) (hnested : Nested 0 during)
    (hrun : run act s (.invoke reversed :: (during ++ [.finish])) = some s') :
    directCalls 0 during =
      if reversed then ((registered before).map Prod.fst).reverse
      else (registered before).map Prod.fst := by
  obtain ⟨hvalid, hdepth, hcurrent⟩ := tracks_of_run hbefore hnodup
  have hentries : s.callbacks.map.entries = registered before := by
    rw [← hcurrent, current_of_atRest (hvalid.rest (by rw [hdepth, houter]; rfl))]
  obtain ⟨t, ht, hrest⟩ := run_cons_eq_some.mp hrun
  obtain rfl := Option.some.inj ht
  obtain ⟨u, hu, hlast⟩ := run_append_eq_some.mp hrest
  have hopened : (⟨s.callbacks.enter, ⟨reversed, 0⟩ :: s.frames⟩ : Calling β).frames =
      [] ++ ⟨reversed, 0⟩ :: s.frames := rfl
  obtain ⟨position, hframes, hmap, -, hcalls⟩ :=
    directCalls_of_run hopened (by simp [enter, hdepth]) hnested hu
  obtain ⟨v, hfinish, -⟩ := run_cons_eq_some.mp hlast
  simp only [act, hframes] at hfinish
  split_ifs at hfinish with hend
  have hdrop : (s.callbacks.enter.iterate reversed).drop position = [] := by
    refine List.drop_eq_nil_iff.mpr ?_
    unfold iterate at hend ⊢
    rwa [hmap] at hend
  rw [hdrop, List.map_nil, List.append_nil, List.drop_zero] at hcalls
  have hiterate : s.callbacks.enter.iterate reversed =
      if reversed then (registered before).reverse else registered before := by
    rw [← hentries]
    rfl
  rw [List.length_nil] at hcalls
  rw [← hcalls, hiterate]
  split_ifs <;> simp

/-- What a first callback does that removes the second one, registers a third,
and calls all. -/
def reentrantCall : List (Action String) :=
  [.call 0, .remove 1, .add 2 "third", .invoke true, .call 1, .call 0, .finish, .call 1]

theorem calls_of_invoke_reentrant : directCalls 0 reentrantCall = [0, 1] :=
  @calls_of_invoke String [.add 0 "first", .add 1 "second"] _ _ _ false rfl (by decide) rfl rfl
    rfl

theorem registered_of_run_reentrant :
    ∃ s : Calling String, run act .new
        ([.add 0 "first", .add 1 "second", .invoke false] ++ reentrantCall ++ [.finish]) = some s ∧
      s.callbacks.map.entries = [(0, "first"), (2, "third")] :=
  ⟨_, rfl, ((@registered_of_run String
    ([.add 0 "first", .add 1 "second", .invoke false] ++ reentrantCall ++ [.finish]) _ rfl
    (by decide)).2.1 rfl).2⟩

end CallbackMap

end SpatialWorkers
