import SpatialWorkers.Dispatching

/-!
# Registering and removing while ops are processed

A callback may register callbacks with the dispatcher that is calling it, remove
some, and have further ops processed. The loop over a map goes on over the
entries that it found; all other maps change at once. A run below is any order
of such actions that a program can bring about, whatever maps they concern.
-/
namespace SpatialWorkers
open InsertionMaps LabelledRuns

variable {β σ : Type}

namespace CallbackMap

/-- A guard that postpones nothing changes nothing, at any depth. -/
theorem leave_enter_of_valid {used : List CallbackKey} {m : CallbackMap β} (h : m.Valid used) :
    m.enter.leave = m := by
  by_cases hdepth : m.callDepth = 0
  · exact leave_enter (h.rest hdepth)
  · obtain ⟨map, toAdd, toRemove, callDepth⟩ := m
    simp only at hdepth
    simp [enter, leave, hdepth]

/-- A key without a current callback is left where it is. -/
theorem remove_of_notMem_current {used : List CallbackKey} {m : CallbackMap β} (h : m.Valid used)
    {key : CallbackKey} (hkey : key ∉ m.current.map Prod.fst) : m.remove key = (m, false) := by
  have habsent : (m.remove key).2 = false := by
    rw [← Bool.not_eq_true, remove_snd h]
    exact hkey
  rw [mem_keys_current h.toConsistent, not_or, not_and_not_right] at hkey
  obtain ⟨hremove, hadd⟩ := hkey
  refine Prod.ext ?_ habsent
  by_cases hmap : key ∈ m.map.keys
  · have hemplace : m.toRemove.emplace key 0 = m.toRemove := by
      rw [InsertionMap.emplace, dif_pos (hremove hmap)]
    rw [remove_of_mem hmap, InsertionMap.erase_of_notMem hadd, hemplace]
    exact leave_enter_of_valid h
  · rw [remove_of_notMem hmap, InsertionMap.erase_of_notMem hadd]
    exact leave_enter_of_valid h

end CallbackMap

namespace Dispatcher

/-- A loop in progress over the map of a place; none for an op of a component
that has no map. -/
abbrev Loop := Option (Slot × CallbackMap.Frame)

/-- The dispatcher, and the loops from the innermost outwards. -/
structure Processing (σ : Type) where
  dispatcher : Dispatcher σ
  loops : List Loop

/-- What a program can bring about: `Process` comes to an op, the innermost loop
to its next callback or to its end, and a running callback registers, removes or
has further ops processed, as a program outside of all loops can do. -/
inductive ProcessingAction (σ : Type) : Type 1
  | invoke (op : Op)
  | call (key : CallbackKey)
  | finish
  | register (r : Registration σ)
  | remove (key : CallbackKey)

namespace Processing

def new : Processing σ := ⟨.new, []⟩

/-- No code of the program runs before the first callback of a loop. -/
def isRunning (s : Processing σ) : Bool :=
  match s.loops with
  | [] => true
  | none :: _ => false
  | some (_, frame) :: _ => decide (0 < frame.position)

def act (s : Processing σ) : ProcessingAction σ → Option (Processing σ)
  | .invoke op =>
    if s.isRunning then
      if s.dispatcher.hasMap op.slot then
        some ⟨s.dispatcher.modifyAt op.slot CallbackMap.enter,
          some (op.slot, ⟨op.reversed, 0⟩) :: s.loops⟩
      else some ⟨s.dispatcher, none :: s.loops⟩
    else none
  | .call key =>
    match s.loops with
    | some (slot, frame) :: loops =>
      if (((s.dispatcher.callbacksAt slot).iterate frame.reversed)[frame.position]?).map Prod.fst =
          some key then
        some ⟨s.dispatcher, some (slot, { frame with position := frame.position + 1 }) :: loops⟩
      else none
    | _ => none
  | .finish =>
    match s.loops with
    | some (slot, frame) :: loops =>
      if ((s.dispatcher.callbacksAt slot).iterate frame.reversed).length ≤ frame.position then
        some ⟨s.dispatcher.modifyAt slot CallbackMap.leave, loops⟩
      else none
    | none :: loops => some ⟨s.dispatcher, loops⟩
    | [] => none
  | .register r => if s.isRunning then some ⟨s.dispatcher.register r, s.loops⟩ else none
  | .remove key =>
    if s.isRunning then (s.dispatcher.remove key).map fun d => ⟨d, s.loops⟩ else none

end Processing

/-- The loops over the map of a place. -/
def depthAt (slot : Slot) (loops : List Loop) : ℕ :=
  loops.countP fun loop => loop.map Prod.fst = some slot

theorem depthAt_some (slot slot' : Slot) (frame : CallbackMap.Frame) (loops : List Loop) :
    depthAt slot' (some (slot, frame) :: loops) =
      depthAt slot' loops + if slot = slot' then 1 else 0 := by
  simp [depthAt, List.countP_cons]

@[simp] theorem depthAt_none (slot : Slot) (loops : List Loop) :
    depthAt slot (none :: loops) = depthAt slot loops := by
  simp [depthAt]

/-- The registrations, if all changes took effect at once. -/
def asked : ProcessingAction σ → Option (Action σ)
  | .register r => some (.register r)
  | .remove key => some (.remove key)
  | _ => none

def registered (as : List (ProcessingAction σ)) : Registrations σ :=
  registrations (as.filterMap asked)

theorem registered_concat (as : List (ProcessingAction σ)) (a : ProcessingAction σ) :
    registered (as ++ [a]) = ((asked a).map (Registrations.step (registered as))).getD
      (registered as) := by
  rw [registered, List.filterMap_append, registrations, List.foldl_append]
  cases h : asked a with
  | none => simp [h, registered, registrations]
  | some action => simp [h, registered, registrations]

/-- The depth of a map counts the loops over it, and its current callbacks are
the registered ones. -/
structure Tracks (rs : Registrations σ) (s : Processing σ) : Prop where
  next : s.dispatcher.currentCallbackKey = rs.1
  nodup : (rs.2.map Prod.fst).Nodup
  below : ∀ key ∈ rs.2.map Prod.fst, key < rs.1
  valid : ∀ slot, (s.dispatcher.callbacksAt slot).Valid (List.range rs.1)
  depth : ∀ slot, (s.dispatcher.callbacksAt slot).callDepth = depthAt slot s.loops
  current : ∀ slot, (s.dispatcher.callbacksAt slot).current =
    (entriesOf rs.2).filterMap (Registered.select slot)
  mapped : ∀ slot frame, some (slot, frame) ∈ s.loops → s.dispatcher.hasMap slot = true

theorem tracks_new : Tracks ((0, []) : Registrations σ) Processing.new where
  next := rfl
  nodup := List.nodup_nil
  below := by simp
  valid slot := callbacksAt_new slot ▸ CallbackMap.valid_new _
  depth slot := congrArg CallbackMap.callDepth (callbacksAt_new slot)
  current slot := congrArg CallbackMap.current (callbacksAt_new slot)
  mapped := by simp [Processing.new]

/-- The rule for a step that changes the map of one place. -/
theorem Tracks.modify {next : CallbackKey} {rs rs' : List (CallbackKey × Registration σ)}
    {s : Processing σ} (h : Tracks (next, rs) s) {slot : Slot}
    (hmap : s.dispatcher.hasMap slot = true)
    {f : CallbackMap (Callback σ slot.Wrapper) → CallbackMap (Callback σ slot.Wrapper)}
    {loops : List Loop} (hsub : rs'.Sublist rs)
    (hvalid : (f (s.dispatcher.callbacksAt slot)).Valid (List.range next))
    (hdepth : (f (s.dispatcher.callbacksAt slot)).callDepth = depthAt slot loops)
    (hcurrent : (f (s.dispatcher.callbacksAt slot)).current =
      (entriesOf rs').filterMap (Registered.select slot))
    (hdepth' : ∀ slot', slot ≠ slot' → depthAt slot' loops = depthAt slot' s.loops)
    (hcurrent' : ∀ slot', slot ≠ slot' → (entriesOf rs').filterMap (Registered.select slot') =
      (entriesOf rs).filterMap (Registered.select slot'))
    (hmapped : ∀ slot' frame, some (slot', frame) ∈ loops → s.dispatcher.hasMap slot' = true) :
    Tracks (next, rs') ⟨s.dispatcher.modifyAt slot f, loops⟩ := by
  have hkeys := hsub.map Prod.fst
  refine ⟨(currentCallbackKey_modifyAt _ _ _).trans h.next, h.nodup.sublist hkeys,
    fun key hkey => h.below key (hkeys.subset hkey), fun slot' => ?_, fun slot' => ?_,
    fun slot' => ?_,
    fun slot' frame hframe => hasMap_modifyAt _ slot (hmapped slot' frame hframe) f⟩
  · by_cases hne : slot = slot'
    · subst hne
      rw [callbacksAt_modifyAt _ hmap]
      exact hvalid
    · rw [callbacksAt_modifyAt_of_ne _ hne]
      exact h.valid slot'
  · by_cases hne : slot = slot'
    · subst hne
      rw [callbacksAt_modifyAt _ hmap]
      exact hdepth
    · rw [callbacksAt_modifyAt_of_ne _ hne, hdepth' slot' hne]
      exact h.depth slot'
  · by_cases hne : slot = slot'
    · subst hne
      rw [callbacksAt_modifyAt _ hmap]
      exact hcurrent
    · rw [callbacksAt_modifyAt_of_ne _ hne, hcurrent' slot' hne]
      exact h.current slot'

theorem Tracks.mem_current {rs : Registrations σ} {s : Processing σ} (h : Tracks rs s)
    {slot : Slot} {key : CallbackKey} :
    key ∈ (s.dispatcher.callbacksAt slot).current.map Prod.fst ↔
      ∃ entry ∈ rs.2, entry.1 = key ∧ entry.2.registered.1 = slot := by
  rw [h.current, Registered.mem_keys_select]
  simp [entriesOf]

theorem Tracks.hasMap_of_mem {rs : Registrations σ} {s : Processing σ} (h : Tracks rs s)
    {entry : CallbackKey × Registration σ} (hentry : entry ∈ rs.2) :
    s.dispatcher.hasMap entry.2.registered.1 = true := by
  by_contra hnone
  have hkey := h.mem_current.mpr ⟨entry, hentry, rfl, rfl⟩
  rw [callbacksAt_of_not_hasMap _ (Bool.eq_false_iff.mpr hnone)] at hkey
  simp [CallbackMap.new, CallbackMap.current] at hkey

/-- At any time, removing drops a key that is registered, and terminates the
program for any other one. -/
theorem Tracks.remove {next : CallbackKey} {rs : List (CallbackKey × Registration σ)}
    {s : Processing σ} (h : Tracks (next, rs) s) (key : CallbackKey) :
    (key ∉ rs.map Prod.fst ∧ s.dispatcher.remove key = none) ∨
      ∃ slot, s.dispatcher.hasMap slot = true ∧ key ∈ rs.map Prod.fst ∧
        s.dispatcher.remove key =
          some (s.dispatcher.modifyAt slot fun m => (m.remove key).1) ∧
        Tracks (next, rs.filter fun entry => entry.1 ≠ key)
          ⟨s.dispatcher.modifyAt slot fun m => (m.remove key).1, s.loops⟩ := by
  have habsent : ∀ slot, (¬ ∃ entry ∈ rs, entry.1 = key ∧ entry.2.registered.1 = slot) →
      (s.dispatcher.callbacksAt slot).remove key = (s.dispatcher.callbacksAt slot, false) :=
    fun slot hkey => CallbackMap.remove_of_notMem_current (h.valid slot)
      fun hmem => hkey (h.mem_current.mp hmem)
  by_cases hkey : key ∈ rs.map Prod.fst
  · obtain ⟨⟨key, r⟩, hentry, rfl⟩ := List.mem_map.mp hkey
    have hother : ∀ slot, r.registered.1 ≠ slot →
        ¬ ∃ entry ∈ rs, entry.1 = key ∧ entry.2.registered.1 = slot := by
      rintro slot hne ⟨entry, hentry', hfst, rfl⟩
      obtain rfl := List.inj_on_of_nodup_map h.nodup hentry hentry' hfst.symm
      exact hne rfl
    have hmap := h.hasMap_of_mem hentry
    have hvalid := h.valid r.registered.1
    have hheld : ((s.dispatcher.callbacksAt r.registered.1).remove key).2 = true :=
      (CallbackMap.remove_snd hvalid key).mpr (h.mem_current.mpr ⟨_, hentry, rfl, rfl⟩)
    obtain ⟨hvalid', hcurrent⟩ := CallbackMap.valid_remove hvalid key
    have hfilter : ∀ slot, (entriesOf (rs.filter fun entry => entry.1 ≠ key)).filterMap
        (Registered.select slot) = ((entriesOf rs).filterMap (Registered.select slot)).filter
          fun selected => selected.1 ≠ key := by
      intro slot
      rw [← filterMap_select_filter, entriesOf, entriesOf, List.filter_map]
      rfl
    refine Or.inr ⟨r.registered.1, hmap, hkey, removeFrom_of_held hmap hheld
      (fun slot hne => habsent slot (hother slot hne)) (mem_removalOrder _), ?_⟩
    refine h.modify hmap List.filter_sublist hvalid' ?_ ?_ (fun _ _ => rfl) ?_ h.mapped
    · rw [CallbackMap.remove_callDepth]
      exact h.depth _
    · rw [hcurrent, h.current, hfilter]
    · intro slot hne
      rw [hfilter]
      apply List.filter_eq_self.mpr
      intro selected hselected
      have hne' : selected.1 ≠ key := by
        intro heq
        refine hother slot hne (h.mem_current.mp ?_)
        rw [h.current]
        exact heq ▸ List.mem_map_of_mem hselected
      simpa using hne'
  · refine Or.inl ⟨hkey, removeFrom_of_absent (fun slot => habsent slot ?_) removalOrder⟩
    rintro ⟨entry, hentry, hfst, -⟩
    exact hkey (hfst ▸ List.mem_map_of_mem hentry)

theorem Tracks.register {next : CallbackKey} {rs : List (CallbackKey × Registration σ)}
    {s : Processing σ} (h : Tracks (next, rs) s) (r : Registration σ) :
    Tracks (next + 1, rs ++ [(next, r)]) ⟨s.dispatcher.register r, s.loops⟩ := by
  have hnext : s.dispatcher.currentCallbackKey = next := h.next
  have hnew : next ∉ List.range next := by simp
  have hmono : next :: List.range next ⊆ List.range (next + 1) := by
    rw [List.range_succ]
    simp
  have hentries : ∀ slot, (entriesOf (rs ++ [(next, r)])).filterMap (Registered.select slot) =
      (entriesOf rs).filterMap (Registered.select slot) ++
        [(next, r.registered)].filterMap (Registered.select slot) := by
    intro slot
    rw [entriesOf, List.map_append, List.filterMap_append]
    rfl
  rw [register_eq]
  refine ⟨congrArg (· + 1) hnext, ?_, ?_, fun slot => ?_, fun slot => ?_, fun slot => ?_,
    fun slot frame hframe => hasMap_add _ (h.mapped slot frame hframe) _⟩
  · rw [List.map_append, List.nodup_append]
    refine ⟨h.nodup, by simp, ?_⟩
    intro key hkey key' hkey' heq
    obtain rfl : key' = next := by simpa using hkey'
    exact Nat.lt_irrefl _ (heq ▸ h.below key hkey)
  · intro key hkey
    rw [List.map_append, List.mem_append] at hkey
    rcases hkey with hold | hlast
    · exact Nat.lt_succ_of_lt (h.below key hold)
    · obtain rfl : key = next := by simpa using hlast
      exact Nat.lt_succ_self _
  · rw [add, callbacksAt_withKey, hnext]
    by_cases hne : r.registered.1 = slot
    · subst hne
      rw [callbacksAt_addAt]
      exact (CallbackMap.valid_add (h.valid _) hnew _).1.mono hmono
    · rw [callbacksAt_addAt_of_ne _ hne]
      exact (h.valid slot).mono fun key hkey => hmono (List.mem_cons_of_mem _ hkey)
  · rw [add, callbacksAt_withKey, hnext]
    by_cases hne : r.registered.1 = slot
    · subst hne
      rw [callbacksAt_addAt, CallbackMap.add_callDepth]
      exact h.depth _
    · rw [callbacksAt_addAt_of_ne _ hne]
      exact h.depth slot
  · rw [add, callbacksAt_withKey, hnext, hentries]
    by_cases hne : r.registered.1 = slot
    · subst hne
      have hselect : Registered.select r.registered.1 (next, r.registered) =
          some (next, r.registered.2) := Registered.select_self _ next _
      rw [callbacksAt_addAt, (CallbackMap.valid_add (h.valid _) hnew _).2, h.current,
        List.filterMap_cons_some hselect, List.filterMap_nil]
    · have hselect : Registered.select slot (next, r.registered) = none :=
        Registered.select_of_ne hne
      rw [callbacksAt_addAt_of_ne _ hne, h.current, List.filterMap_cons_none hselect,
        List.filterMap_nil, List.append_nil]

theorem Tracks.depth_pos {rs : Registrations σ} {s : Processing σ} (h : Tracks rs s) {slot : Slot}
    (hslot : 0 < depthAt slot s.loops) : (s.dispatcher.callbacksAt slot).callDepth ≠ 0 := by
  rw [h.depth]
  omega

/-- What one action does to the registrations, and that it leaves alone each map
that some loop goes over before and after it. -/
theorem Tracks.step {rs : Registrations σ} {s s' : Processing σ} {a : ProcessingAction σ}
    (h : Tracks rs s) (hstep : s.act a = some s') :
    Tracks (((asked a).map (Registrations.step rs)).getD rs) s' ∧
      ∀ slot, 0 < depthAt slot s.loops → 0 < depthAt slot s'.loops →
        (s'.dispatcher.callbacksAt slot).map = (s.dispatcher.callbacksAt slot).map := by
  obtain ⟨next, rs⟩ := rs
  cases a with
  | invoke op =>
    simp only [Processing.act] at hstep
    split_ifs at hstep with hrunning hmap
    · obtain rfl := Option.some.inj hstep
      refine ⟨h.modify hmap (List.Sublist.refl rs) (CallbackMap.valid_enter (h.valid _)) ?_
        (h.current _) (fun slot hne => ?_) (fun _ _ => rfl) fun slot frame hframe => ?_, ?_⟩
      · rw [depthAt_some, if_pos rfl]
        simp [CallbackMap.enter, h.depth]
      · rw [depthAt_some, if_neg hne, Nat.add_zero]
      · rcases List.mem_cons.mp hframe with heq | hold
        · obtain rfl : slot = op.slot := by simpa using congrArg (Option.map Prod.fst) heq
          exact hmap
        · exact h.mapped slot frame hold
      · intro slot hslot hslot'
        by_cases hne : op.slot = slot
        · subst hne
          rw [callbacksAt_modifyAt _ hmap]
          rfl
        · rw [callbacksAt_modifyAt_of_ne _ hne]
    · obtain rfl := Option.some.inj hstep
      refine ⟨{ h with depth := fun slot => ?_, mapped := fun slot frame hframe => ?_ },
        fun _ _ _ => rfl⟩
      · rw [depthAt_none]
        exact h.depth slot
      · exact h.mapped slot frame (by simpa using hframe)
  | call key =>
    simp only [Processing.act] at hstep
    split at hstep
    · next slot frame loops hloops =>
      split_ifs at hstep
      obtain rfl := Option.some.inj hstep
      refine ⟨{ h with depth := fun slot' => ?_, mapped := fun slot' frame' hframe => ?_ },
        fun _ _ _ => rfl⟩
      · rw [depthAt_some, ← depthAt_some slot slot' frame, ← hloops]
        exact h.depth slot'
      · rcases List.mem_cons.mp hframe with heq | hold
        · obtain rfl : slot' = slot := by simpa using congrArg (Option.map Prod.fst) heq
          exact h.mapped slot' frame (hloops ▸ List.mem_cons_self)
        · exact h.mapped slot' frame' (hloops ▸ List.mem_cons_of_mem _ hold)
    · cases hstep
  | finish =>
    simp only [Processing.act] at hstep
    split at hstep
    · next slot frame loops hloops =>
      split_ifs at hstep
      obtain rfl := Option.some.inj hstep
      have hmap := h.mapped slot frame (hloops ▸ List.mem_cons_self)
      have hdepth : (s.dispatcher.callbacksAt slot).callDepth = depthAt slot loops + 1 := by
        rw [h.depth, hloops, depthAt_some, if_pos rfl]
        rfl
      obtain ⟨hleave, hsame⟩ := CallbackMap.valid_leave (h.valid slot).toConsistent
        (by rw [hdepth]; omega)
      refine ⟨h.modify hmap (List.Sublist.refl rs) hleave ?_ (hsame.trans (h.current slot))
        (fun slot' hne => ?_) (fun _ _ => rfl) fun slot' frame' hframe =>
          h.mapped slot' frame' (hloops ▸ List.mem_cons_of_mem _ hframe), ?_⟩
      · rw [CallbackMap.leave_callDepth, hdepth]
        omega
      · rw [hloops, depthAt_some, if_neg hne, Nat.add_zero]
      · intro slot' hslot hslot'
        by_cases hne : slot = slot'
        · subst hne
          simp only at hslot'
          rw [callbacksAt_modifyAt _ hmap, CallbackMap.leave_map (by rw [hdepth]; omega)]
        · rw [callbacksAt_modifyAt_of_ne _ hne]
    · next loops hloops =>
      obtain rfl := Option.some.inj hstep
      refine ⟨{ h with depth := fun slot => ?_, mapped := fun slot frame hframe => ?_ },
        fun _ _ _ => rfl⟩
      · rw [← depthAt_none, ← hloops]
        exact h.depth slot
      · exact h.mapped slot frame (hloops ▸ List.mem_cons_of_mem _ hframe)
    · cases hstep
  | register r =>
    simp only [Processing.act] at hstep
    split_ifs at hstep
    obtain rfl := Option.some.inj hstep
    refine ⟨h.register r, fun slot hslot _ => ?_⟩
    have hdepth := h.depth_pos hslot
    rw [register_eq, add, callbacksAt_withKey]
    by_cases hne : r.registered.1 = slot
    · subst hne
      rw [callbacksAt_addAt, CallbackMap.add_map hdepth]
    · rw [callbacksAt_addAt_of_ne _ hne]
  | remove key =>
    simp only [Processing.act] at hstep
    split_ifs at hstep
    rcases h.remove key with ⟨-, hnone⟩ | ⟨slot, hmap, -, hsome, htracks⟩
    · rw [hnone] at hstep
      cases hstep
    · rw [hsome] at hstep
      obtain rfl := Option.some.inj hstep
      refine ⟨htracks, fun slot' hslot _ => ?_⟩
      have hdepth := h.depth_pos hslot
      by_cases hne : slot = slot'
      · subst hne
        rw [callbacksAt_modifyAt _ hmap, CallbackMap.remove_map hdepth]
      · rw [callbacksAt_modifyAt_of_ne _ hne]

theorem tracks_of_run {as : List (ProcessingAction σ)} {s : Processing σ}
    (hrun : run Processing.act .new as = some s) : Tracks (registered as) s := by
  refine run_history (P := fun as s => Tracks (registered as) s) tracks_new ?_ hrun
  intro as s a s' ih hstep
  rw [registered_concat]
  exact (ih.step hstep).1

/-- The actions end no loop below those that they start and the `height` ones on
top of it; what comes out is how many are left. -/
def level : ℕ → List (ProcessingAction σ) → Option ℕ
  | height, [] => some height
  | height, .invoke _ :: as => level (height + 1) as
  | 0, .finish :: _ => none
  | height + 1, .finish :: as => level height as
  | height, _ :: as => level height as

/-- The calls made by a loop that has `height` others on top of it; the calls
that those make are left out. -/
def directCalls : ℕ → List (ProcessingAction σ) → List CallbackKey
  | _, [] => []
  | height, .invoke _ :: as => directCalls (height + 1) as
  | height, .finish :: as => directCalls (height - 1) as
  | 0, .call key :: as => key :: directCalls 0 as
  | height, _ :: as => directCalls height as

theorem depthAt_pos {slot : Slot} {frame : CallbackMap.Frame} {inner outer : List Loop} :
    0 < depthAt slot (inner ++ some (slot, frame) :: outer) := by
  refine List.countP_pos_iff.mpr ⟨some (slot, frame), by simp, by simp⟩

/-- A loop over a map goes on over the entries it found, whatever happens on top
of it: the calls it makes are those between its two positions. -/
theorem directCalls_of_run {as : List (ProcessingAction σ)} {rs : Registrations σ}
    {s s' : Processing σ} {inner outer : List Loop} {slot : Slot} {frame : CallbackMap.Frame}
    {height : ℕ} (h : Tracks rs s) (hloops : s.loops = inner ++ some (slot, frame) :: outer)
    (hlevel : level inner.length as = some height) (hrun : run Processing.act s as = some s') :
    ∃ inner' position, inner'.length = height ∧
      s'.loops = inner' ++ some (slot, ⟨frame.reversed, position⟩) :: outer ∧
      (s'.dispatcher.callbacksAt slot).map = (s.dispatcher.callbacksAt slot).map ∧
      (((s.dispatcher.callbacksAt slot).iterate frame.reversed).drop frame.position).map Prod.fst =
        directCalls inner.length as ++
          (((s.dispatcher.callbacksAt slot).iterate frame.reversed).drop position).map Prod.fst := by
  induction as generalizing s rs inner frame with
  | nil =>
    obtain rfl : s = s' := by simpa using hrun
    exact ⟨inner, frame.position, Option.some.inj hlevel, hloops, rfl, rfl⟩
  | cons a as ih =>
    obtain ⟨t, hstep, hrest⟩ := run_cons_eq_some.mp hrun
    obtain ⟨htracks, hmaps⟩ := h.step hstep
    have hmap (inner' : List Loop) (frame' : CallbackMap.Frame)
        (htloops : t.loops = inner' ++ some (slot, frame') :: outer) :
        (t.dispatcher.callbacksAt slot).map = (s.dispatcher.callbacksAt slot).map :=
      hmaps slot (hloops ▸ depthAt_pos) (htloops ▸ depthAt_pos)
    have hsame (inner' : List Loop) (htloops : t.loops = inner' ++ some (slot, frame) :: outer)
        (hlevel' : level inner'.length as = some height)
        (hcalls : directCalls inner.length (a :: as) = directCalls inner'.length as) :
        ∃ inner' position, inner'.length = height ∧
          s'.loops = inner' ++ some (slot, ⟨frame.reversed, position⟩) :: outer ∧
          (s'.dispatcher.callbacksAt slot).map = (s.dispatcher.callbacksAt slot).map ∧
          (((s.dispatcher.callbacksAt slot).iterate frame.reversed).drop frame.position).map
              Prod.fst =
            directCalls inner.length (a :: as) ++
              (((s.dispatcher.callbacksAt slot).iterate frame.reversed).drop position).map
                Prod.fst := by
      have hwalk := ih htracks htloops hlevel' hrest
      unfold CallbackMap.iterate at hwalk ⊢
      rwa [hmap inner' frame htloops, ← hcalls] at hwalk
    cases a with
    | invoke op =>
      simp only [Processing.act] at hstep
      split_ifs at hstep with hrunning hhas
      · obtain rfl := Option.some.inj hstep
        exact hsame (some (op.slot, ⟨op.reversed, 0⟩) :: inner) (by simp [hloops]) hlevel rfl
      · obtain rfl := Option.some.inj hstep
        exact hsame (none :: inner) (by simp [hloops]) hlevel rfl
    | call key =>
      simp only [Processing.act] at hstep
      cases inner with
      | nil =>
        simp only [hloops, List.nil_append] at hstep
        split_ifs at hstep with hkey
        have ht := (Option.some.inj hstep).symm
        obtain ⟨e, he, rfl⟩ := Option.map_eq_some_iff.mp hkey
        obtain ⟨hlt, hget⟩ := List.getElem?_eq_some_iff.mp he
        have htloops : t.loops =
            [] ++ some (slot, ⟨frame.reversed, frame.position + 1⟩) :: outer := by
          rw [ht]
          rfl
        have hdispatcher : t.dispatcher = s.dispatcher := by rw [ht]
        obtain ⟨inner', position, hheight, hloops', hmap', hcalls⟩ :=
          ih htracks htloops hlevel hrest
        rw [hdispatcher] at hmap' hcalls
        refine ⟨inner', position, hheight, hloops', hmap', ?_⟩
        rw [List.drop_eq_getElem_cons hlt, List.map_cons, hcalls, hget]
        rfl
      | cons top inner =>
        cases top with
        | none =>
          simp only [hloops, List.cons_append] at hstep
          cases hstep
        | some top =>
          obtain ⟨slot', frame'⟩ := top
          simp only [hloops, List.cons_append] at hstep
          split_ifs at hstep with hkey
          obtain rfl := Option.some.inj hstep
          exact hsame (some (slot', { frame' with position := frame'.position + 1 }) :: inner) rfl
            hlevel rfl
    | finish =>
      simp only [Processing.act] at hstep
      cases inner with
      | nil => cases hlevel
      | cons top inner =>
        cases top with
        | none =>
          simp only [hloops, List.cons_append] at hstep
          obtain rfl := Option.some.inj hstep
          exact hsame inner rfl hlevel rfl
        | some top =>
          simp only [hloops, List.cons_append] at hstep
          split_ifs at hstep with hlast
          obtain rfl := Option.some.inj hstep
          exact hsame inner rfl hlevel rfl
    | register r =>
      simp only [Processing.act] at hstep
      split_ifs at hstep
      obtain rfl := Option.some.inj hstep
      refine hsame inner hloops hlevel ?_
      cases inner <;> rfl
    | remove key =>
      simp only [Processing.act] at hstep
      split_ifs at hstep
      obtain ⟨d, -, rfl⟩ := Option.map_eq_some_iff.mp hstep
      refine hsame inner hloops hlevel ?_
      cases inner <;> rfl

/-- Nothing but its end follows an op of a component that has no map. -/
theorem eq_nil_of_none {as : List (ProcessingAction σ)} {s s' : Processing σ} {loops : List Loop}
    (hloops : s.loops = none :: loops) (hlevel : (level 0 as).isSome)
    (hrun : run Processing.act s as = some s') : as = [] := by
  cases as with
  | nil => rfl
  | cons a as =>
    obtain ⟨t, hstep, -⟩ := run_cons_eq_some.mp hrun
    have hidle : s.isRunning = false := by
      unfold Processing.isRunning
      rw [hloops]
    cases a with
    | invoke op => simp [Processing.act, hidle] at hstep
    | call key => simp [Processing.act, hloops] at hstep
    | finish => simp [level] at hlevel
    | register r => simp [Processing.act, hidle] at hstep
    | remove key => simp [Processing.act, hidle] at hstep

/-- The keys of the callbacks for a place, from the first to the last. -/
def keysFor (slot : Slot) (rs : List (CallbackKey × Registration σ)) : List CallbackKey :=
  (rs.filter fun entry => entry.2.registered.1 = slot).map Prod.fst

theorem keys_select_entriesOf (slot : Slot) (rs : List (CallbackKey × Registration σ)) :
    ((entriesOf rs).filterMap (Registered.select slot)).map Prod.fst = keysFor slot rs := by
  induction rs with
  | nil => rfl
  | cons entry rs ih =>
    unfold keysFor entriesOf at *
    by_cases h : entry.2.registered.1 = slot
    · subst h
      have hselect : Registered.select entry.2.registered.1 (entry.1, entry.2.registered) =
          some (entry.1, entry.2.registered.2) := Registered.select_self _ _ _
      rw [List.map_cons, List.filterMap_cons_some hselect, List.map_cons, ih,
        List.filter_cons_of_pos (by simp), List.map_cons]
    · have hselect : Registered.select slot (entry.1, entry.2.registered) = none :=
        Registered.select_of_ne h
      rw [List.map_cons, List.filterMap_cons_none hselect, ih,
        List.filter_cons_of_neg (by simpa using h)]

/-- A map that no loop goes over holds the registered callbacks. -/
theorem Tracks.rest {rs : Registrations σ} {s : Processing σ} (h : Tracks rs s) {slot : Slot}
    (hfree : depthAt slot s.loops = 0) :
    (s.dispatcher.callbacksAt slot).AtRest ∧ (s.dispatcher.callbacksAt slot).map.entries =
      (entriesOf rs.2).filterMap (Registered.select slot) := by
  have hrest : (s.dispatcher.callbacksAt slot).AtRest :=
    (h.valid slot).rest (by rw [h.depth, hfree]; rfl)
  refine ⟨hrest, ?_⟩
  rw [← h.current, CallbackMap.current_of_atRest hrest]

theorem Tracks.keys {rs : Registrations σ} {s : Processing σ} (h : Tracks rs s) {slot : Slot}
    (hfree : depthAt slot s.loops = 0) :
    (s.dispatcher.callbacksAt slot).map.keys = keysFor slot rs.2 := by
  rw [InsertionMap.keys, (h.rest hfree).2, keys_select_entriesOf]

/-- A loop makes exactly the calls that its map holds when it begins. -/
theorem Tracks.directCalls_eq {rs : Registrations σ} {s s' : Processing σ} (h : Tracks rs s)
    {op : Op} {during : List (ProcessingAction σ)} (hlevel : level 0 during = some 0)
    (hrun : run Processing.act s (.invoke op :: (during ++ [.finish])) = some s') :
    directCalls 0 during =
      if op.reversed then (s.dispatcher.callbacksAt op.slot).map.keys.reverse
      else (s.dispatcher.callbacksAt op.slot).map.keys := by
  obtain ⟨t, hstep, hrest⟩ := run_cons_eq_some.mp hrun
  obtain ⟨u, hu, hlast⟩ := run_append_eq_some.mp hrest
  obtain ⟨v, hfinish, -⟩ := run_cons_eq_some.mp hlast
  have htracks := (h.step hstep).1
  simp only [Processing.act] at hstep
  split_ifs at hstep with hrunning hmap
  · obtain rfl := Option.some.inj hstep
    have hopened : (⟨s.dispatcher.modifyAt op.slot CallbackMap.enter,
        some (op.slot, ⟨op.reversed, 0⟩) :: s.loops⟩ : Processing σ).loops =
          [] ++ some (op.slot, ⟨op.reversed, 0⟩) :: s.loops := rfl
    obtain ⟨inner, position, hinner, hloops, hsame, hcalls⟩ :=
      directCalls_of_run htracks hopened hlevel hu
    obtain rfl : inner = [] := List.length_eq_zero_iff.mp hinner
    simp only [Processing.act, hloops, List.nil_append] at hfinish
    split_ifs at hfinish with hend
    have hiterate : ((s.dispatcher.modifyAt op.slot CallbackMap.enter).callbacksAt op.slot).iterate
        op.reversed = (s.dispatcher.callbacksAt op.slot).iterate op.reversed := by
      rw [callbacksAt_modifyAt _ hmap]
      rfl
    have hdrop : ((s.dispatcher.callbacksAt op.slot).iterate op.reversed).drop position = [] := by
      refine List.drop_eq_nil_iff.mpr ?_
      rw [← hiterate]
      unfold CallbackMap.iterate at hend ⊢
      rwa [hsame] at hend
    simp only [hiterate, hdrop, List.map_nil, List.append_nil, List.drop_zero] at hcalls
    rw [List.length_nil] at hcalls
    rw [← hcalls]
    unfold CallbackMap.iterate InsertionMap.keys
    split_ifs <;> simp
  · obtain rfl := Option.some.inj hstep
    obtain rfl := eq_nil_of_none rfl (by simp [hlevel]) hu
    rw [callbacksAt_of_not_hasMap _ (Bool.eq_false_iff.mpr hmap)]
    simp [directCalls, CallbackMap.new]

/-- An op that is processed at any time, in however many calls for other ops,
makes exactly the calls that were registered for it when its loop began, in the
order of their registration or in the reverse order. -/
theorem calls_of_op {before during : List (ProcessingAction σ)} {s s' : Processing σ} {op : Op}
    (hbefore : run Processing.act .new before = some s) (hfree : depthAt op.slot s.loops = 0)
    (hlevel : level 0 during = some 0)
    (hrun : run Processing.act s (.invoke op :: (during ++ [.finish])) = some s') :
    directCalls 0 during =
      if op.reversed then (keysFor op.slot (registered before).2).reverse
      else keysFor op.slot (registered before).2 := by
  have htracks := tracks_of_run hbefore
  rw [htracks.directCalls_eq hlevel hrun, htracks.keys hfree]

/-- Two callbacks for flags, and one for metrics, in which the program is. -/
def inMetrics : List (ProcessingAction Unit) :=
  [.register (.flagUpdate fun _ => .ok), .register (.flagUpdate fun _ => .ok),
    .register (.metrics fun _ => .ok), .invoke (.metrics ⟨.new⟩), .call 2]

theorem calls_of_op_flag : directCalls 0
    [.call 1, .remove 0, .register (.flagUpdate fun _ (s : Unit) => .ok s), .call 0] = [1, 0] :=
  @calls_of_op Unit inMetrics _ _ _ (.flagUpdate ⟨"f", none⟩) rfl rfl rfl rfl

/-- An op that is processed in a call for an op of the same place makes the
calls that were registered when the outermost of these loops began. -/
theorem calls_of_inner_op {before between during : List (ProcessingAction σ)}
    {s s' : Processing σ} {outerOp op : Op} (hbefore : run Processing.act .new before = some s)
    (hfree : depthAt outerOp.slot s.loops = 0) (hslot : op.slot = outerOp.slot)
    (hopen : (level 0 between).isSome) (hlevel : level 0 during = some 0)
    (hrun : run Processing.act s
      (.invoke outerOp :: (between ++ .invoke op :: (during ++ [.finish]))) = some s') :
    directCalls 0 during =
      if op.reversed then (keysFor op.slot (registered before).2).reverse
      else keysFor op.slot (registered before).2 := by
  have htracks := tracks_of_run hbefore
  have hkeys := htracks.keys hfree
  obtain ⟨t, hstep, hrest⟩ := run_cons_eq_some.mp hrun
  obtain ⟨u, hu, hinner⟩ := run_append_eq_some.mp hrest
  have htracksT := (htracks.step hstep).1
  have htracksU : Tracks (registered (before ++ .invoke outerOp :: between)) u :=
    tracks_of_run (run_append_eq_some.mpr ⟨s, hbefore, run_cons_eq_some.mpr ⟨t, hstep, hu⟩⟩)
  simp only [Processing.act] at hstep
  split_ifs at hstep with hrunning hmap
  · obtain rfl := Option.some.inj hstep
    obtain ⟨height, hheight⟩ := Option.isSome_iff_exists.mp hopen
    have hopened : (⟨s.dispatcher.modifyAt outerOp.slot CallbackMap.enter,
        some (outerOp.slot, ⟨outerOp.reversed, 0⟩) :: s.loops⟩ : Processing σ).loops =
          [] ++ some (outerOp.slot, ⟨outerOp.reversed, 0⟩) :: s.loops := rfl
    obtain ⟨-, -, -, -, hsame, -⟩ := directCalls_of_run htracksT hopened hheight hu
    rw [htracksU.directCalls_eq hlevel hinner, hslot, hsame]
    simp only [callbacksAt_modifyAt _ hmap]
    rw [← hkeys]
    rfl
  · obtain rfl := Option.some.inj hstep
    obtain rfl := eq_nil_of_none rfl hopen hu
    obtain rfl := Option.some.inj hu
    obtain ⟨v, hv, -⟩ := run_cons_eq_some.mp hinner
    simp [Processing.act, Processing.isRunning] at hv

theorem calls_of_inner_op_flag :
    directCalls 0 [.call 1, (.call 0 : ProcessingAction Unit)] = [1, 0] :=
  @calls_of_inner_op Unit
    [.register (.flagUpdate fun _ => .ok), .register (.flagUpdate fun _ => .ok)]
    [.call 0, .register (.flagUpdate fun _ => .ok), .remove 1] _ _ _
    (.flagUpdate ⟨"f", some "on"⟩) (.flagUpdate ⟨"f", none⟩) rfl rfl rfl rfl rfl rfl

/-- After any such run the dispatcher is, outside all loops, as if each change
had taken effect at once; and a removal terminates the program, at any time,
exactly when its key is not registered. -/
theorem settled_of_run {as : List (ProcessingAction σ)} {s : Processing σ}
    (hrun : run Processing.act .new as = some s) :
    (s.loops = [] → ∀ ops t, s.dispatcher.process ops t = ops.foldlM (fun t op =>
      runCalls (if op.reversed
        then ((registered as).2.filterMap fun entry => entry.2.call op).reverse
        else (registered as).2.filterMap fun entry => entry.2.call op) t) t) ∧
      ∀ key, s.dispatcher.remove key = none ↔ key ∉ (registered as).2.map Prod.fst := by
  have htracks := tracks_of_run hrun
  constructor
  · intro hloops ops t
    have hfree : ∀ slot, depthAt slot s.loops = 0 := fun slot => by rw [hloops]; rfl
    have hholds : s.dispatcher.Holds (entriesOf (registered as).2) := by
      refine ⟨?_, ?_, fun slot => (htracks.rest (hfree slot)).1,
        fun slot => (htracks.rest (hfree slot)).2⟩
      · rw [keys_entriesOf]
        exact htracks.nodup
      · rw [keys_entriesOf, htracks.next]
        exact htracks.below
    simp only [hholds.process, calls_entriesOf]
  · intro key
    rcases htracks.remove key with ⟨habsent, hnone⟩ | ⟨slot, -, hpresent, hsome, -⟩
    · exact iff_of_true hnone habsent
    · refine iff_of_false ?_ (not_not_intro hpresent)
      rw [hsome]
      exact Option.some_ne_none _

/-- The first callback for flags removes the second one and registers a third. -/
def replacing : List (ProcessingAction (List ℕ)) :=
  [.register (.flagUpdate fun _ s => .ok (s ++ [1])),
    .register (.flagUpdate fun _ s => .ok (s ++ [2])), .invoke (.flagUpdate ⟨"f", some "on"⟩),
    .call 0, .remove 1, .register (.flagUpdate fun _ s => .ok (s ++ [3])), .call 1, .finish]

theorem settled_of_run_replacing :
    ∃ s : Processing (List ℕ), run Processing.act .new replacing = some s ∧
      s.dispatcher.process [.flagUpdate ⟨"f", none⟩] [] = .ok [3, 1] := by
  obtain ⟨s, hs, hloops⟩ : ∃ s : Processing (List ℕ),
      run Processing.act .new replacing = some s ∧ s.loops = [] := ⟨_, rfl, rfl⟩
  refine ⟨s, hs, ?_⟩
  rw [(settled_of_run hs).1 hloops]
  rfl

end Dispatcher

end SpatialWorkers
