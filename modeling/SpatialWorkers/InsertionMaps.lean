import Mathlib.Data.List.Nodup
import Mathlib.Data.List.TakeWhile
import Mathlib.Tactic

/-!
# Maps that iterate in insertion order

An insertion map is a list of entries with distinct keys. A new key goes to the
end, an assignment to a present key keeps its place, and an insertion of a
present key changes nothing.
-/
namespace SpatialWorkers.InsertionMaps

variable {κ β γ : Type*}

/-- Entries in insertion order; no key occurs twice. -/
structure InsertionMap (κ β : Type*) where
  entries : List (κ × β)
  nodup : (entries.map Prod.fst).Nodup
  deriving DecidableEq, Repr

namespace InsertionMap

def keys (m : InsertionMap κ β) : List κ := m.entries.map Prod.fst

def empty : InsertionMap κ β := ⟨[], List.nodup_nil⟩

@[simp] theorem entries_empty : (empty : InsertionMap κ β).entries = [] := rfl

@[simp] theorem keys_empty : (empty : InsertionMap κ β).keys = [] := rfl

theorem ext_entries {m m' : InsertionMap κ β} (h : m.entries = m'.entries) : m = m' := by
  cases m
  cases m'
  simpa using h

theorem mem_keys {m : InsertionMap κ β} {k : κ} : k ∈ m.keys ↔ ∃ b, (k, b) ∈ m.entries := by
  simp [keys]

/-- The values change, the keys and their order do not. -/
def mapValues (f : β → γ) (m : InsertionMap κ β) : InsertionMap κ γ :=
  ⟨m.entries.map fun e => (e.1, f e.2), by
    rw [List.map_map]
    exact m.nodup⟩

variable [DecidableEq κ]

def find (m : InsertionMap κ β) (k : κ) : Option β :=
  (m.entries.find? fun e => e.1 = k).map Prod.snd

/-- Insert at the end, unless the key is there already. -/
def emplace (m : InsertionMap κ β) (k : κ) (b : β) : InsertionMap κ β :=
  if h : k ∈ m.keys then m
  else ⟨m.entries ++ [(k, b)], by
    rw [List.map_append, List.nodup_append]
    refine ⟨m.nodup, by simp, ?_⟩
    intro x hx y hy hxy
    simp only [List.map_cons, List.map_nil, List.mem_singleton] at hy
    exact h (by rw [keys, ← hy, ← hxy]; exact hx)⟩

/-- Insert a range of entries, one after the other. -/
def insert (m : InsertionMap κ β) (es : List (κ × β)) : InsertionMap κ β :=
  es.foldl (fun m e => m.emplace e.1 e.2) m

/-- The value at a key becomes `b`; the entry keeps its place when there is one. -/
def assign (m : InsertionMap κ β) (k : κ) (b : β) : InsertionMap κ β :=
  if k ∈ m.keys then
    ⟨m.entries.map fun e => if e.1 = k then (e.1, b) else e, by
      have hfst : (Prod.fst ∘ fun e : κ × β => if e.1 = k then (e.1, b) else e) = Prod.fst := by
        ext e
        simp only [Function.comp_apply]
        split_ifs <;> rfl
      rw [List.map_map, hfst]
      exact m.nodup⟩
  else m.emplace k b

def erase (m : InsertionMap κ β) (k : κ) : InsertionMap κ β :=
  ⟨m.entries.filter fun e => e.1 ≠ k, m.nodup.sublist (List.filter_sublist.map Prod.fst)⟩

/-- The entries from a key on; `none` is the end. -/
def entriesFrom (m : InsertionMap κ β) (first : Option κ) : List (κ × β) :=
  m.entries.dropWhile fun e => some e.1 ≠ first

/-- The entries from the key `first` to the one before `last`. -/
def range (m : InsertionMap κ β) (first last : Option κ) : List (κ × β) :=
  (m.entriesFrom first).takeWhile fun e => some e.1 ≠ last

def eraseRange (m : InsertionMap κ β) (first last : Option κ) : InsertionMap κ β :=
  ((m.range first last).map Prod.fst).foldl erase m

theorem entries_emplace {m : InsertionMap κ β} {k : κ} (h : k ∉ m.keys) (b : β) :
    (m.emplace k b).entries = m.entries ++ [(k, b)] := by
  rw [emplace, dif_neg h]

theorem entries_assign {m : InsertionMap κ β} {k : κ} (h : k ∉ m.keys) (b : β) :
    (m.assign k b).entries = m.entries ++ [(k, b)] := by
  rw [assign, if_neg h, entries_emplace h]

theorem entries_assign_of_mem {m : InsertionMap κ β} {k : κ} (h : k ∈ m.keys) (b : β) :
    (m.assign k b).entries = m.entries.map fun e => if e.1 = k then (e.1, b) else e := by
  rw [assign, if_pos h]

theorem entries_erase (m : InsertionMap κ β) (k : κ) :
    (m.erase k).entries = m.entries.filter fun e => e.1 ≠ k := rfl

/-- Entering a key before its assignment makes no difference. -/
theorem assign_emplace (m : InsertionMap κ β) (k : κ) (b b' : β) :
    (m.emplace k b).assign k b' = m.assign k b' := by
  by_cases h : k ∈ m.keys
  · rw [emplace, dif_pos h]
  · have hmem : k ∈ (m.emplace k b).keys := by
      rw [keys, entries_emplace h]
      simp
    have hold : ∀ e ∈ m.entries, (if e.1 = k then (e.1, b') else e) = e := by
      intro e he
      have hne : e.1 ≠ k := fun hk => h (hk ▸ List.mem_map_of_mem he)
      exact if_neg hne
    refine ext_entries ?_
    rw [entries_assign_of_mem hmem, entries_emplace h, entries_assign h, List.map_append,
      List.map_congr_left hold]
    simp

/-- New keys go to the end, in the order of the range. -/
theorem entries_insert {m : InsertionMap κ β} {es : List (κ × β)}
    (hnodup : (es.map Prod.fst).Nodup) (hnew : ∀ k ∈ es.map Prod.fst, k ∉ m.keys) :
    (m.insert es).entries = m.entries ++ es := by
  induction es generalizing m with
  | nil => simp [insert]
  | cons e es ih =>
    obtain ⟨he, hes⟩ := List.nodup_cons.mp hnodup
    have hentries : (m.emplace e.1 e.2).entries = m.entries ++ [e] :=
      entries_emplace (hnew e.1 (by simp)) e.2
    have hrest := @ih (m.emplace e.1 e.2) hes (by
      intro k hk hmem
      rw [keys, hentries] at hmem
      rcases List.mem_append.mp (List.map_append ▸ hmem) with hold | hlast
      · exact hnew k (by simp [hk]) hold
      · obtain rfl : k = e.1 := by simpa using hlast
        exact he hk)
    rw [hentries, List.append_assoc, List.singleton_append] at hrest
    exact hrest

theorem entries_foldl_erase (m : InsertionMap κ β) (ks : List κ) :
    (ks.foldl erase m).entries = m.entries.filter fun e => e.1 ∉ ks := by
  induction ks generalizing m with
  | nil => simp
  | cons k ks ih =>
    rw [List.foldl_cons, ih, erase, List.filter_filter]
    apply List.filter_congr
    intro e _
    simp [Bool.and_comm]

theorem erase_of_notMem {m : InsertionMap κ β} {k : κ} (h : k ∉ m.keys) : m.erase k = m := by
  refine ext_entries (List.filter_eq_self.mpr ?_)
  intro e he
  have hne : e.1 ≠ k := fun hk => h (hk ▸ List.mem_map_of_mem he)
  simpa using hne

@[simp] theorem find_empty (k : κ) : (empty : InsertionMap κ β).find k = none := rfl

/-- The value found is the one that the list holds. -/
theorem find_eq_some {m : InsertionMap κ β} {k : κ} {b : β} :
    m.find k = some b ↔ (k, b) ∈ m.entries := by
  simp only [find, Option.map_eq_some_iff]
  constructor
  · rintro ⟨e, he, rfl⟩
    have hk : e.1 = k := by simpa using List.find?_some he
    subst hk
    exact List.mem_of_find?_eq_some he
  · intro hmem
    have hsome : (m.entries.find? fun e => e.1 = k).isSome := by
      rw [List.find?_isSome]
      exact ⟨(k, b), hmem, by simp⟩
    obtain ⟨e, he⟩ := Option.isSome_iff_exists.mp hsome
    have hk : e.1 = k := by simpa using List.find?_some he
    have hinj := List.inj_on_of_nodup_map m.nodup (List.mem_of_find?_eq_some he) hmem hk
    exact ⟨e, he, by rw [hinj]⟩

theorem find_eq_none {m : InsertionMap κ β} {k : κ} : m.find k = none ↔ k ∉ m.keys := by
  rw [Option.eq_none_iff_forall_ne_some, mem_keys]
  simp only [ne_eq, find_eq_some, not_exists]

theorem isSome_find {m : InsertionMap κ β} {k : κ} : (m.find k).isSome = true ↔ k ∈ m.keys := by
  rw [← not_iff_not, ← find_eq_none]
  simp

/-- An entry may be looked at before the others. -/
theorem perm_of_find {m : InsertionMap κ β} {k : κ} {b : β} (h : m.find k = some b) :
    m.entries.Perm ((k, b) :: (m.erase k).entries) := by
  have hmem := find_eq_some.mp h
  rw [entries_erase]
  obtain ⟨entries, hnodup⟩ := m
  simp only at hmem ⊢
  clear h
  induction entries with
  | nil => simp at hmem
  | cons e entries ih =>
    obtain ⟨hhead, htail⟩ := List.nodup_cons.mp hnodup
    by_cases he : e.1 = k
    · have hrest : ∀ e' ∈ entries, e'.1 ≠ k := by
        intro e' he' hk
        exact hhead (he ▸ hk ▸ List.mem_map_of_mem he')
      have hself : e = (k, b) := by
        rcases List.mem_cons.mp hmem with heq | hin
        · exact heq.symm
        · exact absurd rfl (hrest _ hin)
      rw [List.filter_cons_of_neg (by simpa using he), hself,
        List.filter_eq_self.mpr (by simpa using hrest)]
    · have hin : (k, b) ∈ entries := by
        rcases List.mem_cons.mp hmem with heq | hin
        · exact absurd (congrArg Prod.fst heq).symm he
        · exact hin
      rw [List.filter_cons_of_pos (by simpa using he)]
      exact ((ih htail hin).cons e).trans (List.Perm.swap _ _ _)

theorem find_emplace (m : InsertionMap κ β) (k k' : κ) (b : β) :
    (m.emplace k b).find k' = if k = k' then some ((m.find k).getD b) else m.find k' := by
  by_cases h : k ∈ m.keys
  · rw [emplace, dif_pos h]
    split_ifs with hk
    · obtain ⟨b', hb'⟩ := Option.isSome_iff_exists.mp (isSome_find.mpr h)
      rw [← hk, hb', Option.getD_some]
    · rfl
  · have hnone : m.entries.find? (fun e => e.1 = k) = none :=
      Option.map_eq_none_iff.mp (find_eq_none.mpr h)
    rw [find_eq_none.mpr h, Option.getD_none]
    simp only [find, entries_emplace h, List.find?_append]
    split_ifs with hk
    · subst hk
      simp [hnone]
    · cases hfind : m.entries.find? (fun e => e.1 = k') <;> simp [hk]

theorem find_assign (m : InsertionMap κ β) (k k' : κ) (b : β) :
    (m.assign k b).find k' = if k = k' then some b else m.find k' := by
  by_cases h : k ∈ m.keys
  · obtain ⟨b', hb'⟩ := mem_keys.mp h
    ext c
    rw [find_eq_some, assign, if_pos h]
    simp only [List.mem_map, Prod.exists]
    split_ifs with hk
    · subst hk
      constructor
      · rintro ⟨x, y, -, he⟩
        split_ifs at he with hx <;> grind
      · rintro ⟨⟩
        exact ⟨k, b', hb', by simp⟩
    · rw [find_eq_some]
      constructor
      · rintro ⟨x, y, hmem, he⟩
        split_ifs at he with hx <;> grind
      · intro hmem
        exact ⟨k', c, hmem, by rw [if_neg (Ne.symm hk)]⟩
  · rw [assign, if_neg h, find_emplace, find_eq_none.mpr h]
    rfl

theorem erase_assign (m : InsertionMap κ β) (k : κ) (b : β) :
    (m.assign k b).erase k = m.erase k := by
  refine ext_entries ?_
  rw [entries_erase, entries_erase]
  by_cases h : k ∈ m.keys
  · rw [entries_assign_of_mem h, List.filter_map]
    have hkey : (fun e : κ × β => decide (e.1 ≠ k)) ∘ (fun e => if e.1 = k then (e.1, b) else e) =
        fun e => decide (e.1 ≠ k) := by
      ext e
      simp only [Function.comp_apply]
      split_ifs <;> rfl
    rw [hkey]
    refine (List.map_congr_left fun e he => ?_).trans (List.map_id _)
    exact if_neg (of_decide_eq_true (List.mem_filter.mp he).2)
  · rw [entries_assign h, List.filter_append]
    simp

theorem assign_of_find {m : InsertionMap κ β} {k : κ} {b : β} (h : m.find k = some b) :
    m.assign k b = m := by
  have hmem := find_eq_some.mp h
  refine ext_entries ?_
  rw [entries_assign_of_mem (mem_keys.mpr ⟨b, hmem⟩)]
  refine (List.map_congr_left fun e he => ?_).trans (List.map_id _)
  split_ifs with hk
  · have hfind : m.find k = some e.2 := find_eq_some.mpr (hk ▸ he)
    rw [h] at hfind
    exact Prod.ext rfl (Option.some.inj hfind)
  · rfl

theorem perm_assign (m : InsertionMap κ β) (k : κ) (b : β) :
    (m.assign k b).entries.Perm ((k, b) :: (m.erase k).entries) := by
  have hfind : (m.assign k b).find k = some b := by rw [find_assign, if_pos rfl]
  have hperm := perm_of_find hfind
  rwa [erase_assign] at hperm

theorem find_erase (m : InsertionMap κ β) (k k' : κ) :
    (m.erase k).find k' = if k = k' then none else m.find k' := by
  ext c
  rw [find_eq_some]
  simp only [erase, List.mem_filter, decide_eq_true_eq]
  split_ifs with hk
  · simp [hk]
  · rw [find_eq_some]
    exact and_iff_left (Ne.symm hk)

theorem find_foldl_erase (m : InsertionMap κ β) (ks : List κ) (k : κ) :
    (ks.foldl erase m).find k = if k ∈ ks then none else m.find k := by
  induction ks generalizing m with
  | nil => simp
  | cons k' ks ih =>
    rw [List.foldl_cons, ih, find_erase]
    by_cases hk : k' = k
    · simp [hk]
    · simp [hk, Ne.symm hk]

/-- The key at the end of a range is not in it. -/
theorem notMem_range (m : InsertionMap κ β) (first : Option κ) (k : κ) :
    k ∉ (m.range first (some k)).map Prod.fst := by
  intro hk
  obtain ⟨e, he, rfl⟩ := List.mem_map.mp hk
  simpa using List.mem_takeWhile_imp he

@[simp] theorem mem_keys_emplace {m : InsertionMap κ β} {k k' : κ} {b : β} :
    k' ∈ (m.emplace k b).keys ↔ k = k' ∨ k' ∈ m.keys := by
  rw [← isSome_find, ← isSome_find, find_emplace]
  by_cases h : k = k' <;> simp [h]

@[simp] theorem mem_keys_assign {m : InsertionMap κ β} {k k' : κ} {b : β} :
    k' ∈ (m.assign k b).keys ↔ k = k' ∨ k' ∈ m.keys := by
  rw [← isSome_find, ← isSome_find, find_assign]
  by_cases h : k = k' <;> simp [h]

@[simp] theorem mem_keys_erase {m : InsertionMap κ β} {k k' : κ} :
    k' ∈ (m.erase k).keys ↔ k ≠ k' ∧ k' ∈ m.keys := by
  rw [← isSome_find, ← isSome_find, find_erase]
  by_cases h : k = k' <;> simp [h]

/-- A range is inserted first come, first served. -/
theorem find_insert (m : InsertionMap κ β) (es : List (κ × β)) (k : κ) :
    (m.insert es).find k = (m.find k).or ((es.find? fun e => e.1 = k).map Prod.snd) := by
  induction es generalizing m with
  | nil => simp [insert]
  | cons e es ih =>
    have hcons : m.insert (e :: es) = (m.emplace e.1 e.2).insert es := rfl
    rw [hcons, ih, find_emplace]
    by_cases he : e.1 = k
    · subst he
      cases hfind : m.find e.1 <;> simp
    · simp [he]

/-- Assigning distinct new keys one after the other appends them. -/
theorem entries_foldl_assign {m : InsertionMap κ β} {es : List (κ × β)}
    (hnodup : (es.map Prod.fst).Nodup) (hnew : ∀ k ∈ es.map Prod.fst, k ∉ m.keys) :
    (es.foldl (fun m e => m.assign e.1 e.2) m).entries = m.entries ++ es := by
  induction es generalizing m with
  | nil => simp
  | cons e es ih =>
    obtain ⟨he, hes⟩ := List.nodup_cons.mp hnodup
    have hentries := entries_assign (hnew e.1 (by simp)) e.2
    rw [List.foldl_cons, ih hes, hentries, List.append_assoc]
    · rfl
    · intro k hk hmem
      rcases mem_keys_assign.mp hmem with heq | hold
      · exact he (heq ▸ hk)
      · exact hnew k (by simp [hk]) hold

theorem find_mapValues (f : β → γ) (m : InsertionMap κ β) (k : κ) :
    (m.mapValues f).find k = (m.find k).map f := by
  simp only [find, mapValues, List.find?_map, Option.map_map, Function.comp_def]

/-- Inserting all entries of a map anew gives the map. -/
@[simp] theorem insert_entries (m : InsertionMap κ β) : empty.insert m.entries = m :=
  ext_entries (entries_insert m.nodup (by simp))

@[simp] theorem insert_nil (m : InsertionMap κ β) : m.insert [] = m := rfl

@[simp] theorem insert_singleton (m : InsertionMap κ β) (k : κ) (b : β) :
    m.insert [(k, b)] = m.emplace k b := rfl

end InsertionMap

end SpatialWorkers.InsertionMaps
