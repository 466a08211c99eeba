import Mathlib.Data.BitVec
import Mathlib.Algebra.BigOperators.Group.List.Basic
import SpatialWorkers.InsertionMaps
import SpatialWorkers.LabelledRuns

/-!
# The map of the SDK

The entries stand in a linked list in the order of their insertion, and a hash
table leads from each key to the node of its entry. Callbacks, views, entities
and snapshots use such maps through the insertion maps that they represent.
-/
namespace SpatialWorkers
open InsertionMaps LabelledRuns

variable {K V : Type}

/-- An iterator is the address of a node. -/
abbrev Iterator := ℕ

structure ListNode (K V : Type) where
  address : Iterator
  first : K
  second : V
  deriving DecidableEq

def ListNode.entry (node : ListNode K V) : K × V := (node.first, node.second)

structure Map (K V : Type) where
  values : List (ListNode K V)
  lut : K → Option Iterator

namespace Map

def new : Map K V := ⟨[], fun _ => none⟩

def addresses (m : Map K V) : List Iterator := m.values.map ListNode.address

def size (m : Map K V) : ℕ := m.values.length

/-- The entry at an iterator. -/
def deref (m : Map K V) (it : Iterator) : Option (K × V) :=
  (m.values.find? fun node => node.address = it).map ListNode.entry

/-- `none` is `end()`. -/
def find (m : Map K V) (key : K) : Option Iterator := m.lut key

def count (m : Map K V) (key : K) : Bool := (m.lut key).isSome

/-- `it->second = value`. -/
def store (m : Map K V) (it : Iterator) (value : V) : Map K V :=
  { m with values := m.values.map fun node =>
      if node.address = it then { node with second := value } else node }

section

variable [DecidableEq K]

/-- `node` is the address of the new node when there is one. -/
def emplace (m : Map K V) (node : Iterator) (key : K) (value : V) : Map K V × Iterator × Bool :=
  match m.lut key with
  | some it => (m, it, false)
  | none =>
    (⟨m.values ++ [⟨node, key, value⟩], Function.update m.lut key (some node)⟩, node, true)

/-- `(*this)[key]`, as an iterator; a new entry holds `default`. -/
def subscript (m : Map K V) (node : Iterator) (key : K) (default : V) : Map K V × Iterator :=
  match m.lut key with
  | none =>
    let (m, it, _) := m.emplace node key default
    (m, it)
  | some it => (m, it)

/-- The nodes from an iterator on. -/
def nodesFrom (m : Map K V) (first : Option Iterator) : List (ListNode K V) :=
  m.values.dropWhile fun node => some node.address ≠ first

/-- Incrementing the first iterator leads to the last one. -/
def reaches (m : Map K V) (first last : Option Iterator) : Bool :=
  last.all fun it => it ∈ (m.nodesFrom first).map ListNode.address

def nodesBetween (m : Map K V) (first last : Option Iterator) : List (ListNode K V) :=
  (m.nodesFrom first).takeWhile fun node => some node.address ≠ last

/-- Returns the iterator after the erased node, as `std::list::erase` does. -/
def erasePosition (m : Map K V) (pos : Iterator) : Map K V × Option Iterator :=
  (⟨m.values.filter fun node => node.address ≠ pos,
    (m.deref pos).elim m.lut fun entry => Function.update m.lut entry.1 none⟩,
    (m.nodesFrom (some pos)).tail.head?.map ListNode.address)

def eraseRange (m : Map K V) (first last : Option Iterator) : Map K V × Option Iterator :=
  (⟨m.values.filter fun node => node.address ∉ (m.nodesBetween first last).map ListNode.address,
    (m.nodesBetween first last).foldl (fun lut node => Function.update lut node.first none) m.lut⟩,
    last)

def erase (m : Map K V) (key : K) : Map K V × Bool :=
  match m.lut key with
  | none => (m, false)
  | some it =>
    (⟨m.values.filter fun node => node.address ≠ it, Function.update m.lut key none⟩, true)

def clear (_ : Map K V) : Map K V := ⟨[], fun _ => none⟩

theorem lut_emplace (m : Map K V) (node : Iterator) (key : K) (value : V) :
    (m.emplace node key value).1.lut key = some (m.emplace node key value).2.1 := by
  unfold emplace
  cases hlut : m.lut key with
  | none => exact Function.update_self ..
  | some it => exact hlut

theorem lut_eraseRange {m : Map K V} {key : K} (first last : Option Iterator)
    (hkey : key ∉ (m.nodesBetween first last).map ListNode.first) :
    (m.eraseRange first last).1.lut key = m.lut key := by
  show List.foldl _ m.lut (m.nodesBetween first last) key = m.lut key
  generalize m.nodesBetween first last = nodes at hkey
  generalize m.lut = lut
  induction nodes generalizing lut with
  | nil => rfl
  | cons node nodes ih =>
    rw [List.map_cons, List.mem_cons, not_or] at hkey
    rw [List.foldl_cons, ih hkey.2, Function.update_of_ne hkey.1]

end

/-- `operator==`, over that of the values. -/
def equal (valueEqual : V → V → Bool) (m other : Map K V) : Bool :=
  m.size = other.size && m.values.all fun pair =>
    match other.find pair.first with
    | none => false
    | some it => (other.deref it).any fun entry => valueEqual entry.2 pair.second

/-- `std::hash`, over those of the keys and the values. The order of the entries
is left out. -/
def hash (hashKey : K → BitVec 64) (hashValue : V → BitVec 64) (m : Map K V) : BitVec 64 :=
  m.values.foldl (fun result pair =>
    result + 1327 * (hashKey pair.first + 977 * hashValue pair.second)) 0

/-! ## What a map represents -/

theorem dropWhile_congr_mem {α : Type} {l : List α} {p q : α → Bool} (h : ∀ x ∈ l, p x = q x) :
    l.dropWhile p = l.dropWhile q := by
  induction l with
  | nil => rfl
  | cons x l ih =>
    rw [List.dropWhile_cons, List.dropWhile_cons, h x List.mem_cons_self,
      ih fun y hy => h y (List.mem_cons_of_mem x hy)]

theorem takeWhile_congr_mem {α : Type} {l : List α} {p q : α → Bool} (h : ∀ x ∈ l, p x = q x) :
    l.takeWhile p = l.takeWhile q := by
  induction l with
  | nil => rfl
  | cons x l ih =>
    rw [List.takeWhile_cons, List.takeWhile_cons, h x List.mem_cons_self,
      ih fun y hy => h y (List.mem_cons_of_mem x hy)]

/-- The list holds the entries, and the table leads to its nodes. -/
structure Represents (m : Map K V) (a : InsertionMap K V) : Prop where
  addresses : m.addresses.Nodup
  entries : m.values.map ListNode.entry = a.entries
  lut : ∀ key it, m.lut key = some it ↔ ∃ value, ⟨it, key, value⟩ ∈ m.values

namespace Represents

variable {m : Map K V} {a : InsertionMap K V}

theorem new : (new : Map K V).Represents .empty := ⟨List.nodup_nil, rfl, by simp [Map.new]⟩

theorem keys (h : m.Represents a) : m.values.map ListNode.first = a.keys := by
  rw [InsertionMap.keys, ← h.entries, List.map_map]
  rfl

theorem size_eq (h : m.Represents a) : m.size = a.entries.length := by
  rw [← h.entries, List.length_map, size]

/-- The node that an iterator of a key leads to is the one with this key. -/
theorem address_eq_iff (h : m.Represents a) {key : K} {it : Iterator} (hit : m.lut key = some it)
    {node : ListNode K V} (hnode : node ∈ m.values) : node.address = it ↔ node.first = key := by
  obtain ⟨value, hvalue⟩ := (h.lut key it).mp hit
  have hkeys : (m.values.map ListNode.first).Nodup := h.keys ▸ a.nodup
  constructor
  · intro haddress
    rw [List.inj_on_of_nodup_map h.addresses hnode hvalue haddress]
  · intro hfirst
    rw [List.inj_on_of_nodup_map hkeys hnode hvalue hfirst]

theorem lut_eq_none_iff (h : m.Represents a) {key : K} : m.lut key = none ↔ key ∉ a.keys := by
  rw [Option.eq_none_iff_forall_ne_some, ← h.keys]
  simp only [ne_eq, h.lut, not_exists, List.mem_map, not_and]
  constructor
  · rintro hnone ⟨it, first, value⟩ hnode rfl
    exact hnone it value hnode
  · intro hkey it value hnode
    exact hkey _ hnode rfl

theorem isSome_lut_iff (h : m.Represents a) {key : K} :
    (m.lut key).isSome = true ↔ key ∈ a.keys := by
  rw [← not_iff_not, ← h.lut_eq_none_iff]
  simp

theorem mem_keys (h : m.Represents a) {key : K} {it : Iterator} (hit : m.lut key = some it) :
    key ∈ a.keys :=
  h.isSome_lut_iff.mp (Option.isSome_iff_exists.mpr ⟨it, hit⟩)

theorem deref_address (h : m.Represents a) {node : ListNode K V} (hnode : node ∈ m.values) :
    m.deref node.address = some node.entry := by
  have hsome : (m.values.find? fun n => n.address = node.address).isSome := by
    rw [List.find?_isSome]
    exact ⟨node, hnode, by simp⟩
  obtain ⟨n, hn⟩ := Option.isSome_iff_exists.mp hsome
  have haddress : n.address = node.address := by simpa using List.find?_some hn
  rw [deref, hn, List.inj_on_of_nodup_map h.addresses (List.mem_of_find?_eq_some hn) hnode haddress,
    Option.map_some]

/-- What a position of `find`, or `end()`, stands for among the entries. -/
theorem position_eq_iff (h : m.Represents a) {node : ListNode K V} (hnode : node ∈ m.values)
    (key : Option K) : some node.address = key.bind m.find ↔ some node.first = key := by
  cases key with
  | none => simp
  | some key =>
    rw [Option.bind_some, Option.some_inj]
    cases hit : m.find key with
    | none =>
      have hkey := h.lut_eq_none_iff.mp hit
      have hne : node.first ≠ key := by
        rintro rfl
        exact hkey (h.keys ▸ List.mem_map_of_mem hnode)
      simp [hne]
    | some it => rw [Option.some_inj, h.address_eq_iff hit hnode]

variable [DecidableEq K]

/-- Looking a key up in the table and reading the node gives the entry. -/
theorem find_deref (h : m.Represents a) (key : K) :
    (m.find key).bind m.deref = (a.find key).map fun value => (key, value) := by
  cases hit : m.find key with
  | none =>
    rw [InsertionMap.find_eq_none.mpr (h.lut_eq_none_iff.mp hit)]
    rfl
  | some it =>
    obtain ⟨value, hvalue⟩ := (h.lut key it).mp hit
    have hmem : (key, value) ∈ a.entries := by
      rw [← h.entries]
      exact List.mem_map_of_mem hvalue
    rw [InsertionMap.find_eq_some.mpr hmem, Option.bind_some]
    exact h.deref_address hvalue

theorem deref_of_lut (h : m.Represents a) {key : K} {it : Iterator} (hit : m.lut key = some it) :
    m.deref it = (a.find key).map fun value => (key, value) := by
  have hderef := h.find_deref key
  rwa [find, hit, Option.bind_some] at hderef

theorem emplace (h : m.Represents a) {node : Iterator} {key : K}
    (hfresh : m.lut key = none → node ∉ m.addresses) (value : V) :
    (m.emplace node key value).1.Represents (a.emplace key value) := by
  rw [Map.emplace]
  cases hlut : m.lut key with
  | some it =>
    rw [InsertionMap.emplace, dif_pos (h.mem_keys hlut)]
    exact h
  | none =>
    have hkey : key ∉ a.keys := h.lut_eq_none_iff.mp hlut
    have hnew := hfresh hlut
    refine ⟨?_, ?_, fun key' it => ?_⟩
    · rw [Map.addresses, List.map_append, List.nodup_append]
      refine ⟨h.addresses, by simp, ?_⟩
      intro x hx y hy hxy
      obtain rfl : y = node := by simpa using hy
      exact hnew (hxy ▸ hx)
    · rw [InsertionMap.entries_emplace hkey, List.map_append, h.entries]
      rfl
    · simp only [List.mem_append, List.mem_singleton, ListNode.mk.injEq]
      by_cases hkey' : key' = key
      · subst hkey'
        have hnone : ∀ value', ⟨it, key', value'⟩ ∉ m.values := by
          intro value' hmem
          have hit := (h.lut key' it).mpr ⟨value', hmem⟩
          rw [hlut] at hit
          cases hit
        rw [Function.update_self]
        simp [hnone, eq_comm]
      · rw [Function.update_of_ne hkey', h.lut]
        simp [hkey']

theorem store (h : m.Represents a) {key : K} {it : Iterator} (hit : m.lut key = some it)
    (value : V) : (m.store it value).Represents (a.assign key value) := by
  refine ⟨?_, ?_, fun key' it' => ?_⟩
  · have haddresses : (m.store it value).addresses = m.addresses := by
      rw [Map.addresses, Map.addresses, Map.store, List.map_map]
      apply List.map_congr_left
      intro node _
      simp only [Function.comp_apply]
      split_ifs <;> rfl
    rw [haddresses]
    exact h.addresses
  · rw [InsertionMap.entries_assign_of_mem (h.mem_keys hit), ← h.entries, Map.store, List.map_map,
      List.map_map]
    apply List.map_congr_left
    intro node hnode
    have hiff := h.address_eq_iff hit hnode
    by_cases hfirst : node.first = key
    · simp [ListNode.entry, hiff.mpr hfirst, hfirst]
    · simp [ListNode.entry, mt hiff.mp hfirst, hfirst]
  · show m.lut key' = some it' ↔ _
    rw [h.lut]
    simp only [Map.store, List.mem_map]
    constructor
    · rintro ⟨value', hvalue'⟩
      by_cases hit' : it' = it
      · exact ⟨value, _, hvalue', by rw [if_pos hit']⟩
      · exact ⟨value', _, hvalue', by rw [if_neg hit']⟩
    · rintro ⟨value', ⟨address, first, second⟩, hnode, heq⟩
      refine ⟨second, ?_⟩
      split_ifs at heq <;> grind

theorem subscript (h : m.Represents a) {node : Iterator} {key : K}
    (hfresh : m.lut key = none → node ∉ m.addresses) (default : V) :
    (m.subscript node key default).1.Represents (a.emplace key default) ∧
      (m.subscript node key default).1.lut key = some (m.subscript node key default).2 := by
  have hemplace := h.emplace hfresh default
  unfold Map.subscript
  unfold Map.emplace at hemplace ⊢
  cases hlut : m.lut key with
  | some it =>
    rw [hlut] at hemplace
    exact ⟨hemplace, hlut⟩
  | none =>
    rw [hlut] at hemplace
    exact ⟨hemplace, Function.update_self ..⟩

/-- Taking the node of a key out of the list and the key out of the table. -/
theorem erased (h : m.Represents a) {key : K} {it : Iterator} (hit : m.lut key = some it) :
    Represents ⟨m.values.filter fun node => node.address ≠ it, Function.update m.lut key none⟩
      (a.erase key) := by
  refine ⟨h.addresses.sublist (List.filter_sublist.map _), ?_, fun key' it' => ?_⟩
  · rw [InsertionMap.entries_erase, ← h.entries, List.filter_map]
    refine congrArg _ (List.filter_congr fun node hnode => ?_)
    simp only [Function.comp_apply, ne_eq, h.address_eq_iff hit hnode]
    rfl
  · have hiff : ∀ value', ⟨it', key', value'⟩ ∈ m.values → (it' = it ↔ key' = key) :=
      fun value' hmem => h.address_eq_iff hit hmem
    simp only [List.mem_filter, decide_eq_true_eq]
    by_cases hkey : key' = key
    · subst hkey
      rw [Function.update_self]
      constructor
      · rintro ⟨⟩
      · rintro ⟨value', hmem, hne⟩
        exact absurd ((hiff value' hmem).mpr rfl) hne
    · rw [Function.update_of_ne hkey, h.lut]
      constructor
      · rintro ⟨value', hmem⟩
        exact ⟨value', hmem, fun heq => hkey ((hiff value' hmem).mp heq)⟩
      · rintro ⟨value', hmem, -⟩
        exact ⟨value', hmem⟩

theorem erase (h : m.Represents a) (key : K) : (m.erase key).1.Represents (a.erase key) := by
  unfold Map.erase
  cases hit : m.lut key with
  | none =>
    rw [InsertionMap.erase_of_notMem (h.lut_eq_none_iff.mp hit)]
    exact h
  | some it => exact h.erased hit

theorem erasePosition (h : m.Represents a) {key : K} {it : Iterator} (hit : m.lut key = some it) :
    (m.erasePosition it).1.Represents (a.erase key) := by
  obtain ⟨value, hvalue⟩ := (h.lut key it).mp hit
  have hderef : m.deref it = some (key, value) := h.deref_address hvalue
  unfold Map.erasePosition
  rw [hderef]
  exact h.erased hit

/-- Taking nodes out one after the other. -/
theorem erasedAll {nodes : List (ListNode K V)} (h : m.Represents a)
    (hsublist : nodes.Sublist m.values) :
    Represents ⟨m.values.filter fun node => node.address ∉ nodes.map ListNode.address,
        nodes.foldl (fun lut node => Function.update lut node.first none) m.lut⟩
      ((nodes.map ListNode.first).foldl InsertionMap.erase a) := by
  induction nodes generalizing m a with
  | nil =>
    have hvalues : (m.values.filter fun node => node.address ∉ ([] : List Iterator)) =
        m.values := by
      simp
    rw [List.map_nil, hvalues]
    exact h
  | cons node nodes ih =>
    have hnode : node ∈ m.values := hsublist.subset List.mem_cons_self
    have hit : m.lut node.first = some node.address := (h.lut _ _).mpr ⟨node.second, hnode⟩
    have hnodup : ((node :: nodes).map ListNode.address).Nodup :=
      h.addresses.sublist (hsublist.map ListNode.address)
    have hne : ∀ n ∈ nodes, n.address ≠ node.address := by
      intro n hn heq
      exact (List.nodup_cons.mp hnodup).1 (heq ▸ List.mem_map_of_mem hn)
    have hrest : nodes.Sublist (m.values.filter fun n => n.address ≠ node.address) := by
      have hfilter : (nodes.filter fun n => n.address ≠ node.address) = nodes :=
        List.filter_eq_self.mpr fun n hn => decide_eq_true (hne n hn)
      rw [← hfilter]
      exact ((List.sublist_cons_self node nodes).trans hsublist).filter _
    have hfilter := ih (h.erased hit) hrest
    rw [List.filter_filter] at hfilter
    have hvalues : (m.values.filter fun n => n.address ∉ (node :: nodes).map ListNode.address) =
        m.values.filter fun n => decide (n.address ∉ nodes.map ListNode.address) &&
          decide (n.address ≠ node.address) := by
      apply List.filter_congr
      intro n _
      simp only [List.map_cons, List.mem_cons, not_or, Bool.decide_and, Bool.and_comm]
    rw [hvalues]
    exact hfilter

theorem map_nodesFrom (h : m.Represents a) (first : Option K) :
    (m.nodesFrom (first.bind m.find)).map ListNode.entry = a.entriesFrom first := by
  rw [nodesFrom, InsertionMap.entriesFrom, ← h.entries, List.dropWhile_map]
  refine congrArg _ (dropWhile_congr_mem fun node hnode => ?_)
  rw [Function.comp_apply, ListNode.entry]
  exact decide_eq_decide.mpr (not_congr (h.position_eq_iff hnode first))

theorem map_nodesBetween (h : m.Represents a) (first last : Option K) :
    (m.nodesBetween (first.bind m.find) (last.bind m.find)).map ListNode.entry =
      a.range first last := by
  rw [nodesBetween, InsertionMap.range, ← h.map_nodesFrom, List.takeWhile_map]
  refine congrArg _ (takeWhile_congr_mem fun node hnode => ?_)
  rw [Function.comp_apply, ListNode.entry]
  exact decide_eq_decide.mpr (not_congr
    (h.position_eq_iff ((List.dropWhile_sublist _).subset hnode) last))

theorem keys_nodesBetween (h : m.Represents a) (first last : Option K) :
    (m.nodesBetween (first.bind m.find) (last.bind m.find)).map ListNode.first =
      (a.range first last).map Prod.fst := by
  rw [← h.map_nodesBetween, List.map_map]
  rfl

theorem eraseRange (h : m.Represents a) (first last : Option K) :
    (m.eraseRange (first.bind m.find) (last.bind m.find)).1.Represents
      (a.eraseRange first last) := by
  have hsublist : (m.nodesBetween (first.bind m.find) (last.bind m.find)).Sublist m.values :=
    (List.takeWhile_sublist _).trans (List.dropWhile_sublist _)
  have herased := h.erasedAll hsublist
  rw [h.keys_nodesBetween] at herased
  exact herased

/-- The iterator that the erasure of an entry returns leads to the next one. -/
theorem erasePosition_deref (h : m.Represents a) {key : K} {it : Iterator}
    (hit : m.find key = some it) :
    (m.erasePosition it).2.bind (m.erasePosition it).1.deref =
      (a.entriesFrom (some key)).tail.head? := by
  have herased := h.erasePosition hit
  have hfrom := h.map_nodesFrom (some key)
  rw [Option.bind_some, hit] at hfrom
  rw [← hfrom]
  show ((m.nodesFrom (some it)).tail.head?.map ListNode.address).bind _ = _
  have hsublist : (m.nodesFrom (some it)).Sublist m.values := List.dropWhile_sublist _
  have hnodup := h.addresses.sublist (hsublist.map ListNode.address)
  have hhead := List.head?_dropWhile_not
    (fun node : ListNode K V => decide (some node.address ≠ some it)) m.values
  rw [← nodesFrom] at hhead
  match hnodes : m.nodesFrom (some it) with
  | [] => rfl
  | [_] => rfl
  | first :: node :: nodes =>
    rw [hnodes] at hsublist hnodup hhead
    have hfirst : first.address = it := by simpa using hhead
    have hne : node.address ≠ it := by
      rintro rfl
      exact (List.nodup_cons.mp hnodup).1 (by simp [hfirst])
    have hmem : node ∈ m.values := hsublist.subset (by simp)
    exact herased.deref_address (List.mem_filter.mpr ⟨hmem, decide_eq_true hne⟩)

/-- The iterator that the erasure of a range returns still leads to the entry
that it led to. -/
theorem eraseRange_deref (h : m.Represents a) (first last : Option K) :
    (m.eraseRange (first.bind m.find) (last.bind m.find)).2.bind
        (m.eraseRange (first.bind m.find) (last.bind m.find)).1.deref =
      last.bind fun key => (a.find key).map fun value => (key, value) := by
  cases last with
  | none => rfl
  | some key =>
    have hkey := a.notMem_range first key
    have herased := (h.eraseRange first (some key)).find_deref key
    rw [InsertionMap.eraseRange, InsertionMap.find_foldl_erase, if_neg hkey] at herased
    rw [← h.keys_nodesBetween] at hkey
    rw [find, lut_eraseRange _ _ hkey] at herased
    exact herased

end Represents

/-! ## Runs of operations -/

/-- A call of a program. `node` is where a new node would go. Positions are
given by their keys: a program uses what `find` returns, one alone unless it is
`end()`, and `none` in a range is `end()`. -/
inductive Operation (K V : Type)
  | emplace (node : Iterator) (key : K) (value : V)
  | assign (node : Iterator) (key : K) (default value : V)
  | modify (key : K) (value : V)
  | erase (key : K)
  | erasePosition (key : K)
  | eraseRange (first last : Option K)
  | clear

variable [DecidableEq K]

/-- A new node is nowhere where another one is, and the end of a range comes
after its beginning. -/
def act (m : Map K V) : Operation K V → Option (Map K V)
  | .emplace node key value =>
    if node ∈ m.addresses then none else some (m.emplace node key value).1
  | .assign node key default value =>
    if node ∈ m.addresses then none
    else
      let (m, it) := m.subscript node key default
      some (m.store it value)
  | .modify key value => some ((m.find key).elim m fun it => m.store it value)
  | .erase key => some (m.erase key).1
  | .erasePosition key => some ((m.find key).elim m fun it => (m.erasePosition it).1)
  | .eraseRange first last =>
    if m.reaches (first.bind m.find) (last.bind m.find) then
      some (m.eraseRange (first.bind m.find) (last.bind m.find)).1
    else none
  | .clear => some m.clear

namespace Operation

def meaning (a : InsertionMap K V) : Operation K V → InsertionMap K V
  | .emplace _ key value => a.emplace key value
  | .assign _ key _ value => a.assign key value
  | .modify key value => if key ∈ a.keys then a.assign key value else a
  | .erase key => a.erase key
  | .erasePosition key => a.erase key
  | .eraseRange first last => a.eraseRange first last
  | .clear => .empty

/-- Whether the entry of the key is among those that the call erases. -/
def erases (a : InsertionMap K V) (key : K) : Operation K V → Bool
  | .erase key' => key' = key
  | .erasePosition key' => key' = key
  | .eraseRange first last => key ∈ (a.range first last).map Prod.fst
  | .clear => true
  | _ => false

/-- The value that is assigned to a present key. -/
def stores (key : K) : Operation K V → Option V
  | .assign _ key' _ value => if key' = key then some value else none
  | .modify key' value => if key' = key then some value else none
  | _ => none

theorem find_meaning {a : InsertionMap K V} {key : K} {value : V} (h : a.find key = some value)
    {op : Operation K V} (hop : op.erases a key = false) :
    (op.meaning a).find key = some ((op.stores key).getD value) := by
  have hkey : key ∈ a.keys := InsertionMap.isSome_find.mp (by rw [h]; rfl)
  cases op with
  | emplace _ key' value' =>
    rw [meaning, InsertionMap.find_emplace]
    by_cases hkey' : key' = key
    · simp [stores, hkey', h]
    · simp [stores, hkey', h]
  | assign _ key' _ value' =>
    rw [meaning, InsertionMap.find_assign]
    by_cases hkey' : key' = key
    · simp [stores, hkey']
    · simp [stores, hkey', h]
  | modify key' value' =>
    by_cases hkey' : key' = key
    · subst hkey'
      rw [meaning, if_pos hkey, InsertionMap.find_assign]
      simp [stores]
    · have hfind := InsertionMap.find_assign a key' key value'
      rw [if_neg hkey', h] at hfind
      simp only [meaning, stores, if_neg hkey', Option.getD_none]
      split_ifs
      · exact hfind
      · exact h
  | erase key' =>
    have hkey' : key' ≠ key := by simpa [erases] using hop
    rw [meaning, InsertionMap.find_erase, if_neg hkey', h]
    rfl
  | erasePosition key' =>
    have hkey' : key' ≠ key := by simpa [erases] using hop
    rw [meaning, InsertionMap.find_erase, if_neg hkey', h]
    rfl
  | eraseRange first last =>
    have hrange : key ∉ (a.range first last).map Prod.fst := of_decide_eq_false hop
    rw [meaning, InsertionMap.eraseRange, InsertionMap.find_foldl_erase, if_neg hrange, h]
    rfl
  | clear => cases hop

/-- No call erases the entry of the key. -/
def keeps (key : K) : InsertionMap K V → List (Operation K V) → Bool
  | _, [] => true
  | a, op :: ops => !op.erases a key && keeps key (op.meaning a) ops

end Operation

def meaning (ops : List (Operation K V)) : InsertionMap K V := ops.foldl Operation.meaning .empty

theorem represents_act {m m' : Map K V} {a : InsertionMap K V} (h : m.Represents a)
    {op : Operation K V} (hact : act m op = some m') : m'.Represents (op.meaning a) := by
  cases op with
  | emplace node key value =>
    rw [act] at hact
    split_ifs at hact with hnode
    obtain rfl := Option.some.inj hact
    exact h.emplace (fun _ => hnode) value
  | assign node key default value =>
    rw [act] at hact
    split_ifs at hact with hnode
    obtain rfl := Option.some.inj hact
    obtain ⟨hsubscript, hlut⟩ := h.subscript (fun _ => hnode) default
    have hstore := hsubscript.store hlut value
    rw [InsertionMap.assign_emplace] at hstore
    exact hstore
  | modify key value =>
    obtain rfl := Option.some.inj hact
    rw [find, Operation.meaning]
    cases hit : m.lut key with
    | none =>
      rw [if_neg (h.lut_eq_none_iff.mp hit)]
      exact h
    | some it =>
      rw [if_pos (h.mem_keys hit)]
      exact h.store hit value
  | erase key =>
    obtain rfl := Option.some.inj hact
    exact h.erase key
  | erasePosition key =>
    obtain rfl := Option.some.inj hact
    rw [find, Operation.meaning]
    cases hit : m.lut key with
    | none =>
      rw [InsertionMap.erase_of_notMem (h.lut_eq_none_iff.mp hit)]
      exact h
    | some it => exact h.erasePosition hit
  | eraseRange first last =>
    rw [act] at hact
    split_ifs at hact with hreaches
    obtain rfl := Option.some.inj hact
    exact h.eraseRange first last
  | clear =>
    obtain rfl := Option.some.inj hact
    exact Represents.new

/-- An entry stays in its node until it is erased. -/
theorem lut_act {m m' : Map K V} {a : InsertionMap K V} (h : m.Represents a)
    {op : Operation K V} (hact : act m op = some m') {key : K} {it : Iterator}
    (hit : m.lut key = some it) (hop : op.erases a key = false) : m'.lut key = some it := by
  have hemplace : ∀ node key' value, (m.emplace node key' value).1.lut key = some it := by
    intro node key' value
    rw [emplace]
    cases hlut : m.lut key' with
    | some it' => exact hit
    | none =>
      have hkey : key ≠ key' := fun heq => by
        rw [heq, hlut] at hit
        cases hit
      exact (Function.update_of_ne hkey _ _).trans hit
  cases op with
  | emplace node key' value =>
    rw [act] at hact
    split_ifs at hact with hnode
    obtain rfl := Option.some.inj hact
    exact hemplace node key' value
  | assign node key' default value =>
    rw [act] at hact
    split_ifs at hact with hnode
    obtain rfl := Option.some.inj hact
    change (m.subscript node key' default).1.lut key = some it
    rw [subscript]
    cases hlut : m.lut key' with
    | some it' => exact hit
    | none => exact hemplace node key' default
  | modify key' value =>
    obtain rfl := Option.some.inj hact
    rw [find]
    cases hlut : m.lut key' with
    | none => exact hit
    | some it' => exact hit
  | erase key' =>
    obtain rfl := Option.some.inj hact
    have hkey : key ≠ key' := fun heq => by simp [Operation.erases, heq] at hop
    rw [erase]
    cases hlut : m.lut key' with
    | none => exact hit
    | some it' => exact (Function.update_of_ne hkey _ _).trans hit
  | erasePosition key' =>
    obtain rfl := Option.some.inj hact
    have hkey : key ≠ key' := fun heq => by simp [Operation.erases, heq] at hop
    rw [find]
    cases hlut : m.lut key' with
    | none => exact hit
    | some it' =>
      obtain ⟨value, hvalue⟩ := (h.lut key' it').mp hlut
      have hderef : m.deref it' = some (key', value) := h.deref_address hvalue
      rw [Option.elim_some, erasePosition, hderef]
      exact (Function.update_of_ne hkey _ _).trans hit
  | eraseRange first last =>
    rw [act] at hact
    split_ifs at hact with hreaches
    obtain rfl := Option.some.inj hact
    have hrange : key ∉ (a.range first last).map Prod.fst := of_decide_eq_false hop
    rw [← h.keys_nodesBetween] at hrange
    rw [lut_eraseRange _ _ hrange, hit]
  | clear => cases hop

theorem represents_of_run {ops : List (Operation K V)} {m : Map K V}
    (hrun : run act new ops = some m) : m.Represents (meaning ops) := by
  refine run_history (P := fun ops m => Represents m (meaning ops)) Represents.new ?_ hrun
  intro ops m op m' h hact
  rw [meaning, List.foldl_append]
  exact represents_act h hact

/-- What iterating shows and what each call returns. An iterator is compared by
where it leads after the call. -/
structure Refines (m : Map K V) (a : InsertionMap K V) : Prop where
  iterate : m.values.map ListNode.entry = a.entries
  size : m.size = a.entries.length
  count : ∀ key, m.count key = true ↔ key ∈ a.keys
  find : ∀ key, (m.find key).bind m.deref = (a.find key).map fun value => (key, value)
  emplace : ∀ node ∉ m.addresses, ∀ key value,
    ((m.emplace node key value).2.2 = true ↔ key ∉ a.keys) ∧
      (m.emplace node key value).1.deref (m.emplace node key value).2.1 =
        some (key, (a.find key).getD value)
  subscript : ∀ node ∉ m.addresses, ∀ key default,
    (m.subscript node key default).1.deref (m.subscript node key default).2 =
      some (key, (a.find key).getD default)
  erase : ∀ key, (m.erase key).2 = true ↔ key ∈ a.keys
  erasePosition : ∀ key it, m.find key = some it →
    (m.erasePosition it).2.bind (m.erasePosition it).1.deref =
      (a.entriesFrom (some key)).tail.head?
  eraseRange : ∀ first last : Option K, ∀ it it', first.bind m.find = it → last.bind m.find = it' →
    m.reaches it it' = true → (m.eraseRange it it').2.bind (m.eraseRange it it').1.deref =
      last.bind fun key => (a.find key).map fun value => (key, value)

/-- The list and the table together do what an insertion map does, whatever
the calls and wherever the nodes go. -/
theorem refines_of_run {ops : List (Operation K V)} {m : Map K V}
    (hrun : run act new ops = some m) : m.Refines (meaning ops) := by
  have h := represents_of_run hrun
  constructor
  · exact h.entries
  · exact h.size_eq
  · exact fun key => h.isSome_lut_iff
  · exact h.find_deref
  · intro node hnode key value
    constructor
    · rw [← h.lut_eq_none_iff, emplace]
      cases m.lut key <;> simp
    · have hlut := m.lut_emplace node key value
      rw [(h.emplace (fun _ => hnode) value).deref_of_lut hlut, InsertionMap.find_emplace,
        if_pos rfl, Option.map_some]
  · intro node hnode key default
    obtain ⟨hsubscript, hlut⟩ := h.subscript (fun _ => hnode) default
    rw [hsubscript.deref_of_lut hlut, InsertionMap.find_emplace, if_pos rfl, Option.map_some]
  · intro key
    rw [← h.isSome_lut_iff, erase]
    cases m.lut key <;> simp
  · intro key it hit
    exact h.erasePosition_deref hit
  · rintro first last _ _ rfl rfl -
    exact h.eraseRange_deref first last

theorem refines_of_run_reused :
    ∃ m : Map String ℕ, run act new
        [.emplace 7 "a" 1, .emplace 9 "b" 2, .erase "a", .assign 7 "a" 0 3, .emplace 5 "c" 4,
          .eraseRange (some "b") (some "c")] = some m ∧
      m.values.map ListNode.entry = [("c", 4)] ∧
      ((m.emplace 8 "c" 6).2.2 = true ↔ "c" ∉ ["c"]) ∧
      (m.emplace 8 "c" 6).1.deref (m.emplace 8 "c" 6).2.1 = some ("c", 4) := by
  have h := @refines_of_run String ℕ _
    [.emplace 7 "a" 1, .emplace 9 "b" 2, .erase "a", .assign 7 "a" 0 3, .emplace 5 "c" 4,
      .eraseRange (some "b") (some "c")] _ rfl
  exact ⟨_, rfl, h.iterate, h.emplace 8 (by decide) "c" 6⟩

theorem kept_of_run {ops : List (Operation K V)} {m m' : Map K V} {a : InsertionMap K V}
    (h : m.Represents a) (hrun : run act m ops = some m') {key : K} {it : Iterator}
    (hit : m.lut key = some it) {value : V} (hvalue : a.find key = some value)
    (hkept : Operation.keeps key a ops = true) :
    m'.lut key = some it ∧
      m'.deref it = some (key, (ops.filterMap (Operation.stores key)).getLastD value) := by
  induction ops generalizing m a value with
  | nil =>
    obtain rfl : m = m' := by simpa using hrun
    have hderef := h.deref_of_lut hit
    rw [hvalue] at hderef
    exact ⟨hit, hderef⟩
  | cons op ops ih =>
    obtain ⟨m₁, hact, hrun₁⟩ := run_cons_eq_some.mp hrun
    rw [Operation.keeps, Bool.and_eq_true, Bool.not_eq_true'] at hkept
    obtain ⟨hop, hops⟩ := hkept
    have htail := ih (represents_act h hact) hrun₁ (lut_act h hact hit hop)
      (Operation.find_meaning hvalue hop) hops
    refine ⟨htail.1, htail.2.trans ?_⟩
    cases hstores : op.stores key <;>
      simp only [List.filterMap_cons, hstores, List.getLastD_cons, Option.getD_none,
        Option.getD_some]

/-- An iterator stays valid until its entry is erased, and shows what was
assigned last. -/
theorem iterator_of_run {before after : List (Operation K V)} {m m' : Map K V}
    (hbefore : run act new before = some m) (hafter : run act m after = some m') {key : K}
    {it : Iterator} (hit : m.find key = some it)
    (hkept : Operation.keeps key (meaning before) after = true) :
    m'.find key = some it ∧ ∃ value, m.deref it = some (key, value) ∧
      m'.deref it = some (key, (after.filterMap (Operation.stores key)).getLastD value) := by
  have h := represents_of_run hbefore
  have hkey := InsertionMap.isSome_find.mpr (h.mem_keys hit)
  obtain ⟨value, hvalue⟩ := Option.isSome_iff_exists.mp hkey
  have hderef := h.find_deref key
  rw [hit, hvalue] at hderef
  obtain ⟨hfind, hderef'⟩ := kept_of_run h hafter hit hvalue hkept
  exact ⟨hfind, value, hderef, hderef'⟩

theorem iterator_of_run_shifted :
    ∃ m m' : Map String ℕ, run act new [.emplace 7 "a" 1, .emplace 9 "b" 2] = some m ∧
      run act m [.eraseRange (some "a") (some "b"), .emplace 7 "c" 3, .modify "b" 4] = some m' ∧
      m'.find "b" = some 9 ∧ ∃ value, m.deref 9 = some ("b", value) ∧
        m'.deref 9 = some ("b", [4].getLastD value) :=
  ⟨_, _, rfl, rfl, @iterator_of_run String ℕ _ [.emplace 7 "a" 1, .emplace 9 "b" 2]
    [.eraseRange (some "a") (some "b"), .emplace 7 "c" 3, .modify "b" 4] _ _ rfl rfl "b" 9 rfl
    (by decide)⟩

/-! ## Equality and hashes -/

/-- The entries of two maps that are equal under the given equality of values. -/
def SameEntries (valueEqual : V → V → Bool) (a b : InsertionMap K V) : Prop :=
  ∀ key, Option.Rel (fun x y => valueEqual x y = true) (a.find key) (b.find key)

theorem SameEntries.mem_keys {valueEqual : V → V → Bool} {a b : InsertionMap K V}
    (h : SameEntries valueEqual a b) {key : K} : key ∈ a.keys ↔ key ∈ b.keys := by
  rw [← InsertionMap.isSome_find, ← InsertionMap.isSome_find]
  have hkey := h key
  cases ha : a.find key <;> cases hb : b.find key <;> simp [ha, hb] at hkey ⊢

theorem SameEntries.perm_keys {valueEqual : V → V → Bool} {a b : InsertionMap K V}
    (h : SameEntries valueEqual a b) : a.keys.Perm b.keys :=
  (List.perm_ext_iff_of_nodup a.nodup b.nodup).mpr fun _ => h.mem_keys

theorem equal_iff {valueEqual : V → V → Bool} {m other : Map K V} {a b : InsertionMap K V}
    (h : m.Represents a) (hother : other.Represents b) :
    m.equal valueEqual other = true ↔ SameEntries valueEqual b a := by
  have hsubset : (m.values.all fun pair => match other.find pair.first with
      | none => false
      | some it => (other.deref it).any fun entry => valueEqual entry.2 pair.second) = true ↔
      ∀ e ∈ a.entries, ∃ value, b.find e.1 = some value ∧ valueEqual value e.2 = true := by
    rw [← h.entries, List.all_eq_true, List.forall_mem_map]
    apply forall₂_congr
    intro pair _
    have hderef := hother.find_deref pair.first
    simp only [ListNode.entry]
    cases hfind : other.find pair.first with
    | none =>
      rw [hfind] at hderef
      simp [Option.map_eq_none_iff.mp hderef.symm]
    | some it =>
      rw [hfind, Option.bind_some] at hderef
      simp only [hderef]
      cases b.find pair.first <;> simp
  rw [equal, Bool.and_eq_true, decide_eq_true_eq, hsubset, h.size_eq, hother.size_eq]
  constructor
  · rintro ⟨hsize, hvalues⟩ key
    have hle : a.keys ⊆ b.keys := by
      intro key hkey
      obtain ⟨value, hvalue⟩ := InsertionMap.mem_keys.mp hkey
      obtain ⟨value', hvalue', -⟩ := hvalues _ hvalue
      exact InsertionMap.isSome_find.mp (Option.isSome_iff_exists.mpr ⟨value', hvalue'⟩)
    have hperm : a.keys.Perm b.keys :=
      (List.subperm_of_subset a.nodup hle).perm_of_length_le (by simp [InsertionMap.keys, hsize])
    cases hfind : a.find key with
    | none =>
      have hkey : key ∉ b.keys := by
        rw [← hperm.mem_iff]
        exact InsertionMap.find_eq_none.mp hfind
      rw [InsertionMap.find_eq_none.mpr hkey]
      exact Option.Rel.none
    | some value =>
      obtain ⟨value', hvalue', heq⟩ := hvalues _ (InsertionMap.find_eq_some.mp hfind)
      rw [hvalue']
      exact Option.Rel.some heq
  · intro hsame
    constructor
    · have hlength := hsame.perm_keys.length_eq
      simpa [InsertionMap.keys] using hlength.symm
    · rintro ⟨key, value⟩ hentry
      have hkey := hsame key
      rw [InsertionMap.find_eq_some.mpr hentry] at hkey
      cases hfind : b.find key with
      | none =>
        rw [hfind] at hkey
        cases hkey
      | some value' =>
        rw [hfind] at hkey
        cases hkey with
        | some heq => exact ⟨value', rfl, heq⟩

theorem hash_eq {m : Map K V} {a : InsertionMap K V} (h : m.Represents a)
    (hashKey : K → BitVec 64) (hashValue : V → BitVec 64) :
    m.hash hashKey hashValue = (a.keys.map fun key =>
      1327 * (hashKey key + 977 * (((a.find key).map hashValue).getD 0))).sum := by
  have hfold : ∀ (values : List (ListNode K V)) (result : BitVec 64),
      values.foldl (fun result pair =>
        result + 1327 * (hashKey pair.first + 977 * hashValue pair.second)) result =
      result + (values.map fun pair =>
        1327 * (hashKey pair.first + 977 * hashValue pair.second)).sum := by
    intro values
    induction values with
    | nil => simp
    | cons pair values ih =>
      intro result
      rw [List.foldl_cons, ih, List.map_cons, List.sum_cons, add_assoc]
  rw [hash, hfold, zero_add, ← h.keys, List.map_map]
  refine congrArg List.sum (List.map_congr_left fun pair hpair => ?_)
  have hfind : a.find pair.first = some pair.second := by
    rw [InsertionMap.find_eq_some, ← h.entries]
    exact List.mem_map_of_mem hpair
  simp only [Function.comp_apply, hfind, Option.map_some, Option.getD_some]

/-- Two maps are equal when they have the same keys with equal values, in
whatever order these came, and then their hashes agree. -/
theorem equal_of_run {ops ops' : List (Operation K V)} {m m' : Map K V}
    (hrun : run act new ops = some m) (hrun' : run act new ops' = some m')
    (valueEqual : V → V → Bool) :
    (m'.equal valueEqual m = true ↔ SameEntries valueEqual (meaning ops) (meaning ops')) ∧
      ∀ (hashKey : K → BitVec 64) (hashValue : V → BitVec 64),
        (∀ x y, valueEqual x y = true → hashValue x = hashValue y) →
        m'.equal valueEqual m = true → m.hash hashKey hashValue = m'.hash hashKey hashValue := by
  have h := represents_of_run hrun
  have h' := represents_of_run hrun'
  refine ⟨equal_iff h' h, fun hashKey hashValue hvalue hequal => ?_⟩
  have hsame := (equal_iff h' h).mp hequal
  rw [hash_eq h, hash_eq h', (hsame.perm_keys.map _).sum_eq]
  refine congrArg List.sum (List.map_congr_left fun key _ => ?_)
  have hhash : ((meaning ops).find key).map hashValue =
      ((meaning ops').find key).map hashValue := by
    have hkey := hsame key
    cases hfind : (meaning ops).find key <;> cases hfind' : (meaning ops').find key <;>
      simp [hfind, hfind'] at hkey ⊢
    exact hvalue _ _ hkey
  rw [hhash]

theorem equal_of_run_swapped :
    ∃ m m' : Map String ℕ, run act new [.emplace 7 "a" 1, .emplace 9 "b" 2] = some m ∧
      run act new [.emplace 3 "b" 2, .emplace 5 "a" 1] = some m' ∧
      (m'.equal (· == ·) m = true ↔ SameEntries (· == ·)
        (meaning [.emplace 7 "a" 1, .emplace 9 "b" 2])
        (meaning [.emplace 3 "b" 2, .emplace 5 "a" 1])) :=
  ⟨_, _, rfl, rfl, (@equal_of_run String ℕ _ [.emplace 7 "a" 1, .emplace 9 "b" 2]
    [.emplace 3 "b" 2, .emplace 5 "a" 1] _ _ rfl rfl (· == ·)).1⟩

end Map

end SpatialWorkers
