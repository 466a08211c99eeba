import SpatialWorkers.LabelledRuns
import SpatialWorkers.Ops

/-!
# The connection behind the SDK

What the workers rely on: ops arrive in a queue, a drop makes `IsConnected()`
false from then on and queues one disconnect op with its reason, and
`GetOpList` takes any number of ops off the front of the queue.
-/
namespace SpatialWorkers
open LabelledRuns

structure Network where
  dropped : Option String
  queue : OpList
  deriving DecidableEq, Repr

/-- What happens to a connection, by itself or when the worker asks. -/
inductive NetEvent
  | drop (reason : String)
  | arrive (op : Op)
  | isConnected (answer : Bool)
  | getOpList (ops : OpList)
  deriving DecidableEq, Repr

namespace NetEvent

def dropReason? : NetEvent → Option String
  | drop reason => some reason
  | _ => none

/-- The op that an event puts into the queue. -/
def posted? : NetEvent → Option Op
  | drop reason => some (.disconnect ⟨reason⟩)
  | arrive op => some op
  | _ => none

def delivered? : NetEvent → Option OpList
  | getOpList ops => some ops
  | _ => none

end NetEvent

namespace Network

/-- A connection whose future has just resolved. -/
def fresh : Network := ⟨none, []⟩

def step (n : Network) : NetEvent → Option Network
  | .drop reason =>
    if n.dropped = none then some ⟨some reason, n.queue ++ [.disconnect ⟨reason⟩]⟩ else none
  | .arrive op =>
    if op.isDisconnect then none else some { n with queue := n.queue ++ [op] }
  | .isConnected answer => if answer = n.dropped.isNone then some n else none
  | .getOpList ops =>
    if ops.isPrefixOf n.queue then some { n with queue := n.queue.drop ops.length } else none

theorem step_isConnected (n : Network) : n.step (.isConnected n.dropped.isNone) = some n :=
  if_pos rfl

/-- `GetOpList` may time out with an empty list at any moment. -/
theorem step_timeout (n : Network) : n.step (.getOpList []) = some n := by
  simp [step]

/-- Every op is delivered once and in order, or still queued; a drop happens at
most once, and disconnect ops come from drops alone. -/
structure History (events : List NetEvent) (n : Network) : Prop where
  ops : (events.filterMap NetEvent.delivered?).flatten ++ n.queue =
    events.filterMap NetEvent.posted?
  drops : events.filterMap NetEvent.dropReason? = n.dropped.toList
  reasons : disconnectReasons (events.filterMap NetEvent.posted?) =
    events.filterMap NetEvent.dropReason?

theorem History.step {events : List NetEvent} {n n' : Network} {e : NetEvent}
    (h : History events n) (hstep : n.step e = some n') : History (events ++ [e]) n' := by
  obtain ⟨hops, hdrops, hreasons⟩ := h
  cases e with
  | drop reason =>
    simp only [Network.step] at hstep
    split_ifs at hstep with hnone
    obtain rfl := Option.some.inj hstep
    refine ⟨?_, ?_, ?_⟩ <;> simp only [filterMap_concat]
    · simp [NetEvent.delivered?, NetEvent.posted?, ← hops]
    · simp [NetEvent.dropReason?, hdrops, hnone]
    · simp [NetEvent.posted?, NetEvent.dropReason?, hreasons, Op.disconnectReason?]
  | arrive op =>
    simp only [Network.step] at hstep
    split_ifs at hstep with hdisc
    obtain rfl := Option.some.inj hstep
    have hreason : op.disconnectReason? = none :=
      Op.disconnectReason?_of_not_isDisconnect (by simpa using hdisc)
    refine ⟨?_, ?_, ?_⟩ <;> simp only [filterMap_concat]
    · simp [NetEvent.delivered?, NetEvent.posted?, ← hops]
    · simp [NetEvent.dropReason?, hdrops]
    · simp [NetEvent.posted?, NetEvent.dropReason?, hreasons, hreason]
  | isConnected answer =>
    simp only [Network.step] at hstep
    split_ifs at hstep
    obtain rfl := Option.some.inj hstep
    refine ⟨?_, ?_, ?_⟩ <;> simp only [filterMap_concat]
    · simpa [NetEvent.delivered?, NetEvent.posted?] using hops
    · simpa [NetEvent.dropReason?] using hdrops
    · simpa [NetEvent.posted?, NetEvent.dropReason?] using hreasons
  | getOpList ops =>
    simp only [Network.step] at hstep
    split_ifs at hstep with hfront
    obtain rfl := Option.some.inj hstep
    obtain ⟨rest, hrest⟩ := List.isPrefixOf_iff_prefix.mp hfront
    refine ⟨?_, ?_, ?_⟩ <;> simp only [filterMap_concat]
    · simp [NetEvent.delivered?, NetEvent.posted?, ← hops, ← hrest]
    · simpa [NetEvent.dropReason?] using hdrops
    · simpa [NetEvent.posted?, NetEvent.dropReason?] using hreasons

theorem history_of_run {events : List NetEvent} {n : Network}
    (h : run step fresh events = some n) : History events n :=
  run_history (P := History) ⟨rfl, rfl, rfl⟩ (fun _ _ _ _ hn hstep => hn.step hstep) h

/-- `IsConnected()` is true exactly when no drop has happened before it. -/
theorem isConnected_of_run {front back : List NetEvent} {answer : Bool} {n : Network}
    (h : run step fresh (front ++ .isConnected answer :: back) = some n) :
    answer = (front.filterMap NetEvent.dropReason?).isEmpty := by
  obtain ⟨t, hfront, hback⟩ := run_append_eq_some.mp h
  obtain ⟨t', hsample, -⟩ := run_cons_eq_some.mp hback
  have hdrops := (history_of_run hfront).drops
  simp only [step] at hsample
  split_ifs at hsample with hanswer
  rw [hanswer, hdrops]
  cases t.dropped <;> rfl

/-- What was delivered holds a disconnect op for the drop, once, or none yet. -/
theorem reasons_of_run {events : List NetEvent} {n : Network}
    (h : run step fresh events = some n) :
    disconnectReasons (events.filterMap NetEvent.delivered?).flatten ++
      disconnectReasons n.queue = n.dropped.toList := by
  obtain ⟨hops, hdrops, hreasons⟩ := history_of_run h
  rw [← disconnectReasons_append, hops, hreasons, hdrops]

/-- A disconnect op that was delivered is the one of the drop. -/
theorem delivered_of_run {events : List NetEvent} {n : Network}
    (h : run step fresh events = some n)
    (hne : disconnectReasons (events.filterMap NetEvent.delivered?).flatten ≠ []) :
    ∃ reason, events.filterMap NetEvent.dropReason? = [reason] ∧
      disconnectReasons (events.filterMap NetEvent.delivered?).flatten = [reason] := by
  have hqueue := reasons_of_run h
  rw [(history_of_run h).drops]
  cases hdropped : n.dropped with
  | none =>
    rw [hdropped] at hqueue
    exact absurd (List.append_eq_nil_iff.mp hqueue).1 hne
  | some reason =>
    rw [hdropped] at hqueue
    rcases List.append_eq_singleton_iff.mp hqueue with ⟨hfirst, -⟩ | ⟨hfirst, -⟩
    · exact absurd hfirst hne
    · exact ⟨reason, rfl, hfirst⟩

end Network

end SpatialWorkers
