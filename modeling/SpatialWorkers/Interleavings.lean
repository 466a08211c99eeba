import SpatialWorkers.Network
import SpatialWorkers.WorkerSteps

/-!
# A worker and its connection side by side

The worker executes its statements, the connection drops and receives ops, and
the two take the statements that ask for an answer together. Every order of
these steps is a run of the system.
-/
namespace SpatialWorkers
open LabelledRuns

/-- A step of the whole: the worker's, the network's, or both at once. -/
inductive Label
  | own
  | isConnected (answer : Bool)
  | getOpList (ops : OpList)
  | drop (reason : String)
  | arrive (op : Op)
  deriving DecidableEq, Repr

namespace Label

def act? : Label → Option Act
  | own => some .own
  | isConnected answer => some (.isConnected answer)
  | getOpList ops => some (.getOpList ops)
  | _ => none

def netEvent? : Label → Option NetEvent
  | isConnected answer => some (.isConnected answer)
  | getOpList ops => some (.getOpList ops)
  | drop reason => some (.drop reason)
  | arrive op => some (.arrive op)
  | own => none

def isSample : Label → Bool
  | isConnected _ => true
  | _ => false

def dropReason? : Label → Option String
  | drop reason => some reason
  | _ => none

end Label

/-- The worker and the network, started when the connection future resolves. -/
def Worker.system (w : Worker) : Machine × Network → Label → Option (Machine × Network) :=
  sync w.step Network.step Label.act? Label.netEvent?

def Worker.systemStart : Machine × Network := (Worker.start, Network.fresh)

/-- The worker receives what the network delivers. -/
theorem received_eq_delivered (labels : List Label) :
    received (labels.filterMap Label.act?) =
      (labels.filterMap Label.netEvent?).filterMap NetEvent.delivered? := by
  unfold received
  rw [List.filterMap_filterMap, List.filterMap_filterMap]
  congr 1
  ext l
  cases l <;> rfl

namespace Worker

variable (w : Worker)

/-- The worker and the network of a run take runs of their own. -/
theorem runs_of_system {labels : List Label} {m : Machine} {n : Network}
    (hrun : run w.system systemStart labels = some (m, n)) :
    run w.step start (labels.filterMap Label.act?) = some m ∧
      run Network.step .fresh (labels.filterMap Label.netEvent?) = some n :=
  ⟨run_sync_fst hrun, run_sync_snd hrun⟩

theorem system_enabled {m m' : Machine} {n n' : Network} {l : Label}
    (hworker : advance w.step m l.act? = some m')
    (hnetwork : advance Network.step n l.netEvent? = some n') :
    w.system (m, n) l = some (m', n') :=
  sync_eq_some.mpr ⟨hworker, hnetwork⟩

/-- The connection never keeps the worker waiting: unless the worker has ended,
it can take its next statement, whatever the state of the network. -/
theorem system_progress (m : Machine) (n : Network) :
    (∃ status, m.pc = .returned status) ∨ m.pc = .terminated ∨
      ∃ l s, l.act?.isSome = true ∧ w.system (m, n) l = some s := by
  rcases w.step_progress m with hret | hterm | hown | hsample | hops
  · exact Or.inl hret
  · exact Or.inr (Or.inl hterm)
  · obtain ⟨m', hm'⟩ := Option.isSome_iff_exists.mp hown
    exact Or.inr (Or.inr ⟨.own, (m', n), rfl, w.system_enabled hm' rfl⟩)
  · obtain ⟨m', hm'⟩ := Option.isSome_iff_exists.mp (hsample n.dropped.isNone)
    exact Or.inr (Or.inr ⟨.isConnected n.dropped.isNone, (m', n), rfl,
      w.system_enabled hm' (Network.step_isConnected n)⟩)
  · obtain ⟨m', hm'⟩ := Option.isSome_iff_exists.mp (hops [])
    exact Or.inr (Or.inr ⟨.getOpList [], (m', n), rfl,
      w.system_enabled hm' (Network.step_timeout n)⟩)

end Worker

end SpatialWorkers
