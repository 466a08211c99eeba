import SpatialWorkers.Metrics

/-!
# Operations received from SpatialOS

The wrapper structures that `Dispatcher::Process` hands to the callbacks, and
the tagged union of an op list. Component data stays behind its handles: where
an op brings some, it carries the address that the C API provides.
-/
namespace SpatialWorkers

/-- `std::int64_t` in the SDK. -/
abbrev EntityId := ℤ

/-- `std::uint32_t` in the SDK. -/
abbrev ComponentId := ℕ

/-- `worker::RequestId`, a `std::uint32_t`. -/
abbrev RequestId := ℕ

/-- The address of a `ClientHandleBase`. -/
abbrev ClientHandle := ℕ

inductive LogLevel
  | kDebug
  | kInfo
  | kWarn
  | kError
  | kFatal
  deriving DecidableEq, Repr

inductive StatusCode
  | kSuccess
  | kTimeout
  | kNotFound
  | kAuthorityLost
  | kPermissionDenied
  | kApplicationError
  | kInternalError
  deriving DecidableEq, Repr

inductive Authority
  | kNotAuthoritative
  | kAuthoritative
  | kAuthorityLossImminent
  deriving DecidableEq, Repr

/-- The connection has disconnected and can no longer be used. -/
structure DisconnectOp where
  reason : String
  deriving DecidableEq, Repr

/-- A missing value means that the flag has been deleted. -/
structure FlagUpdateOp where
  name : String
  value : Option String
  deriving DecidableEq, Repr

structure LogMessageOp where
  level : LogLevel
  message : String
  deriving DecidableEq, Repr

structure CriticalSectionOp where
  inCriticalSection : Bool
  deriving DecidableEq, Repr

structure AddEntityOp where
  entityId : EntityId
  deriving DecidableEq, Repr

structure RemoveEntityOp where
  entityId : EntityId
  deriving DecidableEq, Repr

structure ReserveEntityIdResponseOp where
  requestId : RequestId
  statusCode : StatusCode
  message : String
  entityId : Option EntityId
  deriving DecidableEq, Repr

structure ReserveEntityIdsResponseOp where
  requestId : RequestId
  statusCode : StatusCode
  message : String
  firstEntityId : Option EntityId
  numberOfEntityIds : ℕ
  deriving DecidableEq, Repr

structure CreateEntityResponseOp where
  requestId : RequestId
  statusCode : StatusCode
  message : String
  entityId : Option EntityId
  deriving DecidableEq, Repr

structure DeleteEntityResponseOp where
  requestId : RequestId
  entityId : EntityId
  statusCode : StatusCode
  message : String
  deriving DecidableEq, Repr

/-- `WorkerProtocol_Entity`, with a handle for each component. -/
structure ProtocolEntity (η : Type) where
  entityId : EntityId
  component : List (ComponentId × η)
  deriving DecidableEq, Repr

/-- A query response before its entities are read. A count query has no array. -/
structure EntityQueryResponseWrapperOp where
  requestId : RequestId
  statusCode : StatusCode
  message : String
  resultCount : ℕ
  result : Option (List (ProtocolEntity ClientHandle))
  deriving DecidableEq, Repr

structure RemoveComponentOp where
  entityId : EntityId
  deriving DecidableEq, Repr

structure AuthorityChangeOp where
  entityId : EntityId
  authority : Authority
  deriving DecidableEq, Repr

/-- What add-component and component-update callbacks receive. -/
structure ComponentWrapperOp where
  entityId : EntityId
  handle : ClientHandle
  deriving DecidableEq, Repr

structure CommandRequestWrapperOp where
  requestId : RequestId
  entityId : EntityId
  timeoutMillis : ℕ
  callerWorkerId : String
  callerAttribute : List String
  request : ClientHandle
  deriving DecidableEq, Repr

structure CommandResponseWrapperOp where
  requestId : RequestId
  entityId : EntityId
  statusCode : StatusCode
  message : String
  response : Option ClientHandle
  commandId : ℕ
  deriving DecidableEq, Repr

/-- One element of an op list, by `OpType`. -/
inductive Op
  | disconnect (op : DisconnectOp)
  | flagUpdate (op : FlagUpdateOp)
  | logMessage (op : LogMessageOp)
  | metrics (op : MetricsOp)
  | criticalSection (op : CriticalSectionOp)
  | addEntity (op : AddEntityOp)
  | removeEntity (op : RemoveEntityOp)
  | reserveEntityIdResponse (op : ReserveEntityIdResponseOp)
  | reserveEntityIdsResponse (op : ReserveEntityIdsResponseOp)
  | createEntityResponse (op : CreateEntityResponseOp)
  | deleteEntityResponse (op : DeleteEntityResponseOp)
  | entityQueryResponse (op : EntityQueryResponseWrapperOp)
  | addComponent (componentId : ComponentId) (op : ComponentWrapperOp)
  | removeComponent (componentId : ComponentId) (op : RemoveComponentOp)
  | authorityChange (componentId : ComponentId) (op : AuthorityChangeOp)
  | componentUpdate (componentId : ComponentId) (op : ComponentWrapperOp)
  | commandRequest (componentId : ComponentId) (op : CommandRequestWrapperOp)
  | commandResponse (componentId : ComponentId) (op : CommandResponseWrapperOp)
  deriving DecidableEq, Repr

/-- What `Connection::GetOpList` returns. -/
abbrev OpList := List Op

namespace Op

/-- A log message of level `kFatal`. -/
def isFatal : Op → Bool
  | logMessage op => op.level = .kFatal
  | _ => false

def isDisconnect : Op → Bool
  | disconnect _ => true
  | _ => false

/-- The reason of a disconnect op. -/
def disconnectReason? : Op → Option String
  | disconnect op => some op.reason
  | _ => none

/-- The ops after which a worker acts on no further one. -/
def isTerminal (op : Op) : Bool := op.isFatal || op.isDisconnect

theorem isDisconnect_iff {op : Op} : op.isDisconnect = true ↔ ∃ d, op = disconnect d := by
  cases op <;> simp [isDisconnect]

theorem not_isDisconnect_of_isFatal {op : Op} (h : op.isFatal = true) :
    op.isDisconnect = false := by
  cases op with
  | disconnect op => cases h
  | _ => rfl

theorem disconnectReason?_of_not_isDisconnect {op : Op} (h : op.isDisconnect = false) :
    op.disconnectReason? = none := by
  cases op with
  | disconnect op => cases h
  | _ => rfl

end Op

/-- The reasons of the disconnect ops of a list, in order. -/
def disconnectReasons (ops : OpList) : List String := ops.filterMap Op.disconnectReason?

@[simp] theorem disconnectReasons_nil : disconnectReasons [] = [] := rfl

@[simp] theorem disconnectReasons_cons (op : Op) (ops : OpList) :
    disconnectReasons (op :: ops) = op.disconnectReason?.toList ++ disconnectReasons ops := by
  cases h : op.disconnectReason? <;> simp [disconnectReasons, h]

@[simp] theorem disconnectReasons_append (ops ops' : OpList) :
    disconnectReasons (ops ++ ops') = disconnectReasons ops ++ disconnectReasons ops' :=
  List.filterMap_append

theorem disconnectReasons_eq_nil {ops : OpList} :
    disconnectReasons ops = [] ↔ ops.any Op.isDisconnect = false := by
  induction ops with
  | nil => simp
  | cons op ops ih =>
    rw [disconnectReasons_cons, List.append_eq_nil_iff, ih, List.any_cons, Bool.or_eq_false_iff]
    cases op <;> simp [Op.disconnectReason?, Op.isDisconnect]

end SpatialWorkers
