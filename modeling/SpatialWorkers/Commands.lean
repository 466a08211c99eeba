import SpatialWorkers.Dispatching
import SpatialWorkers.Replication

/-!
# Commands

What one worker sends with a command reaches another as an op whose handle
points to a deserialized object. However the callbacks for commands are mixed
with others, each receives what was sent for its own command, and nothing else.
-/
namespace SpatialWorkers
open LabelledRuns Pbio Othello Dispatcher

variable {σ : Type}

/-- The command metaclasses that the schema compiler generates. -/
inductive Command
  | createPlayer
  | placeDisc
  | findColor
  | yourTurn
  deriving DecidableEq, Repr

/-- A request of some component; none where the code would read an object of
another type. -/
abbrev AnyRequest := Option ((c : Component) × c.Request)

abbrev AnyResponse := Option ((c : Component) × c.Response)

namespace Command

/-- `ComponentMetaclass`. -/
def component : Command → Component
  | createPlayer => .game
  | placeDisc => .game
  | findColor => .color
  | yourTurn => .turnTaker

def commandId : Command → ℕ
  | createPlayer => 1
  | placeDisc => 2
  | findColor => 1
  | yourTurn => 1

theorem component_commandId_injective {T T' : Command} (hcomponent : T.component = T'.component)
    (hid : T.commandId = T'.commandId) : T = T' := by
  cases T <;> cases T' <;> simp_all [component, commandId]

abbrev Request : Command → Type
  | createPlayer => Void
  | placeDisc => PlaceDiscRequest
  | findColor => FindColorRequest
  | yourTurn => Void

abbrev Response : Command → Type
  | createPlayer => CreatePlayerResult
  | placeDisc => SuccessResult
  | findColor => SuccessResult
  | yourTurn => Void

/-- `GenericCommandObject{T::CommandId, request}`. -/
def genericRequest (T : Command) (request : T.Request) : T.component.Request :=
  match T, request with
  | createPlayer, request => Game.Request.createPlayer request
  | placeDisc, request => Game.Request.placeDisc request
  | findColor, request => Color.Request.findColor request
  | yourTurn, request => TurnTaker.Request.yourTurn request

def genericResponse (T : Command) (response : T.Response) : T.component.Response :=
  match T, response with
  | createPlayer, response => Game.Response.createPlayer response
  | placeDisc, response => Game.Response.placeDisc response
  | findColor, response => Color.Response.findColor response
  | yourTurn, response => TurnTaker.Response.yourTurn response

/-- `CommandObject.data<T::Request>()`. -/
def requestData : (T : Command) → AnyRequest → Option T.Request
  | createPlayer, some ⟨.game, .createPlayer request⟩ => some request
  | placeDisc, some ⟨.game, .placeDisc request⟩ => some request
  | findColor, some ⟨.color, .findColor request⟩ => some request
  | yourTurn, some ⟨.turnTaker, .yourTurn request⟩ => some request
  | _, _ => none

def responseData : (T : Command) → AnyResponse → Option T.Response
  | createPlayer, some ⟨.game, .createPlayer response⟩ => some response
  | placeDisc, some ⟨.game, .placeDisc response⟩ => some response
  | findColor, some ⟨.color, .findColor response⟩ => some response
  | yourTurn, some ⟨.turnTaker, .yourTurn response⟩ => some response
  | _, _ => none

theorem requestData_generic (T : Command) (request : T.Request) :
    T.requestData (some ⟨T.component, T.genericRequest request⟩) = some request := by
  cases T <;> rfl

theorem responseData_generic (T : Command) (response : T.Response) :
    T.responseData (some ⟨T.component, T.genericResponse response⟩) = some response := by
  cases T <;> rfl

theorem requestCommandId_generic (T : Command) (request : T.Request) :
    T.component.requestCommandId (T.genericRequest request) = T.commandId := by
  cases T <;> rfl

end Command

/-! ## Sending -/

/-- What `WorkerProtocol_Connection_SendCommandRequest` is given. -/
structure SentCommandRequest where
  entityId : EntityId
  componentId : ComponentId
  request : (c : Component) × c.Request
  commandId : ℕ
  timeoutMillis : Option ℕ
  allowShortCircuit : Bool

/-- What `WorkerProtocol_Connection_SendCommandResponse` is given. -/
structure SentCommandResponse where
  requestId : RequestId
  componentId : ComponentId
  response : (c : Component) × c.Response

namespace Command

def sendCommandRequest (T : Command) (entityId : EntityId) (request : T.Request)
    (timeoutMillis : Option ℕ) (allowShortCircuit : Bool) : SentCommandRequest where
  entityId := entityId
  componentId := T.component.componentId
  request := ⟨T.component, T.genericRequest request⟩
  commandId := T.commandId
  timeoutMillis := timeoutMillis
  allowShortCircuit := allowShortCircuit

def sendCommandResponse (T : Command) (requestId : RequestId) (response : T.Response) :
    SentCommandResponse where
  requestId := requestId
  componentId := T.component.componentId
  response := ⟨T.component, T.genericResponse response⟩

end Command

/-- What a dispatcher is told: a command of another worker, the answer to its
own one, or anything else. -/
inductive CommandEvent
  | request (T : Command) (op : CommandRequestOp T.Request)
  | response (T : Command) (op : CommandResponseOp T.Response)
  | other (op : Op)

/-- Ops that commands are about. -/
def Op.isCommandOp : Op → Bool
  | .commandRequest _ _ => true
  | .commandResponse _ _ => true
  | _ => false

namespace CommandEvent

/-- The op that tells of an event. An object that was sent is deserialized, and
a response comes with the command id that was given with the request. -/
inductive Delivers (Obj : Type) [Pbio Obj] (heap : Heap) : CommandEvent → Op → Prop
  | request {T : Command} {op : CommandRequestOp T.Request} {handle : ClientHandle}
    {sent : SentCommandRequest} {timeoutMillis : Option ℕ} {allowShortCircuit : Bool}
    (hsent : T.sendCommandRequest op.entityId op.request timeoutMillis allowShortCircuit = sent)
    (hheap : heap handle = (sent.request.1.deserializeRequest
      (sent.request.1.serializeRequest sent.request.2 (newObject : Obj))).map
        (ClientObject.request sent.request.1)) :
    Delivers Obj heap (request T op) (.commandRequest sent.componentId ⟨op.requestId,
      sent.entityId, op.timeoutMillis, op.callerWorkerId, op.callerAttributeSet, handle⟩)
  | response {T : Command} {op : CommandResponseOp T.Response} {request : T.Request}
    {response : T.Response} {handle : ClientHandle} {asked : SentCommandRequest}
    {sent : SentCommandResponse} {timeoutMillis : Option ℕ} {allowShortCircuit : Bool}
    {requestId : RequestId}
    (hasked : T.sendCommandRequest op.entityId request timeoutMillis allowShortCircuit = asked)
    (hsent : T.sendCommandResponse requestId response = sent)
    (hresponse : op.response = some response)
    (hheap : heap handle = (sent.response.1.deserializeResponse
      (sent.response.1.serializeResponse sent.response.2 (newObject : Obj))).map
        (ClientObject.response sent.response.1)) :
    Delivers Obj heap (CommandEvent.response T op) (.commandResponse asked.componentId
      ⟨op.requestId, asked.entityId, op.statusCode, op.message, some handle, asked.commandId⟩)
  | failure {T : Command} {op : CommandResponseOp T.Response} {request : T.Request}
    {asked : SentCommandRequest} {timeoutMillis : Option ℕ} {allowShortCircuit : Bool}
    (hasked : T.sendCommandRequest op.entityId request timeoutMillis allowShortCircuit = asked)
    (hresponse : op.response = none) :
    Delivers Obj heap (CommandEvent.response T op) (.commandResponse asked.componentId
      ⟨op.requestId, asked.entityId, op.statusCode, op.message, none, asked.commandId⟩)
  | other {op : Op} (h : op.isCommandOp = false) : Delivers Obj heap (other op) op

end CommandEvent

/-! ## Callbacks -/

namespace Component

/-- The command id is read of the same object. -/
def getRequest (c : Component) (heap : Heap) (handle : ClientHandle) :
    GenericCommandObject AnyRequest :=
  match heap handle with
  | some (.request c' request) =>
    if c' = c then ⟨c'.requestCommandId request, some ⟨c', request⟩⟩ else ⟨0, none⟩
  | _ => ⟨0, none⟩

def getResponse (c : Component) (heap : Heap) (handle : ClientHandle) :
    GenericCommandObject AnyResponse :=
  match heap handle with
  | some (.response c' response) =>
    if c' = c then ⟨c'.responseCommandId response, some ⟨c', response⟩⟩ else ⟨0, none⟩
  | _ => ⟨0, none⟩

end Component

def Registration.isCommand : Registration σ → Bool
  | .commandRequest _ _ _ _ _ => true
  | .commandResponse _ _ _ _ _ => true
  | _ => false

/-- A callback of a program. One for a command is typed by its metaclass. -/
inductive Handler (σ : Type) : Type 1
  | request (T : Command) (callback : Callback σ (CommandRequestOp (Option T.Request)))
  | response (T : Command) (callback : Callback σ (CommandResponseOp (Option T.Response)))
  | other (r : Registration σ) (h : r.isCommand = false)

namespace Handler

/-- `OnCommandRequest<T>` and `OnCommandResponse<T>`. -/
def registration (heap : Heap) : Handler σ → Registration σ
  | request T callback => .commandRequest T.component.componentId T.commandId
      (T.component.getRequest heap) T.requestData callback
  | response T callback => .commandResponse T.component.componentId T.commandId
      (T.component.getResponse heap) T.responseData callback
  | other r _ => r

/-- What a callback does on an event; none if it is not called. -/
def serve : CommandEvent → Handler σ → Option (σ → Except σ σ)
  | .request T op, request T' callback =>
    if h : T = T' then
      some (callback ⟨op.requestId, op.entityId, op.timeoutMillis, op.callerWorkerId,
        op.callerAttributeSet, some (h ▸ op.request)⟩)
    else none
  | .response T op, response T' callback =>
    if h : T = T' then
      some (callback ⟨op.requestId, op.entityId, op.statusCode, op.message,
        op.response.map fun response => some (h ▸ response)⟩)
    else none
  | .other op, other r _ => r.call op
  | _, _ => none

end Handler

namespace Registration

theorem call_eq_none {r : Registration σ} {op : Op} (h : r.isCommand ≠ op.isCommandOp) :
    r.call op = none := by
  cases r <;> cases op <;> first | rfl | exact absurd rfl h

variable {γ ρ : Type}

theorem call_commandRequest (componentId componentId' : ComponentId) (commandId : ℕ)
    (get : ClientHandle → GenericCommandObject γ) (data : γ → ρ)
    (callback : Callback σ (CommandRequestOp ρ)) (op : CommandRequestWrapperOp) :
    (commandRequest componentId commandId get data callback).call
        (.commandRequest componentId' op) =
      if componentId = componentId' then some fun s =>
        if (get op.request).commandId ≠ commandId then .ok s
        else
          callback ⟨op.requestId, op.entityId, op.timeoutMillis, op.callerWorkerId,
            op.callerAttribute, data (get op.request).commandObject⟩ s
      else none := by
  by_cases h : componentId = componentId'
  · subst h
    rw [if_pos rfl]
    exact dif_pos rfl
  · rw [if_neg h]
    exact dif_neg fun heq => h (Slot.component.inj heq).2

theorem call_commandResponse (componentId componentId' : ComponentId) (commandId : ℕ)
    (get : ClientHandle → GenericCommandObject γ) (data : γ → ρ)
    (callback : Callback σ (CommandResponseOp ρ)) (op : CommandResponseWrapperOp) :
    (commandResponse componentId commandId get data callback).call
        (.commandResponse componentId' op) =
      if componentId = componentId' then some fun s =>
        if op.commandId ≠ commandId then .ok s
        else
          callback ⟨op.requestId, op.entityId, op.statusCode, op.message,
            op.response.map fun handle => data (get handle).commandObject⟩ s
      else none := by
  by_cases h : componentId = componentId'
  · subst h
    rw [if_pos rfl]
    exact dif_pos rfl
  · rw [if_neg h]
    exact dif_neg fun heq => h (Slot.component.inj heq).2

end Registration

namespace Component

theorem getRequest_eq {c : Component} {heap : Heap} {handle : ClientHandle} {request : c.Request}
    (h : heap handle = some (.request c request)) :
    c.getRequest heap handle = ⟨c.requestCommandId request, some ⟨c, request⟩⟩ := by
  simp [getRequest, h]

theorem getResponse_eq {c : Component} {heap : Heap} {handle : ClientHandle}
    {response : c.Response} (h : heap handle = some (.response c response)) :
    c.getResponse heap handle = ⟨c.responseCommandId response, some ⟨c, response⟩⟩ := by
  simp [getResponse, h]

end Component

namespace CommandEvent

variable {Obj : Type} [Pbio Obj] {heap : Heap}

/-- Another command of the same component is told by the command id of the op. -/
theorem call_of_response {T : Command} {op : CommandResponseOp T.Response}
    {response : Option ClientHandle}
    (hdata : (response.map fun handle =>
      T.responseData (T.component.getResponse heap handle).commandObject) = op.response.map some)
    (handler : Handler σ) :
    (handler.registration heap).call (.commandResponse T.component.componentId ⟨op.requestId,
        op.entityId, op.statusCode, op.message, response, T.commandId⟩) =
          handler.serve (.response T op) ∨
      (handler.registration heap).call (.commandResponse T.component.componentId ⟨op.requestId,
        op.entityId, op.statusCode, op.message, response, T.commandId⟩) = some Except.ok ∧
          handler.serve (.response T op) = none := by
  cases handler with
  | request T' callback => exact Or.inl rfl
  | response T' callback =>
    simp only [Handler.registration, Handler.serve, Registration.call_commandResponse]
    by_cases hT : T = T'
    · subst hT
      left
      simp [hdata]
    · rw [dif_neg hT]
      by_cases hcomponent : T'.component = T.component
      · have hid : T.commandId ≠ T'.commandId := fun hid =>
          hT (Command.component_commandId_injective hcomponent.symm hid)
        right
        simp [hcomponent, hid]
      · left
        exact if_neg fun h => hcomponent (Component.componentId_injective h)
  | other r h =>
    left
    exact Registration.call_eq_none (by simp [Handler.registration, h, Op.isCommandOp])

/-- The wrapper of a callback does what the callback is to do, or nothing. -/
theorem call_of_delivers {event : CommandEvent} {op : Op} (hdelivers : Delivers Obj heap event op)
    (handler : Handler σ) :
    (handler.registration heap).call op = handler.serve event ∨
      (handler.registration heap).call op = some Except.ok ∧ handler.serve event = none := by
  cases hdelivers with
  | @request T op handle sent timeoutMillis allowShortCircuit hsent hheap =>
    subst hsent
    simp only [Command.sendCommandRequest, Component.deserializeRequest_serialize,
      Option.map_some] at hheap
    have hget := Component.getRequest_eq hheap
    rw [T.requestCommandId_generic] at hget
    cases handler with
    | request T' callback =>
      simp only [Handler.registration, Handler.serve, Command.sendCommandRequest,
        Registration.call_commandRequest]
      by_cases hT : T = T'
      · subst hT
        left
        simp [hget, T.requestData_generic]
      · rw [dif_neg hT]
        by_cases hcomponent : T'.component = T.component
        · have hid : T.commandId ≠ T'.commandId := fun hid =>
            hT (Command.component_commandId_injective hcomponent.symm hid)
          right
          simp [hcomponent, hget, hid]
        · left
          exact if_neg fun h => hcomponent (Component.componentId_injective h)
    | response T' callback => exact Or.inl rfl
    | other r h =>
      left
      exact Registration.call_eq_none (by simp [Handler.registration, h, Op.isCommandOp])
  | @response T op request response handle asked sent timeoutMillis allowShortCircuit requestId
      hasked hsent hresponse hheap =>
    subst hasked hsent
    simp only [Command.sendCommandResponse, Component.deserializeResponse_serialize,
      Option.map_some] at hheap
    refine call_of_response ?_ handler
    rw [hresponse, Option.map_some, Component.getResponse_eq hheap, T.responseData_generic,
      Option.map_some]
  | failure hasked hresponse =>
    subst hasked
    refine call_of_response ?_ handler
    rw [hresponse, Option.map_none, Option.map_none]
  | @other op h =>
    left
    cases handler with
    | other r h' => rfl
    | _ => exact Registration.call_eq_none (by rw [h]; exact Bool.noConfusion)

def reversed : CommandEvent → Bool
  | other op => op.reversed
  | _ => false

theorem reversed_of_delivers {event : CommandEvent} {op : Op}
    (hdelivers : Delivers Obj heap event op) : op.reversed = event.reversed := by
  cases hdelivers <;> rfl

/-- What the callbacks do on an event, as they are called. -/
def calls (event : CommandEvent) (handlers : List (CallbackKey × Handler σ)) :
    List (σ → Except σ σ) :=
  let calls := handlers.filterMap fun entry => entry.2.serve event
  if event.reversed then calls.reverse else calls

end CommandEvent

namespace Dispatcher

/-- Calls that do nothing may be left out. -/
theorem runCalls_filterMap {β : Type*} {f g : β → Option (σ → Except σ σ)} {bs : List β}
    (h : ∀ b ∈ bs, f b = g b ∨ f b = some Except.ok ∧ g b = none) (s : σ) :
    runCalls (bs.filterMap f) s = runCalls (bs.filterMap g) s := by
  induction bs generalizing s with
  | nil => rfl
  | cons b bs ih =>
    have hrest := ih fun b hb => h b (List.mem_cons_of_mem _ hb)
    rcases h b List.mem_cons_self with heq | ⟨hf, hg⟩
    · cases hgb : g b with
      | none =>
        rw [List.filterMap_cons_none (heq.trans hgb), List.filterMap_cons_none hgb]
        exact hrest s
      | some call =>
        rw [List.filterMap_cons_some (heq.trans hgb), List.filterMap_cons_some hgb]
        exact congrArg (Except.bind (call s)) (funext hrest)
    · rw [List.filterMap_cons_some hf, List.filterMap_cons_none hg]
      exact hrest s

/-- A program's registrations and removals, of typed callbacks. -/
inductive HandlerAction (σ : Type) : Type 1
  | register (handler : Handler σ)
  | remove (key : CallbackKey)

namespace HandlerAction

def action (heap : Heap) : HandlerAction σ → Action σ
  | register handler => .register (handler.registration heap)
  | remove key => .remove key

/-- The next key, and the callbacks that were not removed. -/
def step (handlers : CallbackKey × List (CallbackKey × Handler σ)) :
    HandlerAction σ → CallbackKey × List (CallbackKey × Handler σ)
  | register handler => (handlers.1 + 1, handlers.2 ++ [(handlers.1, handler)])
  | remove key => (handlers.1, handlers.2.filter fun entry => entry.1 ≠ key)

def kept (actions : List (HandlerAction σ)) : CallbackKey × List (CallbackKey × Handler σ) :=
  actions.foldl step (0, [])

theorem registrations_action (heap : Heap) (actions : List (HandlerAction σ)) :
    registrations (actions.map (action heap)) = ((kept actions).1,
      (kept actions).2.map fun entry => (entry.1, entry.2.registration heap)) := by
  induction actions using List.reverseRecOn with
  | nil => rfl
  | append_singleton actions act ih =>
    have hkept : kept (actions ++ [act]) = step (kept actions) act := by
      rw [kept, List.foldl_append, ← kept]
      rfl
    rw [List.map_append, registrations, List.foldl_append, ← registrations, ih, hkept]
    cases act with
    | register handler => simp [action, step, Registrations.step]
    | remove key =>
      simp only [action, step, Registrations.step, List.map_singleton, List.foldl_cons,
        List.foldl_nil, List.filter_map]
      rfl

end HandlerAction

variable {Obj : Type} [Pbio Obj]

/-- Whatever callbacks a program has registered and removed, a command request
runs those that are left for this command of this component, with the request
that was sent; a response, or a failure, those for the answered command. -/
theorem process_commands {heap : Heap} {actions : List (HandlerAction σ)} {d : Dispatcher σ}
    (hrun : run act new (actions.map (HandlerAction.action heap)) = some d)
    {events : List CommandEvent} {ops : OpList}
    (hdelivers : List.Forall₂ (CommandEvent.Delivers Obj heap) events ops) (s : σ) :
    d.process ops s = events.foldlM (fun s event =>
      runCalls (event.calls (HandlerAction.kept actions).2) s) s := by
  obtain ⟨-, hholds⟩ := holds_of_run hrun
  rw [hholds.process]
  clear hrun hholds
  induction hdelivers generalizing s with
  | nil => rfl
  | @cons event op events ops hhead htail ih =>
    have hcalls : runCalls (calls op (entriesOf (registrations
        (actions.map (HandlerAction.action heap))).2)) s =
          runCalls (event.calls (HandlerAction.kept actions).2) s := by
      rw [calls_entriesOf, HandlerAction.registrations_action, List.filterMap_map,
        CommandEvent.calls, CommandEvent.reversed_of_delivers hhead]
      have hserve : ∀ (handlers : List (CallbackKey × Handler σ)) (s : σ),
          runCalls (handlers.filterMap fun entry => (entry.2.registration heap).call op) s =
            runCalls (handlers.filterMap fun entry => entry.2.serve event) s := fun handlers s =>
        runCalls_filterMap (fun (entry : CallbackKey × Handler σ) _ =>
          CommandEvent.call_of_delivers hhead entry.2) s
      cases event.reversed with
      | false => exact hserve _ s
      | true =>
        simp only [if_true, ← List.filterMap_reverse]
        exact hserve _ s
    rw [List.foldlM_cons, List.foldlM_cons, hcalls]
    exact congrArg _ (funext ih)

/-- The object behind the handle 0 of the example below. -/
def placeDiscHeap : Heap
  | 0 => (Component.game.deserializeRequest (Component.game.serializeRequest
      (.placeDisc ⟨3, -4⟩) (newObject : PbioTree))).map (ClientObject.request .game)
  | _ => none

/-- The callbacks of the example below record the discs and the failures. -/
def recordDiscs : List (HandlerAction (List PlaceDiscRequest × List String)) :=
  [.register (.request .createPlayer fun _ s => .ok (s.1 ++ [⟨0, 0⟩], s.2)),
    .register (.request .placeDisc fun op s => .ok (s.1 ++ op.request.toList, s.2)),
    .register (.response .placeDisc fun op s => .ok (s.1, s.2 ++ [op.message])),
    .register (.other (.metrics fun _ s => .ok s) rfl),
    .register (.response .findColor fun _ s => .ok (s.1, s.2 ++ ["FindColor"])), .remove 3]

theorem process_commands_placeDisc :
    ∃ d : Dispatcher (List PlaceDiscRequest × List String),
      run act new (recordDiscs.map (HandlerAction.action placeDiscHeap)) = some d ∧
      d.process [.commandRequest 1000 ⟨7, 1, 100, "External0", [], 0⟩, .metrics ⟨.new⟩,
        .commandResponse 1000 ⟨2, 1, .kTimeout, "late", none, 2⟩] ([], []) =
          .ok ([⟨3, -4⟩], ["late"]) := by
  obtain ⟨d, hd⟩ : ∃ d : Dispatcher (List PlaceDiscRequest × List String),
      run act new (recordDiscs.map (HandlerAction.action placeDiscHeap)) = some d := ⟨_, rfl⟩
  refine ⟨d, hd, ?_⟩
  let disc : PlaceDiscRequest := ⟨3, -4⟩
  let asked := Command.placeDisc.sendCommandRequest 1 disc none false
  have hdelivers : List.Forall₂ (CommandEvent.Delivers PbioTree placeDiscHeap)
      [.request .placeDisc ⟨7, 1, 100, "External0", [], disc⟩, .other (.metrics ⟨.new⟩),
        .response .placeDisc ⟨2, 1, .kTimeout, "late", none⟩]
      [.commandRequest 1000 ⟨7, 1, 100, "External0", [], 0⟩, .metrics ⟨.new⟩,
        .commandResponse 1000 ⟨2, 1, .kTimeout, "late", none, 2⟩] :=
    .cons (@CommandEvent.Delivers.request _ _ _ .placeDisc _ _ asked _ _ rfl rfl)
      (.cons (.other rfl)
        (.cons (@CommandEvent.Delivers.failure _ _ _ .placeDisc _ disc asked _ _ rfl rfl) .nil))
  rw [process_commands hd hdelivers]
  rfl

end Dispatcher

end SpatialWorkers
