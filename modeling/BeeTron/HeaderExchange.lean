import BeeTron.Headers

namespace BeeTron.Libp2p

/-!
# The header exchange on a new stream

`sendHeaders`, on the stream's opener, and `handleHeaders`, on the peer that
accepted it, each write one `pb.Headers` message and read one, interleaved in
any order, with any write or read failing. Each direction of the stream is the
queue of messages written and not yet read; the `protobuf` reader and writer,
the headler and the order of each range loop are the environment's.

`exchange_delivers` shows that a call returning `nil` holds what its peer sent;
`exchange_canComplete` that a run without failures stays within five stages,
from each of which it can complete; `exchange_openerAfterHandler` that the
opener returns `nil` only after the handler did.
-/

/-- The fields of a libp2p `stream` that the exchange sets. -/
structure Stream where
  headers : Headers
  responseHeaders : Headers

/-- Where `sendHeaders` stands: before its write, before its read, or returned. -/
inductive SendPc where
  | writeMessage
  | readMessage
  | returned (err : Option GoError)
  deriving DecidableEq, Repr

/-- Where `handleHeaders` stands: before its read, before its write, or returned. -/
inductive HandlePc where
  | readMessage
  | writeMessage
  | returned (err : Option GoError)
  deriving DecidableEq, Repr

/-- Both parties, their streams, and the messages in flight in each direction. -/
structure Exchange where
  sender : SendPc
  senderStream : Stream
  handler : HandlePc
  handlerStream : Stream
  toHandler : List PbHeaders
  toSender : List PbHeaders

/-- One scheduler action: a party takes a step; a write ranges in `order`. -/
inductive Action where
  | send (order : List (GoString × ByteSlice)) (fault : Option GoError)
  | handle (order : List (GoString × ByteSlice)) (fault : Option GoError)

/-- Both calls about to start, nothing in flight. -/
def Exchange.start (senderStream handlerStream : Stream) : Exchange :=
  ⟨.writeMessage, senderStream, .readMessage, handlerStream, [], []⟩

/--
The message `headersP2PToPB(h)` builds when its range loop visits `order`, or
`none` when `order` is not an order of the loop.
-/
def rangedMessage (h : Headers) (order : List (GoString × ByteSlice)) : Option PbHeaders :=
  if visits : (order.map GoMap.entry : Multiset _) = h.entries then
    some (headersP2PToPB h ⟨order, visits⟩)
  else
    none

/-- Every message a range loop can build converts back to the map. -/
theorem headersPBToP2P_of_rangedMessage {h : Headers} {order : List (GoString × ByteSlice)}
    {message : PbHeaders} (ranged : rangedMessage h order = some message) :
    headersPBToP2P message = h := by
  unfold rangedMessage at ranged
  split at ranged
  · cases ranged
    exact headersPBToP2P_headersP2PToPB _ _
  · cases ranged

/-- Every order of the range loop builds its message. -/
@[simp] theorem rangedMessage_rangeOrder (h : Headers) (order : GoMap.RangeOrder h) :
    rangedMessage h order.entries = some (headersP2PToPB h order) := by
  simp [rangedMessage, order.enumerates]

/--
A `p2p.HeadlerFunc` as one call sees it. Go passes the map `stream.headers`
itself, so a call returns its answer together with that map as it leaves it.
-/
abbrev HeadlerFunc :=
  Headers → SwarmAddress → Headers × Headers

/--
`var h p2p.Headers; if headler != nil { h = headler(stream.headers, peerAddress) }`:
the answer `h`, and `stream.headers` after the call.
-/
def response (headler : Option HeadlerFunc) (received : Headers) (peerAddress : SwarmAddress) :
    Headers × Headers :=
  match headler with
  | none => (∅, received)
  | some headler => headler received peerAddress

/-- A headler, if any, that leaves the map it is passed as it found it. -/
def LeavesArgument (headler : Option HeadlerFunc) : Prop :=
  ∀ received peerAddress, (response headler received peerAddress).2 = received

/-- Without a headler, `stream.headers` keeps the headers read. -/
theorem leavesArgument_none : LeavesArgument none :=
  fun _ _ => rfl

section Run

variable (headers : Headers) (headler : Option HeadlerFunc)
  (peerAddress : SwarmAddress)

/-- `sendHeaders(ctx, headers, stream)` taking its next step. -/
def sendStep (x : Exchange) (order : List (GoString × ByteSlice)) (fault : Option GoError) :
    Exchange :=
  match x.sender, fault with
  | .writeMessage, some err => { x with sender := .returned (some (.wrapped "write message" err)) }
  | .writeMessage, none =>
      match rangedMessage headers order with
      | some message => { x with sender := .readMessage, toHandler := x.toHandler ++ [message] }
      | none => x
  | .readMessage, some err => { x with sender := .returned (some (.wrapped "read message" err)) }
  | .readMessage, none =>
      match x.toSender with
      | [] => x
      | h :: rest =>
          { x with
            sender := .returned none
            senderStream := { x.senderStream with headers := headersPBToP2P h }
            toSender := rest }
  | .returned _, _ => x

/-- `handleHeaders(ctx, headler, stream, peerAddress)` taking its next step. -/
def handleStep (x : Exchange) (order : List (GoString × ByteSlice)) (fault : Option GoError) :
    Exchange :=
  match x.handler, fault with
  | .readMessage, some err => { x with handler := .returned (some (.wrapped "read message" err)) }
  | .readMessage, none =>
      match x.toHandler with
      | [] => x
      | received :: rest =>
          { x with
            handler := .writeMessage
            handlerStream := { x.handlerStream with
              headers := (response headler (headersPBToP2P received) peerAddress).2
              responseHeaders := (response headler (headersPBToP2P received) peerAddress).1 }
            toHandler := rest }
  | .writeMessage, some err => { x with handler := .returned (some (.wrapped "write message" err)) }
  | .writeMessage, none =>
      match rangedMessage x.handlerStream.responseHeaders order with
      | some message => { x with handler := .returned none, toSender := x.toSender ++ [message] }
      | none => x
  | .returned _, _ => x

/-- Apply one scheduler action. -/
def Exchange.step (x : Exchange) : Action → Exchange
  | .send order fault => sendStep headers x order fault
  | .handle order fault => handleStep headler peerAddress x order fault

/-- Apply a schedule of actions in order. -/
def Exchange.run (x : Exchange) (actions : List Action) : Exchange :=
  actions.foldl (Exchange.step headers headler peerAddress) x

/--
What the exchange promises: a `sendHeaders` that returned `nil` holds the
headers the handler answered to the sent headers, and a `handleHeaders` that
returned `nil` holds that answer and the sent headers as the headler left them.
-/
def Delivered (x : Exchange) : Prop :=
  (x.sender = .returned none →
      x.senderStream.headers = (response headler headers peerAddress).1) ∧
    (x.handler = .returned none →
      x.handlerStream.headers = (response headler headers peerAddress).2 ∧
        x.handlerStream.responseHeaders = (response headler headers peerAddress).1)

/-- The invariant of every reachable state: every message in flight, and every stream a read filled, carries the right map. -/
structure Consistent (x : Exchange) : Prop where
  toHandler : ∀ message ∈ x.toHandler, headersPBToP2P message = headers
  toSender : ∀ message ∈ x.toSender,
    headersPBToP2P message = (response headler headers peerAddress).1
  handled : x.handler = .writeMessage ∨ x.handler = .returned none →
    x.handlerStream.headers = (response headler headers peerAddress).2 ∧
      x.handlerStream.responseHeaders = (response headler headers peerAddress).1
  sent : x.sender = .returned none →
    x.senderStream.headers = (response headler headers peerAddress).1

/-- Nothing is in flight before the exchange starts. -/
theorem consistent_start (senderStream handlerStream : Stream) :
    Consistent headers headler peerAddress (Exchange.start senderStream handlerStream) := by
  constructor <;> simp [Exchange.start]

/-- A step of `sendHeaders` keeps the exchange consistent. -/
theorem sendStep_consistent {x : Exchange} (consistent : Consistent headers headler peerAddress x)
    (order : List (GoString × ByteSlice)) (fault : Option GoError) :
    Consistent headers headler peerAddress (sendStep headers x order fault) := by
  obtain ⟨toHandler, toSender, handled, sent⟩ := consistent
  unfold sendStep
  split
  · exact ⟨toHandler, toSender, handled, by simp⟩
  · split
    · rename_i message ranged
      refine ⟨?_, toSender, handled, by simp⟩
      exact List.forall_mem_append.mpr
        ⟨toHandler, List.forall_mem_singleton.mpr (headersPBToP2P_of_rangedMessage ranged)⟩
    · exact ⟨toHandler, toSender, handled, sent⟩
  · exact ⟨toHandler, toSender, handled, by simp⟩
  · split
    · exact ⟨toHandler, toSender, handled, sent⟩
    · rename_i received rest pending
      refine ⟨toHandler, fun message member => toSender message (by simp [pending, member]),
        handled, fun _ => toSender received (by simp [pending])⟩
  · exact ⟨toHandler, toSender, handled, sent⟩

/-- A step of `handleHeaders` keeps the exchange consistent. -/
theorem handleStep_consistent {x : Exchange} (consistent : Consistent headers headler peerAddress x)
    (order : List (GoString × ByteSlice)) (fault : Option GoError) :
    Consistent headers headler peerAddress (handleStep headler peerAddress x order fault) := by
  obtain ⟨toHandler, toSender, handled, sent⟩ := consistent
  unfold handleStep
  split
  · exact ⟨toHandler, toSender, by simp, sent⟩
  · split
    · exact ⟨toHandler, toSender, handled, sent⟩
    · rename_i received rest pending
      have receivedHeaders := toHandler received (by simp [pending])
      refine ⟨fun message member => toHandler message (by simp [pending, member]), toSender,
        fun _ => by simp [receivedHeaders], sent⟩
  · exact ⟨toHandler, toSender, by simp, sent⟩
  · split
    · rename_i message ranged
      have answer := handled (.inl ‹x.handler = .writeMessage›)
      refine ⟨toHandler, ?_, fun _ => answer, sent⟩
      exact List.forall_mem_append.mpr ⟨toSender, List.forall_mem_singleton.mpr
        ((headersPBToP2P_of_rangedMessage ranged).trans answer.2)⟩
    · exact ⟨toHandler, toSender, handled, sent⟩
  · exact ⟨toHandler, toSender, handled, sent⟩

/-- Every run from the start stays consistent. -/
theorem consistent_run (senderStream handlerStream : Stream) (actions : List Action) :
    Consistent headers headler peerAddress
      ((Exchange.start senderStream handlerStream).run headers headler peerAddress actions) := by
  suffices preserved : ∀ x, Consistent headers headler peerAddress x →
      Consistent headers headler peerAddress (x.run headers headler peerAddress actions) from
    preserved _ (consistent_start headers headler peerAddress senderStream handlerStream)
  induction actions with
  | nil => exact fun _ consistent => consistent
  | cons action rest inductionHypothesis =>
      intro x consistent
      apply inductionHypothesis
      cases action with
      | send order fault => exact sendStep_consistent headers headler peerAddress consistent order fault
      | handle order fault => exact handleStep_consistent headers headler peerAddress consistent order fault

/--
Along every schedule of the two parties, with any write or read failing and
any range order, the exchange delivers: the opener that returned `nil` holds
the handler's answer to exactly the sent headers, and the handler that
returned `nil` holds the sent headers as the headler left them, which are
exactly the sent headers when the headler leaves its argument alone.
-/
theorem exchange_delivers (senderStream handlerStream : Stream) (actions : List Action) :
    Delivered headers headler peerAddress
        ((Exchange.start senderStream handlerStream).run headers headler peerAddress actions) ∧
      (LeavesArgument headler →
        ((Exchange.start senderStream handlerStream).run headers headler peerAddress
            actions).handler = .returned none →
          ((Exchange.start senderStream handlerStream).run headers headler peerAddress
            actions).handlerStream.headers = headers) := by
  have consistent := consistent_run headers headler peerAddress senderStream handlerStream actions
  have handled := fun returned => consistent.handled (.inr returned)
  exact ⟨⟨consistent.sent, handled⟩, fun leaves returned =>
    (handled returned).1.trans (leaves headers peerAddress)⟩

/-- The failure an action's call returns, `none` when it succeeds. -/
def Action.fault : Action → Option GoError
  | .send _ fault => fault
  | .handle _ fault => fault

/-- Both calls returned `nil`. -/
def Completed (x : Exchange) : Prop :=
  x.sender = .returned none ∧ x.handler = .returned none

/--
The states a run without failures passes through: the opener writes, the
handler reads and answers, the opener reads the answer; a step that waits for
a message, or ranges in an order that is not one of its map, changes nothing.
-/
inductive Stage : Exchange → Prop where
  | start (senderStream handlerStream : Stream) :
      Stage ⟨.writeMessage, senderStream, .readMessage, handlerStream, [], []⟩
  | sent (senderStream handlerStream : Stream) (message : PbHeaders) :
      Stage ⟨.readMessage, senderStream, .readMessage, handlerStream, [message], []⟩
  | received (senderStream handlerStream : Stream) :
      Stage ⟨.readMessage, senderStream, .writeMessage, handlerStream, [], []⟩
  | answered (senderStream handlerStream : Stream) (message : PbHeaders) :
      Stage ⟨.readMessage, senderStream, .returned none, handlerStream, [], [message]⟩
  | done (senderStream handlerStream : Stream) :
      Stage ⟨.returned none, senderStream, .returned none, handlerStream, [], []⟩

/-- A step without failure moves the exchange from one stage to the same or the next. -/
theorem Stage.step {x : Exchange} (stage : Stage x) {action : Action} (faultFree : action.fault = none) :
    Stage (x.step headers headler peerAddress action) := by
  cases action with
  | send order fault =>
      cases faultFree
      cases stage with
      | start senderStream handlerStream =>
          simp only [Exchange.step, sendStep]
          cases rangedMessage headers order with
          | none => exact .start _ _
          | some message => exact .sent _ _ message
      | answered senderStream handlerStream message => exact .done _ _
      | sent => exact .sent _ _ _
      | received => exact .received _ _
      | done => exact .done _ _
  | handle order fault =>
      cases faultFree
      cases stage with
      | sent senderStream handlerStream message => exact .received _ _
      | received senderStream handlerStream =>
          simp only [Exchange.step, handleStep]
          cases rangedMessage handlerStream.responseHeaders order with
          | none => exact .received _ _
          | some message => exact .answered _ _ message
      | start => exact .start _ _
      | answered => exact .answered _ _ _
      | done => exact .done _ _

/-- A run without failures keeps the exchange in its stages. -/
theorem Stage.run {x : Exchange} (stage : Stage x) {actions : List Action}
    (faultFree : ∀ action ∈ actions, action.fault = none) :
    Stage (x.run headers headler peerAddress actions) := by
  induction actions generalizing x with
  | nil => exact stage
  | cons action rest inductionHypothesis =>
      exact inductionHypothesis (stage.step headers headler peerAddress (faultFree action (.head _))) fun
        later member => faultFree later (.tail _ member)

/-- From every stage, at most four more steps without failure complete the exchange. -/
theorem Stage.completes {x : Exchange} (stage : Stage x) :
    ∃ rest : List Action, (∀ action ∈ rest, action.fault = none) ∧ rest.length ≤ 4 ∧
      Completed (x.run headers headler peerAddress rest) := by
  cases stage with
  | done => exact ⟨[], by simp, by simp, rfl, rfl⟩
  | answered => exact ⟨[.send [] none], by simp [Action.fault], by simp, rfl, rfl⟩
  | received senderStream handlerStream =>
      obtain ⟨answerOrder⟩ := GoMap.RangeOrder.nonempty handlerStream.responseHeaders
      refine ⟨[.handle answerOrder.entries none, .send [] none], by simp [Action.fault], by simp, ?_⟩
      simp [Completed, Exchange.run, Exchange.step, sendStep, handleStep]
  | sent senderStream handlerStream message =>
      obtain ⟨answerOrder⟩ := GoMap.RangeOrder.nonempty
        (response headler (headersPBToP2P message) peerAddress).1
      refine ⟨[.handle [] none, .handle answerOrder.entries none, .send [] none],
        by simp [Action.fault], by simp, ?_⟩
      simp [Completed, Exchange.run, Exchange.step, sendStep, handleStep]
  | start senderStream handlerStream =>
      obtain ⟨sendOrder⟩ := GoMap.RangeOrder.nonempty headers
      obtain ⟨answerOrder⟩ := GoMap.RangeOrder.nonempty (response headler headers peerAddress).1
      refine ⟨[.send sendOrder.entries none, .handle [] none, .handle answerOrder.entries none,
        .send [] none], by simp [Action.fault], by simp, ?_⟩
      simp [Completed, Exchange.run, Exchange.step, sendStep, handleStep]

/--
Whatever schedule the two parties ran so far, as long as no write or read
failed the exchange is in one of its five stages and can still complete: at
most four more steps without failure, in orders the range loops can take, make
both calls return `nil`.
-/
theorem exchange_canComplete (senderStream handlerStream : Stream) (actions : List Action)
    (faultFree : ∀ action ∈ actions, action.fault = none) :
    Stage ((Exchange.start senderStream handlerStream).run headers headler peerAddress actions) ∧
      ∃ rest : List Action, (∀ action ∈ rest, action.fault = none) ∧ rest.length ≤ 4 ∧
        Completed ((Exchange.start senderStream handlerStream).run headers headler peerAddress
          (actions ++ rest)) := by
  have stage := (Stage.start senderStream handlerStream).run headers headler peerAddress faultFree
  obtain ⟨rest, restFaultFree, short, completed⟩ := stage.completes headers headler peerAddress
  refine ⟨stage, rest, restFaultFree, short, ?_⟩
  rwa [Exchange.run, List.foldl_append]

/--
The order the exchange imposes on the two calls: an answer is in flight only
after the handler returned `nil`, and the opener returns `nil` only after it.
-/
structure Ordered (x : Exchange) : Prop where
  answered : x.toSender ≠ [] → x.handler = .returned none
  completed : x.sender = .returned none → x.handler = .returned none

/-- A step of `sendHeaders` keeps the calls ordered. -/
theorem sendStep_ordered {x : Exchange} (ordered : Ordered x) (order : List (GoString × ByteSlice))
    (fault : Option GoError) : Ordered (sendStep headers x order fault) := by
  obtain ⟨answered, completed⟩ := ordered
  unfold sendStep
  split
  · exact ⟨answered, by simp⟩
  · split
    · exact ⟨answered, by simp⟩
    · exact ⟨answered, completed⟩
  · exact ⟨answered, by simp⟩
  · split
    · exact ⟨answered, completed⟩
    · rename_i received rest pending
      have handled := answered (by simp [pending])
      exact ⟨fun _ => handled, fun _ => handled⟩
  · exact ⟨answered, completed⟩

/-- A step of `handleHeaders` keeps the calls ordered. -/
theorem handleStep_ordered {x : Exchange} (ordered : Ordered x) (order : List (GoString × ByteSlice))
    (fault : Option GoError) : Ordered (handleStep headler peerAddress x order fault) := by
  obtain ⟨answered, completed⟩ := ordered
  have waiting : x.handler ≠ .returned none → ∀ y : Exchange, y.toSender = x.toSender →
      y.sender = x.sender → Ordered y := by
    intro running y sameAnswers sameSender
    refine ⟨fun inFlight => absurd (answered (sameAnswers ▸ inFlight)) running,
      fun returned => absurd (completed (sameSender ▸ returned)) running⟩
  unfold handleStep
  split
  · rename_i reading
    exact waiting (by simp [reading]) _ rfl rfl
  · split
    · exact ⟨answered, completed⟩
    · rename_i reading _ _ _ _
      exact waiting (by simp [reading]) _ rfl rfl
  · rename_i writing
    exact waiting (by simp [writing]) _ rfl rfl
  · split
    · exact ⟨fun _ => rfl, fun _ => rfl⟩
    · exact ⟨answered, completed⟩
  · exact ⟨answered, completed⟩

/-- Every run keeps the calls ordered. -/
theorem Ordered.run {x : Exchange} (ordered : Ordered x) (actions : List Action) :
    Ordered (x.run headers headler peerAddress actions) := by
  induction actions generalizing x with
  | nil => exact ordered
  | cons action rest inductionHypothesis =>
      apply inductionHypothesis
      cases action with
      | send order fault => exact sendStep_ordered headers ordered order fault
      | handle order fault => exact handleStep_ordered headler peerAddress ordered order fault

/--
Along every schedule, with any write or read failing and any range order,
`sendHeaders` returns `nil` only after `handleHeaders` returned `nil`. The
converse fails: whatever the headers, some schedule has the handler return
`nil` while the opener's read of the answer fails.
-/
theorem exchange_openerAfterHandler (senderStream handlerStream : Stream) :
    (∀ actions, ((Exchange.start senderStream handlerStream).run headers headler peerAddress
        actions).sender = .returned none →
      ((Exchange.start senderStream handlerStream).run headers headler peerAddress
        actions).handler = .returned none) ∧
      ∃ actions err,
        ((Exchange.start senderStream handlerStream).run headers headler peerAddress
          actions).handler = .returned none ∧
        ((Exchange.start senderStream handlerStream).run headers headler peerAddress
          actions).sender = .returned (some err) := by
  have start : Ordered (Exchange.start senderStream handlerStream) :=
    ⟨fun inFlight => absurd rfl inFlight, fun returned => nomatch returned⟩
  refine ⟨fun actions => (start.run headers headler peerAddress actions).completed, ?_⟩
  obtain ⟨sendOrder⟩ := GoMap.RangeOrder.nonempty headers
  obtain ⟨answerOrder⟩ := GoMap.RangeOrder.nonempty (response headler headers peerAddress).1
  let reset : GoError := .new "ErrReset" "stream reset"
  refine ⟨[.send sendOrder.entries none, .handle [] none, .handle answerOrder.entries none,
    .send [] (some reset)], .wrapped "read message" reset, ?_⟩
  simp [Exchange.run, Exchange.step, Exchange.start, sendStep, handleStep]

end Run

/-- After the opener wrote and the handler read the empty headers, the exchange is at a stage and can complete. -/
theorem exchange_canComplete_afterRead :
    (∀ action ∈ [Action.send [] none, .handle [] none], action.fault = none) ∧
      Stage ((Exchange.start ⟨∅, ∅⟩ ⟨∅, ∅⟩).run ∅ none ⟨[]⟩
        [.send [] none, .handle [] none]) ∧
      ∃ rest : List Action, (∀ action ∈ rest, action.fault = none) ∧ rest.length ≤ 4 ∧
        Completed ((Exchange.start ⟨∅, ∅⟩ ⟨∅, ∅⟩).run ∅ none ⟨[]⟩
          ([.send [] none, .handle [] none] ++ rest)) := by
  have faultFree : ∀ action ∈ [Action.send [] none, .handle [] none], action.fault = none := by
    simp [Action.fault]
  exact ⟨faultFree,
    exchange_canComplete ∅ none ⟨[]⟩ ⟨∅, ∅⟩ ⟨∅, ∅⟩ _ faultFree⟩

end BeeTron.Libp2p
