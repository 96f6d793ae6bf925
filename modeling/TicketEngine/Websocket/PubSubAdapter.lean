import TicketEngine.Scripts.Lua

namespace TicketEngine

/-- The state of an ioredis client, as far as the adapter looks at it. -/
inductive ClientStatus
  | wait
  | active
  | end_
  deriving DecidableEq

/-- `handlers` counts the message handlers on the subscriber; listeners are named by numbers. -/
structure RedisPubSubAdapter where
  publisher : ClientStatus
  subscriber : ClientStatus
  handlers : Nat
  listener : Option Nat
  connected : Bool
  deriving DecidableEq

namespace RedisPubSubAdapter

/-- `new RedisPubSubAdapter()`, as the module does once in every process. -/
def constructor : RedisPubSubAdapter := ⟨.wait, .wait, 0, none, false⟩

/-- The outcomes of the commands `connect` awaits, in their order. -/
structure ConnectReplies where
  publisherConnect : Choice
  subscriberConnect : Choice
  subscribe : Choice

def connectClient (status : ClientStatus) (c : Choice) : ClientStatus × Except String Unit :=
  match status, c with
  | .wait, .ok _ => (.active, .ok ())
  | .wait, .fail message => (.active, .error message)
  | status, _ => (status, .ok ())

def connect (adapter : RedisPubSubAdapter) (listener : Nat) (replies : ConnectReplies) :
    RedisPubSubAdapter × Except String Unit :=
  if adapter.connected then ({ adapter with listener := some listener }, .ok ())
  else
    let adapter := { adapter with listener := some listener }
    match connectClient adapter.publisher replies.publisherConnect with
    | (publisher, .error message) => ({ adapter with publisher }, .error message)
    | (publisher, .ok ()) =>
      let adapter := { adapter with publisher }
      match connectClient adapter.subscriber replies.subscriberConnect with
      | (subscriber, .error message) => ({ adapter with subscriber }, .error message)
      | (subscriber, .ok ()) =>
        let adapter := { adapter with subscriber, handlers := adapter.handlers + 1 }
        match replies.subscribe with
        | .fail message => (adapter, .error message)
        | .ok _ => ({ adapter with connected := true }, .ok ())

/-- The outcome of `publishSeatEvent`, given the outcome of the PUBLISH it may send. -/
def publishSeatEvent (adapter : RedisPubSubAdapter) (published : Choice) : Choice :=
  if adapter.connected then published
  else .fail "Redis WebSocket Pub/Sub adapter is not connected"

theorem publishSeatEvent_unconnected {adapter : RedisPubSubAdapter}
    (h : adapter.connected = false) (published : Choice) :
    adapter.publishSeatEvent published =
      .fail "Redis WebSocket Pub/Sub adapter is not connected" := by
  simp only [publishSeatEvent, h]
  rfl

/-- Only `connect` opens the way to Redis. -/
theorem publishSeatEvent_connect {adapter adapter' : RedisPubSubAdapter} {listener : Nat}
    {replies : ConnectReplies} (h : adapter.connect listener replies = (adapter', .ok ()))
    (published : Choice) : adapter'.publishSeatEvent published = published := by
  have hconnected : adapter'.connected = true := by
    unfold connect at h
    split at h
    next hc =>
      cases h
      exact hc
    · simp only at h
      split at h
      · cases h
      · split at h
        · cases h
        · split at h
          · cases h
          · cases h
            rfl
  simp only [publishSeatEvent, hconnected, if_true]

end RedisPubSubAdapter

end TicketEngine
