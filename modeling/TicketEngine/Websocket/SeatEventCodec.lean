import TicketEngine.Framework.Schema
import TicketEngine.Types.Ticket
import TicketEngine.Websocket.SocketServer

namespace TicketEngine

def WS_SEAT_EVENTS_CHANNEL : String := "ws:seat-events"

/-- The payload as `publishSeatEvent` is given it; `holdSeat` passes its whole record. -/
def SeatEventPayload.published : SeatEventPayload → Json
  | .held eventId seatId holdId expiresAt (some userId) =>
    .obj [("holdId", .str holdId), ("eventId", .str eventId), ("seatId", .str seatId),
      ("userId", .str userId), ("status", .str "HELD"), ("expiresAt", .str expiresAt)]
  | payload => payload.toJson

def WebSocketSeatEvent.published (event : WebSocketSeatEvent) : Json :=
  .obj [("eventId", .str event.eventId), ("eventType", .str event.payload.eventType),
    ("schemaVersion", .num event.schemaVersion 0), ("occurredAt", .str event.occurredAt),
    ("correlationId", .str event.correlationId), ("payload", event.payload.published)]

/-- The text on the channel. -/
def WebSocketSeatEvent.rawMessage (event : WebSocketSeatEvent) : String :=
  Json.stringify event.published

/-! ## The schema of a seat event -/

/-- The two string checks of the validator that are not in this repository. -/
structure Zod where
  uuid : String → Bool
  datetime : String → Bool

def seatHeldEventSchema (zod : Zod) : Schema :=
  .object [("eventId", .nonempty), ("seatId", .nonempty), ("holdId", .nonempty),
    ("status", .literal "HELD"), ("expiresAt", .string [zod.datetime])]

def seatBookedEventSchema : Schema :=
  .object [("eventId", .nonempty), ("seatId", .nonempty), ("orderId", .nonempty),
    ("status", .literal "SOLD")]

def seatReleasedEventSchema : Schema :=
  .object [("eventId", .nonempty), ("seatId", .nonempty), ("holdId", .nonempty),
    ("status", .literal "AVAILABLE"), ("reason", .enum ["cancelled", "expired", "released"])]

/-- One option of the union. -/
def seatEventOption (zod : Zod) (eventType : String) (payload : Schema) : String × Schema :=
  (eventType,
    .object [("eventId", .string [zod.uuid]), ("eventType", .literal eventType),
      ("schemaVersion", .number WEBSOCKET_SEAT_EVENT_SCHEMA_VERSION),
      ("occurredAt", .string [zod.datetime]), ("correlationId", .nonempty), ("payload", payload)])

def webSocketSeatEventSchema (zod : Zod) : Schema :=
  .discriminatedUnion "eventType"
    [seatEventOption zod "seat.held" (seatHeldEventSchema zod),
      seatEventOption zod "seat.booked" seatBookedEventSchema,
      seatEventOption zod "seat.released" seatReleasedEventSchema]

/-! ## The type of the parsed data -/

def SeatEventPayload.ofJson (eventType : String) (data : Json) : Option SeatEventPayload :=
  let text (key : String) : Option String := Json.string? (data.get? key)
  if eventType = "seat.held" then do
    return .held (← text "eventId") (← text "seatId") (← text "holdId") (← text "expiresAt") none
  else if eventType = "seat.booked" then do
    return .booked (← text "eventId") (← text "seatId") (← text "orderId")
  else if eventType = "seat.released" then do
    return .released (← text "eventId") (← text "seatId") (← text "holdId") (← text "reason")
  else none

/-- `z.infer`: parsed data read as a seat event. -/
def WebSocketSeatEvent.ofJson (data : Json) : Option WebSocketSeatEvent :=
  let text (key : String) : Option String := Json.string? (data.get? key)
  do
    let payload ← SeatEventPayload.ofJson (← text "eventType") (← data.get? "payload")
    return { eventId := ← text "eventId", schemaVersion := WEBSOCKET_SEAT_EVENT_SCHEMA_VERSION,
             occurredAt := ← text "occurredAt", correlationId := ← text "correlationId", payload }

/-- What the message handler makes of a text; `none` is ignored with a warning. -/
def decodeSeatEvent (zod : Zod) (rawMessage : String) : Option WebSocketSeatEvent :=
  (Json.parse rawMessage).bind fun rawEvent =>
    ((webSocketSeatEventSchema zod).safeParse rawEvent).bind WebSocketSeatEvent.ofJson

section Typed

variable {zod : Zod} {value data : Json}

theorem held_ofJson (h : (seatHeldEventSchema zod).safeParse value = some data) :
    ∃ payload, SeatEventPayload.ofJson "seat.held" data = some payload ∧
      payload.toJson = data ∧ payload.eventType = "seat.held" := by
  obtain ⟨fields, kept, hshape, rfl⟩ := Schema.of_object h
  obtain ⟨_, _, _, heventId, htail1, rfl⟩ := Schema.of_shape_cons hshape
  obtain ⟨_, _, _, hseatId, htail2, rfl⟩ := Schema.of_shape_cons htail1
  obtain ⟨_, _, _, hholdId, htail3, rfl⟩ := Schema.of_shape_cons htail2
  obtain ⟨_, _, _, hstatus, htail4, rfl⟩ := Schema.of_shape_cons htail3
  obtain ⟨_, _, _, hexpiresAt, htail5, rfl⟩ := Schema.of_shape_cons htail4
  obtain ⟨eventId, rfl, -⟩ := Schema.of_string heventId
  obtain ⟨seatId, rfl, -⟩ := Schema.of_string hseatId
  obtain ⟨holdId, rfl, -⟩ := Schema.of_string hholdId
  obtain ⟨expiresAt, rfl, -⟩ := Schema.of_string hexpiresAt
  cases Schema.of_literal hstatus
  cases Schema.of_shape_nil htail5
  exact ⟨.held eventId seatId holdId expiresAt none, rfl, rfl, rfl⟩

theorem booked_ofJson (h : seatBookedEventSchema.safeParse value = some data) :
    ∃ payload, SeatEventPayload.ofJson "seat.booked" data = some payload ∧
      payload.toJson = data ∧ payload.eventType = "seat.booked" := by
  obtain ⟨fields, kept, hshape, rfl⟩ := Schema.of_object h
  obtain ⟨_, _, _, heventId, htail1, rfl⟩ := Schema.of_shape_cons hshape
  obtain ⟨_, _, _, hseatId, htail2, rfl⟩ := Schema.of_shape_cons htail1
  obtain ⟨_, _, _, horderId, htail3, rfl⟩ := Schema.of_shape_cons htail2
  obtain ⟨_, _, _, hstatus, htail4, rfl⟩ := Schema.of_shape_cons htail3
  obtain ⟨eventId, rfl, -⟩ := Schema.of_string heventId
  obtain ⟨seatId, rfl, -⟩ := Schema.of_string hseatId
  obtain ⟨orderId, rfl, -⟩ := Schema.of_string horderId
  cases Schema.of_literal hstatus
  cases Schema.of_shape_nil htail4
  exact ⟨.booked eventId seatId orderId, rfl, rfl, rfl⟩

theorem released_ofJson (h : seatReleasedEventSchema.safeParse value = some data) :
    ∃ payload, SeatEventPayload.ofJson "seat.released" data = some payload ∧
      payload.toJson = data ∧ payload.eventType = "seat.released" := by
  obtain ⟨fields, kept, hshape, rfl⟩ := Schema.of_object h
  obtain ⟨_, _, _, heventId, htail1, rfl⟩ := Schema.of_shape_cons hshape
  obtain ⟨_, _, _, hseatId, htail2, rfl⟩ := Schema.of_shape_cons htail1
  obtain ⟨_, _, _, hholdId, htail3, rfl⟩ := Schema.of_shape_cons htail2
  obtain ⟨_, _, _, hstatus, htail4, rfl⟩ := Schema.of_shape_cons htail3
  obtain ⟨_, _, _, hreason, htail5, rfl⟩ := Schema.of_shape_cons htail4
  obtain ⟨eventId, rfl, -⟩ := Schema.of_string heventId
  obtain ⟨seatId, rfl, -⟩ := Schema.of_string hseatId
  obtain ⟨holdId, rfl, -⟩ := Schema.of_string hholdId
  obtain ⟨reason, -, rfl⟩ := Schema.of_enum hreason
  cases Schema.of_literal hstatus
  cases Schema.of_shape_nil htail5
  exact ⟨.released eventId seatId holdId reason, rfl, rfl, rfl⟩

theorem option_ofJson {eventType : String} {schema : Schema}
    (hpayload : ∀ value data, schema.safeParse value = some data →
      ∃ payload, SeatEventPayload.ofJson eventType data = some payload ∧
        payload.toJson = data ∧ payload.eventType = eventType)
    (h : (seatEventOption zod eventType schema).2.safeParse value = some data) :
    ∃ event, WebSocketSeatEvent.ofJson data = some event ∧ event.toJson = data := by
  obtain ⟨fields, kept, hshape, rfl⟩ := Schema.of_object h
  obtain ⟨_, _, _, heventId, htail1, rfl⟩ := Schema.of_shape_cons hshape
  obtain ⟨_, _, _, htype, htail2, rfl⟩ := Schema.of_shape_cons htail1
  obtain ⟨_, _, _, hversion, htail3, rfl⟩ := Schema.of_shape_cons htail2
  obtain ⟨_, _, _, hoccurredAt, htail4, rfl⟩ := Schema.of_shape_cons htail3
  obtain ⟨_, _, _, hcorrelationId, htail5, rfl⟩ := Schema.of_shape_cons htail4
  obtain ⟨_, data, _, hdata, htail6, rfl⟩ := Schema.of_shape_cons htail5
  obtain ⟨eventId, rfl, -⟩ := Schema.of_string heventId
  obtain ⟨occurredAt, rfl, -⟩ := Schema.of_string hoccurredAt
  obtain ⟨correlationId, rfl, -⟩ := Schema.of_string hcorrelationId
  cases Schema.of_literal htype
  cases Schema.of_number hversion
  cases Schema.of_shape_nil htail6
  obtain ⟨payload, hofJson, rfl, rfl⟩ := hpayload _ _ hdata
  refine
    ⟨⟨eventId, WEBSOCKET_SEAT_EVENT_SCHEMA_VERSION, occurredAt, correlationId, payload⟩, ?_, rfl⟩
  simp [WebSocketSeatEvent.ofJson, Json.get?, Json.lookup, Json.string?, hofJson]

/-- Parsed data are an event, and the event encodes to the same data. -/
theorem safeParse_ofJson (h : (webSocketSeatEventSchema zod).safeParse value = some data) :
    ∃ event, WebSocketSeatEvent.ofJson data = some event ∧ event.toJson = data := by
  obtain ⟨name, schema, hmem, hparse⟩ := Schema.of_discriminatedUnion h
  simp only [List.mem_cons, List.not_mem_nil, or_false] at hmem
  rcases hmem with hheld | hbooked | hreleased
  · cases hheld
    exact option_ofJson (fun _ _ => held_ofJson) hparse
  · cases hbooked
    exact option_ofJson (fun _ _ => booked_ofJson) hparse
  · cases hreleased
    exact option_ofJson (fun _ _ => released_ofJson) hparse

end Typed

/-! ## Published events -/

/-- The event without the user id that `holdSeat` publishes. -/
def SeatEventPayload.visible : SeatEventPayload → SeatEventPayload
  | .held eventId seatId holdId expiresAt _ => .held eventId seatId holdId expiresAt none
  | payload => payload

def WebSocketSeatEvent.visible (event : WebSocketSeatEvent) : WebSocketSeatEvent :=
  { event with payload := event.payload.visible }

/-- The checks that the schema makes on a payload. -/
def SeatEventPayload.Accepted (zod : Zod) : SeatEventPayload → Prop
  | .held eventId seatId holdId expiresAt _ =>
    eventId ≠ "" ∧ seatId ≠ "" ∧ holdId ≠ "" ∧ zod.datetime expiresAt = true
  | .booked eventId seatId orderId => eventId ≠ "" ∧ seatId ≠ "" ∧ orderId ≠ ""
  | .released eventId seatId holdId reason =>
    eventId ≠ "" ∧ seatId ≠ "" ∧ holdId ≠ "" ∧ reason ∈ ["cancelled", "expired", "released"]

structure WebSocketSeatEvent.Accepted (zod : Zod) (event : WebSocketSeatEvent) : Prop where
  eventId : zod.uuid event.eventId = true
  schemaVersion : event.schemaVersion = WEBSOCKET_SEAT_EVENT_SCHEMA_VERSION
  occurredAt : zod.datetime event.occurredAt = true
  correlationId : event.correlationId ≠ ""
  payload : event.payload.Accepted zod

/-- The schema of the payload in the option of its event type. -/
def SeatEventPayload.schema (zod : Zod) : SeatEventPayload → Schema
  | .held .. => seatHeldEventSchema zod
  | .booked .. => seatBookedEventSchema
  | .released .. => seatReleasedEventSchema

theorem safeParse_payload {zod : Zod} {payload : SeatEventPayload} (h : payload.Accepted zod) :
    (payload.schema zod).safeParse payload.published = some payload.visible.toJson := by
  cases payload with
  | held eventId seatId holdId expiresAt userId =>
    obtain ⟨heventId, hseatId, hholdId, hexpiresAt⟩ := h
    cases userId with
    | none | some =>
      simp [SeatEventPayload.schema, seatHeldEventSchema, SeatEventPayload.published,
        SeatEventPayload.visible, SeatEventPayload.toJson, Schema.safeParse, Schema.parseShape,
        Schema.nonempty, Json.lookup, heventId, hseatId, hholdId, hexpiresAt]
  | booked eventId seatId orderId =>
    obtain ⟨heventId, hseatId, horderId⟩ := h
    simp [SeatEventPayload.schema, seatBookedEventSchema, SeatEventPayload.published,
      SeatEventPayload.visible, SeatEventPayload.toJson, Schema.safeParse, Schema.parseShape,
      Schema.nonempty, Json.lookup, heventId, hseatId, horderId]
  | released eventId seatId holdId reason =>
    obtain ⟨heventId, hseatId, hholdId, hreason⟩ := h
    have hlisted : reason = "cancelled" ∨ reason = "expired" ∨ reason = "released" := by
      simpa using hreason
    simp [SeatEventPayload.schema, seatReleasedEventSchema, SeatEventPayload.published,
      SeatEventPayload.visible, SeatEventPayload.toJson, Schema.safeParse, Schema.parseShape,
      Schema.nonempty, Json.lookup, heventId, hseatId, hholdId, hlisted]

theorem visible_eventType (payload : SeatEventPayload) :
    payload.visible.eventType = payload.eventType := by
  cases payload with
  | held | booked | released => rfl

/-- The event type of a published event picks the schema of its payload. -/
theorem safeParse_union (zod : Zod) (event : WebSocketSeatEvent) :
    (webSocketSeatEventSchema zod).safeParse event.published =
      (seatEventOption zod event.payload.eventType (event.payload.schema zod)).2.safeParse
        event.published := by
  obtain ⟨eventId, schemaVersion, occurredAt, correlationId, payload⟩ := event
  cases payload with
  | held | booked | released =>
    simp [webSocketSeatEventSchema, seatEventOption, WebSocketSeatEvent.published,
      SeatEventPayload.eventType, SeatEventPayload.schema, Schema.safeParse, Schema.parseOption,
      Json.lookup]

/-- The schema accepts a published event and keeps all of it but the user id. -/
theorem safeParse_published {zod : Zod} {event : WebSocketSeatEvent} (h : event.Accepted zod) :
    (webSocketSeatEventSchema zod).safeParse event.published = some event.visible.toJson := by
  have hpayload := safeParse_payload h.payload
  have hversion : Schema.double WEBSOCKET_SEAT_EVENT_SCHEMA_VERSION 0 =
      .finite WEBSOCKET_SEAT_EVENT_SCHEMA_VERSION := by
    decide +kernel
  rw [safeParse_union]
  simp [seatEventOption, WebSocketSeatEvent.published, WebSocketSeatEvent.toJson,
    WebSocketSeatEvent.visible, Schema.safeParse, Schema.parseShape, Schema.nonempty, Json.lookup,
    hpayload, hversion, h.eventId, h.schemaVersion, h.occurredAt, h.correlationId,
    visible_eventType]

theorem ofJson_visible {zod : Zod} {event : WebSocketSeatEvent} (h : event.Accepted zod) :
    WebSocketSeatEvent.ofJson event.visible.toJson = some event.visible := by
  obtain ⟨eventId, schemaVersion, occurredAt, correlationId, payload⟩ := event
  cases h.schemaVersion
  cases payload with
  | held | booked | released => rfl

/-- A subscriber decodes a published event, without the user id. -/
theorem decode_rawMessage {zod : Zod} {event : WebSocketSeatEvent} (h : event.Accepted zod) :
    decodeSeatEvent zod event.rawMessage = some event.visible := by
  rw [decodeSeatEvent, WebSocketSeatEvent.rawMessage, Json.parse_stringify, Option.bind_some,
    safeParse_published h, Option.bind_some, ofJson_visible h]

/-- What a node forwards is the published event restricted to the fields of the schema. -/
theorem restrict_published {zod : Zod} {event : WebSocketSeatEvent} (h : event.Accepted zod) :
    (webSocketSeatEventSchema zod).restrict event.published = event.visible.toJson :=
  Schema.restrict_eq _ _ _ (safeParse_published h)

end TicketEngine
