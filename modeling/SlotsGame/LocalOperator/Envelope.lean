/-
# SlotsGame.LocalOperator.Envelope -- the envelope of an audit event

An envelope is one object of JSON that names nothing twice, at any depth, and only what an
envelope has.  Its identifier is a positive number, written as it is printed.
-/
import SlotsGame.Text
import SlotsGame.Theory.Json

namespace SlotsGame.LocalOperator

open SlotsGame.Text SlotsGame.Theory SlotsGame.Theory.Json

set_option autoImplicit false

/-- `auditSchema` -/
def auditSchema : String := "rgs-outbox-http-v1"

/-- The payload is kept as what its text says; an absent one is none. -/
structure AuditEnvelope where
  schemaVersion : String := ""
  id : String := ""
  operatorID : String := ""
  aggregateType : String := ""
  aggregateID : String := ""
  eventType : String := ""
  occurredAt : String := ""
  payload : Option Json := none

/-! ## Strict objects -/

mutual

/-- `validateJSONValueTokens` -/
def validateJSONValueTokens : Json → Bool
  | .array items => validateItems items
  | .object members => decide (members.map Prod.fst).Nodup && validateMembers members
  | .null | .bool _ | .number _ | .string _ => true

def validateItems : List Json → Bool
  | [] => true
  | item :: rest => validateJSONValueTokens item && validateItems rest

def validateMembers : List (List Char × Json) → Bool
  | [] => true
  | (_, content) :: rest => validateJSONValueTokens content && validateMembers rest

end

/-- `validateJSONObjectTokens`, past the opening brace -/
def validateJSONObjectTokens (members : List (List Char × Json)) : Bool :=
  validateJSONValueTokens (.object members)

/-- `decodeStrictJSON` -/
def decodeStrictJSON {α : Type} (fields : List (Json.Field α)) (encoded : List UInt8) (target : α) :
    Option α := do
  match ← parse encoded with
  | .object members =>
      if validateJSONObjectTokens members then decodeFields fields members target else none
  | _ => none

def envelopeFields : List (Json.Field AuditEnvelope) :=
  [{ name := "schemaVersion"
     set := setString fun text event => { event with schemaVersion := String.ofList text } },
    { name := "id", set := setString fun text event => { event with id := String.ofList text } },
    { name := "operatorId"
      set := setString fun text event => { event with operatorID := String.ofList text } },
    { name := "aggregateType"
      set := setString fun text event => { event with aggregateType := String.ofList text } },
    { name := "aggregateId"
      set := setString fun text event => { event with aggregateID := String.ofList text } },
    { name := "eventType"
      set := setString fun text event => { event with eventType := String.ofList text } },
    { name := "occurredAt"
      set := setString fun text event => { event with occurredAt := String.ofList text } },
    { name := "payload", set := fun content event => some { event with payload := some content } }]

/-! ## Envelopes -/

/-- A number of 64 bits with a sign, from the text that it is printed as.  `ParseInt` reads
others too, which the comparison with the printed text refuses. -/
def canonicalInt64 (text : String) : Option Int :=
  (parseInt64 text.toList).filter fun value => decimal value == text.toList

/-- What `json.Unmarshal` makes of a payload for a map: `null` is no map. -/
def payloadObject : Option Json → Bool
  | some (.object _) => true
  | _ => false

/-- The conditions on a decoded envelope, where `parseTime` is `time.Parse(time.RFC3339Nano, ·)`
in nanoseconds since the zero `time.Time`. -/
def AuditEnvelope.valid (parseTime : String → Option Int) (event : AuditEnvelope) : Bool :=
  event.schemaVersion == auditSchema &&
  (match canonicalInt64 event.id with
    | some id => decide (0 < id)
    | none => false) &&
  [event.operatorID, event.aggregateType, event.aggregateID, event.eventType].all
    identifierPattern &&
  (match parseTime event.occurredAt with
    | some occurredAt => decide (occurredAt ≠ 0)
    | none => false) &&
  payloadObject event.payload

/-- `decodeAuditEnvelope` -/
def decodeAuditEnvelope (parseTime : String → Option Int) (encoded : List UInt8) :
    Option AuditEnvelope :=
  (decodeStrictJSON envelopeFields encoded {}).filter fun event => event.valid parseTime

end SlotsGame.LocalOperator
