import SuperhumanDocs.Effect.Except

/-!
# The SDK client

What the extension sees of one operation of the SDK: the result of the operation and the last
response the transport recorded for it. `execute` turns these into the body of the response.
-/

set_option autoImplicit false

namespace SuperhumanDocs

/-- An error of the SDK; the text is its display. -/
inductive SdkError where
  | deserialize (text : String)
  | unexpectedStatus (actual : Nat) (text : String)
  | other (text : String)
deriving DecidableEq, Repr

def SdkError.toString : SdkError → String
  | deserialize text => text
  | unexpectedStatus _ text => text
  | other text => text

structure Response where
  status : Nat
  body : ByteArray

/-- A response the transport recorded, with the status its request expected. -/
structure Exchange where
  expectedStatus : Nat
  response : Response

/-- The outcome of one operation. Whether the server accepted a mutation is not visible to the
client, but is part of what happened. -/
structure Reply where
  result : Except SdkError Unit
  exchange : Option Exchange
  accepted : Bool

def responseBody (response : Response) : Except String String :=
  match String.fromUTF8? response.body with
  | some body => .ok body
  | none => .error "invalid utf-8 sequence"

theorem fromUTF8?_toUTF8 (s : String) : String.fromUTF8? s.toUTF8 = some s := by
  have h : s.toUTF8.IsValidUTF8 := s.isValidUTF8
  rw [String.fromUTF8?, dif_pos h]
  rfl

def executeInner (acceptedStatus : Option Nat) (reply : Reply) : Except String (Option String) :=
  match reply.result, reply.exchange with
  | .ok _, some exchange => (responseBody exchange.response).map some
  | .error (.deserialize text), some exchange =>
    if exchange.response.status = exchange.expectedStatus then
      (responseBody exchange.response).map some
    else .error text
  | .error (.unexpectedStatus actual text), some _ =>
    if acceptedStatus = some actual then .ok none else .error text
  | .error error, _ => .error error.toString
  | .ok _, none => .error "SDK transport returned no response"

/-- The body of the response. -/
def execute (reply : Reply) : Except String String := do
  match ← executeInner none reply with
  | some body => .ok body
  | none => .error "SDK transport returned an unexpected accepted status"

/-- The body of the response, or `none` for an accepted error status. -/
def executeAcceptingStatus (acceptedStatus : Nat) (reply : Reply) : Except String (Option String) :=
  executeInner (some acceptedStatus) reply

def nonEmptyString (value : String) : Option String := if value.isEmpty then none else some value

end SuperhumanDocs
