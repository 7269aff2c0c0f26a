import TokenClient.Quantity
import TokenClient.Json.Reader

/-! What comes back for a request, and how it is understood. -/
namespace TokenClient

inductive Reply where
  | result (value : Json)
  | error (payload : Json)
  | dropped (reason : String)
  /-- An answer as it stands in the transport, still to be understood. -/
  | http (status : Nat) (body : String)

structure Refusal where
  code : Int
  message : String
  data : Option String
  deriving DecidableEq, Repr

inductive RpcFault where
  | refused (refusal : Refusal)
  | dropped (reason : String)
  | status (code : Nat) (body : String)
  | malformed
  deriving DecidableEq, Repr

def RpcFault.message : RpcFault → String
  | .refused refusal =>
    "server returned an error response: error code " ++ toString refusal.code ++ ": " ++
      refusal.message ++ (match refusal.data with | some data => ", data: " ++ data | none => "")
  | .dropped reason => reason
  | .status code body =>
    "HTTP error " ++ Decimal.text code ++
      if body = "" then " with empty body" else " with body: " ++ body
  | .malformed => "deserialization error"

namespace Json

/-- An integer of 64 bits with sign. Minus zero is not one. -/
def integer? : Json → Option Int
  | .number spelling =>
    let read : Option Int := match spelling.toList with
      | '-' :: cs =>
        if cs.all Decimal.isDigit ∧ Decimal.value cs ≠ 0 then some (-(Decimal.value cs : Int))
        else none
      | cs => if cs.all Decimal.isDigit then some (Decimal.value cs : Int) else none
    read.filter fun i => Int64.minValue.toInt ≤ i ∧ i ≤ Int64.maxValue.toInt
  | _ => none

def text? : Json → Option String
  | .string s => some s
  | _ => none

end Json

namespace Refusal

def ofMembers? (find : String → Option Json) (data : Option String) : Option Refusal := do
  let code ← (← find "code").integer?
  let message ← match find "message" with
    | some value => value.text?
    | none => some ""
  return ⟨code, message, data⟩

def ofJson? (payload : Json) : Option Refusal := do
  let find ← payload.record? ["code", "message", "data"]
  ofMembers? find ((find "data").map Json.compact)

/-- The members of a spelled object in which none of the given keys stands twice. -/
def spelledRecord? (known : List String) (text : String) : Option (String → Option String) := do
  let members ← Json.spelledObject? text
  if known.all fun key => members.countP (·.1 == key) ≤ 1 then
    some fun key => members.lookup key
  else none

def ofText? (text : String) : Option Refusal := do
  let find ← spelledRecord? ["code", "message", "data"] text
  ofMembers? (fun key => (find key).bind Json.parse?) (find "data")

end Refusal

namespace Reply

def isIdentifier : Json → Bool
  | .null | .string _ => true
  | .number spelling => spelling.toList.all Decimal.isDigit
  | _ => false

/-- The result in the body of an answer: the body is an object with either a result or an error. -/
def readBody (body : String) : Except RpcFault Json :=
  match Refusal.spelledRecord? ["id", "result", "error"] body with
  | none => .error .malformed
  | some find =>
    if ((find "id").bind Json.parse?).all isIdentifier then
      match find "result", find "error" with
      | some text, none =>
        match Json.parse? text with
        | some value => .ok value
        | none => .error .malformed
      | none, some text =>
        match Refusal.ofText? text with
        | some refusal => .error (.refused refusal)
        | none => .error .malformed
      | _, _ => .error .malformed
    else .error .malformed

def read : Reply → Except RpcFault Json
  | .result value => .ok value
  | .error payload =>
    match Refusal.ofJson? payload with
    | some refusal => .error (.refused refusal)
    | none => .error .malformed
  | .dropped reason => .error (.dropped reason)
  | .http status body =>
    if 200 ≤ status ∧ status < 300 then readBody body else .error (.status status body)

end Reply
end TokenClient
