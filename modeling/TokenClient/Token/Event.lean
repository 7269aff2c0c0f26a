import TokenClient.Abi
import TokenClient.Failure
import TokenClient.Quantity

/-! Log entries, and the transfers and approvals they record. -/
namespace TokenClient

structure LogEntry where
  emitter : Address
  topics : List Word
  data : Bytes
  block : Option Nat
  hash : Option TxHash
  deriving DecidableEq, Repr

def LogEntry.keys : List String :=
  ["address", "topics", "data", "blockHash", "blockNumber", "blockTimestamp", "transactionHash",
    "transactionIndex", "logIndex", "removed"]

/-- Members that are not listed do not matter; those listed must be well formed. -/
def LogEntry.ofJson? (value : Json) : Option LogEntry := do
  let find ← value.record? keys
  let emitter ← (← find "address").address?
  let topics ← match ← find "topics" with
    | .array items => items.mapM Json.hash?
    | _ => none
  let data ← (← find "data").bytes?
  let _ ← Json.optional? Json.hash? (find "blockHash")
  let block ← Json.optional? (Json.quantity? 64) (find "blockNumber")
  let _ ← Json.optional? (Json.quantity? 64) (find "blockTimestamp")
  let hash ← Json.optional? Json.hash? (find "transactionHash")
  let _ ← Json.optional? (Json.quantity? 64) (find "transactionIndex")
  let _ ← Json.optional? (Json.quantity? 64) (find "logIndex")
  match find "removed" with
  | none | some (.boolean _) => return { emitter, topics, data, block, hash }
  | _ => none

namespace Token

inductive EventKind where
  | transfer (sender recipient : Address) (value : Word)
  | approval (owner spender : Address) (value : Word)
  deriving DecidableEq, Repr

structure Event where
  block : Option Nat
  hash : Option TxHash
  kind : EventKind
  deriving DecidableEq, Repr

def transferTopic : Word := digest (Bytes.ofString "Transfer(address,address,uint256)")

def approvalTopic : Word := digest (Bytes.ofString "Approval(address,address,uint256)")

inductive EventFault where
  | topicCount
  | data (fault : Abi.Fault)
  deriving DecidableEq, Repr

def EventFault.message : EventFault → String
  | .topicCount => "undecodable event log: topic list length mismatch"
  | .data fault => "undecodable event log: " ++ fault.message

def EventFault.failure (fault : EventFault) : Failure := .contractCall fault.message

namespace Event

def parts (topics : List Word) (data : Bytes) : Except EventFault (Address × Address × Word) :=
  match topics with
  | [_, first, second] =>
    match Abi.word data with
    | .ok value => .ok (first.setWidth 160, second.setWidth 160, value)
    | .error fault => .error (.data fault)
  | _ => .error .topicCount

/-- The event that an entry records; entries of other kinds record none. -/
def decode (entry : LogEntry) : Except EventFault (Option Event) :=
  match entry.topics.head? with
  | none => .ok none
  | some topic =>
    if topic = transferTopic then
      (parts entry.topics entry.data).map fun (sender, recipient, value) =>
        some ⟨entry.block, entry.hash, .transfer sender recipient value⟩
    else if topic = approvalTopic then
      (parts entry.topics entry.data).map fun (owner, spender, value) =>
        some ⟨entry.block, entry.hash, .approval owner spender value⟩
    else .ok none

/-- The events of a list of entries, in order. One bad entry spoils all. -/
def decodeAll : List LogEntry → Except EventFault (List Event)
  | [] => .ok []
  | entry :: rest =>
    match decode entry with
    | .error fault => .error fault
    | .ok event => (decodeAll rest).map (event.toList ++ ·)

end Event
end Token
end TokenClient
