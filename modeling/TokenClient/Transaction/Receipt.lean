import TokenClient.Token.Event

/-! What a node tells about a transaction that has been included. -/
namespace TokenClient

structure Receipt where
  hash : TxHash
  success : Bool
  block : Option Nat
  gasUsed : Nat
  contract : Option Address
  deriving DecidableEq, Repr

namespace Receipt

def keys : List String :=
  ["transactionHash", "transactionIndex", "blockHash", "blockNumber", "gasUsed",
    "effectiveGasPrice", "blobGasUsed", "blobGasPrice", "from", "to", "contractAddress", "type",
    "logsBloom", "status", "root", "cumulativeGasUsed", "logs"]

def isKind : Json → Bool
  | .string s =>
    ["0x0", "0x1", "0x2", "0x3", "0x4", "0x00", "0x01", "0x02", "0x03", "0x04"].contains s
  | .number s => ["0", "1", "2", "3", "4"].contains s
  | _ => false

/-- Old receipts carry a state root in place of a status and count as successful. -/
def success? (find : String → Option Json) : Option Bool :=
  match (find "status").bind (Json.quantity? 1) with
  | some status => some (status = 1)
  | none => ((find "root").bind Json.hash?).map fun _ => true

/-- All members of the standard object are looked at, whether they are kept or not. -/
def ofJson? (value : Json) : Option Receipt := do
  let find ← value.record? keys
  let hash ← (← find "transactionHash").hash?
  let _ ← Json.optional? (Json.quantity? 64) (find "transactionIndex")
  let _ ← Json.optional? Json.hash? (find "blockHash")
  let block ← Json.optional? (Json.quantity? 64) (find "blockNumber")
  let gasUsed ← (← find "gasUsed").quantity? 64
  let _ ← (← find "effectiveGasPrice").quantity? 128
  let _ ← Json.optional? (Json.quantity? 64) (find "blobGasUsed")
  let _ ← Json.optional? (Json.quantity? 128) (find "blobGasPrice")
  let _ ← (← find "from").address?
  let _ ← Json.optional? Json.address? (find "to")
  let contract ← Json.optional? Json.address? (find "contractAddress")
  if !isKind (← find "type") then failure
  let _ ← (← find "logsBloom").fixedBytes? 256
  let success ← success? find
  let _ ← (← find "cumulativeGasUsed").quantity? 64
  match ← find "logs" with
  | .array entries =>
    let _ ← entries.mapM LogEntry.ofJson?
    return { hash, success, block, gasUsed, contract }
  | _ => none

/-- The answer for a transaction that is not included yet is null. -/
def answer? : Json → Option (Option Receipt)
  | .null => some none
  | value => (ofJson? value).map some

end Receipt
end TokenClient
