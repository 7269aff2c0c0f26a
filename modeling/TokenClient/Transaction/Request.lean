import TokenClient.Quantity

/-! Transactions as they are asked for: any part may still be missing. -/
namespace TokenClient

inductive Destination where
  | account (address : Address)
  | creation
  deriving DecidableEq, Repr

structure AccessEntry where
  address : Address
  keys : List Word
  deriving DecidableEq, Repr

structure TransactionRequest where
  sender : Option Address := none
  destination : Option Destination := none
  gasPrice : Option Nat := none
  maxFeePerGas : Option Nat := none
  maxPriorityFeePerGas : Option Nat := none
  gas : Option Nat := none
  value : Option Word := none
  input : Option Bytes := none
  /-- The older name of `input`; it counts where `input` is missing. -/
  data : Option Bytes := none
  nonce : Option Nat := none
  chainId : Option Nat := none
  accessList : Option (List AccessEntry) := none
  kind : Option Nat := none
  deriving DecidableEq, Repr

namespace AccessEntry

def ofMembers? (address keys : Json) : Option AccessEntry := do
  let address ← address.address?
  match keys with
  | .array keys => return { address, keys := ← keys.mapM Json.hash? }
  | _ => none

def ofJson? : Json → Option AccessEntry
  | .array [address, keys] => ofMembers? address keys
  | value => do
    let find ← value.record? ["address", "storageKeys"]
    ofMembers? (← find "address") (← find "storageKeys")

def listOfJson? : Json → Option (List AccessEntry)
  | .array entries => entries.mapM ofJson?
  | _ => none

def toJson (entry : AccessEntry) : Json :=
  .object [("address", .string entry.address.text),
    ("storageKeys", .array (entry.keys.map fun key => .string (TxHash.text key)))]

end AccessEntry

namespace TransactionRequest

def keys : List String :=
  ["from", "to", "gasPrice", "maxFeePerGas", "maxPriorityFeePerGas", "gas", "value", "input",
    "data", "nonce", "chainId", "accessList", "type"]

def ofJson? (value : Json) : Option TransactionRequest := do
  let find ← value.record? keys
  let quantity (bits : Nat) (key : String) := Json.optional? (Json.quantity? bits) (find key)
  return {
    sender := ← Json.optional? Json.address? (find "from")
    destination := (← Json.optional? Json.address? (find "to")).map .account
    gasPrice := ← quantity 128 "gasPrice"
    maxFeePerGas := ← quantity 128 "maxFeePerGas"
    maxPriorityFeePerGas := ← quantity 128 "maxPriorityFeePerGas"
    gas := ← quantity 64 "gas"
    value := (← quantity 256 "value").map (BitVec.ofNat 256)
    input := ← Json.optional? Json.bytes? (find "input")
    data := ← Json.optional? Json.bytes? (find "data")
    nonce := ← quantity 64 "nonce"
    chainId := ← quantity 64 "chainId"
    accessList := ← Json.optional? AccessEntry.listOfJson? (find "accessList")
    kind := ← quantity 8 "type" }

def toJson (request : TransactionRequest) : Json :=
  let quantity (key : String) (n : Option Nat) :=
    n.toList.map fun n => (key, Json.string (Quantity.text n))
  let bytes (key : String) (b : Option Bytes) := b.toList.map fun b => (key, Json.string (Hex.text b))
  let destination := request.destination.toList.map fun
    | .account address => ("to", Json.string address.text)
    | .creation => ("to", .null)
  .object (
    (request.sender.toList.map fun address => ("from", Json.string address.text)) ++
    destination ++
    quantity "gasPrice" request.gasPrice ++
    quantity "maxFeePerGas" request.maxFeePerGas ++
    quantity "maxPriorityFeePerGas" request.maxPriorityFeePerGas ++
    quantity "gas" request.gas ++
    quantity "value" (request.value.map BitVec.toNat) ++
    bytes "input" request.input ++
    bytes "data" request.data ++
    quantity "nonce" request.nonce ++
    quantity "chainId" request.chainId ++
    (request.accessList.toList.map fun entries =>
      ("accessList", Json.array (entries.map AccessEntry.toJson))) ++
    quantity "type" request.kind)

def payload (request : TransactionRequest) : Bytes :=
  (request.input <|> request.data).getD []

end TransactionRequest
end TokenClient
