import TokenClient.Quantity

/-! The questions that a client puts to a node. -/
namespace TokenClient

inductive Request where
  | chainId
  | gasPrice
  | blockNumber
  | transactionCount (account : Address)
  | receipt (hash : TxHash)
  | call (sender : Option Address) (target : Address) (input : Bytes)
  | sendRaw (transaction : Bytes)
  | logs (emitter : Address) (first last : Nat)
  deriving DecidableEq, Repr

namespace Request

def method : Request → String
  | .chainId => "eth_chainId"
  | .gasPrice => "eth_gasPrice"
  | .blockNumber => "eth_blockNumber"
  | .transactionCount _ => "eth_getTransactionCount"
  | .receipt _ => "eth_getTransactionReceipt"
  | .call .. => "eth_call"
  | .sendRaw _ => "eth_sendRawTransaction"
  | .logs .. => "eth_getLogs"

def params? : Request → Option (List Json)
  | .chainId | .gasPrice | .blockNumber => none
  | .transactionCount account => some [.string account.text, .string "pending"]
  | .receipt hash => some [.string hash.text]
  | .call sender target input =>
    let sender := match sender with
      | some account => [("from", Json.string account.text)]
      | none => []
    let members := ("to", .string target.text) :: ("input", .string (Hex.text input)) :: sender
    some [.object members, .string "latest"]
  | .sendRaw transaction => some [.string (Hex.text transaction)]
  | .logs emitter first last =>
    some [.object [("address", .string emitter.text),
      ("fromBlock", .string (Quantity.text first)), ("toBlock", .string (Quantity.text last)),
      ("topics", .array [])]]

end Request

structure Call where
  url : String
  request : Request
  deriving DecidableEq, Repr

end TokenClient
