import TokenClient.Rpc.Client
import TokenClient.Url.Reader
import TokenClient.Transaction.Receipt
import TokenClient.Transaction.Envelope

/-! Sessions: a node's endpoint together with the terms on which it is talked to. -/
namespace TokenClient

/-- Times are in milliseconds. -/
structure SessionConfig where
  rpcUrl : String := "http://localhost:8545"
  /-- The handshake fails where the node reports any other chain. -/
  expectedChainId : Option Nat := none
  pollInterval : Nat := 500
  confirmationTimeout : Nat := 30000
  deriving DecidableEq, Repr

structure Session where
  config : SessionConfig
  /-- The endpoint as the requests name it. -/
  url : String
  deriving DecidableEq, Repr

namespace Session

def new (config : SessionConfig) : Except Failure Session :=
  match Url.parse config.rpcUrl with
  | .ok url => .ok ⟨config, url.text⟩
  | .error fault => .error (.connection config.rpcUrl fault.message)

variable {α : Type}

def query (session : Session) (request : Request) (read? : Json → Option α) :
    Client (Except RpcFault α) := do
  match ← Client.ask ⟨session.url, request⟩ with
  | .error fault => return .error fault
  | .ok value =>
    match read? value with
    | some result => return .ok result
    | none => return .error .malformed

/-- One request whose failure ends the computation. -/
def demand (session : Session) (request : Request) (read? : Json → Option α) : Client α := do
  match ← session.query request read? with
  | .ok result => return result
  | .error fault => throw (.rpc fault.message)

/-- Asks the node for its chain, which must be the expected one where one is expected. -/
def greet (session : Session) : Client Nat := do
  match ← session.query .chainId (Json.quantity? 64) with
  | .error fault => throw (.connection session.config.rpcUrl fault.message)
  | .ok actual =>
    match session.config.expectedChainId with
    | some expected => if expected ≠ actual then throw (.chainMismatch expected actual)
    | none => pure ()
    return actual

def connect (config : SessionConfig) : Client Session := do
  let session ← new config
  let _ ← session.greet
  return session

def chainId (session : Session) : Client Nat := session.demand .chainId (Json.quantity? 64)

def gasPrice (session : Session) : Client Nat := session.demand .gasPrice (Json.quantity? 128)

def pendingNonce (session : Session) (account : Address) : Client Nat :=
  session.demand (.transactionCount account) (Json.quantity? 64)

def blockNumber (session : Session) : Client Nat := session.demand .blockNumber (Json.quantity? 64)

/-- Broadcasts a transaction; the hash is the node's. -/
def send (session : Session) (envelope : Envelope) : Client TxHash :=
  session.demand (.sendRaw envelope.raw) Json.hash?

def receipt (session : Session) (hash : TxHash) : Client (Option Receipt) :=
  session.demand (.receipt hash) Receipt.answer?

def shown (session : Session) : String :=
  "Session \x7b rpc_url: " ++ Text.quoted session.config.rpcUrl ++ ", expected_chain_id: " ++
    (match session.config.expectedChainId with
      | none => "None"
      | some chain => "Some(" ++ Decimal.text chain ++ ")") ++ " \x7d"

end Session
end TokenClient
