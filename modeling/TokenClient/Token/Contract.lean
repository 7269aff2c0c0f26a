import TokenClient.Authorization
import TokenClient.Token.Method
import TokenClient.Token.Code

/-! A deployed token as seen through a session: what it tells, and the transactions it takes. -/
namespace TokenClient.Token

structure Contract where
  session : Session
  address : Address
  deriving DecidableEq, Repr

structure Deployment where
  address : Address
  deployer : Address
  hash : TxHash
  deriving DecidableEq, Repr

structure Metadata where
  name : String
  symbol : String
  decimals : Nat
  deriving DecidableEq, Repr

inductive CallFault where
  | rpc (fault : RpcFault)
  /-- An account without code answers every call with nothing. -/
  | noData (label : String)
  | abi (fault : Abi.Fault)
  deriving DecidableEq, Repr

def CallFault.failure : CallFault → Failure
  | .rpc fault => .rpc fault.message
  | .noData label =>
    .contractCall ("contract call to `" ++ label ++
      "` returned no data (\"0x\"); the called address might not be a contract")
  | .abi fault => .contractCall fault.message

namespace Contract

variable {α : Type}

def evaluate (contract : Contract) (sender : Option Address) (method : Method)
    (read : Bytes → Except Abi.Fault α) : Client (Except CallFault α) := do
  match ← contract.session.query (.call sender contract.address method.input) Json.bytes? with
  | .error fault => return .error (.rpc fault)
  | .ok [] => return .error (.noData method.label)
  | .ok data => return (read data).mapError .abi

def view (contract : Contract) (method : Method) (read : Bytes → Except Abi.Fault α) :
    Client α := do
  match ← contract.evaluate none method read with
  | .ok result => return result
  | .error fault => throw fault.failure

def name (contract : Contract) : Client String := contract.view .name Abi.text

def symbol (contract : Contract) : Client String := contract.view .symbol Abi.text

def decimals (contract : Contract) : Client Nat := contract.view .decimals Abi.small

def totalSupply (contract : Contract) : Client Word := contract.view .totalSupply Abi.word

def balanceOf (contract : Contract) (account : Address) : Client Word :=
  contract.view (.balanceOf account) Abi.word

def allowance (contract : Contract) (owner spender : Address) : Client Word :=
  contract.view (.allowance owner spender) Abi.word

def metadata (contract : Contract) : Client Metadata := do
  let name ← contract.name
  let symbol ← contract.symbol
  let decimals ← contract.decimals
  return { name, symbol, decimals }

def balanceAmount (contract : Contract) (account : Address) (decimals : Nat) : Client Amount := do
  return ⟨← contract.balanceOf account, decimals⟩

/-- Tries a state-changing call without broadcasting anything. -/
def rehearse (contract : Contract) (sender : Address) (method : Method) : Client Unit := do
  match ← contract.evaluate (some sender) method Abi.flag with
  | .ok true => return ()
  | .ok false => throw (.contractCall (method.label ++ " returned false"))
  | .error (.rpc (.refused refusal)) =>
    throw (.contractCall (method.label ++ " would revert: " ++ refusal.message))
  | .error fault => throw fault.failure

/-- Rehearses a call; only if it succeeds, the same call is signed and broadcast. -/
def transact (contract : Contract) (auth : Authorization) (method : Method) : Client TxHash := do
  contract.rehearse auth.sender method
  let envelope ← auth.sign
    { destination := some (.account contract.address), input := some method.input }
  contract.session.send envelope

def transfer (contract : Contract) (auth : Authorization) (recipient : Address) (amount : Word) :
    Client TxHash :=
  contract.transact auth (.transfer recipient amount)

def transferFrom (contract : Contract) (auth : Authorization) (owner recipient : Address)
    (amount : Word) : Client TxHash :=
  contract.transact auth (.transferFrom owner recipient amount)

def approve (contract : Contract) (auth : Authorization) (spender : Address) (amount : Word) :
    Client TxHash :=
  contract.transact auth (.approve spender amount)

def increaseAllowance (contract : Contract) (auth : Authorization) (spender : Address)
    (added : Word) : Client TxHash :=
  contract.transact auth (.increaseAllowance spender added)

def decreaseAllowance (contract : Contract) (auth : Authorization) (spender : Address)
    (subtracted : Word) : Client TxHash :=
  contract.transact auth (.decreaseAllowance spender subtracted)

/-- Broadcasts the creation of the token. Its address follows from sender and nonce alone. -/
def deploy (session : Session) (auth : Authorization) : Client (Contract × Deployment) := do
  let address := auth.sender.created auth.nonce
  let envelope ← auth.sign { destination := some .creation, input := some Token.code }
  let hash ← session.send envelope
  return (⟨session, address⟩, ⟨address, auth.sender, hash⟩)

def shown (contract : Contract) : String :=
  "TokenContract \x7b address: " ++ contract.address.text ++ " \x7d"

end Contract
end TokenClient.Token
