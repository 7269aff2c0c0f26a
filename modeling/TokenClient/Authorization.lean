import TokenClient.Session.Basic

/-! Authorizations: all that is needed to sign one transaction. -/
namespace TokenClient

structure Authorization where
  credential : Credential
  nonce : Nat
  gasLimit : Nat
  gasPrice : Nat
  chainId : Nat
  deriving DecidableEq, Repr

namespace Authorization

def defaultGasLimit : Nat := 3000000

/-- Asks for the nonce of `address`, the gas price and the chain, in this order. -/
def request (session : Session) (credential : Credential) (address : Address) (gasLimit : Nat) :
    Client Authorization := do
  if address = 0 then
    throw (.invalidAddress "cannot authorize transactions for the zero address")
  let nonce ← session.pendingNonce address
  let gasPrice ← session.gasPrice
  let chainId ← session.chainId
  return { credential, nonce, gasLimit, gasPrice, chainId }

def forCredential (session : Session) (credential : Credential) (gasLimit : Nat) :
    Client Authorization :=
  request session credential credential.address gasLimit

def sender (auth : Authorization) : Address := auth.credential.address

/-- No transaction carries native value. -/
def value (_ : Authorization) : Word := 0

/-- The request with everything that the authorization fixes, whatever it asked for itself. -/
def stamp (auth : Authorization) (request : TransactionRequest) : TransactionRequest :=
  { request with
    sender := some auth.sender
    nonce := some auth.nonce
    gas := some auth.gasLimit
    gasPrice := some auth.gasPrice
    chainId := some auth.chainId
    value := some auth.value }

/-- The signed transaction. Fees and kind that the request names do not count. -/
def sign (auth : Authorization) (request : TransactionRequest) : Except Failure Envelope :=
  match request.destination with
  | some destination =>
    .ok (auth.credential.seal {
      nonce := auth.nonce
      gasPrice := auth.gasPrice
      gas := auth.gasLimit
      destination
      value := auth.value
      input := request.payload
      chainId := auth.chainId
      accessList := request.accessList })
  | none =>
    let kind := if request.accessList.isSome then "EIP-2930" else "Legacy"
    .error (.signing ("Failed to build transaction: " ++ kind ++
      " transaction can't be built due to missing keys: [\"to\"]"))

def shown (auth : Authorization) : String :=
  "TransactionAuthorization \x7b from: " ++ auth.sender.text ++
    ", nonce: " ++ Decimal.text auth.nonce ++
    ", gas_limit: " ++ Decimal.text auth.gasLimit ++
    ", gas_price: " ++ Decimal.text auth.gasPrice ++
    ", chain_id: " ++ Decimal.text auth.chainId ++ " \x7d"

end Authorization
end TokenClient
