import TokenClient.Account
import TokenClient.Command.Report
import TokenClient.Rpc.Client
import TokenClient.Session.Confirmation
import TokenClient.Settings.Basic

/-! What the commands do with an open session. Each one reads its arguments in order, asks what it
needs to know, and only then, where it has to, sends a transaction. -/
namespace TokenClient.Action

open Token

def parseHash (text : String) : Except Failure TxHash :=
  (TxHash.read (Bytes.ofString (Text.trim text))).mapError (.invalidHash text)

def contractAt (session : Session) (text : String) : Except Failure Contract :=
  (Account.parseAddress text).map fun address => ⟨session, address⟩

def parseAmount (text : String) (decimals : Nat) : Except Failure Amount :=
  (Amount.parse text decimals).mapError .amount

def deploy (s : Settings) (session : Session) (deployerKey : String) : Client DeployReport := do
  let deployer ← Credential.read deployerKey
  let auth ← Authorization.forCredential session deployer s.gasLimit
  let (_, deployment) ← Contract.deploy session auth
  let receipt ← session.confirm deployment.hash
  return ⟨deployment, receipt.block⟩

/-- Moves tokens and reads both balances before and after. -/
def queryTransfer (s : Settings) (session : Session) (contract deployerKey receiver : String)
    (amount : Option String) : Client TransferReport := do
  let contract ← contractAt session contract
  let deployer ← Credential.read deployerKey
  let receiver ← Account.resolveRecipient receiver
  let metadata ← contract.metadata
  let amount ← parseAmount (amount.getD s.transferAmount) metadata.decimals
  let deployerBefore ← contract.balanceAmount deployer.address metadata.decimals
  let receiverBefore ← contract.balanceAmount receiver metadata.decimals
  let auth ← Authorization.forCredential session deployer s.gasLimit
  let hash ← contract.transfer auth receiver amount.raw
  let _ ← session.confirm hash
  let deployerAfter ← contract.balanceAmount deployer.address metadata.decimals
  let receiverAfter ← contract.balanceAmount receiver metadata.decimals
  return { metadata, amount, hash, deployerBefore, receiverBefore, deployerAfter, receiverAfter }

def info (session : Session) (contract : String) : Client (List String) := do
  let contract ← contractAt session contract
  let metadata ← contract.metadata
  let supply ← contract.totalSupply
  return Report.infoLines contract.address metadata ⟨supply, metadata.decimals⟩

def balance (session : Session) (contract account : String) : Client (List String) := do
  let contract ← contractAt session contract
  let account ← Account.resolve account
  let metadata ← contract.metadata
  let balance ← contract.balanceAmount account metadata.decimals
  return Report.balanceLines account balance metadata.symbol

def allowance (session : Session) (contract owner spender : String) : Client (List String) := do
  let contract ← contractAt session contract
  let owner ← Account.resolve owner
  let spender ← Account.resolve spender
  let decimals ← contract.decimals
  let allowance ← contract.allowance owner spender
  return Report.allowanceLines owner spender ⟨allowance, decimals⟩

def approve (s : Settings) (session : Session) (contract ownerKey spender amount : String) :
    Client (List String) := do
  let contract ← contractAt session contract
  let owner ← Credential.read ownerKey
  let spender ← Account.resolveRecipient spender
  let decimals ← contract.decimals
  let amount ← parseAmount amount decimals
  let auth ← Authorization.forCredential session owner s.gasLimit
  let hash ← contract.approve auth spender amount.raw
  let _ ← session.confirm hash
  return Report.approvalLines owner.address spender amount hash

structure Moved where
  contract : Contract
  owner : Address
  recipient : Address
  spender : Address
  amount : Amount
  hash : TxHash

def transferFrom (s : Settings) (session : Session)
    (contract spenderKey owner recipient amount : String) : Client Moved := do
  let contract ← contractAt session contract
  let spender ← Credential.read spenderKey
  let owner ← Account.resolve owner
  let recipient ← Account.resolveRecipient recipient
  let decimals ← contract.decimals
  let amount ← parseAmount amount decimals
  let auth ← Authorization.forCredential session spender s.gasLimit
  let hash ← contract.transferFrom auth owner recipient amount.raw
  let _ ← session.confirm hash
  return { contract, owner, recipient, spender := spender.address, amount, hash }

def events (session : Session) (contract : String) (fromBlock : Nat) : Client (List String) := do
  let contract ← contractAt session contract
  let decimals ← contract.decimals
  let (batch, cursor) ← (contract.eventsFrom fromBlock).nextBatch
  let events ← batch
  return Report.eventsLines events decimals fromBlock (cursor.lastHead.getD fromBlock)

def transactionStatus (session : Session) (text : String) : Client (List String) := do
  let hash ← parseHash text
  let receipt ← session.receipt hash
  return Report.statusLines hash receipt

end TokenClient.Action
