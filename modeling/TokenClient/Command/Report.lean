import TokenClient.Token.Cursor

/-! What the commands print, line by line. -/
namespace TokenClient

open Token

structure DeployReport where
  deployment : Deployment
  block : Option Nat
  deriving DecidableEq, Repr

def DeployReport.lines (r : DeployReport) : List String :=
  ["",
   "Deployed Contract",
   "---------------------------------------------",
   "Deployed contract address:         " ++ r.deployment.address.checksum,
   "Deployed by account with address:  " ++ r.deployment.deployer.checksum,
   "Deployed in transaction with hash: " ++ TxHash.text r.deployment.hash] ++
    r.block.toList.map fun block => "Included in block:                 " ++ Decimal.text block

structure TransferReport where
  metadata : Metadata
  amount : Amount
  hash : TxHash
  deployerBefore : Amount
  receiverBefore : Amount
  deployerAfter : Amount
  receiverAfter : Amount
  deriving DecidableEq, Repr

def TransferReport.lines (r : TransferReport) : List String :=
  ["Token:    " ++ r.metadata.name ++ " (" ++ r.metadata.symbol ++ ")",
   "Decimals: " ++ Decimal.text r.metadata.decimals,
   "Transferred " ++ r.amount.text ++ " " ++ r.metadata.symbol ++ " in " ++ TxHash.text r.hash,
   "",
   "deployer balance before: " ++ r.deployerBefore.text,
   "receiver balance before: " ++ r.receiverBefore.text,
   "deployer balance after:  " ++ r.deployerAfter.text,
   "receiver balance after:  " ++ r.receiverAfter.text]

namespace Report

def infoLines (address : Address) (metadata : Metadata) (supply : Amount) : List String :=
  ["Contract:     " ++ address.checksum,
   "Name:         " ++ metadata.name,
   "Symbol:       " ++ metadata.symbol,
   "Decimals:     " ++ Decimal.text metadata.decimals,
   "Total supply: " ++ supply.text ++ " " ++ metadata.symbol]

def balanceLines (account : Address) (balance : Amount) (symbol : String) : List String :=
  [account.checksum ++ ": " ++ balance.text ++ " " ++ symbol]

def allowanceLines (owner spender : Address) (allowance : Amount) : List String :=
  ["Owner:     " ++ owner.checksum,
   "Spender:   " ++ spender.checksum,
   "Allowance: " ++ allowance.text]

def approvalLines (owner spender : Address) (amount : Amount) (hash : TxHash) : List String :=
  ["Approved " ++ spender.checksum ++ " to spend " ++ amount.text ++ " on behalf of " ++
    owner.checksum,
   "Transaction: " ++ TxHash.text hash]

def movedLines (owner recipient spender : Address) (amount : Amount) (hash : TxHash) :
    List String :=
  ["Moved " ++ amount.text ++ " from " ++ owner.checksum ++ " to " ++ recipient.checksum,
   "Spender:     " ++ spender.checksum,
   "Transaction: " ++ TxHash.text hash]

def leftLines (allowance : Amount) : List String := ["Allowance left: " ++ allowance.text]

/-- One line for an event. An event without a block is still pending. -/
def eventLine (event : Event) (decimals : Nat) : String :=
  let block := match event.block with
    | some block => Decimal.text block
    | none => "pending"
  let line (label : String) (first second : Address) (value : Word) : String :=
    "#" ++ block ++ "  " ++ label ++ "  " ++ first.checksum ++ " -> " ++ second.checksum ++ "  " ++
      (Amount.mk value decimals).text
  match event.kind with
  | .transfer sender recipient value => line "Transfer" sender recipient value
  | .approval owner spender value => line "Approval" owner spender value

def noEventsLine (fromBlock head : Nat) : String :=
  if head < fromBlock then
    "No events: block " ++ Decimal.text fromBlock ++ " is past the chain head (" ++
      Decimal.text head ++ ")."
  else "No events between block " ++ Decimal.text fromBlock ++ " and " ++ Decimal.text head ++ "."

def eventsLines (events : List Event) (decimals fromBlock head : Nat) : List String :=
  if events = [] then [noEventsLine fromBlock head]
  else
    events.map (eventLine · decimals) ++
      ["", Decimal.text events.length ++ " event(s) total."]

def statusLines (hash : TxHash) : Option Receipt → List String
  | none => ["Transaction not found or still pending: " ++ TxHash.text hash]
  | some receipt =>
    ["Transaction: " ++ TxHash.text hash,
     "Status:      " ++ if receipt.success then "success" else "reverted"] ++
    (receipt.block.toList.map fun block => "Block:       " ++ Decimal.text block) ++
    ["Gas used:    " ++ Decimal.text receipt.gasUsed] ++
    (receipt.contract.toList.map fun address => "Created:     " ++ address.checksum)

end Report
end TokenClient
