import TokenClient.Session.Confirmation
import TokenClient.Token.Cursor

/-! A client in use: at most one session, authorization, envelope, contract and cursor at a time.
An operation that needs an authorization takes it away, whether or not it succeeds. -/
namespace TokenClient

open Token

structure Workbench where
  session : Option Session := none
  authorization : Option Authorization := none
  envelope : Option Envelope := none
  contract : Option Contract := none
  cursor : Option Cursor := none

inductive Part where
  | session
  | authorization
  | envelope
  | contract
  | cursor
  deriving DecidableEq, Repr

inductive Operation where
  | openSession (config : SessionConfig)
  | connect (config : SessionConfig)
  | showSession
  | chainId
  | gasPrice
  | blockNumber
  | pendingNonce (account : Address)
  | receipt (hash : TxHash)
  | confirm (hash : TxHash)
  | obtain (key : String) (address : Option Address) (gasLimit : Nat)
  | stamp (request : TransactionRequest)
  | sign (request : TransactionRequest)
  | send
  | deploy
  | bind (address : Address)
  | name
  | symbol
  | decimals
  | totalSupply
  | balanceOf (account : Address)
  | allowance (owner spender : Address)
  | balanceAmount (account : Address) (decimals : Nat)
  | metadata
  | transfer (recipient : Address) (amount : Word)
  | transferFrom (owner recipient : Address) (amount : Word)
  | approve (spender : Address) (amount : Word)
  | increaseAllowance (spender : Address) (added : Word)
  | decreaseAllowance (spender : Address) (subtracted : Word)
  | eventsFrom (block : Nat)
  | restart (block : Nat)
  | nextBatch
  deriving DecidableEq, Repr

inductive Result where
  | nothing
  | text (value : String)
  | number (value : Nat)
  | word (value : Word)
  | hash (value : TxHash)
  | receipt (value : Option Receipt)
  | authorization (value : Authorization)
  | request (value : TransactionRequest)
  | envelope (value : Envelope)
  | deployment (value : Deployment)
  | contract (value : Contract)
  | amount (value : Amount)
  | metadata (value : Metadata)
  | cursor (value : Cursor)
  | events (value : List Event)

inductive Outcome where
  | missing (part : Part)
  | failed (failure : Failure)
  | done (result : Result)

namespace Workbench

variable {α : Type}

abbrev Step := Node → Wire → (Outcome × Workbench) × Wire

def give (outcome : Outcome) (bench : Workbench) : Step := fun _ wire => ((outcome, bench), wire)

/-- Runs a computation. Where it fails, the workbench is the one given. -/
def run (bench : Workbench) (x : Client α) (use : α → Result × Workbench) : Step := fun node wire =>
  match x node wire with
  | (.ok a, wire) => ((.done (use a).1, (use a).2), wire)
  | (.error failure, wire) => ((.failed failure, bench), wire)

def ask (bench : Workbench) (x : Client α) (result : α → Result) : Step :=
  bench.run x fun a => (result a, bench)

def withSession (bench : Workbench) (step : Session → Step) : Step :=
  match bench.session with
  | some session => step session
  | none => give (.missing .session) bench

def withContract (bench : Workbench) (step : Contract → Step) : Step :=
  match bench.contract with
  | some contract => step contract
  | none => give (.missing .contract) bench

/-- Takes the authorization away for good. -/
def withAuthorization (bench : Workbench) (step : Authorization → Workbench → Step) : Step :=
  match bench.authorization with
  | some auth => step auth { bench with authorization := none }
  | none => give (.missing .authorization) bench

def transact (bench : Workbench) (call : Contract → Authorization → Client TxHash) : Step :=
  bench.withContract fun contract =>
    bench.withAuthorization fun auth bench => bench.ask (call contract auth) .hash

/-- Without an address the nonce is asked for the key's own account. -/
def authorize (session : Session) (key : String) (address : Option Address) (gasLimit : Nat) :
    Client Authorization := do
  let credential ← Credential.read key
  match address with
  | some address => Authorization.request session credential address gasLimit
  | none => Authorization.forCredential session credential gasLimit

def perform (bench : Workbench) : Operation → Step
  | .openSession config =>
    bench.run (Session.new config) fun session => (.nothing, { bench with session := some session })
  | .connect config =>
    bench.run (Session.connect config) fun session =>
      (.nothing, { bench with session := some session })
  | .showSession => bench.withSession fun session => give (.done (.text session.shown)) bench
  | .chainId => bench.withSession fun session => bench.ask session.chainId .number
  | .gasPrice => bench.withSession fun session => bench.ask session.gasPrice .number
  | .blockNumber => bench.withSession fun session => bench.ask session.blockNumber .number
  | .pendingNonce account =>
    bench.withSession fun session => bench.ask (session.pendingNonce account) .number
  | .receipt hash => bench.withSession fun session => bench.ask (session.receipt hash) .receipt
  | .confirm hash =>
    bench.withSession fun session => bench.ask (session.confirm hash) (.receipt ∘ some)
  | .obtain key address gasLimit =>
    bench.withSession fun session =>
      bench.run (authorize session key address gasLimit) fun auth =>
        (.authorization auth, { bench with authorization := some auth })
  | .stamp request =>
    bench.withAuthorization fun auth bench => give (.done (.request (auth.stamp request))) bench
  | .sign request =>
    bench.withAuthorization fun auth bench =>
      bench.run (auth.sign request) fun envelope =>
        (.envelope envelope, { bench with envelope := some envelope })
  | .send =>
    bench.withSession fun session =>
      match bench.envelope with
      | some envelope => bench.ask (session.send envelope) .hash
      | none => give (.missing .envelope) bench
  | .deploy =>
    bench.withAuthorization fun auth bench =>
      bench.withSession fun session =>
        bench.run (Contract.deploy session auth) fun (contract, deployment) =>
          (.deployment deployment, { bench with contract := some contract })
  | .bind address =>
    bench.withSession fun session =>
      let contract : Contract := ⟨session, address⟩
      give (.done (.contract contract)) { bench with contract := some contract }
  | .name => bench.withContract fun contract => bench.ask contract.name .text
  | .symbol => bench.withContract fun contract => bench.ask contract.symbol .text
  | .decimals => bench.withContract fun contract => bench.ask contract.decimals .number
  | .totalSupply => bench.withContract fun contract => bench.ask contract.totalSupply .word
  | .balanceOf account =>
    bench.withContract fun contract => bench.ask (contract.balanceOf account) .word
  | .allowance owner spender =>
    bench.withContract fun contract => bench.ask (contract.allowance owner spender) .word
  | .balanceAmount account decimals =>
    bench.withContract fun contract => bench.ask (contract.balanceAmount account decimals) .amount
  | .metadata => bench.withContract fun contract => bench.ask contract.metadata .metadata
  | .transfer recipient amount =>
    bench.transact fun contract auth => contract.transfer auth recipient amount
  | .transferFrom owner recipient amount =>
    bench.transact fun contract auth => contract.transferFrom auth owner recipient amount
  | .approve spender amount =>
    bench.transact fun contract auth => contract.approve auth spender amount
  | .increaseAllowance spender added =>
    bench.transact fun contract auth => contract.increaseAllowance auth spender added
  | .decreaseAllowance spender subtracted =>
    bench.transact fun contract auth => contract.decreaseAllowance auth spender subtracted
  | .eventsFrom block =>
    bench.withContract fun contract =>
      let cursor := contract.eventsFrom block
      give (.done (.cursor cursor)) { bench with cursor := some cursor }
  | .restart block =>
    match bench.cursor with
    | some cursor =>
      let cursor := cursor.restart block
      give (.done (.cursor cursor)) { bench with cursor := some cursor }
    | none => give (.missing .cursor) bench
  | .nextBatch =>
    match bench.cursor with
    | none => give (.missing .cursor) bench
    | some cursor => fun node wire =>
      match cursor.nextBatch node wire with
      | (.ok (.ok events, cursor), wire) =>
        ((.done (.events events), { bench with cursor := some cursor }), wire)
      | (.ok (.error failure, cursor), wire) =>
        ((.failed failure, { bench with cursor := some cursor }), wire)
      | (.error failure, wire) => ((.failed failure, bench), wire)

end Workbench
end TokenClient
