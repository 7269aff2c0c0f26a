import TokenClient.Proofs.SessionDialogue
import TokenClient.Token.Cursor

/-! The routes of a token contract: what it tells, the transactions it takes, and its events. -/
namespace TokenClient

/-- The transaction that an authorization makes of a destination and an input. -/
def Authorization.transaction (auth : Authorization) (destination : Destination) (input : Bytes) :
    Transaction where
  nonce := auth.nonce
  gasPrice := auth.gasPrice
  gas := auth.gasLimit
  destination := destination
  value := auth.value
  input := input
  chainId := auth.chainId
  accessList := none

def Authorization.raw (auth : Authorization) (destination : Destination) (input : Bytes) : Bytes :=
  (auth.credential.seal (auth.transaction destination input)).raw

def Session.sendStage (session : Session) (raw : Bytes) (hash : TxHash) : Stage :=
  session.demandStage (.sendRaw raw) Json.hash? hash

@[simp] theorem Session.calls_sendStage (session : Session) (raw : Bytes) (hash : TxHash)
    (rest : Route) : Route.calls (session.sendStage raw hash :: rest) =
      ⟨session.url, .sendRaw raw⟩ :: rest.calls := rfl

namespace Token

instance : Nonempty Deployment := ⟨⟨0, 0, 0⟩⟩

namespace Contract

/-- What a reply says about the outcome of a call. -/
def evaluated (method : Method) (read : Bytes → Except Abi.Fault α) (reply : Reply) :
    Except CallFault α :=
  match reply.understood Json.bytes? with
  | .error fault => .error (.rpc fault)
  | .ok [] => .error (.noData method.label)
  | .ok data => (read data).mapError .abi

theorem evaluated_iff {method : Method} {read : Bytes → Except Abi.Fault α} {reply : Reply}
    {a : α} :
    evaluated method read reply = .ok a ↔
      ∃ data, reply.understood Json.bytes? = .ok data ∧ data ≠ [] ∧ read data = .ok a := by
  unfold evaluated
  cases reply.understood Json.bytes? with
  | error fault => simp
  | ok data =>
    cases data with
    | nil => simp
    | cons byte rest =>
      cases outcome : read (byte :: rest) <;> simp [Except.mapError, outcome]

theorem evaluate_eq (contract : Contract) (sender : Option Address) (method : Method)
    (read : Bytes → Except Abi.Fault α) (node : Node) (wire : Wire) :
    let call : Call := ⟨contract.session.url, .call sender contract.address method.input⟩
    contract.evaluate sender method read node wire =
      (.ok (evaluated method read (node wire.calls call).reply), wire.after node call) := by
  intro call
  simp only [evaluate, bind, Client.bind, Session.query_eq, evaluated]
  cases (node wire.calls call).reply.understood Json.bytes? with
  | error fault => rfl
  | ok data => cases data <;> rfl

def viewed (method : Method) (read : Bytes → Except Abi.Fault α) (reply : Reply) :
    Except Failure α := (evaluated method read reply).mapError CallFault.failure

theorem viewed_iff {method : Method} {read : Bytes → Except Abi.Fault α} {reply : Reply} {a : α} :
    viewed method read reply = .ok a ↔ evaluated method read reply = .ok a := by
  unfold viewed
  cases evaluated method read reply <;> simp [Except.mapError]

def viewStage (contract : Contract) (method : Method) (read : Bytes → Except Abi.Fault α)
    (answer : α) : Stage :=
  .ask ⟨contract.session.url, .call none contract.address method.input⟩ (viewed method read) answer

@[simp] theorem calls_viewStage (contract : Contract) (method : Method)
    (read : Bytes → Except Abi.Fault α) (answer : α) (rest : Route) :
    Route.calls (contract.viewStage method read answer :: rest) =
      ⟨contract.session.url, .call none contract.address method.input⟩ :: rest.calls := rfl

theorem view_eq (contract : Contract) (method : Method) (read : Bytes → Except Abi.Fault α)
    (node : Node) (wire : Wire) :
    let call : Call := ⟨contract.session.url, .call none contract.address method.input⟩
    contract.view method read node wire =
      (viewed method read (node wire.calls call).reply, wire.after node call) := by
  intro call
  simp only [view, bind, Client.bind, evaluate_eq, viewed, call]
  cases evaluated method read (node wire.calls _).reply <;> rfl

theorem view_follows [Nonempty α] (contract : Contract) (method : Method)
    (read : Bytes → Except Abi.Fault α) :
    (contract.view method read).Follows (fun a => [contract.viewStage method read a]) id :=
  Client.follows_ask fun node wire => by
    rw [view_eq]
    cases viewed method read (node wire.calls _).reply <;> rfl

def metadataRoute (contract : Contract) (metadata : Metadata) : Route :=
  [contract.viewStage .name Abi.text metadata.name,
    contract.viewStage .symbol Abi.text metadata.symbol,
    contract.viewStage .decimals Abi.small metadata.decimals]

theorem metadata_follows (contract : Contract) :
    contract.metadata.Follows contract.metadataRoute id :=
  Client.follows_reindex
    (Client.follows_bind (contract.view_follows .name Abi.text) fun _ =>
      Client.follows_bind (contract.view_follows .symbol Abi.text) fun _ =>
      Client.follows_bind (contract.view_follows .decimals Abi.small) fun _ =>
      Client.follows_pure _)
    (fun p => ⟨p.1, p.2.1, p.2.2.1⟩) (fun _ => rfl) fun _ => rfl

theorem balanceAmount_follows (contract : Contract) (account : Address) (decimals : Nat) :
    (contract.balanceAmount account decimals).Follows
      (fun balance => [contract.viewStage (.balanceOf account) Abi.word balance])
      fun balance => ⟨balance, decimals⟩ :=
  Client.follows_reindex
    (Client.follows_bind (contract.view_follows (.balanceOf account) Abi.word) fun _ =>
      Client.follows_pure _)
    Prod.fst (fun _ => rfl) fun _ => rfl

/-- The reply to a call that is only tried: it must be true. -/
def rehearsed (method : Method) (reply : Reply) : Except Failure Unit :=
  match evaluated method Abi.flag reply with
  | .ok true => .ok ()
  | .ok false => .error (.contractCall (method.label ++ " returned false"))
  | .error (.rpc (.refused refusal)) =>
    .error (.contractCall (method.label ++ " would revert: " ++ refusal.message))
  | .error fault => .error fault.failure

def rehearsalStage (contract : Contract) (sender : Address) (method : Method) : Stage :=
  .ask ⟨contract.session.url, .call (some sender) contract.address method.input⟩
    (rehearsed method) ()

theorem rehearsed_iff {method : Method} {reply : Reply} :
    rehearsed method reply = .ok () ↔ evaluated method Abi.flag reply = .ok true := by
  unfold rehearsed
  rcases evaluated method Abi.flag reply with ((_ | _ | _ | _) | _ | _) | _ | _ <;> simp

@[simp] theorem calls_rehearsalStage (contract : Contract) (sender : Address) (method : Method)
    (rest : Route) : Route.calls (contract.rehearsalStage sender method :: rest) =
      ⟨contract.session.url, .call (some sender) contract.address method.input⟩ :: rest.calls := rfl

theorem rehearse_follows (contract : Contract) (sender : Address) (method : Method) :
    (contract.rehearse sender method).Follows
      (fun _ : Unit => [contract.rehearsalStage sender method]) id :=
  Client.follows_ask fun node wire => by
    simp only [rehearse, bind, Client.bind, evaluate_eq, rehearsed]
    generalize evaluated method Abi.flag (node wire.calls _).reply = outcome
    rcases outcome with ((_ | _ | _ | _) | _ | _) | _ | _ <;> rfl

def transactRoute (contract : Contract) (auth : Authorization) (method : Method) (hash : TxHash) :
    Route :=
  [contract.rehearsalStage auth.sender method,
    contract.session.sendStage (auth.raw (.account contract.address) method.input) hash]

theorem transact_follows (contract : Contract) (auth : Authorization) (method : Method) :
    (contract.transact auth method).Follows (contract.transactRoute auth method) id :=
  Client.follows_reindex
    (Client.follows_bind (contract.rehearse_follows auth.sender method) fun _ =>
      contract.session.demand_follows (.sendRaw (auth.raw (.account contract.address) method.input))
        Json.hash?)
    Prod.snd (fun _ => rfl) fun _ => rfl

def deployRoute (session : Session) (auth : Authorization) (hash : TxHash) : Route :=
  [session.sendStage (auth.raw .creation Token.code) hash]

theorem deploy_eq (session : Session) (auth : Authorization) (node : Node) (wire : Wire) :
    let call : Call := ⟨session.url, .sendRaw (auth.raw .creation Token.code)⟩
    deploy session auth node wire =
      ((Session.demanded Json.hash? (node wire.calls call).reply).map fun hash =>
          (⟨session, auth.sender.created auth.nonce⟩,
            ⟨auth.sender.created auth.nonce, auth.sender, hash⟩),
        wire.after node call) := by
  intro call
  have sends : deploy session auth = (do
      let hash ← session.demand (.sendRaw (auth.raw .creation Token.code)) Json.hash?
      let address := auth.sender.created auth.nonce
      return (⟨session, address⟩, ⟨address, auth.sender, hash⟩)) := rfl
  rw [sends]
  simp only [bind, Client.bind, Session.demand_eq]
  cases Session.demanded Json.hash? (node wire.calls _).reply <;> rfl

theorem deploy_follows (session : Session) (auth : Authorization) :
    (deploy session auth).Follows (deployRoute session auth) fun hash =>
      let address := auth.sender.created auth.nonce
      (⟨session, address⟩, ⟨address, auth.sender, hash⟩) :=
  Client.follows_ask (deploy_eq session auth)

end Contract
namespace Cursor

def fetched (reply : Reply) : Except Failure (List Event) :=
  match Session.demanded entries? reply with
  | .error failure => .error failure
  | .ok entries => (Event.decodeAll entries).mapError EventFault.failure

theorem fetched_of_untold {reply : Reply} {fault : RpcFault}
    (untold : reply.understood entries? = .error fault) :
    fetched reply = .error (.rpc fault.message) := by
  simp only [fetched, Session.demanded, untold, Except.mapError]

theorem fetched_of_told {reply : Reply} {entries : List LogEntry}
    (told : reply.understood entries? = .ok entries) :
    fetched reply = (Event.decodeAll entries).mapError EventFault.failure := by
  simp only [fetched, Session.demanded_iff.mpr told]

/-- The cursor once it has seen the head. -/
def seeing (cursor : Cursor) (head : Nat) : Cursor := { cursor with lastHead := some head }

def past (cursor : Cursor) (head : Nat) : Cursor :=
  { cursor.seeing head with position := head + 1 }

def logsCall (cursor : Cursor) (head : Nat) : Call :=
  ⟨cursor.session.url, .logs cursor.address cursor.position head⟩

theorem fetch_eq (cursor : Cursor) (head : Nat) (node : Node) (wire : Wire) :
    cursor.fetch head node wire =
      (fetched (node wire.calls (cursor.logsCall head)).reply,
        wire.after node (cursor.logsCall head)) := by
  simp only [fetch, bind, Client.bind, Session.demand_eq, fetched, logsCall]
  cases Session.demanded entries? (node wire.calls _).reply with
  | error failure => rfl
  | ok entries => cases decoded : Event.decodeAll entries <;> simp only [decoded] <;> rfl

def headCall (cursor : Cursor) : Call := ⟨cursor.session.url, .blockNumber⟩

theorem nextBatch_eq (cursor : Cursor) (node : Node) (wire : Wire) :
    cursor.nextBatch node wire =
      match Session.demanded (Json.quantity? 64) (node wire.calls cursor.headCall).reply with
      | .error failure => (.ok (.error failure, cursor), wire.after node cursor.headCall)
      | .ok head =>
        let asked := wire.after node cursor.headCall
        if head < cursor.position then (.ok (.ok [], cursor.seeing head), asked)
        else
          let done := asked.after node (cursor.logsCall head)
          match fetched (node asked.calls (cursor.logsCall head)).reply with
          | .error failure => (.ok (.error failure, cursor.seeing head), done)
          | .ok events => (.ok (.ok events, cursor.past head), done) := by
  simp only [nextBatch, bind, Client.bind, Client.attempt, Session.blockNumber, Session.demand_eq,
    headCall]
  cases Session.demanded (Json.quantity? 64) (node wire.calls _).reply with
  | error failure => rfl
  | ok head =>
    by_cases behind : head < cursor.position
    · simp only [behind, ↓reduceIte]; rfl
    · simp only [behind, ↓reduceIte, Client.bind, Client.attempt, fetch_eq]
      cases fetched (node _ (cursor.logsCall head)).reply <;> rfl

/-- Without a block to ask about, a batch is over after the head is known. -/
def batchRoute (cursor : Cursor) (head : Nat) (events : List Event) : Route :=
  cursor.session.demandStage .blockNumber (Json.quantity? 64) head ::
    if head < cursor.position then [] else [.ask (cursor.logsCall head) fetched events]

def handedOut (cursor : Cursor) (head : Nat) (events : List Event) : List Event :=
  if head < cursor.position then [] else events

def advanced (cursor : Cursor) (head : Nat) : Cursor :=
  if head < cursor.position then cursor.seeing head else cursor.past head

theorem fetch_follows (cursor : Cursor) (head : Nat) :
    (cursor.fetch head).Follows (fun events => [.ask (cursor.logsCall head) fetched events]) id :=
  Client.follows_ask fun node wire => by
    rw [fetch_eq]
    cases fetched (node wire.calls (cursor.logsCall head)).reply <;> rfl

theorem batch_follows (cursor : Cursor) (use : List Event → Cursor → α) :
    (do let (batch, next) ← cursor.nextBatch
        let events ← batch
        return use events next : Client α).Follows
      (fun p : Nat × List Event => cursor.batchRoute p.1 p.2)
      fun p => use (cursor.handedOut p.1 p.2) (cursor.advanced p.1) := by
  have inOrder : (do
      let (batch, next) ← cursor.nextBatch
      let events ← batch
      return use events next : Client α) = (do
      let head ← cursor.session.blockNumber
      if head < cursor.position then return use [] (cursor.seeing head)
      else
        let events ← cursor.fetch head
        return use events (cursor.past head)) := by
    funext node wire
    simp only [bind, Client.bind, nextBatch_eq, Session.blockNumber, Session.demand_eq, headCall]
    cases Session.demanded (Json.quantity? 64) (node wire.calls _).reply with
    | error failure => rfl
    | ok head =>
      by_cases behind : head < cursor.position
      · simp only [behind, ↓reduceIte]; rfl
      · simp only [behind, ↓reduceIte, Client.bind, fetch_eq]
        cases fetched (node _ (cursor.logsCall head)).reply <;> rfl
  rw [inOrder]
  have goesOn (head : Nat) : Client.Follows
      (if head < cursor.position then return use [] (cursor.seeing head)
        else do
          let events ← cursor.fetch head
          return use events (cursor.past head))
      (fun events : List Event =>
        if head < cursor.position then [] else [.ask (cursor.logsCall head) fetched events])
      fun events => use (cursor.handedOut head events) (cursor.advanced head) := by
    unfold handedOut advanced
    by_cases behind : head < cursor.position
    · simp only [behind, ↓reduceIte]
      exact Client.follows_reindex (Client.follows_pure _) (fun _ => []) (fun _ => rfl) fun _ => rfl
    · simp only [behind, ↓reduceIte]
      exact Client.follows_reindex
        (Client.follows_bind (cursor.fetch_follows head) fun _ => Client.follows_pure _)
        Prod.fst (fun _ => rfl) fun _ => rfl
  exact Client.follows_reindex (Client.follows_bind (cursor.session.demand_follows _ _) goesOn) id
    (fun _ => rfl) fun _ => rfl

end Cursor
end Token
end TokenClient
