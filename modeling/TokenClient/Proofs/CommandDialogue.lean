import TokenClient.Proofs.TokenDialogue
import TokenClient.Command.Run

/-! The route of every command: the readings of its arguments and its requests, in order. A run of
a command ends somewhere along that route. -/
namespace TokenClient

open Token

instance : Nonempty Contract := ⟨⟨Classical.choice inferInstance, 0⟩⟩

instance : Nonempty Credential := ⟨⟨1, by decide, by decide⟩⟩

instance : Nonempty Metadata := ⟨⟨"", "", 0⟩⟩

instance : Nonempty Amount := ⟨⟨0, 0⟩⟩

/-- All that commands read and hear on their ways. Each command fills in a part of it. -/
structure Findings where
  settings : Settings
  session : Session
  chain : Nat
  contract : Contract
  signer : Credential
  /-- The account whose tokens or balance are meant. -/
  holder : Address
  /-- The account that is to get tokens or an allowance. -/
  partner : Address
  metadata : Metadata
  amount : Amount
  terms : Authorization.Terms
  hash : TxHash
  wait : Session.Wait
  word : Word
  before : Word × Word
  after : Word × Word
  head : Nat
  events : List Event
  receipt : Option Receipt

noncomputable instance : Inhabited Findings :=
  ⟨{ settings := {}, session := Classical.choice inferInstance, chain := 0,
     contract := Classical.choice inferInstance, signer := Classical.choice inferInstance,
     holder := 0, partner := 0, metadata := Classical.choice inferInstance,
     amount := Classical.choice inferInstance, terms := Classical.choice inferInstance, hash := 0,
     wait := Classical.choice inferInstance, word := 0, before := (0, 0), after := (0, 0),
     head := 0, events := [], receipt := none }⟩

namespace Findings

def auth (f : Findings) (s : Settings) : Authorization :=
  ⟨f.signer, f.terms.nonce, s.gasLimit, f.terms.gasPrice, f.terms.chainId⟩

/-- A rehearsed transaction, from the terms of its authorization to its receipt. -/
def dispatch (f : Findings) (s : Settings) (session : Session) (method : Method) : Route :=
  Authorization.termsRoute session f.signer.address f.terms ++
    (f.contract.transactRoute (f.auth s) method f.hash ++ session.confirmRoute f.hash f.wait)

def balances (f : Findings) (found : Word × Word) : Route :=
  [f.contract.viewStage (.balanceOf f.signer.address) Abi.word found.1,
    f.contract.viewStage (.balanceOf f.partner) Abi.word found.2]

def decimalsStage (f : Findings) : Stage :=
  f.contract.viewStage .decimals Abi.small f.metadata.decimals

end Findings

/-- A transfer of approved tokens, before what is left of the allowance is asked for. -/
def Command.movingErrand (s : Settings) (session : Session) (f : Findings)
    (contract key owner recipient amount : String) : Route :=
  [.read (Action.contractAt session contract) f.contract, .read (Credential.read key) f.signer,
      .read (Account.resolve owner) f.holder, .read (Account.resolveRecipient recipient) f.partner,
      f.decimalsStage, .read (Action.parseAmount amount f.metadata.decimals) f.amount] ++
    f.dispatch s session (.transferFrom f.holder f.partner f.amount.raw)

def Command.errand (s : Settings) (session : Session) (f : Findings) : Command → Route
  | .deploy key =>
    .read (Credential.read key) f.signer ::
      (Authorization.termsRoute session f.signer.address f.terms ++
        (Contract.deployRoute session (f.auth s) f.hash ++ session.confirmRoute f.hash f.wait))
  | .queryTransfer contract key receiver amount =>
    [.read (Action.contractAt session contract) f.contract, .read (Credential.read key) f.signer,
        .read (Account.resolveRecipient receiver) f.partner] ++
      f.contract.metadataRoute f.metadata ++
      .read (Action.parseAmount (amount.getD s.transferAmount) f.metadata.decimals) f.amount ::
      (f.balances f.before ++ f.dispatch s session (.transfer f.partner f.amount.raw) ++
        f.balances f.after)
  | .info contract =>
    .read (Action.contractAt session contract) f.contract :: f.contract.metadataRoute f.metadata ++
      [f.contract.viewStage .totalSupply Abi.word f.word]
  | .balance contract account =>
    [.read (Action.contractAt session contract) f.contract,
        .read (Account.resolve account) f.holder] ++ f.contract.metadataRoute f.metadata ++
      [f.contract.viewStage (.balanceOf f.holder) Abi.word f.word]
  | .allowance contract owner spender =>
    [.read (Action.contractAt session contract) f.contract,
      .read (Account.resolve owner) f.holder, .read (Account.resolve spender) f.partner,
      f.decimalsStage, f.contract.viewStage (.allowance f.holder f.partner) Abi.word f.word]
  | .approve contract key spender amount =>
    [.read (Action.contractAt session contract) f.contract, .read (Credential.read key) f.signer,
        .read (Account.resolveRecipient spender) f.partner, f.decimalsStage,
        .read (Action.parseAmount amount f.metadata.decimals) f.amount] ++
      f.dispatch s session (.approve f.partner f.amount.raw)
  | .transferFrom contract key owner recipient amount =>
    Command.movingErrand s session f contract key owner recipient amount ++
      [f.contract.viewStage (.allowance f.holder f.signer.address) Abi.word f.word]
  | .events contract fromBlock =>
    [.read (Action.contractAt session contract) f.contract, f.decimalsStage] ++
      (f.contract.eventsFrom fromBlock).batchRoute f.head f.events
  | .transactionStatus text =>
    [.read (Action.parseHash text) f.hash,
      session.demandStage (.receipt f.hash) Receipt.answer? f.receipt]
  | .initSettings _ | .showSettings => []

namespace Action

theorem deploy_follows (s : Settings) (session : Session) (key : String) :
    (deploy s session key).Follows (fun f => (Command.deploy key).errand s session f) fun f =>
      ⟨⟨f.signer.address.created f.terms.nonce, f.signer.address, f.hash⟩, f.wait.receipt.block⟩ :=
  Client.follows_reindex
    (Client.follows_bind (Client.follows_read (Credential.read key)) fun signer =>
      Client.follows_bind (Authorization.request_follows session signer signer.address s.gasLimit)
        fun _ =>
      Client.follows_bind (Contract.deploy_follows session _) fun hash =>
      Client.follows_bind (session.confirm_follows hash) fun _ => Client.follows_pure _)
    (fun p => { (default : Findings) with
      signer := p.1, terms := p.2.1, hash := p.2.2.1, wait := p.2.2.2.1 })
    (fun p => by simp [Command.errand, Findings.auth]) fun _ => rfl

theorem queryTransfer_follows (s : Settings) (session : Session) (contract key receiver : String)
    (amount : Option String) :
    (queryTransfer s session contract key receiver amount).Follows
      (fun f => (Command.queryTransfer contract key receiver amount).errand s session f) fun f =>
        { metadata := f.metadata, amount := f.amount, hash := f.hash
          deployerBefore := ⟨f.before.1, f.metadata.decimals⟩
          receiverBefore := ⟨f.before.2, f.metadata.decimals⟩
          deployerAfter := ⟨f.after.1, f.metadata.decimals⟩
          receiverAfter := ⟨f.after.2, f.metadata.decimals⟩ } :=
  Client.follows_reindex
    (Client.follows_bind (Client.follows_read (contractAt session contract)) fun contract =>
      Client.follows_bind (Client.follows_read (Credential.read key)) fun signer =>
      Client.follows_bind (Client.follows_read (Account.resolveRecipient receiver)) fun receiver =>
      Client.follows_bind contract.metadata_follows fun metadata =>
      Client.follows_bind
        (Client.follows_read (parseAmount (amount.getD s.transferAmount) metadata.decimals))
        fun _ =>
      Client.follows_bind (contract.balanceAmount_follows signer.address metadata.decimals) fun _ =>
      Client.follows_bind (contract.balanceAmount_follows receiver metadata.decimals) fun _ =>
      Client.follows_bind (Authorization.request_follows session signer signer.address s.gasLimit)
        fun _ =>
      Client.follows_bind (contract.transact_follows _ _) fun hash =>
      Client.follows_bind (session.confirm_follows hash) fun _ =>
      Client.follows_bind (contract.balanceAmount_follows signer.address metadata.decimals) fun _ =>
      Client.follows_bind (contract.balanceAmount_follows receiver metadata.decimals) fun _ =>
      Client.follows_pure _)
    (fun ⟨contract, signer, partner, metadata, amount, deployerBefore, receiverBefore, terms, hash,
        wait, deployerAfter, receiverAfter, _⟩ =>
      { (default : Findings) with
        contract, signer, partner, metadata, amount, terms, hash, wait
        before := (deployerBefore, receiverBefore), after := (deployerAfter, receiverAfter) })
    (fun p => by simp [Command.errand, Findings.dispatch, Findings.balances, Findings.auth])
    fun _ => rfl

theorem info_follows (session : Session) (contract : String) (s : Settings) :
    (info session contract).Follows (fun f => (Command.info contract).errand s session f) fun f =>
      Report.infoLines f.contract.address f.metadata ⟨f.word, f.metadata.decimals⟩ :=
  Client.follows_reindex
    (Client.follows_bind (Client.follows_read (contractAt session contract)) fun contract =>
      Client.follows_bind contract.metadata_follows fun _ =>
      Client.follows_bind (contract.view_follows .totalSupply Abi.word) fun _ =>
      Client.follows_pure _)
    (fun ⟨contract, metadata, word, _⟩ =>
      { (default : Findings) with contract, metadata, word })
    (fun _ => rfl) fun _ => rfl

theorem balance_follows (session : Session) (contract account : String) (s : Settings) :
    (balance session contract account).Follows
      (fun f => (Command.balance contract account).errand s session f) fun f =>
        Report.balanceLines f.holder ⟨f.word, f.metadata.decimals⟩ f.metadata.symbol :=
  Client.follows_reindex
    (Client.follows_bind (Client.follows_read (contractAt session contract)) fun contract =>
      Client.follows_bind (Client.follows_read (Account.resolve account)) fun account =>
      Client.follows_bind contract.metadata_follows fun metadata =>
      Client.follows_bind (contract.balanceAmount_follows account metadata.decimals) fun _ =>
      Client.follows_pure _)
    (fun ⟨contract, holder, metadata, word, _⟩ =>
      { (default : Findings) with contract, holder, metadata, word })
    (fun _ => rfl) fun _ => rfl

theorem allowance_follows (session : Session) (contract owner spender : String) (s : Settings) :
    (allowance session contract owner spender).Follows
      (fun f => (Command.allowance contract owner spender).errand s session f) fun f =>
        Report.allowanceLines f.holder f.partner ⟨f.word, f.metadata.decimals⟩ :=
  Client.follows_reindex
    (Client.follows_bind (Client.follows_read (contractAt session contract)) fun contract =>
      Client.follows_bind (Client.follows_read (Account.resolve owner)) fun owner =>
      Client.follows_bind (Client.follows_read (Account.resolve spender)) fun spender =>
      Client.follows_bind (contract.view_follows .decimals Abi.small) fun _ =>
      Client.follows_bind (contract.view_follows (.allowance owner spender) Abi.word) fun _ =>
      Client.follows_pure _)
    (fun ⟨contract, holder, partner, decimals, word, _⟩ =>
      { (default : Findings) with
        contract, holder, partner, word, metadata := { name := "", symbol := "", decimals } })
    (fun _ => rfl) fun _ => rfl

theorem approve_follows (s : Settings) (session : Session) (contract key spender amount : String) :
    (approve s session contract key spender amount).Follows
      (fun f => (Command.approve contract key spender amount).errand s session f) fun f =>
        Report.approvalLines f.signer.address f.partner f.amount f.hash :=
  Client.follows_reindex
    (Client.follows_bind (Client.follows_read (contractAt session contract)) fun contract =>
      Client.follows_bind (Client.follows_read (Credential.read key)) fun signer =>
      Client.follows_bind (Client.follows_read (Account.resolveRecipient spender)) fun _ =>
      Client.follows_bind (contract.view_follows .decimals Abi.small) fun decimals =>
      Client.follows_bind (Client.follows_read (parseAmount amount decimals)) fun _ =>
      Client.follows_bind (Authorization.request_follows session signer signer.address s.gasLimit)
        fun _ =>
      Client.follows_bind (contract.transact_follows _ _) fun hash =>
      Client.follows_bind (session.confirm_follows hash) fun _ => Client.follows_pure _)
    (fun ⟨contract, signer, partner, decimals, amount, terms, hash, wait, _⟩ =>
      { (default : Findings) with
        contract, signer, partner, amount, terms, hash, wait
        metadata := { name := "", symbol := "", decimals } })
    (fun p => by
      simp [Command.errand, Findings.dispatch, Findings.decimalsStage, Findings.auth])
    fun _ => rfl

theorem transferFrom_follows (s : Settings) (session : Session)
    (contract key owner recipient amount : String) :
    (transferFrom s session contract key owner recipient amount).Follows
      (fun f => Command.movingErrand s session f contract key owner recipient amount) fun f =>
        { contract := f.contract, owner := f.holder, recipient := f.partner
          spender := f.signer.address, amount := f.amount, hash := f.hash } :=
  Client.follows_reindex
    (Client.follows_bind (Client.follows_read (contractAt session contract)) fun contract =>
      Client.follows_bind (Client.follows_read (Credential.read key)) fun signer =>
      Client.follows_bind (Client.follows_read (Account.resolve owner)) fun _ =>
      Client.follows_bind (Client.follows_read (Account.resolveRecipient recipient)) fun _ =>
      Client.follows_bind (contract.view_follows .decimals Abi.small) fun decimals =>
      Client.follows_bind (Client.follows_read (parseAmount amount decimals)) fun _ =>
      Client.follows_bind (Authorization.request_follows session signer signer.address s.gasLimit)
        fun _ =>
      Client.follows_bind (contract.transact_follows _ _) fun hash =>
      Client.follows_bind (session.confirm_follows hash) fun _ => Client.follows_pure _)
    (fun ⟨contract, signer, holder, partner, decimals, amount, terms, hash, wait, _⟩ =>
      { (default : Findings) with
        contract, signer, holder, partner, amount, terms, hash, wait
        metadata := { name := "", symbol := "", decimals } })
    (fun p => by
      simp [Command.movingErrand, Findings.dispatch, Findings.decimalsStage, Findings.auth])
    fun _ => rfl

theorem events_follows (session : Session) (contract : String) (fromBlock : Nat) (s : Settings) :
    (events session contract fromBlock).Follows
      (fun f => (Command.events contract fromBlock).errand s session f) fun f =>
        let cursor := f.contract.eventsFrom fromBlock
        Report.eventsLines (cursor.handedOut f.head f.events) f.metadata.decimals fromBlock
          ((cursor.advanced f.head).lastHead.getD fromBlock) :=
  Client.follows_reindex
    (Client.follows_bind (Client.follows_read (contractAt session contract)) fun contract =>
      Client.follows_bind (contract.view_follows .decimals Abi.small) fun decimals =>
      (contract.eventsFrom fromBlock).batch_follows fun events cursor =>
        Report.eventsLines events decimals fromBlock (cursor.lastHead.getD fromBlock))
    (fun ⟨contract, decimals, head, events⟩ =>
      { (default : Findings) with
        contract, head, events, metadata := { name := "", symbol := "", decimals } })
    (fun _ => rfl) fun _ => rfl

theorem transactionStatus_follows (session : Session) (text : String) (s : Settings) :
    (transactionStatus session text).Follows
      (fun f => (Command.transactionStatus text).errand s session f) fun f =>
        Report.statusLines f.hash f.receipt :=
  Client.follows_reindex
    (Client.follows_bind (Client.follows_read (parseHash text)) fun hash =>
      Client.follows_bind (session.demand_follows (.receipt hash) Receipt.answer?) fun _ =>
      Client.follows_pure _)
    (fun ⟨hash, receipt, _⟩ => { (default : Findings) with hash, receipt })
    (fun _ => rfl) fun _ => rfl

end Action

namespace Command

def route (s : Settings) (f : Findings) (command : Command) : Route :=
  Session.connectRoute s.session f.session f.chain ++ command.errand s f.session f

def isOnline : Command → Bool
  | .initSettings _ | .showSettings => false
  | _ => true

theorem report_follows {x : Client α} {route : Findings → Route} {result : Findings → α}
    (follows : x.Follows route result) (lines : α → List String) :
    (do Shell.print (lines (← x)) : Shell Unit).Follows route fun _ => () :=
  Shell.follows_reindex
    (Shell.follows_bind (Shell.follows_talk follows) fun _ => Shell.follows_print _)
    Prod.fst (fun _ => List.append_nil _) fun _ => rfl

theorem carryOut_follows (s : Settings) (session : Session) (command : Command) :
    (command.carryOut s session).Follows (fun f => command.errand s session f) fun _ => () := by
  cases command with
  | deploy key => exact report_follows (Action.deploy_follows s session key) DeployReport.lines
  | queryTransfer contract key receiver amount =>
    exact report_follows (Action.queryTransfer_follows s session contract key receiver amount)
      TransferReport.lines
  | info contract => exact report_follows (Action.info_follows session contract s) id
  | balance contract account =>
    exact report_follows (Action.balance_follows session contract account s) id
  | allowance contract owner spender =>
    exact report_follows (Action.allowance_follows session contract owner spender s) id
  | approve contract key spender amount =>
    exact report_follows (Action.approve_follows s session contract key spender amount) id
  | transferFrom contract key owner recipient amount =>
    exact Shell.follows_reindex
      (Shell.follows_bind
        (Shell.follows_talk
          (Action.transferFrom_follows s session contract key owner recipient amount)) fun f =>
        Shell.follows_bind (Shell.follows_print _) fun _ =>
        Shell.follows_bind (Shell.follows_talk (f.contract.view_follows _ Abi.word)) fun _ =>
        Shell.follows_print _)
      (fun ⟨f, _, word, _⟩ => { f with word }) (fun _ => rfl) fun _ => rfl
  | events contract fromBlock =>
    exact report_follows (Action.events_follows session contract fromBlock s) id
  | transactionStatus text =>
    exact report_follows (Action.transactionStatus_follows session text s) id
  | initSettings force | showSettings =>
    exact Shell.follows_reindex (Shell.follows_pure ()) (fun _ => default) (fun _ => rfl)
      fun _ => rfl

theorem online_follows (s : Settings) (command : Command) :
    (command.online s).Follows (fun f => command.route s f) fun _ => () :=
  Shell.follows_reindex
    (Shell.follows_bind (Shell.follows_talk (Session.connect_follows s.session)) fun p =>
      command.carryOut_follows s p.1)
    (fun ⟨⟨session, chain⟩, f⟩ => { f with session, chain }) (fun _ => by cases command <;> rfl)
    fun _ => rfl

end Command

namespace Shell

def Silent (x : Shell α) : Prop := ∀ node desk, (x node desk).2.wire = desk.wire

theorem silent_bind {x : Shell α} {f : α → Shell β} (first : x.Silent)
    (second : ∀ a, (f a).Silent) : (x >>= f).Silent := by
  intro node desk
  change (Shell.bind x f node desk).2.wire = desk.wire
  have kept := first node desk
  rw [Shell.bind]
  rcases ran : x node desk with ⟨failure | a, middle⟩
  · rw [ran] at kept
    exact kept
  · rw [ran] at kept
    exact (second a node middle).trans kept

theorem silent_read (reading : Except Failure α) : (liftM reading : Shell α).Silent :=
  fun _ _ => rfl

theorem silent_throw (failure : Failure) : (throw failure : Shell α).Silent := fun _ _ => rfl

theorem silent_files : files.Silent := fun _ _ => rfl

theorem silent_store (change : Storage → Except Failure α × Storage) : (store change).Silent :=
  fun _ _ => rfl

theorem silent_print (lines : List String) : (print lines).Silent := fun _ _ => rfl

end Shell

namespace Invocation

/-- A run in which nothing has been asked or printed before. -/
def perform (i : Invocation) (home : String) (files : Storage) (node : Node) :
    Except Failure Unit × Desk := i.run home node ⟨.idle, files, []⟩

def outcome (i : Invocation) (home : String) (files : Storage) (node : Node) :
    Except Failure Unit := (i.perform home files node).1

def transcript (i : Invocation) (home : String) (files : Storage) (node : Node) : List Exchange :=
  node.exchanges [] (i.perform home files node).2.wire.calls

def route (i : Invocation) (home : String) (files : Storage) (f : Findings) : Route :=
  .read (i.settings home files) f.settings :: i.command.route f.settings f

theorem perform_of_online {i : Invocation} (home : String) (files : Storage) (node : Node)
    (online : i.command.isOnline) :
    i.perform home files node = match i.settings home files with
      | .error failure => (.error failure, ⟨.idle, files, []⟩)
      | .ok s => i.command.online s node ⟨.idle, files, []⟩ := by
  unfold perform run
  cases asked : i.command with
  | initSettings | showSettings => simp [asked, Command.isOnline] at online
  | _ =>
    simp only [bind, Shell.bind, Shell.files]
    cases i.settings home files <;> rfl

theorem run_ends (i : Invocation) (home : String) (files : Storage) (node : Node)
    (online : i.command.isOnline) :
    Ends (i.route home files) (fun _ => ()) (i.transcript home files node)
      (i.outcome home files node) := by
  unfold transcript outcome
  rw [perform_of_online home files node online]
  cases settled : i.settings home files with
  | error failure => exact .error default (.unreadable settled)
  | ok s =>
    obtain ⟨made, calls, ends⟩ := i.command.online_follows s node ⟨.idle, files, []⟩
    dsimp only at calls ends ⊢
    rw [calls]
    exact ends.map (fun f => { f with settings := s }) (fun f _ walk => .readOn settled walk)
      fun _ => rfl

theorem initSettings_silent (i : Invocation) (home : String) (force : Bool) :
    (i.initSettings home force).Silent := by
  unfold initSettings
  refine Shell.silent_bind Shell.silent_files fun files => ?_
  have writes : Shell.Silent (do
      let s ← i.settings home files
      Shell.store fun files => s.save files (i.settingsPath home)
      Shell.print ["Wrote " ++ i.settingsPath home]) :=
    Shell.silent_bind (Shell.silent_read _) fun _ =>
      Shell.silent_bind (Shell.silent_store _) fun _ => Shell.silent_print _
  by_cases kept : files.isThere (i.settingsPath home) ∧ ¬ force
  · simp only [kept]
    exact Shell.silent_bind (Shell.silent_throw _) fun _ => writes
  · simp only [kept]
    exact writes

theorem showSettings_silent (i : Invocation) (home : String) : (i.showSettings home).Silent :=
  Shell.silent_bind Shell.silent_files fun _ =>
    Shell.silent_bind (Shell.silent_read _) fun _ =>
    Shell.silent_bind (Shell.silent_read _) fun _ => Shell.silent_print _

theorem transcript_of_offline (i : Invocation) (home : String) (files : Storage) (node : Node)
    (offline : i.command.isOnline = false) : i.transcript home files node = [] := by
  have silent : (i.run home).Silent := by
    unfold run
    cases asked : i.command with
    | initSettings force => exact i.initSettings_silent home force
    | showSettings => exact i.showSettings_silent home
    | _ => simp [asked, Command.isOnline] at offline
  unfold transcript perform
  rw [silent]
  rfl

end Invocation
end TokenClient
