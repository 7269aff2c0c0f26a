import TokenClient.Proofs.Dialogue
import TokenClient.Session.Confirmation
import TokenClient.Authorization

/-! The routes of a session: the handshake, single requests, the terms of an authorization, and
the wait for a receipt. -/
namespace TokenClient

instance : Nonempty Session := ⟨⟨{}, ""⟩⟩

instance : Nonempty Receipt := ⟨⟨0, true, none, 0, none⟩⟩

/-- What a reply says where its result is understood. -/
def Reply.understood (reply : Reply) (read? : Json → Option α) : Except RpcFault α :=
  match reply.read with
  | .error fault => .error fault
  | .ok value =>
    match read? value with
    | some a => .ok a
    | none => .error .malformed

theorem understood_iff {reply : Reply} {read? : Json → Option α} {a : α} :
    reply.understood read? = .ok a ↔ ∃ value, reply.read = .ok value ∧ read? value = some a := by
  unfold Reply.understood
  cases reply.read with
  | error fault => simp
  | ok value => cases read : read? value <;> simp [read]

namespace Session

def demanded (read? : Json → Option α) (reply : Reply) : Except Failure α :=
  (reply.understood read?).mapError fun fault => .rpc fault.message

@[simp] theorem demanded_iff {reply : Reply} {read? : Json → Option α} {a : α} :
    demanded read? reply = .ok a ↔ reply.understood read? = .ok a := by
  unfold demanded
  cases reply.understood read? <;> simp [Except.mapError]

/-- A query never fails; it makes one call and hands on what the reply says. -/
theorem query_eq (session : Session) (request : Request) (read? : Json → Option α) (node : Node)
    (wire : Wire) :
    session.query request read? node wire =
      (.ok ((node wire.calls ⟨session.url, request⟩).reply.understood read?),
        wire.after node ⟨session.url, request⟩) := by
  simp only [query, bind, Client.bind, Client.ask, Reply.understood]
  cases (node wire.calls ⟨session.url, request⟩).reply.read with
  | error fault => rfl
  | ok value => cases read : read? value <;> simp only [read] <;> rfl

def demandStage (session : Session) (request : Request) (read? : Json → Option α) (answer : α) :
    Stage := .ask ⟨session.url, request⟩ (demanded read?) answer

@[simp] theorem calls_demandStage (session : Session) (request : Request)
    (read? : Json → Option α) (answer : α) (rest : Route) :
    Route.calls (session.demandStage request read? answer :: rest) =
      ⟨session.url, request⟩ :: rest.calls := rfl

theorem demand_eq (session : Session) (request : Request) (read? : Json → Option α) (node : Node)
    (wire : Wire) :
    session.demand request read? node wire =
      (demanded read? (node wire.calls ⟨session.url, request⟩).reply,
        wire.after node ⟨session.url, request⟩) := by
  simp only [demand, bind, Client.bind, query_eq, demanded]
  cases (node wire.calls ⟨session.url, request⟩).reply.understood read? <;> rfl

theorem demand_follows [Nonempty α] (session : Session) (request : Request)
    (read? : Json → Option α) :
    (session.demand request read?).Follows (fun a => [session.demandStage request read? a]) id :=
  Client.follows_ask fun node wire => by
    rw [demand_eq]
    cases demanded read? (node wire.calls ⟨session.url, request⟩).reply <;> rfl

/-- The reply to the first request: the chain that the node reports, if it is the expected one. -/
def greeted (config : SessionConfig) (reply : Reply) : Except Failure Nat :=
  match reply.understood (Json.quantity? 64) with
  | .error fault => .error (.connection config.rpcUrl fault.message)
  | .ok actual =>
    match config.expectedChainId with
    | none => .ok actual
    | some expected =>
      if expected = actual then .ok actual else .error (.chainMismatch expected actual)

theorem greet_eq (session : Session) (node : Node) (wire : Wire) :
    session.greet node wire =
      (greeted session.config (node wire.calls ⟨session.url, .chainId⟩).reply,
        wire.after node ⟨session.url, .chainId⟩) := by
  simp only [greet, bind, Client.bind, query_eq, greeted]
  cases (node wire.calls ⟨session.url, .chainId⟩).reply.understood (Json.quantity? 64) with
  | error fault => rfl
  | ok actual =>
    cases session.config.expectedChainId with
    | none => rfl
    | some expected => by_cases same : expected = actual <;> simp [same] <;> rfl

theorem greet_follows (session : Session) :
    session.greet.Follows
      (fun chain => [.ask ⟨session.url, .chainId⟩ (greeted session.config) chain]) id :=
  Client.follows_ask fun node wire => by
    rw [greet_eq]
    cases greeted session.config (node wire.calls ⟨session.url, .chainId⟩).reply <;> rfl

def connectRoute (config : SessionConfig) (session : Session) (chain : Nat) : Route :=
  [.read (Session.new config) session, .ask ⟨session.url, .chainId⟩ (greeted session.config) chain]

theorem connect_follows (config : SessionConfig) :
    (connect config).Follows (fun p : Session × Nat => connectRoute config p.1 p.2) Prod.fst :=
  Client.follows_reindex
    (Client.follows_bind (Client.follows_read (Session.new config)) fun session =>
      Client.follows_bind (greet_follows session) fun _ => Client.follows_pure session)
    (fun p => (p.1, p.2.1)) (fun _ => rfl) fun _ => rfl

theorem connect_inOrder (config : SessionConfig) :
    connect config = (liftM (new config) : Client Session).bind fun session =>
      session.greet.bind fun _ => pure session := rfl

/-- A session is opened in two steps, and the first that fails is what is reported. -/
theorem connect_eq (config : SessionConfig) (node : Node) (wire : Wire) :
    (connect config node wire).1 = (new config).bind fun session =>
      (greeted session.config (node wire.calls ⟨session.url, .chainId⟩).reply).map
        fun _ => session := by
  cases created : new config with
  | error failure => rw [connect_inOrder, created]; rfl
  | ok session =>
    rw [connect_inOrder, created]
    change (session.greet.bind _ node wire).1 =
      (greeted session.config (node wire.calls ⟨session.url, .chainId⟩).reply).map _
    rw [Client.bind, greet_eq]
    cases greeted session.config (node wire.calls ⟨session.url, .chainId⟩).reply <;> rfl

theorem connect_ok {config : SessionConfig} {session : Session} {node : Node} {wire : Wire}
    (opened : (connect config node wire).1 = .ok session) :
    new config = .ok session ∧ ∃ chain,
      greeted session.config (node wire.calls ⟨session.url, .chainId⟩).reply = .ok chain := by
  rw [connect_eq] at opened
  cases created : new config with
  | error failure => simp [created, Except.bind] at opened
  | ok fresh =>
    simp only [created, Except.bind] at opened
    cases greets : greeted fresh.config (node wire.calls ⟨fresh.url, .chainId⟩).reply with
    | error failure => simp [greets, Except.map] at opened
    | ok chain =>
      simp only [greets, Except.map, Except.ok.injEq] at opened
      subst opened
      exact ⟨rfl, chain, greets⟩

theorem connect_of_ok {config : SessionConfig} {session : Session} {node : Node} {wire : Wire}
    (opened : (connect config node wire).1 = .ok session) :
    connect config node wire = (.ok session, wire.after node ⟨session.url, .chainId⟩) := by
  obtain ⟨created, chain, greets⟩ := connect_ok opened
  rw [connect_inOrder, created]
  change session.greet.bind _ node wire = _
  rw [Client.bind, greet_eq, greets]
  rfl

/-- How waiting for a receipt comes to its end. -/
inductive Closing where
  | included
  /-- The deadline passed while a reply was outstanding. -/
  | late
  /-- The deadline passed between two polls. -/
  | expired
  /-- There was no time between two polls to begin with. -/
  | unpaced

/-- What a wait sees: replies without a receipt, then the one that ends it. -/
structure Wait where
  pending : Nat
  closing : Closing
  receipt : Receipt

instance : Nonempty Wait := ⟨⟨0, .expired, Classical.choice inferInstance⟩⟩

def closingStage (session : Session) (hash : TxHash) (wait : Wait) : Stage :=
  let givenUp : Failure := .notIncluded hash (session.config.confirmationTimeout / 1000)
  match wait.closing with
  | .included => session.demandStage (.receipt hash) Receipt.answer? (some wait.receipt)
  | .late => .ask ⟨session.url, .receipt hash⟩ (fun _ => (.error givenUp : Except Failure Unit)) ()
  | .expired => .read (.error givenUp : Except Failure Unit) ()
  | .unpaced => .read (.error .zeroPollInterval : Except Failure Unit) ()

def pollRoute (session : Session) (hash : TxHash) (wait : Wait) : Route :=
  List.replicate wait.pending (session.demandStage (.receipt hash) Receipt.answer? none) ++
    [session.closingStage hash wait]

/-- A reverted transaction fails although it has been included. -/
def concluded (hash : TxHash) (receipt : Receipt) : Except Failure Unit :=
  if receipt.success then .ok ()
  else .error (.contractCall ("transaction " ++ hash.text ++ " reverted"))

def confirmRoute (session : Session) (hash : TxHash) (wait : Wait) : Route :=
  session.pollRoute hash wait ++ [.read (concluded hash wait.receipt) ()]

/-- The induction is on the polls still due: each reply without a receipt adds one stage in front
of those of the polls after it. -/
theorem poll_ends (session : Session) (schedule : Schedule) (hash : TxHash) (number : Nat)
    (node : Node) (wire : Wire)
    (limit : schedule.limit = session.config.confirmationTimeout) :
    ∃ made, (schedule.poll session.url hash number node wire).2.calls = wire.calls ++ made ∧
      Ends (session.pollRoute hash) Wait.receipt (node.exchanges wire.calls made)
        (schedule.poll session.url hash number node wire).1 := by
  have receipt : Receipt := Classical.choice inferInstance
  fun_induction Schedule.poll schedule session.url hash number node wire with
  | case1 number wire due inTime call delivery wire' late =>
    refine ⟨[call], rfl, Ends.error ⟨0, .late, receipt⟩ ?_⟩
    exact .refused (by rw [limit])
  | case2 number wire due inTime call delivery wire' timely fault read =>
    refine ⟨[call], rfl, Ends.error ⟨0, .included, receipt⟩ ?_⟩
    exact .refused (by simp [demanded, Reply.understood, read, delivery, Except.mapError])
  | case3 number wire due inTime call delivery wire' timely value read unread =>
    refine ⟨[call], rfl, Ends.error ⟨0, .included, receipt⟩ ?_⟩
    exact .refused (by simp [demanded, Reply.understood, read, unread, delivery, Except.mapError])
  | case4 number wire due inTime call delivery wire' timely value read pending ih =>
    obtain ⟨made, calls, ends⟩ := ih
    have null : demanded Receipt.answer? delivery.reply = .ok none :=
      demanded_iff.mpr (understood_iff.mpr ⟨value, read, pending⟩)
    refine ⟨call :: made, by simp [calls, wire'], ?_⟩
    exact ends.map (fun wait => { wait with pending := wait.pending + 1 })
      (fun _ _ walk => .answered null walk) fun _ => rfl
  | case5 number wire due inTime call delivery wire' timely value read found included =>
    refine ⟨[call], rfl, ?_⟩
    apply Ends.ok (Wait.mk 0 .included found)
    exact .answered (demanded_iff.mpr (understood_iff.mpr ⟨value, read, included⟩)) .arrived
  | case6 number wire due passed =>
    refine ⟨[], (List.append_nil wire.calls).symm, Ends.error ⟨0, .expired, receipt⟩ ?_⟩
    exact .unreadable (by rw [limit])

/-- One poll: it goes out where it is due in time, and its reply counts where that is there in
time. -/
theorem Schedule.poll_eq (s : Schedule) (url : String) (hash : TxHash) (number : Nat)
    (node : Node) (wire : Wire) :
    let due := max (s.start + number * s.interval) wire.clock
    let call : Call := ⟨url, .receipt hash⟩
    let delivery := node wire.calls call
    let next : Wire := ⟨wire.calls ++ [call], due + delivery.delay⟩
    s.poll url hash number node wire =
      if s.deadline < due then s.expire hash wire
      else if s.deadline < next.clock then s.expire hash next
      else match delivery.reply.understood Receipt.answer? with
        | .error fault => (.error (.rpc fault.message), next)
        | .ok none => s.poll url hash (number + 1) node next
        | .ok (some receipt) => (.ok receipt, next) := by
  intro due call delivery next
  rw [Schedule.poll]
  by_cases passed : s.deadline < due
  · rw [if_pos passed, dif_neg (Nat.not_le.mpr passed)]
  · rw [if_neg passed, dif_pos (Nat.not_lt.mp passed)]
    by_cases late : s.deadline < next.clock
    · rw [if_pos late]
      exact (if_pos late).symm
    · rw [if_neg late]
      refine Eq.trans ?_ (if_neg late).symm
      change (match delivery.reply.read with | .error fault => _ | .ok value => _) = _
      unfold Reply.understood
      cases delivery.reply.read with
      | error fault => rfl
      | ok value =>
        dsimp only
        cases Receipt.answer? value with
        | none => rfl
        | some answer => cases answer <;> rfl

theorem Schedule.poll_missing {s : Schedule} {url : String} {hash : TxHash} {number : Nat}
    {node : Node} {wire : Wire}
    (timely : max (s.start + number * s.interval) wire.clock +
      (node wire.calls ⟨url, .receipt hash⟩).delay ≤ s.deadline)
    (missing : (node wire.calls ⟨url, .receipt hash⟩).reply.understood Receipt.answer? =
      .ok none) :
    s.poll url hash number node wire = s.poll url hash (number + 1) node
      ⟨wire.calls ++ [⟨url, .receipt hash⟩], max (s.start + number * s.interval) wire.clock +
        (node wire.calls ⟨url, .receipt hash⟩).delay⟩ := by
  rw [Schedule.poll_eq, if_neg (by omega), if_neg (Nat.not_lt.mpr timely), missing]

theorem Schedule.poll_included {s : Schedule} {url : String} {hash : TxHash} {number : Nat}
    {node : Node} {wire : Wire} {receipt : Receipt}
    (timely : max (s.start + number * s.interval) wire.clock +
      (node wire.calls ⟨url, .receipt hash⟩).delay ≤ s.deadline)
    (included : (node wire.calls ⟨url, .receipt hash⟩).reply.understood Receipt.answer? =
      .ok (some receipt)) :
    s.poll url hash number node wire = (.ok receipt,
      ⟨wire.calls ++ [⟨url, .receipt hash⟩], max (s.start + number * s.interval) wire.clock +
        (node wire.calls ⟨url, .receipt hash⟩).delay⟩) := by
  rw [Schedule.poll_eq, if_neg (by omega), if_neg (Nat.not_lt.mpr timely), included]

theorem await_follows (session : Session) (hash : TxHash) :
    (session.await hash).Follows (session.pollRoute hash) Wait.receipt := by
  intro node wire
  unfold await
  split
  · exact session.poll_ends _ hash 0 node wire rfl
  · have receipt : Receipt := Classical.choice inferInstance
    refine ⟨[], (List.append_nil wire.calls).symm, Ends.error ⟨0, .unpaced, receipt⟩ ?_⟩
    exact .unreadable rfl

theorem confirm_follows (session : Session) (hash : TxHash) :
    (session.confirm hash).Follows (session.confirmRoute hash) Wait.receipt := by
  have inOrder : session.confirm hash = (do
      let receipt ← session.await hash
      let _ ← concluded hash receipt
      return receipt) := by
    unfold confirm concluded
    congr 1
    funext receipt
    by_cases success : receipt.success <;> simp only [success, ↓reduceIte] <;> rfl
  rw [inOrder]
  exact Client.follows_reindex
    (Client.follows_bind (session.await_follows hash) fun wait =>
      Client.follows_bind (Client.follows_read (concluded hash wait.receipt)) fun _ =>
      Client.follows_pure wait.receipt)
    Prod.fst (fun _ => rfl) fun _ => rfl

end Session

namespace Authorization

/-- The zero address may not authorize anything. -/
def permitted (account : Address) : Except Failure Unit :=
  if account = 0 then .error (.invalidAddress "cannot authorize transactions for the zero address")
  else .ok ()

structure Terms where
  nonce : Nat
  gasPrice : Nat
  chainId : Nat

instance : Nonempty Terms := ⟨⟨0, 0, 0⟩⟩

def termsRoute (session : Session) (account : Address) (terms : Terms) : Route :=
  [.read (permitted account) (),
    session.demandStage (.transactionCount account) (Json.quantity? 64) terms.nonce,
    session.demandStage .gasPrice (Json.quantity? 128) terms.gasPrice,
    session.demandStage .chainId (Json.quantity? 64) terms.chainId]

theorem request_inOrder (session : Session) (credential : Credential) (account : Address)
    (gasLimit : Nat) :
    request session credential account gasLimit = (do
      let _ ← permitted account
      let nonce ← session.pendingNonce account
      let gasPrice ← session.gasPrice
      let chainId ← session.chainId
      return { credential, nonce, gasLimit, gasPrice, chainId }) := by
  unfold request permitted
  by_cases zero : account = 0 <;> simp only [zero, ↓reduceIte] <;> rfl

theorem request_follows (session : Session) (credential : Credential) (account : Address)
    (gasLimit : Nat) :
    (request session credential account gasLimit).Follows (termsRoute session account)
      fun terms => ⟨credential, terms.nonce, gasLimit, terms.gasPrice, terms.chainId⟩ := by
  rw [request_inOrder]
  exact Client.follows_reindex
    (Client.follows_bind (Client.follows_read (permitted account)) fun _ =>
      Client.follows_bind (session.demand_follows _ _) fun _ =>
      Client.follows_bind (session.demand_follows _ _) fun _ =>
      Client.follows_bind (session.demand_follows _ _) fun _ => Client.follows_pure _)
    (fun p => ⟨p.2.1, p.2.2.1, p.2.2.2.1⟩) (fun _ => rfl) fun _ => rfl

end Authorization
end TokenClient
