import TokenClient.Proofs.ChainBinding
import TokenClient.Proofs.ReceiptWait

/-! Which runs break down. A wait breaks down just where there is no time between two polls, and
nothing else does, so a run breaks down just where its settings leave no such time and the node has
accepted its broadcast. -/
namespace TokenClient

open Token

section Pace

variable {α : Type} {session : Session} {hash : TxHash} {node : Node} {start final : Wire}
  {outcome : Except Failure α}

/-- Without time between two polls, the wait breaks down and is the last thing that is done. -/
theorem Awaits.unpaced (waits : Awaits session hash node start outcome final)
    (none : session.config.pollInterval = 0) :
    outcome = .error .zeroPollInterval ∧ final = start := by
  obtain ⟨later, rfl, plain, ends⟩ := waits
  rw [Session.await_unpaced none] at ends ⊢
  obtain ⟨rfl, failed⟩ := ends
  exact ⟨failed, rfl⟩

theorem Awaits.unbroken (waits : Awaits session hash node start outcome final)
    (positive : 0 < session.config.pollInterval) : Unbroken outcome := by
  obtain ⟨later, rfl, plain, ends⟩ := waits
  have polls := Session.await_unbroken positive hash node start
  cases waited : (session.await hash node start).1 with
  | error failure =>
    rw [waited] at ends polls
    rw [ends.2]
    exact unbroken_error.mpr (unbroken_error.mp polls)
  | ok receipt => rwa [waited] at ends

/-- What begins to wait with an accepted broadcast, and not before, is paced by the session. -/
theorem Timed.paced (timed : Timed session node start outcome final) {made : List Call}
    (extended : final.calls = start.calls ++ made) :
    Paced session.config.pollInterval (node.exchanges start.calls made) outcome := by
  cases timed with
  | idle all same calm =>
    obtain rfl := List.append_cancel_left (same.symm.trans extended)
    exact calm.paced
  | waited front call told plain taken waits =>
    obtain ⟨rest, shape, idle⟩ := waits.awaits.calls
    obtain rfl := List.append_cancel_left (extended.symm.trans shape)
    have sent : node.exchanges start.calls (front ++ call :: rest) =
        node.exchanges start.calls front ++
          ⟨call, (node (start.calls ++ front) call).reply⟩ ::
          node.exchanges (start.calls ++ front ++ [call]) rest := by
      rw [Node.exchanges_append, Node.exchanges]
    rw [sent]
    refine ⟨?_, ?_⟩
    · rw [and_iff_left ⟨_, by simp, taken.accepted⟩]
      constructor
      · intro broken
        by_contra some
        exact waits.awaits.unbroken (Nat.pos_of_ne_zero some) broken
      · exact fun none => (waits.awaits.unpaced none).1
    · intro none before exchange after place accepted
      obtain ⟨-, -, rfl⟩ := (List.append_cons_inj_of_notMem
        (fun member => Node.idle_of_plain plain exchange member accepted)
        (fun member => idle exchange member accepted)).mp place
      have last := congrArg Wire.calls (waits.awaits.unpaced none).2
      rw [shape, Wire.calls_afterAll] at last
      obtain rfl : rest = [] := by simpa using last
      rfl

end Pace

/-- The head of the chain is not at the last block that there can be. -/
def HeadsAhead (node : Node) : Prop :=
  ∀ past url head, (node past ⟨url, .blockNumber⟩).reply.understood (Json.quantity? 64) = .ok head →
    head + 1 < 2 ^ 64

namespace Invocation

theorem document_reports (s : Settings) : Reports .own s.document := by
  unfold Settings.document
  split
  · exact reports_ok _
  · exact reports_error.mpr rfl

theorem save_reports (s : Settings) (files : Storage) (path : String) :
    Reports .own (s.save files path).1 := by
  unfold Settings.save
  cases files.makeDirectories (Storage.names path).dropLast with
  | mk made files =>
    cases made with
    | error fault => exact reports_error.mpr rfl
    | ok _ =>
      have writes := document_reports s
      cases written : s.document with
      | error failure =>
        rw [written] at writes
        exact reports_error.mpr (reports_error.mp writes)
      | ok text =>
        dsimp only
        cases files.write path (Bytes.ofString text) with
        | error fault => exact reports_error.mpr rfl
        | ok files => exact reports_ok ()

theorem plain_settings (i : Invocation) (home : String) (files : Storage) :
    Shows Desk.wire (liftM (i.settings home files) : Shell Settings) Plain :=
  Shell.plain_read ((i.settings_reports home files).brief nofun)

theorem initSettings_plain (i : Invocation) (home : String) (force : Bool) :
    Shows Desk.wire (i.initSettings home force) Plain := by
  refine Shell.shows_bind plain_plain Shell.plain_files fun files => ?_
  have writes : Shows Desk.wire (do
      let s ← i.settings home files
      Shell.store fun files => s.save files (i.settingsPath home)
      Shell.print ["Wrote " ++ i.settingsPath home] : Shell Unit) Plain :=
    Shell.shows_bind plain_plain (i.plain_settings home files) fun s =>
      Shell.shows_bind plain_plain
        (Shell.plain_store fun files => (save_reports s files _).brief nofun)
        fun _ => Shell.plain_print _
  by_cases kept : files.isThere (i.settingsPath home) ∧ ¬ force
  · simp only [kept]
    exact Shell.shows_bind plain_plain (Shell.plain_read (brief_error.mpr nofun)) fun _ => writes
  · simp only [kept]
    exact writes

theorem showSettings_plain (i : Invocation) (home : String) :
    Shows Desk.wire (i.showSettings home) Plain :=
  Shell.shows_bind plain_plain Shell.plain_files fun files =>
    Shell.shows_bind plain_plain (i.plain_settings home files) fun s =>
    Shell.shows_bind plain_plain (Shell.plain_read ((document_reports s).brief nofun)) fun _ =>
    Shell.plain_print _

/-- What is said of every run of a computation, said of the run from the start. -/
theorem calm_of_offline {i : Invocation} (home : String) (files : Storage) (node : Node)
    (offline : ¬ i.command.isOnline) :
    Calm (i.transcript home files node) (i.outcome home files node) := by
  have plain : Shows Desk.wire (i.run home) Plain := by
    unfold run
    cases asked : i.command with
    | initSettings force => exact i.initSettings_plain home force
    | showSettings => exact i.showSettings_plain home
    | _ => simp [asked, Command.isOnline] at offline
  obtain ⟨made, extended, calm⟩ := (plain node ⟨.idle, files, []⟩).calm
  have same : (i.perform home files node).2.wire.calls = made := extended
  rw [transcript, same]
  exact calm

theorem run_paced {i : Invocation} {home : String} {files : Storage} {s : Settings} (node : Node)
    (settled : i.settings home files = .ok s) :
    Paced s.pollIntervalMs (i.transcript home files node) (i.outcome home files node) := by
  by_cases online : i.command.isOnline
  · unfold transcript outcome
    rw [perform_of_online home files node online, settled]
    dsimp only
    rcases i.command.online_timed s node ⟨.idle, files, []⟩ with plain | ⟨session, created, timed⟩
    · obtain ⟨made, extended, calm⟩ := plain.calm
      rw [extended]
      exact calm.paced
    · have paced := timed.paced (List.nil_append _).symm
      rwa [Session.new_config created] at paced
  · exact (calm_of_offline home files node online).paced

theorem calm_of_unsettled {i : Invocation} {home : String} {files : Storage}
    {failure : Failure} (node : Node) (unsettled : i.settings home files = .error failure) :
    Calm (i.transcript home files node) (i.outcome home files node) := by
  by_cases online : i.command.isOnline
  · have reported := (i.settings_reports home files).brief nofun
    rw [unsettled] at reported
    unfold transcript outcome
    rw [perform_of_online home files node online, unsettled]
    exact ⟨nofun, brief_error.mpr (brief_error.mp reported)⟩
  · exact calm_of_offline home files node online

/-- Log entries are asked for only up to a head that the node has told. -/
theorem logs_in_range {i : Invocation} {home : String} {files : Storage} {node : Node}
    (heads : HeadsAhead node) {exchange : Exchange} {address : Address} {first last : Nat}
    (member : exchange ∈ i.transcript home files node)
    (logs : exchange.request = .logs address first last) : first ≤ last ∧ last + 1 < 2 ^ 64 := by
  have online := isOnline_of_asked (List.ne_nil_of_mem member)
  obtain ⟨f, ending, walk, -, -⟩ := (i.run_ends home files node online).walk
  have spelled := route_spells home files f online
  have asked : .logs address first last ∈ i.command.sequence f.settings f := by
    rw [← logs]
    exact (spelled _ _ walk).1.subset (List.mem_map_of_mem member)
  cases command : i.command with
  | events contract fromBlock =>
    have ahead : fromBlock ≤ f.head ∧ first = fromBlock ∧ last = f.head := by
      simp only [command, Command.sequence, Findings.view, List.mem_append, List.mem_cons,
        reduceCtorEq, List.not_mem_nil, or_false, false_or] at asked
      split at asked
      · rename_i ahead
        simp only [List.mem_singleton, Request.logs.injEq] at asked
        exact ⟨ahead, asked.2⟩
      · contradiction
    obtain ⟨ahead, rfl, rfl⟩ := ahead
    refine ⟨ahead, ?_⟩
    have shape : i.route home files f = (i.opening home files f ++
        [.read (Action.contractAt f.session contract) f.contract, f.decimalsStage]) ++
        (f.contract.eventsFrom first).batchRoute f.head f.events := by
      simp [route, opening, command, Command.route, Command.errand]
    have silent : ∀ call ∈ Route.calls (i.opening home files f ++
        [.read (Action.contractAt f.session contract) f.contract, f.decimalsStage]),
        call.request ≠ .logs address first f.head := by
      simp [opening, Session.connectRoute, Findings.decimalsStage]
    rw [shape] at walk
    rcases walk.split with ⟨failure, _, halted⟩ | ⟨before, after, joined, early, late⟩
    · have called := halted.calls_prefix.subset (List.mem_map_of_mem member)
      exact absurd logs (silent _ called)
    · rw [Cursor.batchRoute, Session.demandStage] at late
      cases late with
      | @answered reply _ _ _ _ _ _ _ told _ =>
        have greeted : ⟨⟨(f.contract.eventsFrom first).session.url, .blockNumber⟩, reply⟩ ∈
            i.transcript home files node := by simp [joined]
        obtain ⟨earlier, same⟩ := Node.reply_of_mem greeted
        dsimp only at same
        rw [same] at told
        exact heads _ _ _ (Session.demanded_iff.mp told)
      | refused _ =>
        rw [joined, List.mem_append, List.mem_singleton] at member
        rcases member with member | rfl
        · have called := early.calls_prefix.subset (List.mem_map_of_mem member)
          exact absurd logs (silent _ called)
        · cases logs
  | _ =>
    simp [command, Command.sequence, Findings.submission, Findings.metadataViews,
      Findings.balanceViews, Findings.termsRequests, Findings.receipts, Findings.view] at asked

theorem settings_numbers_lt {args : List String} {i : Invocation} {home : String}
    {files : Storage} {s : Settings} (parsed : CommandLine.parse args = .ok i)
    (settled : i.settings home files = .ok s) : ∀ number ∈ s.numbers, number < 2 ^ 64 := by
  have gasLimit := settings_gasLimit_lt parsed settled
  have small : Settings.maxInteger < 2 ^ 64 := by decide
  simp only [settings, bind, Except.bind] at settled
  split at settled
  · contradiction
  · rename_i stored loaded
    cases settled
    obtain ⟨chain, _, timeout, interval⟩ :=
      (Settings.bounded_iff stored).mp (Settings.load_bounded loaded)
    intro number member
    simp only [Settings.numbers, List.mem_append, Option.mem_toList, List.mem_cons,
      List.not_mem_nil, or_false] at member
    rcases member with same | rfl | rfl | rfl
    · exact Nat.lt_of_le_of_lt (chain number same) small
    · exact gasLimit
    · exact Nat.lt_of_le_of_lt timeout small
    · exact Nat.lt_of_le_of_lt interval small

/-- What cannot be divided by does not arise. -/
theorem scale_pos {decimals unit : Nat} (scaled : Amount.scale decimals = some unit) :
    0 < unit ∧ unit < Word.count := by
  unfold Amount.scale at scaled
  split at scaled
  · rename_i fits
    cases scaled
    exact ⟨Nat.pow_pos (by decide), fits⟩
  · contradiction

theorem broken_iff {i : Invocation} {home : String} {files : Storage} (node : Node) :
    i.outcome home files node = .error .zeroPollInterval ↔
      (∃ s, i.settings home files = .ok s ∧ s.pollIntervalMs = 0) ∧
      ∃ exchange ∈ i.transcript home files node, exchange.Accepted := by
  cases settled : i.settings home files with
  | error failure =>
    have calm := calm_of_unsettled node settled
    refine iff_of_false calm.brief.unbroken ?_
    rintro ⟨⟨s, same, _⟩, _⟩
    contradiction
  | ok s =>
    rw [(run_paced node settled).broken]
    simp

/-- A run breaks down just where its settings leave no time between two polls and the node has
accepted its broadcast; that broadcast is the last thing it exchanges. Nothing else that a run
computes leaves its range: no setting, no range of blocks, and no divisor. -/
theorem broken_iff_unpaced {args : List String} {i : Invocation} {home : String} {files : Storage}
    {node : Node} (parsed : CommandLine.parse args = .ok i) (heads : HeadsAhead node) :
    (i.outcome home files node = .error .zeroPollInterval ↔
      (∃ s, i.settings home files = .ok s ∧ s.pollIntervalMs = 0) ∧
      ∃ exchange ∈ i.transcript home files node, exchange.Accepted) ∧
    (∀ s, i.settings home files = .ok s →
      (∀ number ∈ s.numbers, number < 2 ^ 64) ∧
      (s.pollIntervalMs = 0 → ∀ before exchange after,
        i.transcript home files node = before ++ exchange :: after → exchange.Accepted →
        after = [])) ∧
    (∀ exchange ∈ i.transcript home files node, ∀ address first last,
      exchange.request = .logs address first last → first ≤ last ∧ last + 1 < 2 ^ 64) ∧
    ∀ decimals unit, Amount.scale decimals = some unit → 0 < unit ∧ unit < Word.count := by
  refine ⟨broken_iff node, ?_, ?_, fun _ _ => scale_pos⟩
  · intro s settled
    exact ⟨settings_numbers_lt parsed settled, (run_paced node settled).last⟩
  · intro exchange member address first last logs
    exact logs_in_range heads member logs

end Invocation

/-- A deployment with settings that leave no time between two polls. -/
def unpacedArgs : List String :=
  ["deploy", "0000000000000000000000000000000000000000000000000000000000000001",
    "--config", "/settings.toml"]

def unpacedInvocation : Invocation :=
  ⟨none, none, some "/settings.toml",
    .deploy "0000000000000000000000000000000000000000000000000000000000000001"⟩

def unpacedFiles : Storage :=
  ⟨[(["settings.toml"], Bytes.ofString "[tx]\npoll_interval_ms = 0\n")], []⟩

def unpacedSettings : Settings := { pollIntervalMs := 0 }

def unpacedSession : Session := ⟨unpacedSettings.session, sampleUrl⟩

/-- Accepts every broadcast. -/
def acceptingNode : Node := fun _ call =>
  ⟨match call.request with
    | .chainId => .result (.string "0x2328")
    | .transactionCount _ => .result (.string "0x7")
    | .gasPrice => .result (.string "0x3b9aca00")
    | .sendRaw _ => wordReply 0xab
    | _ => .dropped "no reply", 1⟩

theorem acceptingNode_heads : HeadsAhead acceptingNode := by
  rintro past url head ⟨⟩

theorem unpaced_parsed : CommandLine.parse unpacedArgs = .ok unpacedInvocation :=
  ok_of_toOption (by decide +kernel)

theorem unpaced_settings : unpacedInvocation.settings "" unpacedFiles = .ok unpacedSettings :=
  ok_of_toOption (by decide +kernel)

theorem deploy_accepted {i : Invocation} {home : String} {files : Storage} {s : Settings}
    {session : Session}
    (asked : i.command =
      .deploy "0000000000000000000000000000000000000000000000000000000000000001")
    (settled : i.settings home files = .ok s) (created : Session.new s.session = .ok session)
    (unbound : s.chainId = none) :
    ∃ exchange ∈ i.transcript home files acceptingNode,
      exchange.Accepted ∧ exchange.call.url = session.url := by
  have online : i.command.isOnline = true := by rw [asked]; rfl
  obtain ⟨f, ending, walk, -, -⟩ := (i.run_ends home files acceptingNode online).walk
  rw [Invocation.route, asked] at walk
  unfold Invocation.transcript at walk ⊢
  generalize (i.perform home files acceptingNode).2.wire.calls = calls at walk ⊢
  have chain : Reply.understood (.result (.string "0x2328")) (Json.quantity? 64) = .ok 9000 :=
    ok_of_toOption (by decide +kernel)
  have nonce : Reply.understood (.result (.string "0x7")) (Json.quantity? 64) = .ok 7 :=
    ok_of_toOption (by decide +kernel)
  have price : Reply.understood (.result (.string "0x3b9aca00")) (Json.quantity? 128) =
      .ok 1000000000 := ok_of_toOption (by decide +kernel)
  obtain ⟨settings, walk⟩ := walk.passed settled
  rw [settings] at walk
  obtain ⟨same, walk⟩ := walk.passed created
  rw [same] at walk
  have greeted : Session.greeted session.config (.result (.string "0x2328")) = .ok 9000 := by
    have config : session.config.expectedChainId = none := by
      rw [Session.new_config created]
      exact unbound
    rw [Session.greeted, chain, config]
  obtain ⟨calls, rfl, _, walk⟩ := walk.heard greeted
  obtain ⟨signer, walk⟩ := walk.passed (ok_of_toOption (a := sampleSigner) (by decide +kernel))
  rw [signer] at walk
  obtain ⟨_, walk⟩ := walk.passed sampleSigner_permitted
  obtain ⟨calls, rfl, _, walk⟩ := walk.heard (Session.demanded_iff.mpr nonce)
  obtain ⟨calls, rfl, _, walk⟩ := walk.heard (Session.demanded_iff.mpr price)
  obtain ⟨calls, rfl, _, walk⟩ := walk.heard (Session.demanded_iff.mpr chain)
  obtain ⟨calls, rfl⟩ := walk.asked
  refine ⟨⟨⟨session.url, .sendRaw ((f.auth s).raw .creation Token.code)⟩, wordReply 0xab⟩, ?_,
    ⟨_, _, rfl, wordReply_hash _⟩, rfl⟩
  exact .tail _ (.tail _ (.tail _ (.tail _ (.head _))))

theorem unpaced_accepted :
    ∃ exchange ∈ unpacedInvocation.transcript "" unpacedFiles acceptingNode,
      exchange.Accepted := by
  obtain ⟨exchange, member, accepted, _⟩ := deploy_accepted rfl unpaced_settings
    (ok_of_toOption (a := unpacedSession) (by decide +kernel)) rfl
  exact ⟨exchange, member, accepted⟩

/-- The node accepts the deployment, and the run breaks down without a word about it. -/
theorem deploy_broken :
    CommandLine.parse unpacedArgs = .ok unpacedInvocation ∧ HeadsAhead acceptingNode ∧
    unpacedInvocation.settings "" unpacedFiles = .ok unpacedSettings ∧
    (∃ exchange ∈ unpacedInvocation.transcript "" unpacedFiles acceptingNode,
      exchange.Accepted) ∧
    unpacedInvocation.outcome "" unpacedFiles acceptingNode = .error .zeroPollInterval := by
  refine ⟨unpaced_parsed, acceptingNode_heads, unpaced_settings, unpaced_accepted, ?_⟩
  exact (Invocation.broken_iff acceptingNode).mpr ⟨⟨_, unpaced_settings, rfl⟩, unpaced_accepted⟩

theorem broken_iff_unpaced_deploy :
    CommandLine.parse unpacedArgs = .ok unpacedInvocation ∧ HeadsAhead acceptingNode ∧
    unpacedInvocation.outcome "" unpacedFiles acceptingNode = .error .zeroPollInterval ∧
    ∃ before exchange, exchange.Accepted ∧
      unpacedInvocation.transcript "" unpacedFiles acceptingNode = before ++ [exchange] := by
  have rule := @Invocation.broken_iff_unpaced _ _ "" unpacedFiles _ unpaced_parsed
    acceptingNode_heads
  obtain ⟨exchange, member, accepted⟩ := unpaced_accepted
  obtain ⟨before, after, place⟩ := List.append_of_mem member
  have last := (rule.2.1 _ unpaced_settings).2 rfl before exchange after place accepted
  refine ⟨unpaced_parsed, acceptingNode_heads, ?_, before, exchange, accepted, by rw [place, last]⟩
  exact rule.1.mpr ⟨⟨_, unpaced_settings, rfl⟩, exchange, member, accepted⟩

end TokenClient
