import TokenClient.Proofs.PacedRuns
import TokenClient.Proofs.SettingsInit
import TokenClient.Proofs.SettingsMembers

/-! Which setting counts. An option of the command line comes before the file and the file before
the defaults, on the whole way to the node that is asked, the gas that is signed for, the amount
that is moved and the pace of the wait. What an option overrides has no other influence. -/
namespace TokenClient

open Token

/-- The settings of a file under the options of a run. -/
def Invocation.applied (i : Invocation) (file : Settings) : Settings :=
  { file with
    rpcUrl := i.rpcUrl.getD file.rpcUrl
    gasLimit := i.gasLimit.getD file.gasLimit }

section Endpoint

variable {s : Settings} {session : Session} {f : Findings} {made : List Exchange}
  {ending : Option Failure}

theorem Command.errand_contract (command : Command) (s : Settings) (session : Session)
    (f : Findings) :
    (∃ text rest, command.errand s session f =
      .read (Action.contractAt session text) f.contract :: rest) ∨
    command.errand s session f = command.errand s session { f with contract := ⟨session, 0⟩ } := by
  cases command with
  | deploy | transactionStatus | initSettings | showSettings => exact .inr rfl
  | _ => exact .inl ⟨_, _, rfl⟩

theorem Command.errand_urls (command : Command) (s : Settings) (session : Session)
    (f : Findings) (same : f.contract.session = session) :
    ∀ call ∈ (command.errand s session f).calls, call.url = session.url := by
  have polls : ∀ call ∈ (session.confirmRoute f.hash f.wait).calls, call.url = session.url := by
    intro call member
    rw [session.confirmRoute_calls f.hash f.wait call member]
  cases command with
  | deploy | queryTransfer | approve | transferFrom =>
    simpa [errand, movingErrand, Contract.metadataRoute, Findings.decimalsStage, Findings.balances,
      Findings.dispatch, Authorization.termsRoute, Contract.transactRoute, Contract.deployRoute,
      or_imp, forall_and, same] using polls
  | events contract fromBlock =>
    simp only [errand, Cursor.batchRoute]
    split <;> simp [Findings.decimalsStage, Cursor.logsCall, Contract.eventsFrom, same]
  | _ => simp [errand, Contract.metadataRoute, Findings.decimalsStage, same]

theorem Command.errand_asks {command : Command}
    (walk : Walk (command.errand s session f) made ending) :
    ∀ exchange ∈ made, exchange.call.url = session.url := by
  rcases command.errand_contract s session f with ⟨text, rest, shape⟩ | shape
  · have urls := command.errand_urls s session f
    rw [shape] at walk urls
    cases walk with
    | unreadable => exact nofun
    | readOn read walk =>
      intro exchange member
      exact urls (Action.contractAt_ok read).1 _
        (walk.calls_prefix.subset (List.mem_map_of_mem member))
  · rw [shape] at walk
    intro exchange member
    exact command.errand_urls s session _ rfl _
      (walk.calls_prefix.subset (List.mem_map_of_mem member))

theorem Session.new_url {config : SessionConfig} (created : Session.new config = .ok session) :
    ∃ url, Url.parse config.rpcUrl = .ok url ∧ session = ⟨config, url.text⟩ := by
  unfold Session.new at created
  split at created
  · next url parsed =>
    cases created
    exact ⟨url, parsed, rfl⟩
  · contradiction

/-- A run that asks anything has its settings and its session, and asks the node of that one. -/
theorem Invocation.asks_of_walk {i : Invocation} {home : String} {files : Storage}
    (walk : Walk (i.route home files f) made ending) {exchange : Exchange}
    (member : exchange ∈ made) :
    i.settings home files = .ok f.settings ∧ Session.new f.settings.session = .ok f.session ∧
      exchange.call.url = f.session.url := by
  unfold route Command.route Session.connectRoute at walk
  cases walk with
  | unreadable => contradiction
  | readOn settled walk =>
    cases walk with
    | unreadable => contradiction
    | readOn created walk =>
      refine ⟨settled, created, ?_⟩
      cases walk with
      | refused =>
        obtain rfl := List.mem_singleton.mp member
        rfl
      | answered _ walk =>
        rcases List.mem_cons.mp member with rfl | member
        · rfl
        · exact Command.errand_asks walk exchange member

end Endpoint

section Broadcast

/-- What a transaction moves is this amount, in the decimals that its contract has told. -/
def Moves (url receiver amount : String) (before : List Exchange) (t : Transaction) : Prop :=
  ∃ target recipient decimals units, t.destination = .account target ∧
    Account.resolveRecipient receiver = .ok recipient ∧
    t.input = (Method.transfer recipient units).input ∧ Units amount decimals units ∧
    DecimalsTold url target decimals before

theorem Backing.moves {s : Settings} {contract key receiver url : String}
    {before : List Exchange} {signer : Credential} {t : Transaction}
    (backing : Backing s (.queryTransfer contract key receiver none) url before signer t) :
    Moves url receiver s.transferAmount before t := by
  obtain ⟨decimals, earlier, terms, rehearsal, rfl, orders, -, rehearsed⟩ := backing.grounds
  generalize destination : t.destination = target at orders rehearsed
  generalize input : t.input = content at orders
  cases orders with
  | transfer _ _ goal units =>
    refine ⟨_, _, _, _, destination, goal, input, units, rehearsed.2.mono ?_⟩
    rw [List.append_assoc]
    exact List.subset_append_left _ _

end Broadcast

section Influence

/-- Settings of two files that are the same but for what an option overrides. -/
structure Invocation.SameBelow (i : Invocation) (first second : Settings) : Prop where
  rpcUrl : i.rpcUrl = none → first.rpcUrl = second.rpcUrl
  chainId : first.chainId = second.chainId
  gasLimit : i.gasLimit = none → first.gasLimit = second.gasLimit
  confirmationTimeoutSecs : first.confirmationTimeoutSecs = second.confirmationTimeoutSecs
  pollIntervalMs : first.pollIntervalMs = second.pollIntervalMs
  transferAmount : (∀ contract key receiver amount,
      i.command ≠ .queryTransfer contract key receiver (some amount)) →
    first.transferAmount = second.transferAmount

structure SameRun (first second : Except Failure Unit × Desk) : Prop where
  outcome : first.1 = second.1
  wire : first.2.wire = second.2.wire
  printed : first.2.printed = second.2.printed

/-- A computation that neither reads nor writes files. -/
def Shell.Fileless (x : Shell α) : Prop :=
  ∀ node desk files, x node { desk with files } = ((x node desk).1, { (x node desk).2 with files })

namespace Shell

theorem fileless_bind {x : Shell α} {f : α → Shell β} (first : x.Fileless)
    (second : ∀ a, (f a).Fileless) : (x >>= f).Fileless := by
  intro node desk files
  change Shell.bind x f node { desk with files } =
    ((Shell.bind x f node desk).1, { (Shell.bind x f node desk).2 with files })
  simp only [Shell.bind, first node desk files]
  rcases x node desk with ⟨failure | a, middle⟩
  · rfl
  · exact second a node middle files

theorem fileless_talk (x : Client α) : (liftM x : Shell α).Fileless := fun _ _ _ => rfl

theorem fileless_print (lines : List String) : (print lines).Fileless := fun _ _ _ => rfl

theorem fileless_pure (a : α) : (pure a : Shell α).Fileless := fun _ _ _ => rfl

end Shell

namespace Command

theorem report_fileless (x : Client α) (lines : α → List String) :
    (do Shell.print (lines (← x)) : Shell Unit).Fileless :=
  Shell.fileless_bind (Shell.fileless_talk x) fun _ => Shell.fileless_print _

theorem carryOut_fileless (s : Settings) (session : Session) (command : Command) :
    (command.carryOut s session).Fileless := by
  cases command with
  | transferFrom contract key owner recipient amount =>
    exact Shell.fileless_bind (Shell.fileless_talk _) fun _ =>
      Shell.fileless_bind (Shell.fileless_print _) fun _ =>
      Shell.fileless_bind (Shell.fileless_talk _) fun _ => Shell.fileless_print _
  | initSettings | showSettings => exact Shell.fileless_pure ()
  | _ => exact report_fileless _ _

theorem online_fileless (s : Settings) (command : Command) : (command.online s).Fileless :=
  Shell.fileless_bind (Shell.fileless_talk _) fun session => command.carryOut_fileless s session

/-- What a command reads of the settings itself: the gas limit, and the amount where it has none. -/
theorem carryOut_agree {command : Command} {first second : Settings} (session : Session)
    (gasLimit : first.gasLimit = second.gasLimit)
    (amount : (∀ contract key receiver amount,
        command ≠ .queryTransfer contract key receiver (some amount)) →
      first.transferAmount = second.transferAmount) :
    command.carryOut first session = command.carryOut second session := by
  cases command with
  | queryTransfer contract key receiver given =>
    cases given with
    | none =>
      have same := amount nofun
      simp only [carryOut, Action.queryTransfer, gasLimit, same]
    | some text => simp only [carryOut, Action.queryTransfer, gasLimit, Option.getD_some]
  | deploy => simp only [carryOut, Action.deploy, gasLimit]
  | approve => simp only [carryOut, Action.approve, gasLimit]
  | transferFrom => simp only [carryOut, Action.transferFrom, gasLimit]
  | _ => rfl

end Command

namespace Invocation

variable {i : Invocation} {home : String} {files other : Storage} {node : Node}
  {first second : Settings}

theorem settings_of_loaded (loaded : Settings.load files (i.settingsPath home) = .ok first) :
    i.settings home files = .ok (i.applied first) :=
  settings_ok_iff.mpr ⟨first, loaded, rfl⟩

theorem SameBelow.session (below : i.SameBelow first second) :
    (i.applied first).session = (i.applied second).session := by
  have url : i.rpcUrl.getD first.rpcUrl = i.rpcUrl.getD second.rpcUrl := by
    cases given : i.rpcUrl with
    | none => exact below.rpcUrl given
    | some url => rfl
  simp only [Settings.session, applied, url, below.chainId, below.pollIntervalMs,
    below.confirmationTimeoutSecs]

theorem SameBelow.gas (below : i.SameBelow first second) :
    (i.applied first).gasLimit = (i.applied second).gasLimit := by
  unfold applied
  cases given : i.gasLimit with
  | none => exact below.gasLimit given
  | some limit => rfl

theorem SameBelow.applied_eq (below : i.SameBelow first second)
    (offline : i.command.isOnline = false) : i.applied first = i.applied second := by
  have session := below.session
  have gas := below.gas
  have amount : first.transferAmount = second.transferAmount := by
    refine below.transferAmount fun contract key receiver amount same => ?_
    rw [same] at offline
    contradiction
  have url := congrArg SessionConfig.rpcUrl session
  simp only [Settings.session, applied] at url gas ⊢
  simp only [url, gas, amount, below.chainId, below.pollIntervalMs, below.confirmationTimeoutSecs]

theorem sameRun_online (online : i.command.isOnline = true)
    (loaded : Settings.load files (i.settingsPath home) = .ok first)
    (others : Settings.load other (i.settingsPath home) = .ok second)
    (below : i.SameBelow first second) :
    SameRun (i.perform home files node) (i.perform home other node) := by
  have same : i.command.online (i.applied first) = i.command.online (i.applied second) := by
    unfold Command.online
    rw [below.session]
    congr 1
    funext session
    exact Command.carryOut_agree session below.gas below.transferAmount
  rw [perform_of_online home files node online, perform_of_online home other node online,
    settings_of_loaded loaded, settings_of_loaded others]
  dsimp only
  rw [← same, i.command.online_fileless (i.applied first) node ⟨.idle, files, []⟩ other]
  exact ⟨rfl, rfl, rfl⟩

theorem showSettings_eq {s : Settings} {desk : Desk}
    (settled : i.settings home desk.files = .ok s) :
    i.showSettings home node desk = match s.document with
      | .error failure => (.error failure, desk)
      | .ok document => (.ok (), { desk with
          printed := desk.printed ++ [String.ofList document.toList.dropLast] }) := by
  cases written : s.document <;>
    simp [showSettings, bind, Shell.bind, Shell.files, settled, liftM, monadLift,
      MonadLift.monadLift, written, Shell.print]

theorem initSettings_settled {s : Settings} {desk : Desk} {force : Bool}
    (allowed : desk.files.isThere (i.settingsPath home) = true → force = true)
    (settled : i.settings home desk.files = .ok s) :
    i.initSettings home force node desk = match s.save desk.files (i.settingsPath home) with
      | (.error failure, files) => (.error failure, { desk with files })
      | (.ok (), files) => (.ok (), { desk with
          files := files
          printed := desk.printed ++ ["Wrote " ++ i.settingsPath home] }) := by
  rcases saved : s.save desk.files (i.settingsPath home) with ⟨failure | _, files⟩
  · exact initSettings_unsaved allowed settled saved
  · exact initSettings_saved allowed settled saved

theorem read_of_saved {s : Settings} {path : String} {after : Storage}
    (saved : s.save files path = (.ok (), after)) :
    ∃ text, s.document = .ok text ∧ after.read path = .ok text := by
  obtain ⟨made, text, done⟩ := Settings.save_ok_iff.mp saved
  exact ⟨text, done.document, Storage.read_write done.written⟩

theorem sameRun_showSettings (asked : i.command = .showSettings)
    (loaded : Settings.load files (i.settingsPath home) = .ok first)
    (others : Settings.load other (i.settingsPath home) = .ok second)
    (below : i.SameBelow first second) :
    SameRun (i.perform home files node) (i.perform home other node) := by
  have same := below.applied_eq (by rw [asked]; rfl)
  have shows : i.run home = i.showSettings home := by
    unfold run
    rw [asked]
  have here : i.settings home (Desk.mk .idle files []).files = .ok (i.applied first) :=
    settings_of_loaded loaded
  have there : i.settings home (Desk.mk .idle other []).files = .ok (i.applied first) :=
    same ▸ settings_of_loaded others
  unfold perform
  rw [shows, showSettings_eq here, showSettings_eq there]
  cases (i.applied first).document <;> exact ⟨rfl, rfl, rfl⟩

/-- Writing the settings ends alike where the files are the same but for what they hold, and it
leaves the same text in their file. -/
theorem sameRun_initSettings {force : Bool} (asked : i.command = .initSettings force)
    (loaded : Settings.load files (i.settingsPath home) = .ok first)
    (others : Settings.load other (i.settingsPath home) = .ok second)
    (below : i.SameBelow first second) (alike : files.bare = other.bare) :
    SameRun (i.perform home files node) (i.perform home other node) ∧
    (i.outcome home files node = .ok () →
      (i.perform home files node).2.files.read (i.settingsPath home) =
        (i.perform home other node).2.files.read (i.settingsPath home)) := by
  have same := below.applied_eq (by rw [asked]; rfl)
  have there : other.isThere (i.settingsPath home) = files.isThere (i.settingsPath home) := by
    rw [← Storage.isThere_bare other, ← alike, Storage.isThere_bare]
  have ends : ((i.applied first).save files (i.settingsPath home)).1 =
      ((i.applied first).save other (i.settingsPath home)).1 := by
    rw [← Settings.save_bare, alike, Settings.save_bare]
  unfold outcome perform
  rw [run_of_initSettings asked]
  by_cases allowed : files.isThere (i.settingsPath home) = true → force = true
  · have here : i.settings home (Desk.mk .idle files []).files = .ok (i.applied first) :=
      settings_of_loaded loaded
    have elsewhere : i.settings home (Desk.mk .idle other []).files = .ok (i.applied first) :=
      same ▸ settings_of_loaded others
    rw [initSettings_settled allowed here, initSettings_settled (there ▸ allowed) elsewhere]
    dsimp only
    rcases saved : (i.applied first).save files (i.settingsPath home) with ⟨failure | _, after⟩
    all_goals
      rcases otherwise : (i.applied first).save other (i.settingsPath home) with ⟨_ | _, later⟩
    all_goals rw [saved, otherwise] at ends
    · cases ends
      exact ⟨⟨rfl, rfl, rfl⟩, nofun⟩
    · contradiction
    · contradiction
    · obtain ⟨text, written, holds⟩ := read_of_saved saved
      obtain ⟨_, rewritten, holdsToo⟩ := read_of_saved otherwise
      cases written.symm.trans rewritten
      exact ⟨⟨rfl, rfl, rfl⟩, fun _ => holds.trans holdsToo.symm⟩
  · rw [Classical.not_imp, Bool.not_eq_true] at allowed
    have stands : other.isThere (i.settingsPath home) = true := there.trans allowed.1
    rw [initSettings_kept allowed.1 allowed.2, initSettings_kept stands allowed.2]
    exact ⟨⟨rfl, rfl, rfl⟩, nofun⟩

end Invocation

end Influence

/-- What a run makes of its options and of the settings in its file. -/
structure Invocation.Precedence (i : Invocation) (home : String) (files : Storage) (node : Node)
    (file : Settings) : Prop where
  /-- The file says each setting, or its default holds; a missing file says none. -/
  said : ∃ document, Settings.Holds files (i.settingsPath home) document ∧ file.Says document
  applied : i.settings home files = .ok (i.applied file)
  /-- All requests go to the one node. -/
  endpoint : ∀ exchange ∈ i.transcript home files node, ∃ url,
    Url.parse (i.rpcUrl.getD file.rpcUrl) = .ok url ∧ exchange.call.url = url.text
  /-- What is broadcast has the gas limit and, where a transfer has no other amount, moves the
  amount. -/
  broadcast : ∀ before url raw reply after,
    i.transcript home files node = before ++ ⟨⟨url, .sendRaw raw⟩, reply⟩ :: after →
    ∃ t signature, Transaction.ofRaw raw = some (t, signature) ∧
      t.gas = i.gasLimit.getD file.gasLimit ∧
      ∀ contract key receiver, i.command = .queryTransfer contract key receiver none →
        Moves url receiver file.transferAmount before t
  /-- From an accepted broadcast on, the run waits at the pace and as long as the file says. -/
  wait : ∀ before exchange after hash,
    i.transcript home files node = before ++ exchange :: after → exchange.Takes hash →
    ∃ url, Url.parse (i.rpcUrl.getD file.rpcUrl) = .ok url ∧
      Awaits
        { config := {
            rpcUrl := i.rpcUrl.getD file.rpcUrl
            expectedChainId := file.chainId
            pollInterval := file.pollIntervalMs
            confirmationTimeout := 1000 * file.confirmationTimeoutSecs }
          url := url.text }
        hash node (Wire.idle.afterAll node (before.map Exchange.call ++ [exchange.call]))
        (i.outcome home files node) (i.perform home files node).2.wire
  /-- With another file that differs in what an option overrides, the run is the same. -/
  influence : ∀ other second, Settings.load other (i.settingsPath home) = .ok second →
    i.SameBelow file second →
    (∀ force, i.command = .initSettings force → files.bare = other.bare) →
    SameRun (i.perform home files node) (i.perform home other node) ∧
    ∀ force, i.command = .initSettings force → i.outcome home files node = .ok () →
      (i.perform home files node).2.files.read (i.settingsPath home) =
        (i.perform home other node).2.files.read (i.settingsPath home)

namespace Invocation

variable {i : Invocation} {home : String} {files : Storage} {file : Settings}

/-- A run that has exchanged anything is on the way of its command, with the settings of its
file. -/
theorem walk_of_asked {node : Node} (loaded : Settings.load files (i.settingsPath home) = .ok file)
    {exchange : Exchange} (member : exchange ∈ i.transcript home files node) :
    ∃ f ending url, Walk (i.route home files f) (i.transcript home files node) ending ∧
      f.settings = i.applied file ∧ Url.parse (i.rpcUrl.getD file.rpcUrl) = .ok url ∧
      Session.new (i.applied file).session = .ok ⟨(i.applied file).session, url.text⟩ ∧
      exchange.call.url = url.text := by
  have online := isOnline_of_asked (List.ne_nil_of_mem member)
  obtain ⟨f, ending, walk, -, -⟩ := (i.run_ends home files node online).walk
  obtain ⟨settled, created, asked⟩ := asks_of_walk walk member
  rw [settings_of_loaded loaded] at settled
  have settings := Except.ok.inj settled
  rw [← settings] at created
  obtain ⟨url, parsed, same⟩ := Session.new_url created
  exact ⟨f, ending, url, walk, settings.symm, parsed, same ▸ created, by rw [asked, same]⟩

/-- An accepted broadcast is waited for, from the moment of its reply. -/
theorem heeds_of_taken {s : Settings} {node : Node} {before after : List Exchange}
    {exchange : Exchange} {hash : TxHash} (settled : i.settings home files = .ok s)
    (place : i.transcript home files node = before ++ exchange :: after)
    (takes : exchange.Takes hash) {session : Session}
    (created : Session.new s.session = .ok session) :
    Heeds session hash node
      (Wire.idle.afterAll node (before.map Exchange.call ++ [exchange.call]))
      (i.outcome home files node) (i.perform home files node).2.wire := by
  have spoke : i.transcript home files node ≠ [] := by simp [place]
  have ran : i.perform home files node = i.command.online s node ⟨.idle, files, []⟩ := by
    rw [perform_of_online home files node (isOnline_of_asked spoke), settled]
  unfold transcript at place
  unfold outcome
  rw [ran] at place ⊢
  rcases i.command.online_timed s node ⟨.idle, files, []⟩ with plain | ⟨opened, same, timed⟩
  · obtain ⟨made, extended, calm⟩ := plain.calm
    have sent : node.exchanges [] made = before ++ exchange :: after := by
      rw [← place, extended]
      rfl
    have member : exchange ∈ node.exchanges [] made := by simp [sent]
    exact absurd takes.accepted (calm.idle exchange member)
  · cases same.symm.trans created
    exact timed.heeds (List.nil_append _).symm place takes

theorem waits_of_taken {node : Node} {before after : List Exchange} {exchange : Exchange}
    {hash : TxHash} (loaded : Settings.load files (i.settingsPath home) = .ok file)
    (place : i.transcript home files node = before ++ exchange :: after)
    (takes : exchange.Takes hash) {session : Session}
    (created : Session.new (i.applied file).session = .ok session) :
    Awaits session hash node
      (Wire.idle.afterAll node (before.map Exchange.call ++ [exchange.call]))
      (i.outcome home files node) (i.perform home files node).2.wire :=
  (heeds_of_taken (settings_of_loaded loaded) place takes created).awaits

/-- Options come before the file and the file before the defaults, in everything that a run asks,
sends and waits for; what an option overrides counts for nothing else. -/
theorem run_settings_precedence {args : List String}
    (parsed : CommandLine.parse args = .ok i)
    (loaded : Settings.load files (i.settingsPath home) = .ok file) (node : Node) :
    i.Precedence home files node file where
  said := Settings.says_of_load loaded
  applied := settings_of_loaded loaded
  endpoint exchange member := by
    obtain ⟨_, _, url, _, _, read, _, asked⟩ := walk_of_asked loaded member
    exact ⟨url, read, asked⟩
  broadcast before url raw reply after place := by
    have member : ⟨⟨url, .sendRaw raw⟩, reply⟩ ∈ i.transcript home files node := by simp [place]
    obtain ⟨f, ending, _, walk, settings, _⟩ := walk_of_asked loaded member
    have online := isOnline_of_asked (List.ne_nil_of_mem member)
    have gas := settings_gasLimit_lt parsed (settings_of_loaded loaded)
    obtain ⟨signer, t, read, backing⟩ := backed_of_walk walk online place (settings ▸ gas)
    rw [settings] at backing
    refine ⟨t, _, read, backing.gas, fun contract key receiver asked => ?_⟩
    rw [asked] at backing
    exact backing.moves
  wait before exchange after hash place takes := by
    have member : exchange ∈ i.transcript home files node := by simp [place]
    obtain ⟨_, _, url, _, _, read, created, _⟩ := walk_of_asked loaded member
    exact ⟨url, read, waits_of_taken loaded place takes created⟩
  influence other second others below alike := by
    by_cases online : i.command.isOnline = true
    · refine ⟨sameRun_online online loaded others below, fun force asked => ?_⟩
      rw [asked] at online
      contradiction
    · rw [Bool.not_eq_true] at online
      cases asked : i.command with
      | initSettings force =>
        obtain ⟨same, rewritten⟩ : SameRun (i.perform home files node) (i.perform home other node) ∧
            _ := sameRun_initSettings asked loaded others below (alike force asked)
        exact ⟨same, fun _ _ => rewritten⟩
      | showSettings => exact ⟨sameRun_showSettings asked loaded others below, nofun⟩
      | _ => simp [asked, Command.isOnline] at online

end Invocation

/-- A deployment whose options override a file that names another node and less gas. -/
def overridingArgs : List String :=
  ["--config", "/settings.toml", "deploy", "--rpc-url", "http://node.test:8545",
    "0000000000000000000000000000000000000000000000000000000000000001", "--gas-limit=2500000"]

def overridingInvocation : Invocation :=
  ⟨some "http://node.test:8545", some 2500000, some "/settings.toml",
    .deploy "0000000000000000000000000000000000000000000000000000000000000001"⟩

def overriddenFiles : Storage :=
  ⟨[(["settings.toml"], Bytes.ofString
    "[network]\nrpc_url = \"http://127.0.0.1:1\"\n[tx]\ngas_limit = 21000\n")], []⟩

def overriddenSettings : Settings := { rpcUrl := "http://127.0.0.1:1", gasLimit := 21000 }

def overridingSession : Session :=
  ⟨(overridingInvocation.applied overriddenSettings).session, "http://node.test:8545/"⟩

theorem run_settings_precedence_overriding :
    CommandLine.parse overridingArgs = .ok overridingInvocation ∧
    Settings.load overriddenFiles (overridingInvocation.settingsPath "") =
      .ok overriddenSettings ∧
    (∃ exchange ∈ overridingInvocation.transcript "" overriddenFiles acceptingNode,
      exchange.Accepted ∧ exchange.call.url = "http://node.test:8545/") ∧
    overridingInvocation.Precedence "" overriddenFiles acceptingNode overriddenSettings := by
  have parsed : CommandLine.parse overridingArgs = .ok overridingInvocation :=
    ok_of_toOption (by decide +kernel)
  have loaded : Settings.load overriddenFiles (overridingInvocation.settingsPath "") =
      .ok overriddenSettings := ok_of_toOption (by decide +kernel)
  have created : Session.new (overridingInvocation.applied overriddenSettings).session =
      .ok overridingSession := ok_of_toOption (by decide +kernel)
  exact ⟨parsed, loaded, deploy_accepted rfl (Invocation.settings_of_loaded loaded) created rfl,
    Invocation.run_settings_precedence parsed loaded acceptingNode⟩

end TokenClient
