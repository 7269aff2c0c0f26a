import TokenClient.Proofs.PollTimeline
import TokenClient.Proofs.SettingsPrecedence
import TokenClient.Proofs.SpoiltReplies

/-! What a failure tells of the run that it has ended: whether the handshake went wrong, a later
reply, or the time for a wait, and in which way. -/
namespace TokenClient

open Token

namespace Session

/-- A broadcast has been accepted, and no reply that tells anything about it comes within the time
that the session has for it. Without an interval between two polls there is no poll. -/
def Exhausted (session : Session) (node : Node) (made : List Exchange) (hash : TxHash) : Prop :=
  ∃ before sent after, made = before ++ sent :: after ∧ sent.Takes hash ∧
    let line := session.timeline hash node
      (Wire.idle.afterAll node (before.map Exchange.call ++ [sent.call]))
    0 < session.config.pollInterval →
      ∀ number, line.Decides number → session.config.confirmationTimeout < line.arrived number

/-- How a wait for a transaction fails that comes to nothing. -/
inductive Lapses (session : Session) (hash : TxHash) : Failure → Prop where
  | expired : 0 < session.config.pollInterval →
      Lapses session hash (.notIncluded hash (session.config.confirmationTimeout / 1000))
  | unpaced : session.config.pollInterval = 0 → Lapses session hash .zeroPollInterval

/-- What ends a run that has made these exchanges, and the failure that it is reported as. -/
inductive Ruin (session : Session) (node : Node) (made : List Exchange) : Failure → Prop where
  | rejected {greeting : Exchange} {later : List Exchange} {failure : Failure} :
      made = greeting :: later → greeting.Rejects session.config failure →
      Ruin session node made failure
  | spoilt {greeting exchange : Exchange} {later : List Exchange} {failure : Failure} :
      made = greeting :: later → exchange ∈ later → exchange.Spoils (Taken made) failure →
      (∀ hash, ¬ session.Exhausted node made hash) → Ruin session node made failure
  | exhausted {hash : TxHash} {failure : Failure} : session.Exhausted node made hash →
      session.Lapses hash failure → Ruin session node made failure

theorem exists_lapses (session : Session) (hash : TxHash) :
    ∃ failure, session.Lapses hash failure := by
  rcases Nat.eq_zero_or_pos session.config.pollInterval with unpaced | paced
  · exact ⟨_, .unpaced unpaced⟩
  · exact ⟨_, .expired paced⟩

theorem Exhausted.taken {session : Session} {node : Node} {made : List Exchange} {hash : TxHash}
    (exhausted : session.Exhausted node made hash) : Taken made hash := by
  obtain ⟨before, sent, after, rfl, takes, -⟩ := exhausted
  exact ⟨sent, by simp, takes⟩

/-- Behind a handshake that is in order, either a reply or the time for a wait ends a run. -/
theorem ruin_iff_of_greeted {session : Session} {node : Node} {url : String} {reply : Reply}
    {chain : Nat} {later : List Exchange} {failure : Failure}
    (greets : greeted session.config reply = .ok chain) :
    session.Ruin node (⟨⟨url, .chainId⟩, reply⟩ :: later) failure ↔
      ((∃ exchange ∈ later,
          exchange.Spoils (Taken (⟨⟨url, .chainId⟩, reply⟩ :: later)) failure) ∧
        ∀ hash, ¬ session.Exhausted node (⟨⟨url, .chainId⟩, reply⟩ :: later) hash) ∨
      ∃ hash, session.Exhausted node (⟨⟨url, .chainId⟩, reply⟩ :: later) hash ∧
        session.Lapses hash failure := by
  constructor
  · intro ruin
    cases ruin with
    | rejected place rejects =>
      cases place
      cases greets.symm.trans (greeted_error_iff.mpr rejects)
    | spoilt place member spoils timely =>
      cases place
      exact .inl ⟨⟨_, member, spoils⟩, timely⟩
    | exhausted spent lapses => exact .inr ⟨_, spent, lapses⟩
  · rintro (⟨⟨exchange, member, spoils⟩, timely⟩ | ⟨hash, spent, lapses⟩)
    · exact .spoilt rfl member spoils timely
    · exact .exhausted spent lapses

end Session

/-- A wait has run out of time just where the whole fails so. -/
theorem Heeds.notIncluded_iff {session : Session} {hash other : TxHash} {seconds : Nat}
    {node : Node} {start final : Wire} {outcome : Except Failure α}
    (heeds : Heeds session hash node start outcome final)
    (positive : 0 < session.config.pollInterval) :
    outcome = .error (.notIncluded other seconds) ↔
      (∀ number, (session.timeline hash node start).Decides number →
        session.config.confirmationTimeout < (session.timeline hash node start).arrived number) ∧
      other = hash ∧ seconds = session.config.confirmationTimeout / 1000 := by
  have halt := session.confirm_halts positive hash node start
  obtain ⟨⟨later, _, _, ends⟩, brief⟩ := heeds
  rcases waited : session.await hash node start with ⟨failure | receipt, wire⟩
  · rw [Session.confirm_error waited] at halt
    rw [waited] at ends
    obtain ⟨-, rfl⟩ := ends
    constructor
    · intro failed
      cases failed
      exact halt.untold_of_expired rfl
    · rintro ⟨untold, rfl, rfl⟩
      exact congrArg Except.error (Except.error.inj (halt.expired_of_untold untold).1)
  · rw [Session.confirm_ok waited] at halt
    have prompt := brief receipt (by rw [waited])
    refine iff_of_false (fun failed => prompt _ failed rfl) ?_
    rintro ⟨untold, -, -⟩
    have expired := (halt.expired_of_untold untold).1
    dsimp only at expired
    split at expired <;> cases expired

/-- A handshake that is not in order is all that there is, and what is reported. -/
theorem Session.ruin_iff_of_rejected {session : Session} {node : Node} {url : String}
    {reply : Reply} {failure reported : Failure}
    (fails : greeted session.config reply = .error reported) :
    session.Ruin node [⟨⟨url, .chainId⟩, reply⟩] failure ↔ failure = reported := by
  constructor
  · intro ruin
    cases ruin with
    | rejected place rejects =>
      cases place
      cases fails.symm.trans (greeted_error_iff.mpr rejects)
      rfl
    | spoilt place member _ _ =>
      cases place
      contradiction
    | exhausted spent _ =>
      obtain ⟨sent, member, ⟨raw, broadcast⟩, -⟩ := spent.taken
      obtain rfl := List.mem_singleton.mp member
      cases broadcast
  · rintro rfl
    exact .rejected rfl (greeted_error_iff.mp fails)

namespace Invocation

variable {i : Invocation} {home : String} {files : Storage} {s : Settings} {session : Session}

theorem brief_or_taken (settled : i.settings home files = .ok s) (node : Node) :
    Brief (i.outcome home files node) ∨ ∃ hash, Taken (i.transcript home files node) hash := by
  by_cases online : i.command.isOnline
  · unfold transcript outcome
    rw [perform_of_online home files node online, settled]
    dsimp only
    rcases i.command.online_timed s node ⟨.idle, files, []⟩ with plain | ⟨session, _, timed⟩
    · exact .inl plain.brief
    · exact timed.brief_or_taken (List.nil_append _).symm
  · exact .inl (calm_of_offline home files node online).brief

/-- A run fails as waits do just where the wait for its broadcast comes to nothing. -/
theorem untimely_iff (settled : i.settings home files = .ok s)
    (opened : Session.new s.session = .ok session) (node : Node) (failure : Failure) :
    i.outcome home files node = .error failure ∧ failure.origin = .wait ↔
      ∃ hash, session.Exhausted node (i.transcript home files node) hash ∧
        session.Lapses hash failure := by
  have broken : i.outcome home files node = .error .zeroPollInterval ↔
      session.config.pollInterval = 0 ∧ ∃ sent ∈ i.transcript home files node, sent.Accepted := by
    rw [Session.new_config opened]
    exact (run_paced node settled).broken
  constructor
  · rintro ⟨failed, untimely⟩
    rcases brief_or_taken settled node with brief | ⟨taken, sent, member, takes⟩
    · exact absurd untimely (brief _ failed)
    · obtain ⟨before, after, place⟩ := List.append_of_mem member
      have heeds := heeds_of_taken settled place takes opened
      rcases Nat.eq_zero_or_pos session.config.pollInterval with unpaced | paced
      · cases (broken.mpr ⟨unpaced, sent, member, takes.accepted⟩).symm.trans failed
        exact ⟨taken, ⟨before, sent, after, place, takes, by omega⟩, .unpaced unpaced⟩
      · cases failure with
        | notIncluded hash seconds =>
          obtain ⟨untold, rfl, rfl⟩ := (heeds.notIncluded_iff paced).mp failed
          exact ⟨hash, ⟨before, sent, after, place, takes, fun _ => untold⟩, .expired paced⟩
        | zeroPollInterval => exact absurd (broken.mp failed).1 (Nat.ne_of_gt paced)
        | _ => contradiction
  · rintro ⟨hash, ⟨before, sent, after, place, takes, untold⟩, lapses⟩
    cases lapses with
    | expired paced =>
      have heeds := heeds_of_taken settled place takes opened
      exact ⟨(heeds.notIncluded_iff paced).mpr ⟨untold paced, rfl, rfl⟩, rfl⟩
    | unpaced none =>
      exact ⟨broken.mpr ⟨none, sent, by simp [place], takes.accepted⟩, rfl⟩

theorem offline_reports (settled : i.settings home files = .ok s) (node : Node)
    (offline : ¬ i.command.isOnline) : Reports .own (i.outcome home files node) := by
  have here : i.settings home (Desk.mk .idle files []).files = .ok s := settled
  unfold outcome perform
  cases asked : i.command with
  | initSettings force =>
    rw [run_of_initSettings asked]
    by_cases allowed : files.isThere (i.settingsPath home) = true → force = true
    · have saves := save_reports s files (i.settingsPath home)
      rw [initSettings_settled allowed here]
      dsimp only
      rcases saved : s.save files (i.settingsPath home) with ⟨_ | _, _⟩
      all_goals
        rw [saved] at saves
        exact saves
    · rw [Classical.not_imp, Bool.not_eq_true] at allowed
      rw [initSettings_kept allowed.1 allowed.2]
      exact reports_error.mpr rfl
  | showSettings =>
    have shows : i.run home = i.showSettings home := by
      unfold run
      rw [asked]
    have writes := document_reports s
    rw [shows, showSettings_eq here]
    cases written : s.document with
    | error failure =>
      rw [written] at writes
      exact reports_error.mpr (reports_error.mp writes)
    | ok document => exact reports_ok ()
  | _ => simp [asked, Command.isOnline] at offline

theorem untaken_of_reads {f : Findings} {made : List Exchange} {ending : Option Failure}
    (walk : Walk (i.route home files f) made ending) (reads : i.command.signs = false)
    (hash : TxHash) : ¬ Taken made hash := by
  rintro ⟨sent, member, takes⟩
  have opening : (i.opening home files f).Quiet := by
    apply Route.quiet_of_requests
    simp [Invocation.opening, Session.connectRoute, Request.isBroadcast]
  have quiet : (i.route home files f).Quiet :=
    Route.quiet_append.mpr ⟨opening, i.command.errand_quiet f.settings f.session f reads⟩
  exact walk.not_mem_of_quiet quiet takes.accepted.isBroadcast member

theorem greeted_of_walk {f : Findings} {made : List Exchange} {ending : Option Failure}
    (walk : Walk (i.route home files f) made ending)
    (settled : i.settings home files = .ok s) (opened : Session.new s.session = .ok session) :
    ∃ reply later, made = ⟨⟨session.url, .chainId⟩, reply⟩ :: later ∧
      ((later = [] ∧ ∃ failure, Session.greeted session.config reply = .error failure ∧
          ending = some failure) ∨
        (∃ chain, Session.greeted session.config reply = .ok chain) ∧
          Walk (i.command.errand s session f) later ending) := by
  obtain ⟨same, walk⟩ := walk.passed settled
  rw [same] at walk
  obtain ⟨created, walk⟩ := walk.passed opened
  rw [created] at walk
  cases walk with
  | answered greets walk => exact ⟨_, _, rfl, .inr ⟨⟨_, greets⟩, walk⟩⟩
  | refused fails => exact ⟨_, _, rfl, .inl ⟨rfl, _, fails, rfl⟩⟩

/-- Behind the handshake, the time for a wait ends a run or the first reply that spoils it. -/
theorem tells_of_errand {f : Findings} {ending : Option Failure} {node : Node} {reply : Reply}
    {later : List Exchange} (settled : i.settings home files = .ok s)
    (opened : Session.new s.session = .ok session)
    (shape : i.transcript home files node = ⟨⟨session.url, .chainId⟩, reply⟩ :: later)
    (errand : Walk (i.command.errand s session f) later ending)
    (ends : ∀ failure, i.outcome home files node = .error failure ↔ ending = some failure)
    (untaken : i.command.signs = false → ∀ hash, ¬ Taken (i.transcript home files node) hash)
    (failure : Failure) :
    i.outcome home files node = .error failure ∧ failure.origin ≠ .own ↔
      ((∃ exchange ∈ later, exchange.Spoils (Taken (i.transcript home files node)) failure) ∧
        ∀ hash, ¬ session.Exhausted node (i.transcript home files node) hash) ∨
      ∃ hash, session.Exhausted node (i.transcript home files node) hash ∧
        session.Lapses hash failure := by
  have untimely := untimely_iff settled opened node
  by_cases exhausted : ∃ hash, session.Exhausted node (i.transcript home files node) hash
  · obtain ⟨hash, outOfTime⟩ := exhausted
    obtain ⟨reported, lapses⟩ := session.exists_lapses hash
    have lapsed := ((untimely reported).mpr ⟨hash, outOfTime, lapses⟩).1
    constructor
    · rintro ⟨failed, -⟩
      cases lapsed.symm.trans failed
      exact .inr ⟨hash, outOfTime, lapses⟩
    · rintro (⟨-, timely⟩ | spent)
      · exact absurd outOfTime (timely hash)
      · obtain ⟨failed, wait⟩ := (untimely failure).mpr spent
        exact ⟨failed, by rw [wait]; nofun⟩
  · rw [not_exists] at exhausted
    have brief : Brief (i.outcome home files node) := by
      intro reported failed wait
      obtain ⟨hash, outOfTime, -⟩ := (untimely reported).mp ⟨failed, wait⟩
      exact exhausted hash outOfTime
    have within : later ⊆ i.transcript home files node := by
      rw [shape]
      exact List.subset_cons_self _ _
    have sorted := i.command.errand_sorts s session f untaken within errand
      (fun reported ended => brief reported ((ends reported).mpr ended)) failure
    constructor
    · rintro ⟨failed, foreign⟩
      exact .inl ⟨(sorted foreign).mp ((ends failure).mp failed), exhausted⟩
    · rintro (⟨spoilt, -⟩ | ⟨hash, outOfTime, -⟩)
      · have foreign : failure.origin ≠ .own := by
          obtain ⟨exchange, -, spoils⟩ := spoilt
          rw [spoils.origin]
          exact nofun
        exact ⟨(ends failure).mpr ((sorted foreign).mpr spoilt), foreign⟩
      · exact absurd outOfTime (exhausted hash)

/-- The failure of a run tells at which stage and in which way it has failed. With valid settings, a
run fails for anything but what is at hand just where its handshake is rejected, a later reply
spoils it or a wait comes to nothing, and it fails as that is reported. -/
theorem failure_tells_stage (settled : i.settings home files = .ok s)
    (opened : Session.new s.session = .ok session) (node : Node) (failure : Failure) :
    i.outcome home files node = .error failure ∧ failure.origin ≠ .own ↔
      session.Ruin node (i.transcript home files node) failure := by
  by_cases online : i.command.isOnline
  · obtain ⟨f, ending, walk, arrived, halted⟩ := (i.run_ends home files node online).walk
    have ends (failure : Failure) :
        i.outcome home files node = .error failure ↔ ending = some failure := by
      cases ending with
      | none => simp [arrived rfl]
      | some reported => simp [halted reported rfl]
    have untaken := untaken_of_reads walk
    obtain ⟨reply, later, shape, rest⟩ := greeted_of_walk walk settled opened
    rcases rest with ⟨rfl, reported, fails, ended⟩ | ⟨⟨chain, greets⟩, errand⟩
    · have foreign := Session.greeted_reports _ _ _ fails
      rw [ends, ended, shape, Session.ruin_iff_of_rejected fails]
      constructor
      · rintro ⟨same, -⟩
        exact (Option.some.inj same).symm
      · rintro rfl
        exact ⟨rfl, by rw [foreign]; nofun⟩
    · have tells := tells_of_errand settled opened shape errand ends untaken failure
      rw [tells, shape, Session.ruin_iff_of_greeted greets]
  · have silent := i.transcript_of_offline home files node (by simpa using online)
    refine iff_of_false ?_ ?_
    · rintro ⟨failed, foreign⟩
      exact foreign (offline_reports settled node online failure failed)
    · rw [silent]
      intro ruin
      cases ruin with
      | rejected place _ | spoilt place _ _ _ => cases place
      | exhausted spent _ =>
        obtain ⟨sent, member, -⟩ := spent.taken
        contradiction

end Invocation

/-- A refusal in the node's own words. -/
def denial : Reply := .error (.object [("code", .number "3"), ("message", .string "denied")])

def closedNode : Node := Node.scripted [⟨denial, 1⟩]

/-- Refuses to try the call of the sample run. -/
def denyingNode : Node := Node.scripted (sampleReplies ++ [⟨denial, 1⟩])

theorem closed_transcript : ∃ later, sampleInvocation.transcript "" sampleFiles closedNode =
    ⟨⟨sampleUrl, .chainId⟩, denial⟩ :: later := by
  obtain ⟨f, ending, walk, -, -⟩ := (sampleInvocation.run_ends "" sampleFiles closedNode rfl).walk
  unfold Invocation.transcript at walk ⊢
  generalize (sampleInvocation.perform "" sampleFiles closedNode).2.wire.calls = calls at walk ⊢
  obtain ⟨settings, walk⟩ := walk.passed sample_settings
  rw [settings] at walk
  obtain ⟨session, walk⟩ := walk.passed sample_opened
  rw [session] at walk
  obtain ⟨later, rfl⟩ := walk.asked
  exact ⟨_, rfl⟩

theorem trial_denied : Contract.rehearsed sampleMethod denial =
    .error (.contractCall "approve would revert: denied") := rfl

theorem denying_transcript : sampleInvocation.transcript "" sampleFiles denyingNode =
    denyingNode.exchanges [] sampleCalls := by
  obtain ⟨hash, wait, calls, ending, sent, walk⟩ := sample_tried [⟨denial, 1⟩]
  obtain ⟨rfl, -⟩ := walk.halted trial_denied
  exact sent

/-- The same refusal at two stages. -/
theorem failure_tells_stage_denied :
    sampleInvocation.settings "" sampleFiles = .ok sampleSettings ∧
    Session.new sampleSettings.session = .ok sampleSession ∧
    sampleInvocation.outcome "" sampleFiles closedNode = .error (.connection
      "http://localhost:8545" "server returned an error response: error code 3: denied") ∧
    sampleInvocation.outcome "" sampleFiles denyingNode =
      .error (.contractCall "approve would revert: denied") := by
  have tells := Invocation.failure_tells_stage sample_settings sample_opened
  have plain : ∀ call ∈ sampleCalls, call.request.isPlain := by
    simp [sampleCalls, Request.isPlain]
  refine ⟨sample_settings, sample_opened, ?_, ?_⟩
  · obtain ⟨later, asked⟩ := closed_transcript
    exact ((tells closedNode _).mpr (.rejected asked (.unreached rfl))).1
  · refine ((tells denyingNode _).mpr ?_).1
    rw [denying_transcript]
    refine .spoilt rfl (.tail _ (.tail _ (.tail _ (.tail _ (.head _)))))
      (.declined rfl (Contract.rehearsed_error_iff.mp trial_denied)) ?_
    intro hash exhausted
    obtain ⟨sent, member, takes⟩ := exhausted.taken
    exact Node.idle_of_plain plain sent member takes.accepted

end TokenClient
