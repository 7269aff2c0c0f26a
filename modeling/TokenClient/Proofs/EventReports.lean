import TokenClient.Proofs.Broadcast
import TokenClient.Proofs.CursorRuns
import TokenClient.Proofs.EventLines

/-! What is printed about a token's events. A run prints a line for each of the token's entries, in
the order in which the node tells them, and how many there are; or it says that there are none; or
it fails and prints nothing. -/
namespace TokenClient

open Token

namespace Token.Event

/-- The first topic is that of a transfer or of an approval. -/
def Own (entry : LogEntry) : Prop :=
  entry.topics.head? = some transferTopic ∨ entry.topics.head? = some approvalTopic

instance : DecidablePred Own := fun entry =>
  inferInstanceAs (Decidable (entry.topics.head? = some transferTopic ∨
    entry.topics.head? = some approvalTopic))

/-- An entry of the token without two accounts and a value. -/
def Malformed (entry : LogEntry) : Prop :=
  Own entry ∧ ¬ (entry.topics.length = 3 ∧ 32 ≤ entry.data.length)

variable {entry : LogEntry}

theorem foreign_iff : Foreign entry ↔ ¬ Own entry := by
  unfold Foreign Own
  cases entry.topics.head? <;> simp

theorem malformed_iff : Malformed entry ↔ ∃ fault, decode entry = .error fault := by
  simp only [decode_eq_error_iff, exists_and_left, FirstUnmet.exists_iff, foreign_iff, not_not]
  simp [Malformed, requirements]

theorem sound_iff : Sound entry ↔ ¬ Malformed entry := by
  rw [malformed_iff, Sound]
  cases decode entry <;> simp

end Token.Event

namespace Report

def beyondLine (start head : Nat) : String :=
  "No events: block " ++ Decimal.text start ++ " is past the chain head (" ++ Decimal.text head ++
    ")."

def quietLine (start head : Nat) : String :=
  "No events between block " ++ Decimal.text start ++ " and " ++ Decimal.text head ++ "."

/-- The line tells of the event that the entry records. -/
def Tells (decimals : Nat) (entry : LogEntry) (line : String) : Prop :=
  ∃ event, Event.Records entry event ∧ line = eventLine event decimals

def summed (lines : List String) (start head : Nat) : List String :=
  if lines = [] then [quietLine start head]
  else lines ++ ["", Decimal.text lines.length ++ " event(s) total."]

theorem quietLine_ne_beyondLine (start head start' head' : Nat) :
    quietLine start head ≠ beyondLine start' head' := by
  unfold quietLine beyondLine
  generalize Decimal.text start = first, Decimal.text head = last, Decimal.text start' = first',
    Decimal.text head' = last'
  intro same
  have shown := congrArg String.toList same
  simp at shown

theorem summed_ne_beyondLine (lines : List String) (start head : Nat) :
    summed lines start head ≠ [beyondLine start head] := by
  unfold summed
  split
  · exact fun same => quietLine_ne_beyondLine _ _ _ _ (List.cons.inj same).1
  · intro same
    have count := congrArg List.length same
    simp at count

/-- Each entry of the token has its line, and no other entry has one. -/
theorem tells_recorded {entries : List LogEntry} (decimals : Nat)
    (sound : ∀ entry ∈ entries, Sound entry) :
    List.Forall₂ (Tells decimals) (entries.filter fun entry => Event.Own entry)
      ((recorded entries).map (eventLine · decimals)) := by
  induction entries with
  | nil => exact .nil
  | cons entry rest ih =>
    obtain ⟨⟨event?, decoded⟩, sound⟩ := List.forall_mem_cons.mp sound
    have later := ih sound
    cases event? with
    | none =>
      have other := Event.foreign_iff.mp (Event.decode_eq_none_iff.mp decoded)
      have unread : recorded (entry :: rest) = recorded rest := by
        simp [recorded, decoded, Except.toOption]
      rwa [List.filter_cons_of_neg (by simpa using other), unread]
    | some event =>
      have own : Event.Own entry := by
        by_contra other
        cases decoded.symm.trans (Event.decode_of_foreign (Event.foreign_iff.mpr other))
      have read : recorded (entry :: rest) = event :: recorded rest := by
        simp [recorded, decoded, Except.toOption]
      rw [List.filter_cons_of_pos (by simpa using own), read, List.map_cons]
      exact .cons ⟨event, Event.decode_eq_some_iff.mp decoded, rfl⟩ later

theorem eventsLines_of_behind {start head : Nat} (behind : head < start) (decimals : Nat) :
    eventsLines [] decimals start head = [beyondLine start head] := by
  rw [eventsLines, if_pos rfl, noEventsLine, if_pos behind]
  rfl

theorem eventsLines_of_ahead {start head : Nat} (ahead : start ≤ head) (events : List Event)
    (decimals : Nat) : eventsLines events decimals start head =
      summed (events.map (eventLine · decimals)) start head := by
  unfold eventsLines summed
  simp only [List.map_eq_nil_iff, List.length_map, noEventsLine, if_neg (Nat.not_lt.mpr ahead)]
  rfl

end Report

namespace Token.Contract

def greeting (contract : Contract) : Call := ⟨contract.session.url, .chainId⟩

def decimalsCall (contract : Contract) : Call :=
  ⟨contract.session.url, .call none contract.address Method.decimals.input⟩

def prelude (contract : Contract) : List Call := [contract.greeting, contract.decimalsCall]

/-- The log entries of the blocks from one on up to a head, as the node tells them in a run. -/
def entries (contract : Contract) (node : Node) (start head : Nat) :
    Except RpcFault (List LogEntry) :=
  (contract.eventsFrom start).told node contract.prelude head

end Token.Contract

theorem Shell.report_eq {x : Client (List String)} {node : Node} {desk : Desk}
    {lines : Except Failure (List String)} {wire : Wire} (ran : x node desk.wire = (lines, wire)) :
    ((liftM x : Shell (List String)) >>= Shell.print) node desk = (lines.map fun _ => (),
      { desk with wire, printed := desk.printed ++ lines.toOption.getD [] }) := by
  cases lines with
  | error failure =>
    rw [Shell.talk_error ran]
    simp [Except.map, Except.toOption]
  | ok lines =>
    rw [Shell.talk_ok ran]
    rfl

namespace Action

/-- The events of a contract that has told its decimals, in terms of one call for a batch. -/
theorem events_eq {contract : Contract} {text : String} {start decimals : Nat} {node : Node}
    (wire : Wire) {asked : List Call} {outcome : Except Failure (List Event)} {next : Cursor}
    (named : Account.parseAddress text = .ok contract.address)
    (told : Contract.viewed .decimals Abi.small (node wire.calls contract.decimalsCall).reply =
      .ok decimals)
    (called : Cursor.Called node (contract.eventsFrom start) (wire.calls ++ [contract.decimalsCall])
      asked outcome next) :
    events contract.session text start node wire =
      (outcome.map (Report.eventsLines · decimals start (next.lastHead.getD start)),
        (wire.after node contract.decimalsCall).afterAll node asked) := by
  let wire' := wire.after node contract.decimalsCall
  obtain ⟨asked', outcome', next', ran, again⟩ :=
    (contract.eventsFrom start).nextBatch_called node wire'
  obtain ⟨rfl, rfl, rfl⟩ := called.unique again
  have found : (liftM (contractAt contract.session text) : Client Contract) node wire =
      (.ok contract, wire) := by
    rw [contractAt, named]
    rfl
  have decimal : contract.decimals node wire = (.ok decimals, wire') := by
    rw [Contract.decimals, Contract.view_eq]
    exact congrArg (·, wire') told
  rw [events, Client.bind_ok found, Client.bind_ok decimal, Client.bind_ok ran]
  cases outcome' <;> rfl

end Action

namespace Invocation

def printed (i : Invocation) (home : String) (files : Storage) (node : Node) : List String :=
  (i.perform home files node).2.printed

/-- A run about the events of a contract from a block on, in which the node opens the session and
tells the decimals and the head. -/
structure Watches (i : Invocation) (home : String) (files : Storage) (node : Node)
    (contract : Contract) (start decimals head : Nat) : Prop where
  command : ∃ text, i.command = .events text start ∧
    Account.parseAddress text = .ok contract.address
  opened : ∃ s, i.settings home files = .ok s ∧
    (Session.connect s.session node .idle).1 = .ok contract.session
  decimals : Contract.viewed .decimals Abi.small
    (node [contract.greeting] contract.decimalsCall).reply = .ok decimals
  head : (contract.eventsFrom start).heard node contract.prelude = .ok head

section

variable {i : Invocation} {home : String} {files : Storage} {node : Node} {contract : Contract}
  {start decimals head : Nat}

theorem Watches.performed (watches : i.Watches home files node contract start decimals head)
    {asked : List Call} {outcome : Except Failure (List Event)} {next : Cursor}
    (called : Cursor.Called node (contract.eventsFrom start) contract.prelude asked outcome next) :
    i.outcome home files node = outcome.map (fun _ => ()) ∧
    i.printed home files node = (outcome.map
      (Report.eventsLines · decimals start (next.lastHead.getD start))).toOption.getD [] ∧
    i.requests home files node = (contract.prelude ++ asked).map Call.request := by
  obtain ⟨text, asks, named⟩ := watches.command
  obtain ⟨s, settled, opened⟩ := watches.opened
  have greeted := Session.connect_of_ok opened
  let wire := Wire.idle.after node contract.greeting
  have ran := Action.events_eq wire named watches.decimals called
  have carried : i.perform home files node =
      (Command.events text start).carryOut s contract.session node ⟨wire, files, []⟩ := by
    rw [perform_of_online home files node (by rw [asks]; rfl), settled, ← asks]
    exact Shell.talk_ok greeted
  have reported : (Command.events text start).carryOut s contract.session node ⟨wire, files, []⟩ =
      _ := Shell.report_eq ran
  rw [requests_eq, Invocation.outcome, printed, carried, reported]
  refine ⟨?_, List.nil_append _, ?_⟩
  · cases outcome <;> rfl
  · simp [Contract.prelude, wire, Wire.after, Wire.idle]

theorem Watches.of_behind (watches : i.Watches home files node contract start decimals head)
    (behind : head < start) : i.outcome home files node = .ok () ∧
      i.printed home files node = [Report.beyondLine start head] ∧
      i.requests home files node =
        [.chainId, .call none contract.address Method.decimals.input, .blockNumber] := by
  obtain ⟨asked, outcome, next, -, called⟩ :=
    (contract.eventsFrom start).nextBatch_called node ⟨contract.prelude, 0⟩
  obtain ⟨ended, shown, requested⟩ := watches.performed called
  obtain ⟨rfl, -, rfl⟩ := called.of_behind watches.head behind
  rw [called.lastHead_of_heard watches.head, Option.getD_some] at shown
  exact ⟨ended, shown.trans (Report.eventsLines_of_behind behind decimals), requested⟩

/-- With blocks to ask about, the entries that the node tells decide over the run. -/
theorem Watches.of_ahead (watches : i.Watches home files node contract start decimals head)
    (ahead : start ≤ head) : ∃ asked outcome next,
      Cursor.Fetches node (contract.eventsFrom start) contract.prelude asked outcome next head ∧
      i.outcome home files node = outcome.map (fun _ => ()) ∧
      i.printed home files node = (outcome.map fun events =>
        Report.summed (events.map (Report.eventLine · decimals)) start head).toOption.getD [] ∧
      i.requests home files node =
        [.chainId, .call none contract.address Method.decimals.input, .blockNumber,
          .logs contract.address start head] := by
  obtain ⟨asked, outcome, next, -, called⟩ :=
    (contract.eventsFrom start).nextBatch_called node ⟨contract.prelude, 0⟩
  obtain ⟨ended, shown, requested⟩ := watches.performed called
  have fetches := called.fetches watches.head ahead
  refine ⟨asked, outcome, next, fetches, ended, ?_, ?_⟩
  · simp only [shown, called.lastHead_of_heard watches.head, Option.getD_some,
      Report.eventsLines_of_ahead ahead]
  · rw [requested, fetches.asked]
    rfl

/-- What a run says about the events of a contract. -/
structure ReportsEvents (i : Invocation) (home : String) (files : Storage) (node : Node)
    (contract : Contract) (start decimals head : Nat) : Prop where
  beyond : head < start → i.outcome home files node = .ok () ∧
    i.printed home files node = [Report.beyondLine start head] ∧
    i.requests home files node =
      [.chainId, .call none contract.address Method.decimals.input, .blockNumber]
  asked : start ≤ head → i.requests home files node =
    [.chainId, .call none contract.address Method.decimals.input, .blockNumber,
      .logs contract.address start head]
  /-- The form for a first block past the head is for that case alone, and it is the case in which
  no entries are asked for. -/
  form : (i.printed home files node = [Report.beyondLine start head] ↔ head < start) ∧
    ((∀ target first last, .logs target first last ∉ i.requests home files node) ↔ head < start)
  untold : start ≤ head → ∀ fault, contract.entries node start head = .error fault →
    i.outcome home files node = .error (.rpc fault.message) ∧ i.printed home files node = []
  spoilt : start ≤ head → ∀ entries, contract.entries node start head = .ok entries →
    (∃ entry ∈ entries, Event.Malformed entry) →
    (∃ fault : EventFault, i.outcome home files node = .error fault.failure) ∧
      i.printed home files node = []
  listed : start ≤ head → ∀ entries, contract.entries node start head = .ok entries →
    (∀ entry ∈ entries, ¬ Event.Malformed entry) →
    i.outcome home files node = .ok () ∧ ∃ lines,
      List.Forall₂ (Report.Tells decimals) (entries.filter fun entry => Event.Own entry) lines ∧
      i.printed home files node = Report.summed lines start head

theorem Watches.reports (watches : i.Watches home files node contract start decimals head) :
    i.ReportsEvents home files node contract start decimals head where
  beyond := watches.of_behind
  asked ahead := by
    obtain ⟨_, _, _, _, _, _, requested⟩ := watches.of_ahead ahead
    exact requested
  form := by
    rcases Nat.lt_or_ge head start with behind | ahead
    · obtain ⟨-, shown, requested⟩ := watches.of_behind behind
      exact ⟨iff_of_true shown behind, iff_of_true (by simp [requested]) behind⟩
    · obtain ⟨_, outcome, _, _, _, shown, requested⟩ := watches.of_ahead ahead
      have notBehind := Nat.not_lt.mpr ahead
      refine ⟨iff_of_false ?_ notBehind, iff_of_false (by simp [requested]) notBehind⟩
      rw [shown]
      cases outcome with
      | error failure => exact (List.cons_ne_nil _ _).symm
      | ok events => exact Report.summed_ne_beyondLine _ start head
  untold ahead fault silent := by
    obtain ⟨_, _, _, fetches, ended, shown, -⟩ := watches.of_ahead ahead
    obtain rfl := fetches.untold fault silent
    exact ⟨ended, shown⟩
  spoilt ahead entries told := by
    rintro ⟨entry, member, malformed⟩
    obtain ⟨_, _, _, fetches, ended, shown, -⟩ := watches.of_ahead ahead
    cases decoded : Event.decodeAll entries with
    | ok events =>
      have sound := (decodeAll_ok decoded).2 entry member
      exact absurd malformed (Event.sound_iff.mp sound)
    | error fault =>
      obtain rfl := fetches.spoilt entries fault told (decodeAll_eq_error_iff.mp decoded)
      exact ⟨⟨fault, ended⟩, shown⟩
  listed ahead entries told fine := by
    obtain ⟨_, _, _, fetches, ended, shown, -⟩ := watches.of_ahead ahead
    have sound : ∀ entry ∈ entries, Sound entry := fun entry member =>
      Event.sound_iff.mpr (fine entry member)
    obtain rfl := fetches.sound entries told sound
    exact ⟨ended, _, Report.tells_recorded decimals sound, shown⟩

end

/-- A run about the events of a token says all that the node tells of them and nothing else, and
what it says of two events is the same only where block, kind, accounts and value are. -/
theorem run_reports_events :
    (∀ (i : Invocation) home files node contract start decimals head,
      i.Watches home files node contract start decimals head →
      i.ReportsEvents home files node contract start decimals head) ∧
    ∀ (first second : Event) decimals,
      Report.eventLine first decimals = Report.eventLine second decimals ↔
        first.block = second.block ∧ first.kind = second.kind :=
  ⟨fun _ _ _ _ _ _ _ _ watches => watches.reports, fun _ _ _ => Report.eventLine_eq_iff⟩

end Invocation

theorem sampleEntries_own :
    (sampleEntries.filter fun entry => Event.Own entry) = [sampleEntries[0]] := by
  have transfer : Event.Own sampleEntries[0] := .inl (by rw [topics_hashed.1]; rfl)
  have other : ¬ Event.Own sampleEntries[1] := Event.foreign_iff.mp nofun
  change List.filter _ (sampleEntries[0] :: [sampleEntries[1]]) = _
  rw [List.filter_cons_of_pos (by simpa using transfer),
    List.filter_cons_of_neg (by simpa using other), List.filter_nil]

/-- Asks for the events of the token `0x51`. -/
def watchingInvocation (start : Nat) : Invocation :=
  { sampleInvocation with
    command := .events "0x0000000000000000000000000000000000000051" start }

/-- Reports the chain 9000, 18 decimals and the head 9, and then a transfer and a foreign entry. -/
def watchedNode : Node := Node.scripted [⟨.result (.string "0x2328"), 1⟩, ⟨wordReply 18, 1⟩,
  ⟨.result (.string "0x9"), 1⟩, ⟨.result (.array (sampleEntries.map entryJson)), 1⟩]

theorem watching_watches (start : Nat) : (watchingInvocation start).Watches "" sampleFiles
    watchedNode ⟨sampleSession, 0x51⟩ start 18 9 where
  command := ⟨_, rfl, ok_of_toOption (by decide +kernel)⟩
  opened := ⟨sampleSettings, sample_settings, ok_of_toOption (by decide +kernel)⟩
  decimals := viewed_decimals (by decide)
  head := understood_iff.mpr ⟨_, rfl, unsteady_heads.1⟩

theorem Invocation.run_reports_events_sample :
    (watchingInvocation 50).printed "" sampleFiles watchedNode =
        ["No events: block 50 is past the chain head (9)."] ∧
      (watchingInvocation 5).outcome "" sampleFiles watchedNode = .ok () ∧
      ∃ line, Report.Tells 18 sampleEntries[0] line ∧
        (watchingInvocation 5).printed "" sampleFiles watchedNode =
          [line, "", "1 event(s) total."] := by
  have beyond := run_reports_events.1 _ _ _ _ _ _ _ _ (watching_watches 50)
  have within := run_reports_events.1 _ _ _ _ _ _ _ _ (watching_watches 5)
  have told : (⟨sampleSession, 0x51⟩ : Contract).entries watchedNode 5 9 = .ok sampleEntries := by
    unfold Contract.entries
    exact understood_iff.mpr ⟨_, rfl, entries_map sampleEntries_readable⟩
  obtain ⟨ended, lines, tells, shown⟩ := within.listed (by decide) sampleEntries told
    fun entry member => Event.sound_iff.mp (sampleEntries_sound entry member)
  rw [sampleEntries_own, List.forall₂_cons_left_iff] at tells
  obtain ⟨line, rest, tells, nothing, rfl⟩ := tells
  cases nothing
  have past : Report.beyondLine 50 9 = "No events: block 50 is past the chain head (9)." := by
    decide +kernel
  have total : Decimal.text 1 ++ " event(s) total." = "1 event(s) total." := by decide +kernel
  have summed : Report.summed [line] 5 9 = [line, "", Decimal.text 1 ++ " event(s) total."] := rfl
  rw [summed, total] at shown
  exact ⟨past ▸ (beyond.beyond (by decide)).2.1, ended, line, tells, shown⟩

end TokenClient
