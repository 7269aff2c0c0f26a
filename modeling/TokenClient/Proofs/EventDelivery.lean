import TokenClient.Proofs.EventReading
import TokenClient.Proofs.TokenDialogue

/-! Delivery of events. A node that keeps to one chain may fail and may report any heads; still the
batches of a cursor, put together, are the events of the blocks that the cursor has left behind. -/
namespace TokenClient.Token

/-- The log entries of the blocks from `first` up to the one before `last`. -/
def span (chain : Nat → List LogEntry) (first last : Nat) : List LogEntry :=
  (List.range' first (last - first)).flatMap chain

theorem span_append (chain : Nat → List LogEntry) {first middle last : Nat} (below : first ≤ middle)
    (above : middle ≤ last) :
    span chain first middle ++ span chain middle last = span chain first last := by
  have meeting : first + (middle - first) = middle := by omega
  have whole : last - first = (middle - first) + (last - middle) := by omega
  have joined : List.range' first (middle - first) ++ List.range' middle (last - middle) =
      List.range' first (last - first) := by
    rw [whole, ← List.range'_append_1, meeting]
  rw [span, span, span, ← List.flatMap_append, joined]

@[simp] theorem span_self (chain : Nat → List LogEntry) (block : Nat) :
    span chain block block = [] := by simp [span]

def recorded (entries : List LogEntry) : List Event :=
  entries.filterMap fun entry => (Event.decode entry).toOption.join

/-- An entry that is an event or of another kind, and no spoilt event. -/
def Sound (entry : LogEntry) : Prop := ∃ event, Event.decode entry = .ok event

@[simp] theorem recorded_append (first second : List LogEntry) :
    recorded (first ++ second) = recorded first ++ recorded second := List.filterMap_append

theorem decodeAll_ok {entries : List LogEntry} {events : List Event}
    (decoded : Event.decodeAll entries = .ok events) :
    events = recorded entries ∧ ∀ entry ∈ entries, Sound entry := by
  induction entries generalizing events with
  | nil =>
    cases decoded
    exact ⟨rfl, nofun⟩
  | cons entry rest ih =>
    unfold Event.decodeAll at decoded
    cases one : Event.decode entry with
    | error fault => simp [one] at decoded
    | ok event =>
      cases all : Event.decodeAll rest with
      | error fault => simp [one, all, Except.map] at decoded
      | ok more =>
        simp only [one, all, Except.map, Except.ok.injEq] at decoded
        obtain ⟨same, sound⟩ := ih all
        subst decoded
        refine ⟨?_, ?_⟩
        · cases event <;> simp [recorded, one, same, Except.toOption]
        · rintro other (_ | ⟨_, member⟩)
          · exact ⟨event, one⟩
          · exact sound other member

/-- The first spoilt entry has this fault. -/
def FirstSpoilt (entries : List LogEntry) (fault : EventFault) : Prop :=
  ∃ before entry after, entries = before ++ entry :: after ∧
    (∀ earlier ∈ before, Sound earlier) ∧ Event.decode entry = .error fault

theorem firstSpoilt_cons {first : LogEntry} {rest : List LogEntry} {fault : EventFault} :
    FirstSpoilt (first :: rest) fault ↔
      Event.decode first = .error fault ∨ Sound first ∧ FirstSpoilt rest fault := by
  constructor
  · rintro ⟨before, entry, after, split, sound, spoilt⟩
    cases before with
    | nil =>
      obtain ⟨rfl, _⟩ := List.cons.inj split
      exact .inl spoilt
    | cons earlier before =>
      obtain ⟨rfl, rfl⟩ := List.cons.inj split
      rw [List.forall_mem_cons] at sound
      exact .inr ⟨sound.1, before, entry, after, rfl, sound.2, spoilt⟩
  · rintro (spoilt | ⟨sound, before, entry, after, rfl, all, spoilt⟩)
    · exact ⟨[], first, rest, rfl, nofun, spoilt⟩
    · exact ⟨first :: before, entry, after, rfl, List.forall_mem_cons.mpr ⟨sound, all⟩, spoilt⟩

theorem decodeAll_eq_error_iff {entries : List LogEntry} {fault : EventFault} :
    Event.decodeAll entries = .error fault ↔ FirstSpoilt entries fault := by
  induction entries with
  | nil => simp [Event.decodeAll, FirstSpoilt]
  | cons first rest ih =>
    rw [firstSpoilt_cons, ← ih, Event.decodeAll]
    cases one : Event.decode first with
    | error other => simp [Sound, one]
    | ok event =>
      have sound : Sound first := ⟨event, one⟩
      cases Event.decodeAll rest <;> simp [Except.map, sound]

theorem decodeAll_of_sound {entries : List LogEntry} (sound : ∀ entry ∈ entries, Sound entry) :
    Event.decodeAll entries = .ok (recorded entries) := by
  cases decoded : Event.decodeAll entries with
  | error fault =>
    obtain ⟨before, entry, after, rfl, -, spoilt⟩ := decodeAll_eq_error_iff.mp decoded
    obtain ⟨event, fine⟩ := sound entry (by simp)
    cases spoilt.symm.trans fine
  | ok events => rw [(decodeAll_ok decoded).1]

/-- A node whose answers about one contract are those of a single chain. Which head it reports may
differ from call to call, and it need not answer at all. -/
structure Keeps (node : Node) (url : String) (emitter : Address) (chain : Nat → List LogEntry) :
    Prop where
  heads : ∀ past head,
    (node past ⟨url, .blockNumber⟩).reply.understood (Json.quantity? 64) = .ok head →
    head < 2 ^ 64 - 1
  logs : ∀ past first last entries,
    (node past ⟨url, .logs emitter first last⟩).reply.understood Cursor.entries? = .ok entries →
    entries = span chain first (last + 1)

namespace Cursor

def call (cursor : Cursor) (node : Node) (wire : Wire) : Except Failure (List Event) × Cursor :=
  match (cursor.nextBatch node wire).1 with
  | .ok done => done
  | .error failure => (.error failure, cursor)

def asks (cursor : Cursor) (node : Node) (wire : Wire) : List Call :=
  (cursor.nextBatch node wire).2.calls.drop wire.calls.length

def heard (cursor : Cursor) (node : Node) (calls : List Call) : Except RpcFault Nat :=
  (node calls cursor.headCall).reply.understood (Json.quantity? 64)

/-- The log entries up to a head, as the node tells them once it has reported that head. -/
def told (cursor : Cursor) (node : Node) (calls : List Call) (head : Nat) :
    Except RpcFault (List LogEntry) :=
  (node (calls ++ [cursor.headCall]) (cursor.logsCall head)).reply.understood entries?

/-- What a call can come to: its requests, its outcome, and the cursor afterwards. Only a batch that
has been read moves the cursor on. -/
inductive Called (node : Node) (cursor : Cursor) (calls : List Call) :
    List Call → Except Failure (List Event) → Cursor → Prop where
  | unheard {fault : RpcFault} (silent : cursor.heard node calls = .error fault) :
    Called node cursor calls [cursor.headCall] (.error (.rpc fault.message)) cursor
  | behind {head : Nat} (heard : cursor.heard node calls = .ok head)
      (behind : head < cursor.position) :
    Called node cursor calls [cursor.headCall] (.ok []) (cursor.seeing head)
  | untold {head : Nat} {fault : RpcFault} (heard : cursor.heard node calls = .ok head)
      (ahead : cursor.position ≤ head) (silent : cursor.told node calls head = .error fault) :
    Called node cursor calls [cursor.headCall, cursor.logsCall head] (.error (.rpc fault.message))
      (cursor.seeing head)
  | spoilt {head : Nat} {entries : List LogEntry} {fault : EventFault}
      (heard : cursor.heard node calls = .ok head) (ahead : cursor.position ≤ head)
      (told : cursor.told node calls head = .ok entries)
      (spoilt : Event.decodeAll entries = .error fault) :
    Called node cursor calls [cursor.headCall, cursor.logsCall head] (.error fault.failure)
      (cursor.seeing head)
  | batch {head : Nat} {entries : List LogEntry} {events : List Event}
      (heard : cursor.heard node calls = .ok head) (ahead : cursor.position ≤ head)
      (told : cursor.told node calls head = .ok entries)
      (decoded : Event.decodeAll entries = .ok events) :
    Called node cursor calls [cursor.headCall, cursor.logsCall head] (.ok events)
      (cursor.past head)

theorem nextBatch_called (cursor : Cursor) (node : Node) (wire : Wire) :
    ∃ asked outcome next,
      cursor.nextBatch node wire = (.ok (outcome, next), wire.afterAll node asked) ∧
        Called node cursor wire.calls asked outcome next := by
  rw [nextBatch_eq]
  cases heard : cursor.heard node wire.calls with
  | error fault =>
    have failed : Session.demanded (Json.quantity? 64) (node wire.calls cursor.headCall).reply =
        .error (.rpc fault.message) := congrArg (Except.mapError _) heard
    rw [failed]
    exact ⟨_, _, _, rfl, .unheard heard⟩
  | ok head =>
    simp only [Session.demanded_iff.mpr heard]
    by_cases behind : head < cursor.position
    · rw [if_pos behind]
      exact ⟨_, _, _, rfl, .behind heard behind⟩
    · have ahead := Nat.le_of_not_lt behind
      rw [if_neg behind]
      cases told : cursor.told node wire.calls head with
      | error fault =>
        simp only [Wire.after, fetched_of_untold told]
        exact ⟨_, _, _, rfl, .untold heard ahead told⟩
      | ok entries =>
        simp only [Wire.after, fetched_of_told told]
        cases decoded : Event.decodeAll entries with
        | error fault => exact ⟨_, _, _, rfl, .spoilt heard ahead told decoded⟩
        | ok events => exact ⟨_, _, _, rfl, .batch heard ahead told decoded⟩

/-- A call never fails around its outcome, and what it adds to the wire are its requests. -/
theorem nextBatch_eq_call (cursor : Cursor) (node : Node) (wire : Wire) :
    cursor.nextBatch node wire =
      (.ok (cursor.call node wire), wire.afterAll node (cursor.asks node wire)) := by
  obtain ⟨asked, outcome, next, shape, -⟩ := cursor.nextBatch_called node wire
  simp only [call, asks, shape, Wire.calls_afterAll, List.drop_left]

theorem called (cursor : Cursor) (node : Node) (wire : Wire) :
    Called node cursor wire.calls (cursor.asks node wire) (cursor.call node wire).1
      (cursor.call node wire).2 := by
  obtain ⟨asked, outcome, next, shape, called⟩ := cursor.nextBatch_called node wire
  simpa only [call, asks, shape, Wire.calls_afterAll, List.drop_left] using called

/-- What a call comes to depends on what the node tells and on nothing else. -/
theorem Called.unique {node : Node} {cursor next next' : Cursor} {calls asked asked' : List Call}
    {outcome outcome' : Except Failure (List Event)}
    (one : Called node cursor calls asked outcome next)
    (other : Called node cursor calls asked' outcome' next') :
    asked' = asked ∧ outcome' = outcome ∧ next' = next := by
  cases one <;> cases other <;> simp_all <;> omega

/-- Calls one after the other; between them the client may have asked for anything else. -/
def calls (node : Node) : Cursor → List Wire → List (Except Failure (List Event)) × Cursor
  | cursor, [] => ([], cursor)
  | cursor, wire :: rest =>
    let (outcome, next) := cursor.call node wire
    let (outcomes, last) := next.calls node rest
    (outcome :: outcomes, last)

theorem calls_cons {node : Node} {cursor next : Cursor} {wire : Wire} {rest : List Wire}
    {asked : List Call} {outcome : Except Failure (List Event)}
    (called : Called node cursor wire.calls asked outcome next) :
    cursor.calls node (wire :: rest) =
      (outcome :: (next.calls node rest).1, (next.calls node rest).2) := by
  obtain ⟨-, same, moved⟩ := called.unique (cursor.called node wire)
  rw [← same, ← moved]
  rfl

def delivered (outcomes : List (Except Failure (List Event))) : List Event :=
  outcomes.flatMap fun outcome => outcome.toOption.getD []

/-- What lies between two positions of a cursor is what has been handed out on the way. -/
structure Covers (chain : Nat → List LogEntry) (cursor next : Cursor) (events : List Event) :
    Prop where
  same : next.session = cursor.session ∧ next.address = cursor.address
  forward : cursor.position ≤ next.position
  bounded : next.position ≤ max cursor.position (2 ^ 64 - 1)
  whole : events = recorded (span chain cursor.position next.position)
  sound : ∀ entry ∈ span chain cursor.position next.position, Sound entry

theorem Covers.stay (chain : Nat → List LogEntry) {cursor next : Cursor}
    (same : next.session = cursor.session ∧ next.address = cursor.address)
    (stays : next.position = cursor.position) : Covers chain cursor next [] := by
  refine ⟨same, by omega, by omega, ?_, ?_⟩
  · simp [stays, recorded]
  · simp [stays]

theorem Covers.append {chain : Nat → List LogEntry} {cursor middle last : Cursor}
    {first second : List Event} (covers : Covers chain cursor middle first)
    (later : Covers chain middle last second) : Covers chain cursor last (first ++ second) := by
  have below := covers.forward
  have above := later.forward
  have joined := span_append chain below above
  have bounded := covers.bounded
  have boundedLater := later.bounded
  refine ⟨⟨later.same.1.trans covers.same.1, later.same.2.trans covers.same.2⟩, by omega, by omega,
    ?_, ?_⟩
  · rw [covers.whole, later.whole, ← joined, recorded_append]
  · intro entry member
    rw [← joined] at member
    rcases List.mem_append.mp member with member | member
    · exact covers.sound entry member
    · exact later.sound entry member

theorem Called.covers {node : Node} {cursor next : Cursor} {made asked : List Call}
    {outcome : Except Failure (List Event)} {chain : Nat → List LogEntry}
    (called : Called node cursor made asked outcome next)
    (keeps : Keeps node cursor.session.url cursor.address chain) :
    Covers chain cursor next (outcome.toOption.getD []) := by
  cases called with
  | unheard | behind | untold | spoilt => exact .stay chain ⟨rfl, rfl⟩ rfl
  | @batch head entries events heard ahead told decoded =>
    have low := keeps.heads _ head heard
    obtain rfl := keeps.logs _ _ _ entries told
    obtain ⟨same, sound⟩ := decodeAll_ok decoded
    exact ⟨⟨rfl, rfl⟩, by simp [past]; omega, by simp [past]; omega, same, sound⟩

theorem calls_cover (cursor : Cursor) (node : Node) (wires : List Wire)
    (chain : Nat → List LogEntry)
    (keeps : Keeps node cursor.session.url cursor.address chain) :
    Covers chain cursor (cursor.calls node wires).2 (delivered (cursor.calls node wires).1) := by
  induction wires generalizing cursor with
  | nil => exact .stay chain ⟨rfl, rfl⟩ rfl
  | cons wire rest ih =>
    have first := (cursor.called node wire).covers keeps
    have kept : Keeps node (cursor.call node wire).2.session.url
        (cursor.call node wire).2.address chain := by
      rw [first.same.1, first.same.2]
      exact keeps
    exact first.append (ih _ kept)

theorem Called.position_of_error {node : Node} {cursor next : Cursor} {made asked : List Call}
    {outcome : Except Failure (List Event)} {failure : Failure}
    (called : Called node cursor made asked outcome next) (failed : outcome = .error failure) :
    next.position = cursor.position := by
  cases called with
  | unheard | untold | spoilt => rfl
  | behind | batch => contradiction

theorem position_of_failed_call {cursor : Cursor} {node : Node} {wire : Wire} {failure : Failure}
    (failed : (cursor.call node wire).1 = .error failure) :
    (cursor.call node wire).2.position = cursor.position :=
  (cursor.called node wire).position_of_error failed

end Cursor

/-- Whatever heads the node reports and whichever calls fail, no event is lost and none is handed
out twice. -/
theorem events_delivered_once (contract : Contract) (start : Nat) (node : Node)
    (chain : Nat → List LogEntry)
    (keeps : Keeps node contract.session.url contract.address chain) (wires : List Wire) :
    let ran := (contract.eventsFrom start).calls node wires
    Cursor.delivered ran.1 = recorded (span chain start ran.2.position) ∧
    (∀ entry ∈ span chain start ran.2.position, Sound entry) ∧
    start ≤ ran.2.position ∧ ran.2.position ≤ max start (2 ^ 64 - 1) ∧
    ∀ wire failure, (ran.2.call node wire).1 = .error failure →
      (ran.2.call node wire).2.position = ran.2.position := by
  have covers := (contract.eventsFrom start).calls_cover node wires chain keeps
  exact ⟨covers.whole, covers.sound, covers.forward, covers.bounded,
    fun _ _ failed => Cursor.position_of_failed_call failed⟩

theorem entries_map {write : LogEntry → Json} {entries : List LogEntry}
    (readable : ∀ entry ∈ entries, LogEntry.ofJson? (write entry) = some entry) :
    Cursor.entries? (.array (entries.map write)) = some entries := by
  unfold Cursor.entries?
  induction entries with
  | nil => rfl
  | cons entry rest ih =>
    have first := readable entry (.head rest)
    have later := ih fun other member => readable other (.tail entry member)
    simp [first, later]

/-- A transfer of 5 units, and an entry that is none of the token's events. -/
def sampleEntries : List LogEntry :=
  [⟨0x51, [0xddf252ad1be2c89b69c2b068fc378daa952ba7f163c4a11628f55a4df523b3ef, 0xa1, 0xb2],
    Word.toBytes 5, none, none⟩, ⟨0x51, [], [1], none, none⟩]

/-- The spelling of an entry whose block and transaction are not known. -/
def entryJson (entry : LogEntry) : Json :=
  .object [("address", .string entry.emitter.text),
    ("topics", .array (entry.topics.map fun topic => .string (TxHash.text topic))),
    ("data", .string (Hex.text entry.data))]

theorem sampleEntries_sound : ∀ entry ∈ sampleEntries, Sound entry := by
  have transfer : sampleEntries[0] = Event.entry ⟨none, none, .transfer 0xa1 0xb2 5⟩ 0x51 := by
    rw [Event.entry, EventKind.topic, topics_hashed.1]
    decide +kernel
  have other : Event.Foreign sampleEntries[1] := nofun
  rintro entry (_ | ⟨_, _ | ⟨_, ⟨⟩⟩⟩)
  · exact ⟨_, transfer ▸ (Event.records_entry _ _).decode_eq⟩
  · exact ⟨_, Event.decode_of_foreign other⟩

theorem sampleEntries_readable :
    ∀ entry ∈ sampleEntries, LogEntry.ofJson? (entryJson entry) = some entry := by
  decide +kernel

def sampleChain (block : Nat) : List LogEntry := if block = 7 then sampleEntries else []

/-- Reports the head 9 at first, then heads that are behind, and drops every third call. -/
def unsteadyNode : Node := fun past call =>
  let reply : Reply :=
    if past.length % 3 = 2 then .dropped "lost"
    else match call.request with
      | .blockNumber => .result (.string (if past.length = 0 then "0x9" else "0x3"))
      | .logs _ first last => .result (.array ((span sampleChain first (last + 1)).map entryJson))
      | _ => .dropped "unknown"
  ⟨reply, 1⟩

theorem unsteady_heads : Json.quantity? 64 (.string "0x9") = some 9 ∧
    Json.quantity? 64 (.string "0x3") = some 3 := by
  decide +kernel

theorem unsteadyNode_keeps : Keeps unsteadyNode "http://node/" 0x51 sampleChain := by
  constructor
  · intro past head told
    obtain ⟨value, answered, read⟩ := understood_iff.mp told
    by_cases lost : past.length % 3 = 2
    · simp [unsteadyNode, lost, Reply.read] at answered
    · by_cases first : past.length = 0
      · simp only [unsteadyNode, first, Reply.read] at answered
        cases answered
        cases unsteady_heads.1.symm.trans read
        omega
      · simp only [unsteadyNode, lost, first, Reply.read] at answered
        cases answered
        cases unsteady_heads.2.symm.trans read
        omega
  · intro past first last entries told
    obtain ⟨value, answered, read⟩ := understood_iff.mp told
    by_cases lost : past.length % 3 = 2
    · simp [unsteadyNode, lost, Reply.read] at answered
    · simp only [unsteadyNode, lost, Reply.read] at answered
      cases answered
      have members : ∀ entry ∈ span sampleChain first (last + 1),
          LogEntry.ofJson? (entryJson entry) = some entry := by
        intro entry member
        obtain ⟨block, _, member⟩ := List.mem_flatMap.mp member
        unfold sampleChain at member
        split at member
        · exact sampleEntries_readable entry member
        · contradiction
      exact Option.some.inj (read.symm.trans (entries_map members))

/-- Three calls to that node: a batch, a lost question, and a head behind the cursor. -/
def unsteadyCalls : List (Except Failure (List Event)) × Cursor :=
  (Contract.eventsFrom ⟨⟨{}, "http://node/"⟩, 0x51⟩ 5).calls unsteadyNode
    [⟨[], 0⟩, ⟨[⟨"http://node/", .chainId⟩, ⟨"http://node/", .chainId⟩], 2⟩,
      ⟨[⟨"http://node/", .chainId⟩], 3⟩]

theorem unsteady_position : unsteadyCalls.2.position = 10 := by
  let cursor := Contract.eventsFrom ⟨⟨{}, "http://node/"⟩, 0x51⟩ 5
  have ahead : cursor.heard unsteadyNode [] = .ok 9 := understood_iff.mpr ⟨_, rfl, unsteady_heads.1⟩
  have told : cursor.told unsteadyNode [] 9 = .ok sampleEntries :=
    understood_iff.mpr ⟨_, rfl, entries_map sampleEntries_readable⟩
  have batch := Cursor.Called.batch ahead (by decide) told (decodeAll_of_sound sampleEntries_sound)
  have lost : (cursor.past 9).heard unsteadyNode
      [⟨"http://node/", .chainId⟩, ⟨"http://node/", .chainId⟩] = .error (.dropped "lost") := rfl
  have behind : (cursor.past 9).heard unsteadyNode [⟨"http://node/", .chainId⟩] = .ok 3 :=
    understood_iff.mpr ⟨_, rfl, unsteady_heads.2⟩
  rw [unsteadyCalls, Cursor.calls_cons batch, Cursor.calls_cons (.unheard lost),
    Cursor.calls_cons (.behind behind (by decide))]
  rfl

theorem events_delivered_once_unsteady :
    Keeps unsteadyNode "http://node/" 0x51 sampleChain ∧ unsteadyCalls.2.position = 10 ∧
    Cursor.delivered unsteadyCalls.1 = recorded (span sampleChain 5 10) := by
  have told := events_delivered_once ⟨⟨{}, "http://node/"⟩, 0x51⟩ 5 unsteadyNode sampleChain
    unsteadyNode_keeps [⟨[], 0⟩, ⟨[⟨"http://node/", .chainId⟩, ⟨"http://node/", .chainId⟩], 2⟩,
      ⟨[⟨"http://node/", .chainId⟩], 3⟩]
  refine ⟨unsteadyNode_keeps, unsteady_position, ?_⟩
  rw [← unsteady_position]
  exact told.1

end TokenClient.Token
