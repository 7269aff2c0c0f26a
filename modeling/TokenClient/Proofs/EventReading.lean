import TokenClient.Proofs.KeccakLanes
import TokenClient.Proofs.OrderedChecks
import TokenClient.Proofs.WordBytes
import TokenClient.Token.Event

/-! Which log entries are events. The first topic alone tells whether an entry is one of the token's
events; then it must have two accounts and a value, and what else it holds does not count. -/
namespace TokenClient.Token

def EventKind.topic : EventKind → Word
  | .transfer .. => transferTopic
  | .approval .. => approvalTopic

def EventKind.giver : EventKind → Address
  | .transfer sender _ _ => sender
  | .approval owner _ _ => owner

/-- Who gets the tokens, or may take them. -/
def EventKind.taker : EventKind → Address
  | .transfer _ recipient _ => recipient
  | .approval _ spender _ => spender

def EventKind.value : EventKind → Word
  | .transfer _ _ value | .approval _ _ value => value

theorem topics_hashed :
    transferTopic = 0xddf252ad1be2c89b69c2b068fc378daa952ba7f163c4a11628f55a4df523b3ef ∧
      approvalTopic = 0x8c5be1e5ebec7d5bd14f71427d1e84f3dd0314c0f7b2291e5b200ac8c7c3b925 := by
  simp only [transferTopic, approvalTopic, digest, Keccak.hash_eq_hashLanes]
  decide +kernel

theorem topics_apart : approvalTopic ≠ transferTopic := by
  rw [topics_hashed.1, topics_hashed.2]
  decide

namespace Event

/-- An entry that is none of the token's events, whatever its data. -/
def Foreign (entry : LogEntry) : Prop :=
  ∀ topic, entry.topics.head? = some topic → topic ≠ transferTopic ∧ topic ≠ approvalTopic

/-- What an entry of the token must meet, in the order in which it is looked at. -/
def requirements (entry : LogEntry) : List (Prop × EventFault) :=
  [(entry.topics.length = 3, .topicCount), (32 ≤ entry.data.length, .data .overrun)]

/-- The entry records this event: two topics end in its accounts, and its value stands in front of
the data. -/
structure Records (entry : LogEntry) (event : Event) : Prop where
  topics : ∃ giver taker, entry.topics = [event.kind.topic, giver, taker] ∧
    event.kind.giver.toBytes = giver.toBytes.rtake 20 ∧
    event.kind.taker.toBytes = taker.toBytes.rtake 20
  value : event.kind.value.toBytes = entry.data.take 32
  block : event.block = entry.block
  hash : event.hash = entry.hash

/-- The kind of events that a first topic announces. -/
inductive Announces : Word → (Address → Address → Word → EventKind) → Prop where
  | transfer : Announces transferTopic .transfer
  | approval : Announces approvalTopic .approval

section Decoding

variable {entry : LogEntry} {topic : Word} {make : Address → Address → Word → EventKind}
  {event : Event} {fault : EventFault}

theorem decode_of_foreign (foreign : Foreign entry) : decode entry = .ok none := by
  unfold decode
  cases front : entry.topics.head? with
  | none => rfl
  | some topic =>
    obtain ⟨noTransfer, noApproval⟩ := foreign topic front
    simp only [if_neg noTransfer, if_neg noApproval]

theorem decode_of_announces (announces : Announces topic make)
    (front : entry.topics.head? = some topic) :
    decode entry = (parts entry.topics entry.data).map fun (giver, taker, value) =>
      some ⟨entry.block, entry.hash, make giver taker value⟩ := by
  unfold decode
  rw [front]
  cases announces with
  | transfer => exact if_pos rfl
  | approval => exact (if_neg topics_apart).trans (if_pos rfl)

theorem foreign_or_announces (entry : LogEntry) :
    Foreign entry ∨ ∃ topic make, Announces topic make ∧ entry.topics.head? = some topic := by
  by_cases foreign : Foreign entry
  · exact .inl foreign
  · simp only [Foreign, not_forall, not_and_or, not_not] at foreign
    obtain ⟨topic, front, rfl | rfl⟩ := foreign
    · exact .inr ⟨_, _, .transfer, front⟩
    · exact .inr ⟨_, _, .approval, front⟩

theorem Announces.not_foreign (announces : Announces topic make)
    (front : entry.topics.head? = some topic) : ¬ Foreign entry := by
  intro foreign
  obtain ⟨noTransfer, noApproval⟩ := foreign topic front
  cases announces <;> contradiction

/-- What stands in an entry of three topics. -/
structure Holds (topics : List Word) (data : Bytes) (giver taker : Address) (value : Word) :
    Prop where
  accounts : ∃ topic first second, topics = [topic, first, second] ∧
    giver.toBytes = first.toBytes.rtake 20 ∧ taker.toBytes = second.toBytes.rtake 20
  value : value.toBytes = data.take 32

theorem parts_judged (topics : List Word) (data : Bytes) :
    Judged [(topics.length = 3, .topicCount), (32 ≤ data.length, .data .overrun)]
      (fun found => Holds topics data found.1 found.2.1 found.2.2) (parts topics data) := by
  unfold parts
  split
  · rename_i topic first second
    refine .met rfl ?_
    unfold Abi.word
    by_cases short : data.length < 32
    · simp only [if_pos short]
      exact FirstUnmet.here (Nat.not_le.mpr short)
    · simp only [if_neg short]
      refine .met (Nat.le_of_not_lt short) ⟨nofun, ⟨topic, first, second, rfl, ?_, ?_⟩, ?_⟩
      · exact Address.toBytes_setWidth first
      · exact Address.toBytes_setWidth second
      · exact Word.toBytes_ofBytes (by rw [List.length_take]; omega)
  · rename_i other
    refine FirstUnmet.here fun three => ?_
    obtain ⟨topic, first, second, rfl⟩ := List.length_eq_three.mp three
    exact other topic first second rfl

theorem Announces.made (announces : Announces topic make) (giver taker : Address) (value : Word) :
    (make giver taker value).topic = topic ∧ (make giver taker value).giver = giver ∧
      (make giver taker value).taker = taker ∧ (make giver taker value).value = value := by
  cases announces <;> exact ⟨rfl, rfl, rfl, rfl⟩

theorem announced (kind : EventKind) :
    ∃ make, Announces kind.topic make ∧ make kind.giver kind.taker kind.value = kind := by
  cases kind with
  | transfer => exact ⟨_, .transfer, rfl⟩
  | approval => exact ⟨_, .approval, rfl⟩

theorem Holds.unique {topics : List Word} {data : Bytes} {giver taker giver' taker' : Address}
    {value value' : Word} (holds : Holds topics data giver taker value)
    (again : Holds topics data giver' taker' value') :
    giver = giver' ∧ taker = taker' ∧ value = value' := by
  obtain ⟨_, _, _, rfl, first, second⟩ := holds.accounts
  obtain ⟨_, _, _, same, first', second'⟩ := again.accounts
  cases same
  exact ⟨Address.toBytes_injective (first.trans first'.symm),
    Address.toBytes_injective (second.trans second'.symm),
    Word.toBytes_injective (holds.value.trans again.value.symm)⟩

theorem decode_eq_none_iff : decode entry = .ok none ↔ Foreign entry := by
  constructor
  · intro decoded
    rcases foreign_or_announces entry with foreign | ⟨topic, make, announces, front⟩
    · exact foreign
    · rw [decode_of_announces announces front] at decoded
      cases found : parts entry.topics entry.data <;> simp [found, Except.map] at decoded
  · exact decode_of_foreign

theorem decode_eq_error_iff :
    decode entry = .error fault ↔ ¬ Foreign entry ∧ FirstUnmet (requirements entry) fault := by
  have judged := parts_judged entry.topics entry.data
  rcases foreign_or_announces entry with foreign | ⟨topic, make, announces, front⟩
  · rw [decode_of_foreign foreign]
    exact iff_of_false nofun fun spoilt => spoilt.1 foreign
  · rw [decode_of_announces announces front, and_iff_right (announces.not_foreign front),
      requirements, ← judged.error_iff]
    cases parts entry.topics entry.data <;> simp [Except.map]

theorem records_of_decode (decoded : decode entry = .ok (some event)) : Records entry event := by
  rcases foreign_or_announces entry with foreign | ⟨topic, make, announces, front⟩
  · cases (decode_of_foreign foreign).symm.trans decoded
  · have judged := parts_judged entry.topics entry.data
    rw [decode_of_announces announces front] at decoded
    cases found : parts entry.topics entry.data with
    | error fault => simp [found, Except.map] at decoded
    | ok held =>
      obtain ⟨giver, taker, value⟩ := held
      rw [found] at judged decoded
      cases decoded
      obtain ⟨isTopic, isGiver, isTaker, isValue⟩ := announces.made giver taker value
      obtain ⟨accounts, spelled⟩ := judged.2
      obtain ⟨topic', first, second, shape, endsFirst, endsSecond⟩ := accounts
      rw [shape, List.head?_cons, Option.some.injEq] at front
      refine ⟨⟨first, second, ?_, ?_, ?_⟩, ?_, rfl, rfl⟩
      · rw [shape, front, isTopic]
      · rw [isGiver, endsFirst]
      · rw [isTaker, endsSecond]
      · rw [isValue, spelled]

theorem Records.decode_eq (records : Records entry event) : decode entry = .ok (some event) := by
  obtain ⟨⟨first, second, shape, endsFirst, endsSecond⟩, spelled, block, hash⟩ := records
  obtain ⟨make, announces, made⟩ := announced event.kind
  have long : 32 ≤ entry.data.length := by
    have whole := congrArg List.length spelled
    rw [Word.toBytes, Bytes.length_ofNat, List.length_take] at whole
    omega
  have holds : Holds entry.topics entry.data event.kind.giver event.kind.taker
      event.kind.value := ⟨⟨_, first, second, shape, endsFirst, endsSecond⟩, spelled⟩
  -- What is read from the entry holds of it too, and there is one such reading only.
  obtain ⟨held, found, again⟩ :=
    (parts_judged entry.topics entry.data).exists_ok (by simp [shape, long])
  obtain ⟨isGiver, isTaker, isValue⟩ := again.unique holds
  rw [decode_of_announces announces (by rw [shape]; rfl), found]
  simp only [Except.map, isGiver, isTaker, isValue, made, ← block, ← hash]

theorem decode_eq_some_iff : decode entry = .ok (some event) ↔ Records entry event :=
  ⟨records_of_decode, Records.decode_eq⟩

/-- Two entries that agree in what the token's events are made of. -/
structure Alike (entry other : LogEntry) : Prop where
  front : other.topics.head? = entry.topics.head?
  accounts : other.topics.tail.map (fun topic => topic.toBytes.rtake 20) =
    entry.topics.tail.map fun topic => topic.toBytes.rtake 20
  data : other.data.take 32 = entry.data.take 32
  block : other.block = entry.block
  hash : other.hash = entry.hash

namespace Alike

variable {other : LogEntry}

theorem foreign_iff (alike : Alike entry other) : Foreign other ↔ Foreign entry := by
  rw [Foreign, Foreign, alike.front]

theorem requirements_eq (alike : Alike entry other) : requirements other = requirements entry := by
  have split (topics : List Word) :
      topics.length = topics.head?.toList.length + (topics.tail.map fun topic =>
        topic.toBytes.rtake 20).length := by
    cases topics <;> simp [Nat.add_comm]
  have size : other.topics.length = entry.topics.length := by
    rw [split, split entry.topics, alike.front, alike.accounts]
  have long : 32 ≤ other.data.length ↔ 32 ≤ entry.data.length := by
    have taken := congrArg List.length alike.data
    rw [List.length_take, List.length_take] at taken
    omega
  rw [requirements, requirements, size, propext long]

theorem records (alike : Alike entry other) (records : Records entry event) :
    Records other event := by
  obtain ⟨⟨first, second, shape, endsFirst, endsSecond⟩, spelled, block, hash⟩ := records
  have front := alike.front
  have accounts := alike.accounts
  rw [shape, List.head?_cons, List.head?_eq_some_iff] at front
  obtain ⟨tail, shape'⟩ := front
  rw [shape, shape', List.tail_cons, List.tail_cons, List.map_cons, List.map_singleton,
    List.map_eq_cons_iff] at accounts
  obtain ⟨first', rest, rfl, sameFirst, accounts⟩ := accounts
  obtain ⟨second', rfl, sameSecond⟩ := List.map_eq_singleton_iff.mp accounts
  exact ⟨⟨first', second', shape', endsFirst.trans sameFirst.symm,
    endsSecond.trans sameSecond.symm⟩, spelled.trans alike.data.symm, block.trans alike.block.symm,
    hash.trans alike.hash.symm⟩

theorem decode_eq (alike : Alike entry other) : decode other = decode entry := by
  cases decoded : decode entry with
  | error fault =>
    rw [decode_eq_error_iff, alike.foreign_iff, alike.requirements_eq]
    exact decode_eq_error_iff.mp decoded
  | ok found =>
    cases found with
    | none => exact decode_eq_none_iff.mpr (alike.foreign_iff.mpr (decode_eq_none_iff.mp decoded))
    | some event => exact decode_eq_some_iff.mpr (alike.records (decode_eq_some_iff.mp decoded))

end Alike

end Decoding

/-- The entry that a contract writes for an event. -/
def entry (event : Event) (emitter : Address) : LogEntry where
  emitter := emitter
  topics := [event.kind.topic, Abi.addressWord event.kind.giver, Abi.addressWord event.kind.taker]
  data := event.kind.value.toBytes
  block := event.block
  hash := event.hash

theorem records_entry (event : Event) (emitter : Address) :
    Records (event.entry emitter) event := by
  have ends (account : Address) :
      account.toBytes = (Abi.addressWord account).toBytes.rtake 20 := by
    rw [← Address.toBytes_setWidth, Abi.addressWord, BitVec.setWidth_setWidth_of_le _ (by decide),
      BitVec.setWidth_eq]
  have whole : event.kind.value.toBytes.take 32 = event.kind.value.toBytes :=
    List.take_of_length_le (Nat.le_of_eq (Bytes.length_ofNat 32 _))
  exact ⟨⟨_, _, rfl, ends _, ends _⟩, whole.symm, rfl, rfl⟩

/-- Every entry is of another kind, or spoilt, or an event; which of them it is and what the event
is follows from the first topic, the ends of the other two and the front of the data. -/
theorem decode_classifies (entry : LogEntry) :
    (decode entry = .ok none ↔ Foreign entry) ∧
      (∀ failure, (decode entry).mapError EventFault.failure = .error failure ↔
        ¬ Foreign entry ∧ ∃ fault, FirstUnmet (requirements entry) fault ∧
          failure = .contractCall fault.message) ∧
      (∀ event, decode entry = .ok (some event) ↔ Records entry event) ∧
      (∀ event emitter, decode (Event.entry event emitter) = .ok (some event)) ∧
      ∀ other, Alike entry other → decode other = decode entry := by
  refine ⟨decode_eq_none_iff, fun failure => ?_, fun _ => decode_eq_some_iff,
    fun event emitter => decode_eq_some_iff.mpr (records_entry event emitter),
    fun _ alike => alike.decode_eq⟩
  simp only [mapError_eq_error, decode_eq_error_iff, and_assoc, exists_and_left, EventFault.failure]

end Event
end TokenClient.Token
