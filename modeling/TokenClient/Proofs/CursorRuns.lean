import Mathlib.Data.List.Chain
import TokenClient.Proofs.EventDelivery

/-! Runs of a cursor against any node. A batch that fails leaves the cursor where it stands; so the
blocks of the batches handed out follow on one another, and after a restart a cursor goes on as a
new one does. -/
namespace TokenClient.Token

/-- Pairs of a first and a last block that lie edge to edge from one block up to another. -/
inductive Tiles : Nat → List (Nat × Nat) → Nat → Prop where
  | nil {block : Nat} : Tiles block [] block
  | cons {first last stop : Nat} {rest : List (Nat × Nat)} (below : first ≤ last)
      (tiles : Tiles (last + 1) rest stop) : Tiles first ((first, last) :: rest) stop

namespace Tiles

variable {start middle stop : Nat} {ranges more : List (Nat × Nat)}

theorem append (tiles : Tiles start ranges middle) (later : Tiles middle more stop) :
    Tiles start (ranges ++ more) stop := by
  induction tiles with
  | nil => exact later
  | cons below _ ih => exact .cons below (ih later)

theorem within (tiles : Tiles start ranges stop) :
    start ≤ stop ∧ ∀ range ∈ ranges, start ≤ range.1 ∧ range.2 < stop := by
  induction tiles with
  | nil => exact ⟨Nat.le_refl _, nofun⟩
  | cons below _ ih =>
    obtain ⟨onward, inside⟩ := ih
    refine ⟨by omega, List.forall_mem_cons.mpr ⟨⟨Nat.le_refl _, by omega⟩, fun range member => ?_⟩⟩
    have bounds := inside range member
    omega

theorem apart (tiles : Tiles start ranges stop) :
    ranges.Pairwise fun range later => range.2 < later.1 := by
  induction tiles with
  | nil => exact .nil
  | cons _ tiles ih => exact .cons (fun later member => (tiles.within.2 later member).1) ih

theorem adjacent (tiles : Tiles start ranges stop) :
    ranges.IsChain fun range next => next.1 = range.2 + 1 := by
  induction tiles with
  | nil => exact .nil
  | cons _ tiles ih =>
    cases tiles with
    | nil => exact .singleton _
    | cons => exact .cons_cons rfl ih

end Tiles

def range? (call : Call) : Option (Nat × Nat) :=
  match call.request with
  | .logs _ first last => some (first, last)
  | _ => none

namespace Cursor

/-- What is done with a cursor, or with the session it belongs to. -/
inductive Move where
  | batch
  | restart (block : Nat)
  /-- The client asks for something else. -/
  | elsewhere (calls : List Call)

/-- What came of a move: the batch where it asked for one, the requests of the cursor, and how
things stand afterwards. -/
structure Leg where
  outcome : Option (Except Failure (List Event))
  asked : List Call
  cursor : Cursor
  wire : Wire

namespace Leg

def sought (leg : Leg) : List (Nat × Nat) := leg.asked.filterMap range?

/-- The blocks whose events the move has handed out. -/
def covered (leg : Leg) : List (Nat × Nat) :=
  match leg.outcome with
  | some (.ok _) => leg.sought
  | _ => []

/-- What a caller gets to see of a move: batch or failure, requests, and position. -/
def shown (leg : Leg) : Option (Except Failure (List Event)) × List Call × Nat :=
  (leg.outcome, leg.asked, leg.cursor.position)

end Leg

def move (cursor : Cursor) (node : Node) (wire : Wire) : Move → Leg
  | .batch =>
    ⟨some (cursor.call node wire).1, cursor.asks node wire, (cursor.call node wire).2,
      (cursor.nextBatch node wire).2⟩
  | .restart block => ⟨none, [], cursor.restart block, wire⟩
  | .elsewhere calls => ⟨none, [], cursor, wire.afterAll node calls⟩

/-- The legs of a run, move by move. -/
def journey (node : Node) : Cursor → Wire → List Move → List Leg
  | _, _, [] => []
  | cursor, wire, next :: rest =>
    let leg := cursor.move node wire next
    leg :: leg.cursor.journey node leg.wire rest

def after : Cursor → List Leg → Cursor
  | cursor, [] => cursor
  | _, leg :: rest => leg.cursor.after rest

/-- What one leg of a run without restarts does to the position. -/
structure Onward (cursor : Cursor) (leg : Leg) : Prop where
  same : leg.cursor.session = cursor.session ∧ leg.cursor.address = cursor.address
  tiles : Tiles cursor.position leg.covered leg.cursor.position
  here : ∀ range ∈ leg.sought, range.1 = cursor.position

section Calls

variable {node : Node} {cursor next : Cursor} {calls asked : List Call}
  {outcome : Except Failure (List Event)} {head : Nat}

/-- A call that asks for the blocks up to a head. All entries of the reply must be sound. -/
structure Fetches (node : Node) (cursor : Cursor) (calls asked : List Call)
    (outcome : Except Failure (List Event)) (next : Cursor) (head : Nat) : Prop where
  asked : asked = [cursor.headCall,
    ⟨cursor.session.url, .logs cursor.address cursor.position head⟩]
  untold : ∀ fault, cursor.told node calls head = .error fault →
    outcome = .error (.rpc fault.message)
  spoilt : ∀ entries fault, cursor.told node calls head = .ok entries →
    FirstSpoilt entries fault → outcome = .error fault.failure
  sound : ∀ entries, cursor.told node calls head = .ok entries →
    (∀ entry ∈ entries, Sound entry) → outcome = .ok (recorded entries)
  moved : ∀ events, outcome = .ok events → next.position = head + 1

/-- One call for the next batch, whatever the node replies. -/
structure Atomic (node : Node) (cursor : Cursor) (calls asked : List Call)
    (outcome : Except Failure (List Event)) (next : Cursor) : Prop where
  same : next.session = cursor.session ∧ next.address = cursor.address
  /-- A failure, wherever it arises, leaves the position as it is. -/
  failed : ∀ failure, outcome = .error failure → next.position = cursor.position
  unheard : ∀ fault, cursor.heard node calls = .error fault →
    outcome = .error (.rpc fault.message) ∧ next = cursor ∧ asked = [cursor.headCall]
  known : ∀ head, cursor.heard node calls = .ok head → next.lastHead = some head
  behind : ∀ head, cursor.heard node calls = .ok head → head < cursor.position →
    outcome = .ok [] ∧ next.position = cursor.position ∧ asked = [cursor.headCall]
  ahead : ∀ head, cursor.heard node calls = .ok head → cursor.position ≤ head →
    Fetches node cursor calls asked outcome next head
  /-- A position does not outgrow the numbers that it is kept in, if no head is the last of them. -/
  bounded : ∀ bound, cursor.position ≤ bound →
    (∀ head, cursor.heard node calls = .ok head → head < bound) → next.position ≤ bound

namespace Called

theorem of_unheard {fault : RpcFault} (called : Called node cursor calls asked outcome next)
    (silent : cursor.heard node calls = .error fault) :
    outcome = .error (.rpc fault.message) ∧ next = cursor ∧ asked = [cursor.headCall] := by
  cases called with
  | unheard other =>
    cases other.symm.trans silent
    exact ⟨rfl, rfl, rfl⟩
  | behind heard | untold heard | spoilt heard | batch heard => cases heard.symm.trans silent

theorem lastHead_of_heard (called : Called node cursor calls asked outcome next)
    (heard : cursor.heard node calls = .ok head) : next.lastHead = some head := by
  cases called with
  | unheard silent => cases silent.symm.trans heard
  | behind other | untold other | spoilt other | batch other =>
    cases other.symm.trans heard
    rfl

theorem of_behind (called : Called node cursor calls asked outcome next)
    (heard : cursor.heard node calls = .ok head) (behind : head < cursor.position) :
    outcome = .ok [] ∧ next.position = cursor.position ∧ asked = [cursor.headCall] := by
  cases called with
  | unheard silent => cases silent.symm.trans heard
  | behind => exact ⟨rfl, rfl, rfl⟩
  | untold other ahead | spoilt other ahead | batch other ahead =>
    cases other.symm.trans heard
    omega

theorem of_ahead (called : Called node cursor calls asked outcome next)
    (heard : cursor.heard node calls = .ok head) (ahead : cursor.position ≤ head) :
    asked = [cursor.headCall, cursor.logsCall head] ∧
      (∀ events, outcome = .ok events → next.position = head + 1) ∧
      outcome = match cursor.told node calls head with
        | .error fault => .error (.rpc fault.message)
        | .ok entries => (Event.decodeAll entries).mapError EventFault.failure := by
  cases called with
  | unheard silent => cases silent.symm.trans heard
  | behind other behind =>
    cases other.symm.trans heard
    omega
  | untold other _ silent =>
    cases other.symm.trans heard
    exact ⟨rfl, nofun, by rw [silent]⟩
  | spoilt other _ told decoded =>
    cases other.symm.trans heard
    exact ⟨rfl, nofun, by simp only [told, decoded, Except.mapError]⟩
  | batch other _ told decoded =>
    cases other.symm.trans heard
    exact ⟨rfl, fun _ _ => rfl, by simp only [told, decoded, Except.mapError]⟩

theorem fetches (called : Called node cursor calls asked outcome next)
    (heard : cursor.heard node calls = .ok head) (ahead : cursor.position ≤ head) :
    Fetches node cursor calls asked outcome next head := by
  obtain ⟨requests, moved, decided⟩ := called.of_ahead heard ahead
  refine ⟨requests, fun fault silent => ?_, fun entries fault told spoilt => ?_,
    fun entries told sound => ?_, moved⟩
  · rw [decided, silent]
  · simp only [decided, told, decodeAll_eq_error_iff.mpr spoilt, Except.mapError]
  · simp only [decided, told, decodeAll_of_sound sound, Except.mapError]

theorem same (called : Called node cursor calls asked outcome next) :
    next.session = cursor.session ∧ next.address = cursor.address := by
  cases called <;> exact ⟨rfl, rfl⟩

theorem bounded {bound : Nat} (called : Called node cursor calls asked outcome next)
    (start : cursor.position ≤ bound)
    (low : ∀ head, cursor.heard node calls = .ok head → head < bound) : next.position ≤ bound := by
  cases called with
  | unheard | behind | untold | spoilt => exact start
  | batch heard => exact low _ heard

theorem atomic (called : Called node cursor calls asked outcome next) :
    Atomic node cursor calls asked outcome next where
  same := called.same
  failed _ failed := called.position_of_error failed
  unheard _ := called.of_unheard
  known _ := called.lastHead_of_heard
  behind _ := called.of_behind
  ahead _ := called.fetches
  bounded _ := called.bounded

theorem onward (called : Called node cursor calls asked outcome next) (wire : Wire) :
    Onward cursor ⟨some outcome, asked, next, wire⟩ := by
  refine ⟨called.same, ?_, ?_⟩
  · cases called with
    | unheard | behind | untold | spoilt => exact .nil
    | batch _ ahead => exact .cons ahead .nil
  · cases called with
    | unheard | behind => exact nofun
    | untold | spoilt | batch => exact List.forall_mem_singleton.mpr rfl

end Called
end Calls

section Runs

variable (cursor : Cursor) (node : Node) (wire : Wire)

theorem move_onward {next : Move} (goesOn : ∀ block, next ≠ .restart block) :
    Onward cursor (cursor.move node wire next) := by
  cases next with
  | batch => exact (cursor.called node wire).onward _
  | restart block => exact absurd rfl (goesOn block)
  | elsewhere calls => exact ⟨⟨rfl, rfl⟩, .nil, nofun⟩

/-- A run without restarts: its batches cover the blocks from the first position to the last. -/
structure Contiguous (cursor : Cursor) (legs : List Leg) : Prop where
  same : ∀ leg ∈ legs,
    leg.cursor.session = cursor.session ∧ leg.cursor.address = cursor.address
  forward : (cursor.position :: legs.map fun leg => leg.cursor.position).Pairwise (· ≤ ·)
  tiles : Tiles cursor.position (legs.flatMap Leg.covered) (cursor.after legs).position
  /-- What has been handed out is never asked for again, not even in vain. -/
  once : legs.Pairwise fun leg later =>
    ∀ range ∈ leg.covered, ∀ other ∈ later.sought, range.2 < other.1

theorem journey_beyond {moves : List Move}
    (goesOn : ∀ next ∈ moves, ∀ block, next ≠ .restart block) :
    ∀ leg ∈ cursor.journey node wire moves, cursor.position ≤ leg.cursor.position ∧
      ∀ range ∈ leg.sought, cursor.position ≤ range.1 := by
  induction moves generalizing cursor wire with
  | nil => exact nofun
  | cons next rest ih =>
    obtain ⟨goesOn, onRest⟩ := List.forall_mem_cons.mp goesOn
    have first := cursor.move_onward node wire goesOn
    have further := first.tiles.within.1
    refine List.forall_mem_cons.mpr ⟨⟨further, fun range member => ?_⟩, fun leg member => ?_⟩
    · exact (first.here range member).ge
    · obtain ⟨beyond, sought⟩ := ih _ _ onRest leg member
      exact ⟨further.trans beyond, fun range member => further.trans (sought range member)⟩

theorem journey_contiguous {moves : List Move}
    (goesOn : ∀ next ∈ moves, ∀ block, next ≠ .restart block) :
    Contiguous cursor (cursor.journey node wire moves) := by
  induction moves generalizing cursor wire with
  | nil => exact ⟨nofun, List.pairwise_singleton _ _, .nil, .nil⟩
  | cons next rest ih =>
    have ahead := cursor.journey_beyond node wire goesOn
    obtain ⟨goesOn, onRest⟩ := List.forall_mem_cons.mp goesOn
    have first := cursor.move_onward node wire goesOn
    have later := ih (cursor.move node wire next).cursor (cursor.move node wire next).wire onRest
    refine ⟨List.forall_mem_cons.mpr ⟨first.same, fun leg member => ?_⟩, .cons ?_ later.forward,
      first.tiles.append later.tiles, .cons (fun leg member => ?_) later.once⟩
    · have same := later.same leg member
      exact ⟨same.1.trans first.same.1, same.2.trans first.same.2⟩
    · rw [List.forall_mem_map]
      exact fun leg member => (ahead leg member).1
    · -- Later legs start at or behind the position to which this one has moved.
      intro range covered other sought
      have behind := (first.tiles.within.2 range covered).2
      have beyond := (journey_beyond _ node _ onRest leg member).2 other sought
      omega

end Runs

/-- From here on the two nodes reply alike, whatever they are asked. -/
def Agree (node other : Node) (calls otherCalls : List Call) : Prop :=
  ∀ later call, (node (calls ++ later) call).reply = (other (otherCalls ++ later) call).reply

/-- Two cursors that may differ in the head they have seen. -/
structure Twins (cursor twin : Cursor) : Prop where
  session : twin.session = cursor.session
  address : twin.address = cursor.address
  position : twin.position = cursor.position

section Restarts

variable {node other : Node} {cursor twin : Cursor} {calls otherCalls : List Call}
  {wire otherWire : Wire}

theorem Agree.after (agree : Agree node other calls otherCalls) (made : List Call) :
    Agree node other (calls ++ made) (otherCalls ++ made) := fun later call => by
  simpa only [List.append_assoc] using agree (made ++ later) call

namespace Twins

theorem heard_eq (twins : Twins cursor twin) (agree : Agree node other calls otherCalls) :
    twin.heard other otherCalls = cursor.heard node calls := by
  have reply := agree [] cursor.headCall
  rw [List.append_nil, List.append_nil] at reply
  rw [heard, heard, reply, headCall, headCall, twins.session]

theorem told_eq (twins : Twins cursor twin) (agree : Agree node other calls otherCalls)
    (head : Nat) : twin.told other otherCalls head = cursor.told node calls head := by
  rw [told, told, agree, headCall, headCall, logsCall, logsCall, twins.session, twins.address,
    twins.position]

theorem called (twins : Twins cursor twin) (agree : Agree node other calls otherCalls)
    {asked otherAsked : List Call} {outcome otherOutcome : Except Failure (List Event)}
    {next otherNext : Cursor} (called : Called node cursor calls asked outcome next)
    (again : Called other twin otherCalls otherAsked otherOutcome otherNext) :
    otherAsked = asked ∧ otherOutcome = outcome ∧ Twins next otherNext := by
  have requests (head : Nat) :
      twin.headCall = cursor.headCall ∧ twin.logsCall head = cursor.logsCall head := by
    rw [headCall, headCall, logsCall, logsCall, twins.session, twins.address, twins.position]
    exact ⟨rfl, rfl⟩
  suffices same : otherAsked = asked ∧ otherOutcome = outcome ∧
      otherNext.position = next.position by
    refine ⟨same.1, same.2.1, ?_, ?_, same.2.2⟩
    · rw [again.same.1, called.same.1, twins.session]
    · rw [again.same.2, called.same.2, twins.address]
  -- Both calls read the same replies, so they end the same way.
  cases heard : cursor.heard node calls with
  | error fault =>
    obtain ⟨rfl, rfl, rfl⟩ := called.of_unheard heard
    obtain ⟨rfl, rfl, rfl⟩ := again.of_unheard ((twins.heard_eq agree).trans heard)
    exact ⟨by rw [(requests 0).1], rfl, twins.position⟩
  | ok head =>
    have reported := (twins.heard_eq agree).trans heard
    by_cases behind : head < cursor.position
    · obtain ⟨rfl, place, rfl⟩ := called.of_behind heard behind
      obtain ⟨rfl, otherPlace, rfl⟩ := again.of_behind reported (twins.position ▸ behind)
      exact ⟨by rw [(requests 0).1], rfl, by rw [place, otherPlace, twins.position]⟩
    · have ahead := Nat.le_of_not_lt behind
      obtain ⟨rfl, moved, decided⟩ := called.of_ahead heard ahead
      obtain ⟨rfl, otherMoved, otherDecided⟩ := again.of_ahead reported (twins.position ▸ ahead)
      have same : otherOutcome = outcome := by rw [decided, otherDecided, twins.told_eq agree]
      refine ⟨by rw [(requests head).1, (requests head).2], same, ?_⟩
      cases outcome with
      | error failure =>
        rw [called.position_of_error rfl, again.position_of_error same, twins.position]
      | ok events => rw [moved events rfl, otherMoved events same]

theorem move (twins : Twins cursor twin) (agree : Agree node other wire.calls otherWire.calls)
    (next : Move) :
    (twin.move other otherWire next).shown = (cursor.move node wire next).shown ∧
      Twins (cursor.move node wire next).cursor (twin.move other otherWire next).cursor ∧
      Agree node other (cursor.move node wire next).wire.calls
        (twin.move other otherWire next).wire.calls := by
  cases next with
  | batch =>
    obtain ⟨asked, outcome, onward⟩ :=
      twins.called agree (cursor.called node wire) (twin.called other otherWire)
    refine ⟨?_, onward, ?_⟩
    · simp only [Cursor.move, Leg.shown, asked, outcome, onward.position]
    · simp only [Cursor.move, nextBatch_eq_call, Wire.calls_afterAll, asked]
      exact agree.after _
  | restart block => exact ⟨rfl, ⟨twins.session, twins.address, rfl⟩, agree⟩
  | elsewhere calls =>
    refine ⟨?_, twins, ?_⟩
    · simp only [Cursor.move, Leg.shown, twins.position]
    · simp only [Cursor.move, Wire.calls_afterAll]
      exact agree.after calls

theorem journey (twins : Twins cursor twin) (agree : Agree node other wire.calls otherWire.calls)
    (moves : List Move) :
    (cursor.journey node wire moves).map Leg.shown =
      (twin.journey other otherWire moves).map Leg.shown := by
  induction moves generalizing cursor twin wire otherWire with
  | nil => rfl
  | cons next rest ih =>
    obtain ⟨shown, onward, agreed⟩ := twins.move agree next
    exact congrArg₂ List.cons shown.symm (ih onward agreed)

end Twins
end Restarts

/-- A call for the next batch either succeeds as a whole or leaves the position where it is, over a
run the batches follow on one another, and a restart is as good as a new cursor. -/
theorem nextBatch_atomic (cursor : Cursor) (node : Node) (wire : Wire) :
    cursor.nextBatch node wire =
        (.ok (cursor.call node wire), wire.afterAll node (cursor.asks node wire)) ∧
      Atomic node cursor wire.calls (cursor.asks node wire) (cursor.call node wire).1
        (cursor.call node wire).2 ∧
      (∀ moves, (∀ block, .restart block ∉ moves) →
        let legs := cursor.journey node wire moves
        Contiguous cursor legs ∧
        (legs.flatMap Leg.covered).Pairwise (fun range later => range.2 < later.1) ∧
        (legs.flatMap Leg.covered).IsChain fun range next => next.1 = range.2 + 1) ∧
      ∀ (contract : Contract) block moves other otherWire, contract.session = cursor.session →
        contract.address = cursor.address → Agree node other wire.calls otherWire.calls →
        ((cursor.restart block).journey node wire moves).map Leg.shown =
          ((contract.eventsFrom block).journey other otherWire moves).map Leg.shown := by
  refine ⟨cursor.nextBatch_eq_call node wire, (cursor.called node wire).atomic,
    fun moves goesOn => ?_, fun contract block moves other otherWire session address agree => ?_⟩
  · have contiguous := cursor.journey_contiguous node wire fun next member block same =>
      goesOn block (same ▸ member)
    exact ⟨contiguous, contiguous.tiles.apart, contiguous.tiles.adjacent⟩
  · have twins : Twins (cursor.restart block) (contract.eventsFrom block) := ⟨session, address, rfl⟩
    exact twins.journey agree moves

/-- After a batch, a lost question and a head that is behind, the cursor goes back to block 1. -/
example :
    ((Contract.eventsFrom ⟨⟨{}, "http://node/"⟩, 0x51⟩ 8).journey unsteadyNode .idle
      [.batch, .batch, .batch, .restart 1, .batch, .batch]).map (fun leg =>
        (leg.cursor.position, leg.sought)) =
      [(10, [(8, 9)]), (10, []), (10, []), (1, []), (1, [(1, 3)]), (4, [(1, 3)])] := by
  decide +kernel

end Cursor
end TokenClient.Token
