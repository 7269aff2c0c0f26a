import Mathlib.Data.Nat.Find
import TokenClient.Proofs.SessionDialogue

/-! The times of a wait for a receipt. When each poll is due, when its reply is there and which
reply tells anything follows from the node alone; how long a wait may last only says where this
line is cut off. -/
namespace TokenClient.Session

/-- The polls of a wait, as they follow each other while no reply tells anything. -/
structure Timeline where
  node : Node
  start : Wire
  call : Call
  interval : Nat

def timeline (session : Session) (hash : TxHash) (node : Node) (start : Wire) : Timeline :=
  ⟨node, start, ⟨session.url, .receipt hash⟩, session.config.pollInterval⟩

namespace Timeline

def calls (line : Timeline) (number : Nat) : List Call :=
  line.start.calls ++ List.replicate number line.call

def delivery (line : Timeline) (number : Nat) : Delivery :=
  line.node (line.calls number) line.call

/-- When a poll goes out, counted from the start: at its multiple of the interval, or when the
reply before it is there if that takes longer. -/
def asked (line : Timeline) : Nat → Nat
  | 0 => 0
  | number + 1 =>
    max ((number + 1) * line.interval) (line.asked number + (line.delivery number).delay)

def arrived (line : Timeline) (number : Nat) : Nat :=
  line.asked number + (line.delivery number).delay

def wire (line : Timeline) : Nat → Wire
  | 0 => line.start
  | number + 1 => ⟨line.calls (number + 1), line.start.clock + line.arrived number⟩

/-- The node answers with null: the transaction is not included yet. -/
def Pending (line : Timeline) (number : Nat) : Prop :=
  (line.delivery number).reply.read = .ok .null

/-- No reply before this one tells anything, and this one does. -/
structure Decides (line : Timeline) (number : Nat) : Prop where
  earlier : ∀ i < number, line.Pending i
  tells : ¬ line.Pending number

variable {line : Timeline} {number : Nat}

theorem calls_succ (line : Timeline) (number : Nat) :
    line.calls (number + 1) = line.calls number ++ [line.call] := by
  simp [calls, List.replicate_succ']

@[simp] theorem calls_wire (line : Timeline) (number : Nat) :
    (line.wire number).calls = line.calls number := by
  cases number with
  | zero => exact (List.append_nil _).symm
  | succ number => rfl

/-- The clock of the line is the one by which the client decides when to ask. -/
theorem clock_wire (line : Timeline) (number : Nat) :
    max (line.start.clock + number * line.interval) (line.wire number).clock =
      line.start.clock + line.asked number := by
  cases number with
  | zero => simp [wire, asked]
  | succ number => simp [wire, asked, arrived, Nat.add_max_add_left]

theorem interval_le_asked (line : Timeline) (number : Nat) :
    number * line.interval ≤ line.asked number := by
  cases number with
  | zero => simp [asked]
  | succ number => exact Nat.le_max_left _ _

theorem asked_le_arrived (line : Timeline) (number : Nat) :
    line.asked number ≤ line.arrived number := Nat.le_add_right _ _

theorem arrived_le_asked (line : Timeline) {i j : Nat} (later : i < j) :
    line.arrived i ≤ line.asked j := by
  induction later with
  | refl => exact Nat.le_max_right _ _
  | @step last _ ih =>
    have next : line.arrived last ≤ line.asked (last + 1) := Nat.le_max_right _ _
    exact Nat.le_trans ih (Nat.le_trans (line.asked_le_arrived last) next)

theorem asked_mono (line : Timeline) {i j : Nat} (notLater : i ≤ j) :
    line.asked i ≤ line.asked j := by
  rcases Nat.eq_or_lt_of_le notLater with rfl | later
  · exact Nat.le_refl _
  · exact Nat.le_trans (line.asked_le_arrived i) (line.arrived_le_asked later)

theorem arrived_mono (line : Timeline) {i j : Nat} (notLater : i ≤ j) :
    line.arrived i ≤ line.arrived j := by
  rcases Nat.eq_or_lt_of_le notLater with rfl | later
  · exact Nat.le_refl _
  · exact Nat.le_trans (line.arrived_le_asked later) (line.asked_le_arrived j)

theorem pending_iff :
    line.Pending number ↔ (line.delivery number).reply.understood Receipt.answer? = .ok none := by
  rw [understood_iff]
  constructor
  · intro null
    exact ⟨.null, null, rfl⟩
  · rintro ⟨value, read, none⟩
    have null : value = .null := by
      cases value <;> first | rfl | simp [Receipt.answer?] at none
    rwa [null] at read

/-- The wait is not over before this poll: what came back told nothing, and came in time. -/
def Open (line : Timeline) (limit number : Nat) : Prop :=
  ∀ i < number, line.Pending i ∧ line.arrived i ≤ limit

/-- This poll is made: nothing has been told before it, and it is due in time. -/
structure Made (line : Timeline) (limit number : Nat) : Prop where
  earlier : ∀ i < number, line.Pending i
  inTime : line.asked number ≤ limit

theorem Made.isOpen {limit : Nat} (made : line.Made limit number) : line.Open limit number :=
  fun i before =>
    ⟨made.earlier i before, Nat.le_trans (line.arrived_le_asked before) made.inTime⟩

theorem Open.made {limit : Nat} (opened : line.Open limit number)
    (inTime : line.asked number ≤ limit) : line.Made limit number :=
  ⟨fun i before => (opened i before).1, inTime⟩

theorem Decides.made {limit : Nat} (decides : line.Decides number)
    (timely : line.arrived number ≤ limit) : line.Made limit number :=
  ⟨decides.earlier, Nat.le_trans (line.asked_le_arrived number) timely⟩

theorem Made.mono {limit i : Nat} (made : line.Made limit number) (notLater : i ≤ number) :
    line.Made limit i where
  earlier j before := made.earlier j (Nat.lt_of_lt_of_le before notLater)
  inTime := Nat.le_trans (line.asked_mono notLater) made.inTime

theorem Made.upTo {limit : Nat} (made : line.Made limit number) :
    ∀ i < number + 1, line.Made limit i :=
  fun _ before => made.mono (Nat.le_of_lt_succ before)

/-- With some time between two polls, every line comes to a poll that the wait does not outlast. -/
theorem exists_last (line : Timeline) (limit : Nat) (positive : 0 < line.interval) :
    ∃ number, line.Open limit number ∧ ¬ (line.Pending number ∧ line.arrived number ≤ limit) := by
  classical
  have stops : ∃ number, ¬ (line.Pending number ∧ line.arrived number ≤ limit) := by
    refine ⟨limit + 1, fun still => ?_⟩
    have paced := line.interval_le_asked (limit + 1)
    have spaced := Nat.le_mul_of_pos_right (limit + 1) positive
    have asked := line.asked_le_arrived (limit + 1)
    omega
  exact ⟨Nat.find stops, fun i before => not_not.mp (Nat.find_min stops before),
    Nat.find_spec stops⟩

/-- The polls made are the first ones, up to the one that is not. -/
theorem made_iff {limit count : Nat} (made : ∀ i < count, line.Made limit i)
    (last : ¬ line.Made limit count) (i : Nat) : i < count ↔ line.Made limit i := by
  refine ⟨made i, fun still => ?_⟩
  by_contra after
  exact last (still.mono (Nat.le_of_not_lt after))

/-- A limit has room for one poll at the start and one more for each interval. -/
theorem count_le {limit count : Nat} (positive : 0 < line.interval)
    (made : ∀ i < count, line.Made limit i) : count ≤ limit / line.interval + 1 := by
  cases count with
  | zero => exact Nat.zero_le _
  | succ last =>
    have inTime := (made last (Nat.lt_succ_self last)).inTime
    have spaced := Nat.le_trans (line.interval_le_asked last) inTime
    exact Nat.succ_le_succ ((Nat.le_div_iff_mul_le positive).mpr spaced)

end Timeline

/-- What the reply that ends a wait makes of it. -/
inductive Verdict (hash : TxHash) (reply : Reply) : Except Failure Receipt → Prop where
  | included {receipt : Receipt} :
      reply.understood Receipt.answer? = .ok (some receipt) → receipt.success = true →
      Verdict hash reply (.ok receipt)
  | reverted {receipt : Receipt} :
      reply.understood Receipt.answer? = .ok (some receipt) → receipt.success = false →
      Verdict hash reply (.error (.contractCall ("transaction " ++ hash.text ++ " reverted")))
  | refused {fault : RpcFault} :
      reply.understood Receipt.answer? = .error fault →
      Verdict hash reply (.error (.rpc fault.message))

theorem Verdict.eq_of_fault {hash : TxHash} {reply : Reply} {outcome : Except Failure Receipt}
    {fault : RpcFault} (verdict : Verdict hash reply outcome)
    (refused : reply.understood Receipt.answer? = .error fault) :
    outcome = .error (.rpc fault.message) := by
  cases verdict with
  | included told _ => cases told.symm.trans refused
  | reverted told _ => cases told.symm.trans refused
  | refused told =>
    cases told.symm.trans refused
    rfl

/-- How a wait on a line comes to its end, and at which poll. -/
inductive Halt (line : Timeline) (limit : Nat) (hash : TxHash) :
    Except Failure Receipt → Wire → Prop where
  | decided {number : Nat} {outcome : Except Failure Receipt} : line.Decides number →
      line.arrived number ≤ limit → Verdict hash (line.delivery number).reply outcome →
      Halt line limit hash outcome (line.wire (number + 1))
  /-- The limit passes while a reply is outstanding. -/
  | late {number : Nat} : line.Made limit number → limit < line.arrived number →
      Halt line limit hash (.error (.notIncluded hash (limit / 1000)))
        ⟨line.calls (number + 1), line.start.clock + limit⟩
  /-- The limit passes between two polls. -/
  | expired {number : Nat} : line.Open limit number → limit < line.asked number →
      Halt line limit hash (.error (.notIncluded hash (limit / 1000)))
        ⟨line.calls number, line.start.clock + limit⟩

section Runs

variable {session : Session} {hash : TxHash} {node : Node} {start final : Wire} {number : Nat}

theorem confirm_error {failure : Failure}
    (failed : session.await hash node start = (.error failure, final)) :
    session.confirm hash node start = (.error failure, final) := by
  simp only [confirm, bind, Client.bind, failed]

theorem confirm_ok {receipt : Receipt}
    (received : session.await hash node start = (.ok receipt, final)) :
    session.confirm hash node start = (if receipt.success then .ok receipt
      else .error (.contractCall ("transaction " ++ hash.text ++ " reverted")), final) := by
  simp only [confirm, bind, Client.bind, received]
  split <;> rfl

/-- The terms of a wait that starts on this wire. -/
def schedule (session : Session) (positive : 0 < session.config.pollInterval) (start : Wire) :
    Schedule :=
  ⟨start.clock, session.config.pollInterval, session.config.confirmationTimeout, positive⟩

theorem poll_on_line (positive : 0 < session.config.pollInterval) (hash : TxHash) (node : Node)
    (start : Wire) (number : Nat) :
    let s := session.schedule positive start
    let line := session.timeline hash node start
    let limit := session.config.confirmationTimeout
    s.poll session.url hash number node (line.wire number) =
      if limit < line.asked number then s.expire hash (line.wire number)
      else if limit < line.arrived number then s.expire hash (line.wire (number + 1))
      else match (line.delivery number).reply.understood Receipt.answer? with
        | .error fault => (.error (.rpc fault.message), line.wire (number + 1))
        | .ok none => s.poll session.url hash (number + 1) node (line.wire (number + 1))
        | .ok (some receipt) => (.ok receipt, line.wire (number + 1)) := by
  intro s line limit
  have due : max (s.start + number * s.interval) (line.wire number).clock =
      start.clock + line.asked number := line.clock_wire number
  have delivered : node (line.calls number) ⟨session.url, .receipt hash⟩ =
      line.delivery number := rfl
  have next : (⟨line.calls number ++ [⟨session.url, .receipt hash⟩],
      start.clock + line.arrived number⟩ : Wire) = line.wire (number + 1) :=
    congrArg (Wire.mk · _) (line.calls_succ number).symm
  have passes (elapsed : Nat) : s.deadline < start.clock + elapsed ↔ limit < elapsed :=
    Nat.add_lt_add_iff_left
  have there : start.clock + line.asked number + (line.delivery number).delay =
      start.clock + line.arrived number := Nat.add_assoc _ _ _
  have polled := s.poll_eq session.url hash number node (line.wire number)
  simp only [due, line.calls_wire, delivered, there, next, passes] at polled
  exact polled

/-- While replies without a receipt come in time, the wait goes on from poll to poll along its
line. -/
theorem await_reaches (positive : 0 < session.config.pollInterval)
    (opened : (session.timeline hash node start).Open session.config.confirmationTimeout number) :
    session.await hash node start = (session.schedule positive start).poll session.url hash number
      node ((session.timeline hash node start).wire number) := by
  induction number with
  | zero => exact dif_pos positive
  | succ number ih =>
    obtain ⟨pending, timely⟩ := opened number (Nat.lt_succ_self number)
    have before := fun i less => opened i (Nat.lt_succ_of_lt less)
    have inTime := Nat.le_trans (Timeline.asked_le_arrived _ number) timely
    rw [ih before, poll_on_line, if_neg (Nat.not_lt.mpr inTime), if_neg (Nat.not_lt.mpr timely),
      Timeline.pending_iff.mp pending]

/-- The first reply that tells anything decides the wait, if it is there in time. -/
theorem confirm_decides (positive : 0 < session.config.pollInterval)
    (decides : (session.timeline hash node start).Decides number)
    (timely : (session.timeline hash node start).arrived number ≤
      session.config.confirmationTimeout) :
    let line := session.timeline hash node start
    Verdict hash (line.delivery number).reply (session.confirm hash node start).1 ∧
      (session.confirm hash node start).2 = line.wire (number + 1) := by
  intro line
  have made : line.Made session.config.confirmationTimeout number := decides.made timely
  have polled := await_reaches positive made.isOpen
  rw [poll_on_line, if_neg (Nat.not_lt.mpr made.inTime), if_neg (Nat.not_lt.mpr timely)] at polled
  cases told : (line.delivery number).reply.understood Receipt.answer? with
  | error fault =>
    simp only [line, told] at polled
    rw [confirm_error polled]
    exact ⟨.refused told, rfl⟩
  | ok answer =>
    cases answer with
    | none => exact absurd (Timeline.pending_iff.mpr told) decides.tells
    | some receipt =>
      simp only [line, told] at polled
      rw [confirm_ok polled]
      refine ⟨?_, rfl⟩
      cases success : receipt.success with
      | true => exact .included told success
      | false => exact .reverted told success

theorem confirm_halts (session : Session) (positive : 0 < session.config.pollInterval)
    (hash : TxHash) (node : Node) (start : Wire) :
    Halt (session.timeline hash node start) session.config.confirmationTimeout hash
      (session.confirm hash node start).1 (session.confirm hash node start).2 := by
  obtain ⟨number, opened, stops⟩ := (session.timeline hash node start).exists_last
    session.config.confirmationTimeout positive
  have polled := await_reaches positive opened
  rw [poll_on_line] at polled
  by_cases passed :
      session.config.confirmationTimeout < (session.timeline hash node start).asked number
  · rw [if_pos passed] at polled
    rw [confirm_error polled, Timeline.calls_wire]
    exact .expired opened passed
  · rw [if_neg passed] at polled
    have inTime := Nat.not_lt.mp passed
    by_cases late :
        session.config.confirmationTimeout < (session.timeline hash node start).arrived number
    · rw [if_pos late] at polled
      rw [confirm_error polled, Timeline.calls_wire]
      exact .late (opened.made inTime) late
    · have timely := Nat.not_lt.mp late
      have decides : (session.timeline hash node start).Decides number :=
        ⟨(opened.made inTime).earlier, fun pending => stops ⟨pending, timely⟩⟩
      obtain ⟨verdict, ends⟩ := confirm_decides positive decides timely
      rw [ends]
      exact .decided decides timely verdict

/-- A wait that keeps to its line: what it asks and when, when it is over, and with what. -/
structure OnTime (line : Timeline) (limit : Nat) (hash : TxHash) (outcome : Except Failure Receipt)
    (final : Wire) : Prop where
  question : line.call.request.method = "eth_getTransactionReceipt" ∧
    line.call.request.params? = some [.string hash.text]
  elapsed : line.start.clock ≤ final.clock ∧ final.clock ≤ line.start.clock + limit
  requests : ∃ count, final.calls = line.calls count ∧
    (∀ number, number < count ↔ line.Made limit number) ∧ count ≤ limit / line.interval + 1
  decided : ∀ number, line.Decides number → line.arrived number ≤ limit →
    Verdict hash (line.delivery number).reply outcome ∧
      final = ⟨line.calls (number + 1), line.start.clock + line.arrived number⟩
  expired : (∀ number, line.Decides number → limit < line.arrived number) →
    outcome = .error (.notIncluded hash (limit / 1000)) ∧
      final.clock = line.start.clock + limit

theorem Halt.requests {line : Timeline} {limit : Nat} {outcome : Except Failure Receipt}
    (halt : Halt line limit hash outcome final) :
    ∃ count, final.calls = line.calls count ∧
      ∀ number, number < count ↔ line.Made limit number := by
  cases halt with
  | @decided last _ decides timely _ =>
    refine ⟨last + 1, rfl, Timeline.made_iff (decides.made timely).upTo ?_⟩
    exact fun next => decides.tells (next.earlier last (Nat.lt_succ_self last))
  | @late last made late =>
    refine ⟨last + 1, rfl, Timeline.made_iff made.upTo ?_⟩
    intro next
    have timely := (next.isOpen last (Nat.lt_succ_self last)).2
    omega
  | @expired count opened passed =>
    refine ⟨count, rfl, Timeline.made_iff (fun i before => ?_) fun next => ?_⟩
    · have earlier : line.Open limit i := fun j less => opened j (Nat.lt_trans less before)
      exact earlier.made (Nat.le_trans (line.asked_le_arrived i) (opened i before).2)
    · exact absurd next.inTime (Nat.not_le.mpr passed)

theorem Halt.elapsed {line : Timeline} {limit : Nat} {outcome : Except Failure Receipt}
    (halt : Halt line limit hash outcome final) :
    line.start.clock ≤ final.clock ∧ final.clock ≤ line.start.clock + limit := by
  cases halt with
  | decided _ timely _ => exact ⟨Nat.le_add_right _ _, Nat.add_le_add_left timely _⟩
  | late _ _ => exact ⟨Nat.le_add_right _ _, Nat.le_refl _⟩
  | expired _ _ => exact ⟨Nat.le_add_right _ _, Nat.le_refl _⟩

theorem Halt.expired_of_untold {line : Timeline} {limit : Nat} {outcome : Except Failure Receipt}
    (halt : Halt line limit hash outcome final)
    (untold : ∀ number, line.Decides number → limit < line.arrived number) :
    outcome = .error (.notIncluded hash (limit / 1000)) ∧
      final.clock = line.start.clock + limit := by
  cases halt with
  | decided decides timely _ => exact absurd (untold _ decides) (Nat.not_lt.mpr timely)
  | late _ _ => exact ⟨rfl, rfl⟩
  | expired _ _ => exact ⟨rfl, rfl⟩

theorem Halt.untold_of_expired {line : Timeline} {limit seconds : Nat} {other : TxHash}
    {outcome : Except Failure Receipt} (halt : Halt line limit hash outcome final)
    (expired : outcome = .error (.notIncluded other seconds)) :
    (∀ number, line.Decides number → limit < line.arrived number) ∧ other = hash ∧
      seconds = limit / 1000 := by
  cases halt with
  | decided _ _ verdict =>
    rw [expired] at verdict
    cases verdict
  | @late last made late =>
    cases expired
    refine ⟨fun number decides => ?_, rfl, rfl⟩
    have notBefore : last ≤ number :=
      Nat.le_of_not_lt fun before => decides.tells (made.earlier number before)
    exact Nat.lt_of_lt_of_le late (line.arrived_mono notBefore)
  | @expired count opened passed =>
    cases expired
    refine ⟨fun number decides => ?_, rfl, rfl⟩
    have notBefore : count ≤ number :=
      Nat.le_of_not_lt fun before => decides.tells (opened number before).1
    exact Nat.lt_of_lt_of_le passed
      (Nat.le_trans (line.asked_mono notBefore) (line.asked_le_arrived number))

/-- However the node replies and however long its replies take, a wait keeps to its line; and each
poll that is made is the one that the wait comes to with its clock at the poll's time. -/
theorem confirm_on_time (session : Session) (positive : 0 < session.config.pollInterval)
    (hash : TxHash) (node : Node) (start : Wire) :
    let line := session.timeline hash node start
    let limit := session.config.confirmationTimeout
    OnTime line limit hash (session.confirm hash node start).1 (session.confirm hash node start).2 ∧
    ∀ number, line.Made limit number →
      session.await hash node start = (session.schedule positive start).poll session.url hash number
        node (line.wire number) ∧
      max (start.clock + number * session.config.pollInterval) (line.wire number).clock =
        start.clock + line.asked number := by
  intro line limit
  have halt := session.confirm_halts positive hash node start
  obtain ⟨count, calls, made⟩ := halt.requests
  have few := Timeline.count_le positive fun i before => (made i).mp before
  constructor
  · exact {
      question := ⟨rfl, rfl⟩
      elapsed := halt.elapsed
      requests := ⟨count, calls, made, few⟩
      decided := fun number decides timely => confirm_decides positive decides timely
      expired := halt.expired_of_untold }
  · intro number made
    exact ⟨await_reaches positive made.isOpen, line.clock_wire number⟩

end Runs

/-- Polls every two milliseconds for five; the first reply takes longer than that. -/
def hastySession : Session :=
  ⟨{ pollInterval := 2, confirmationTimeout := 5 }, "http://localhost:8545/"⟩

def slowNode : Node := .scripted [⟨.result .null, 3⟩, ⟨.dropped "connection reset", 1⟩]

theorem hasty_decides : (hastySession.timeline 0xab slowNode .idle).Decides 1 where
  earlier i before := by
    obtain rfl : i = 0 := by omega
    rfl
  tells := nofun

/-- The second poll is late by a millisecond, and its failure ends the wait. -/
theorem confirm_on_time_hasty :
    0 < hastySession.config.pollInterval ∧
    (hastySession.timeline 0xab slowNode .idle).asked 1 = 3 ∧
    hastySession.confirm 0xab slowNode .idle = (.error (.rpc "connection reset"),
      ⟨[⟨hastySession.url, .receipt 0xab⟩, ⟨hastySession.url, .receipt 0xab⟩], 4⟩) := by
  have positive : 0 < hastySession.config.pollInterval := by decide
  have onTime := (hastySession.confirm_on_time positive 0xab slowNode .idle).1
  obtain ⟨verdict, final⟩ := onTime.decided 1 hasty_decides (by decide)
  exact ⟨positive, by decide, Prod.ext (verdict.eq_of_fault rfl) final⟩

end TokenClient.Session
