import TokenClient.Session.Basic

/-! Waiting for a transaction to be included. The receipt is asked for at once and then at every
multiple of the poll interval since the start; where a reply took longer than that, the next
request follows without a pause. What has not arrived by the deadline is given up. -/
namespace TokenClient.Session

/-- The times of one wait, in milliseconds. -/
structure Schedule where
  start : Nat
  interval : Nat
  limit : Nat
  positive : 0 < interval

namespace Schedule

def deadline (s : Schedule) : Nat := s.start + s.limit

def expire (s : Schedule) (hash : TxHash) (wire : Wire) : Except Failure Receipt × Wire :=
  (.error (.notIncluded hash (s.limit / 1000)), { wire with clock := s.deadline })

def poll (s : Schedule) (url : String) (hash : TxHash) (number : Nat) (node : Node) (wire : Wire) :
    Except Failure Receipt × Wire :=
  let due := max (s.start + number * s.interval) wire.clock
  if _inTime : due ≤ s.deadline then
    let call : Call := ⟨url, .receipt hash⟩
    let delivery := node wire.calls call
    let wire : Wire := ⟨wire.calls ++ [call], due + delivery.delay⟩
    if s.deadline < wire.clock then s.expire hash wire
    else
      match delivery.reply.read with
      | .error fault => (.error (.rpc fault.message), wire)
      | .ok value =>
        match Receipt.answer? value with
        | none => (.error (.rpc RpcFault.malformed.message), wire)
        | some none => s.poll url hash (number + 1) node wire
        | some (some receipt) => (.ok receipt, wire)
  else s.expire hash wire
termination_by s.limit + 1 - number * s.interval
decreasing_by
  have := s.positive
  have : s.start + number * s.interval ≤ s.deadline := by omega
  unfold deadline at this
  rw [Nat.add_mul]
  omega

end Schedule

def await (session : Session) (hash : TxHash) : Client Receipt := fun node wire =>
  if positive : 0 < session.config.pollInterval then
    let schedule : Schedule :=
      ⟨wire.clock, session.config.pollInterval, session.config.confirmationTimeout, positive⟩
    schedule.poll session.url hash 0 node wire
  else (.error .zeroPollInterval, wire)

/-- Waits for the receipt of a transaction; a reverted transaction is a failure. -/
def confirm (session : Session) (hash : TxHash) : Client Receipt := do
  let receipt ← session.await hash
  if receipt.success then return receipt
  else throw (.contractCall ("transaction " ++ hash.text ++ " reverted"))

end TokenClient.Session
