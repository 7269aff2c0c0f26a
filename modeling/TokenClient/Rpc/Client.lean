import TokenClient.Rpc.Request
import TokenClient.Rpc.Reply
import TokenClient.Failure

/-! Computations that talk to a node. A node is any function from what it was asked so far to its
next reply; a computation leaves behind the calls it made and the time that passed. -/
namespace TokenClient

/-- A reply together with the milliseconds until it arrives. -/
structure Delivery where
  reply : Reply
  delay : Nat

/-- The answer to a call may depend on all earlier calls. -/
abbrev Node := (past : List Call) → Call → Delivery

/-- A node that works off a list of replies and then drops every call. -/
def Node.scripted (script : List Delivery) : Node := fun past _ =>
  script[past.length]?.getD ⟨.dropped "no reply scripted", 0⟩

/-- The calls made so far, in order, and the milliseconds that have passed. -/
structure Wire where
  calls : List Call
  clock : Nat

def Wire.idle : Wire := ⟨[], 0⟩

def Client (α : Type) := Node → Wire → Except Failure α × Wire

namespace Client

variable {α β : Type}

/-- A failure ends the computation; the calls made stay made. -/
protected def bind (x : Client α) (f : α → Client β) : Client β := fun node wire =>
  match x node wire with
  | (.ok a, wire) => f a node wire
  | (.error e, wire) => (.error e, wire)

instance : Monad Client where
  pure a := fun _ wire => (.ok a, wire)
  bind := Client.bind

instance : MonadExceptOf Failure Client where
  throw e := fun _ wire => (.error e, wire)
  tryCatch x handle := fun node wire =>
    match x node wire with
    | (.error e, wire) => handle e node wire
    | done => done

instance : MonadLift (Except Failure) Client where
  monadLift x := fun _ wire => (x, wire)

def ask (call : Call) : Client (Except RpcFault Json) := fun node wire =>
  let delivery := node wire.calls call
  (.ok delivery.reply.read, ⟨wire.calls ++ [call], wire.clock + delivery.delay⟩)

/-- What happened, as a value: the computation goes on after a failure. -/
def attempt (x : Client α) : Client (Except Failure α) := fun node wire =>
  let (outcome, wire) := x node wire
  (.ok outcome, wire)

end Client
end TokenClient
