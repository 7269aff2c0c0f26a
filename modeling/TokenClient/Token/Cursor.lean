import TokenClient.Token.Contract

/-! A walk over a token's events. Each batch covers the blocks from the cursor up to the head of
the chain and moves the cursor past them, so that no event is handed out twice. -/
namespace TokenClient.Token

structure Cursor where
  session : Session
  address : Address
  /-- The first block of the next batch. -/
  position : Nat
  /-- The head of the chain as the latest batch saw it. -/
  lastHead : Option Nat
  deriving DecidableEq, Repr

def Contract.eventsFrom (contract : Contract) (block : Nat) : Cursor :=
  ⟨contract.session, contract.address, block, none⟩

namespace Cursor

def restart (cursor : Cursor) (block : Nat) : Cursor := { cursor with position := block }

def entries? : Json → Option (List LogEntry)
  | .array entries => entries.mapM LogEntry.ofJson?
  | _ => none

/-- The events from the cursor up to a head that is not behind it. -/
def fetch (cursor : Cursor) (head : Nat) : Client (List Event) := do
  let entries ← cursor.session.demand (.logs cursor.address cursor.position head) entries?
  match Event.decodeAll entries with
  | .ok events => return events
  | .error fault => throw fault.failure

/-- The next batch. After a failure the cursor stands where it stood; the head it saw stays known. -/
def nextBatch (cursor : Cursor) : Client (Except Failure (List Event) × Cursor) := do
  match ← Client.attempt cursor.session.blockNumber with
  | .error failure => return (.error failure, cursor)
  | .ok head =>
    let seen := { cursor with lastHead := some head }
    if head < cursor.position then return (.ok [], seen)
    -- Heads are meant to be below 2 ^ 64 - 1, so that the next position is a block number too.
    match ← Client.attempt (cursor.fetch head) with
    | .error failure => return (.error failure, seen)
    | .ok events => return (.ok events, { seen with position := head + 1 })

end Cursor
end TokenClient.Token
