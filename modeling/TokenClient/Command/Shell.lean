import TokenClient.Rpc.Client
import TokenClient.Storage

/-! Computations of a command: they talk to a node, read and write files, and print. -/
namespace TokenClient

structure Desk where
  wire : Wire
  files : Storage
  printed : List String

def Shell (α : Type) := Node → Desk → Except Failure α × Desk

namespace Shell

variable {α β : Type}

/-- A failure ends the computation; what was sent, written and printed stays. -/
protected def bind (x : Shell α) (f : α → Shell β) : Shell β := fun node desk =>
  match x node desk with
  | (.ok a, desk) => f a node desk
  | (.error e, desk) => (.error e, desk)

instance : Monad Shell where
  pure a := fun _ desk => (.ok a, desk)
  bind := Shell.bind

instance : MonadExceptOf Failure Shell where
  throw e := fun _ desk => (.error e, desk)
  tryCatch x handle := fun node desk =>
    match x node desk with
    | (.error e, desk) => handle e node desk
    | done => done

instance : MonadLift (Except Failure) Shell where
  monadLift x := fun _ desk => (x, desk)

/-- Talking to the node neither touches files nor prints. -/
instance : MonadLift Client Shell where
  monadLift x := fun node desk =>
    let (outcome, wire) := x node desk.wire
    (outcome, { desk with wire })

def print (lines : List String) : Shell Unit := fun _ desk =>
  (.ok (), { desk with printed := desk.printed ++ lines })

def files : Shell Storage := fun _ desk => (.ok desk.files, desk)

/-- Changes the files; they may have changed where it fails, too. -/
def store (change : Storage → Except Failure α × Storage) : Shell α := fun _ desk =>
  let (outcome, files) := change desk.files
  (outcome, { desk with files })

end Shell
end TokenClient
