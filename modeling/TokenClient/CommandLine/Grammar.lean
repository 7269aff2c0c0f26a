import TokenClient.CommandLine.Shape

/-! The commands of this client, and how arguments say them. -/
namespace TokenClient.CommandLine

/-- The options that every level takes. The one given furthest in counts. -/
def everywhere : List (String × ValueKind) :=
  [("rpc-url", .text), ("gas-limit", .number), ("config", .path)]

def leaf (positionals : Nat) (options : List (String × ValueKind)) (flags : List String) : Shape :=
  .mk positionals (everywhere ++ options) flags false []

def group (branches : List (String × Shape)) : Shape := .mk 0 everywhere [] false branches

def grammar : Shape :=
  .mk 0 everywhere [] true
    [("deploy", leaf 1 [] []),
     ("query-transfer", leaf 3 [("amount", .text)] []),
     ("info", leaf 1 [] []),
     ("balance", leaf 2 [] []),
     ("allowance", leaf 3 [] []),
     ("approve", leaf 4 [] []),
     ("transfer-from", leaf 5 [] []),
     ("events", leaf 1 [("from-block", .number)] []),
     ("tx", group [("status", leaf 1 [] [])]),
     ("config", group [("init", leaf 0 [] ["force"]), ("show", leaf 0 [] [])])]

namespace Matches

/-- The words on the way in, and what the last level was given. -/
def path : Matches → List String × Given
  | .leaf given => ([], given)
  | .node _ word inner => (word :: inner.path.1, inner.path.2)

/-- The value of an option on the innermost level that has it. -/
def option? (name : String) : Matches → Option String
  | .leaf given => given.options.lookup name
  | .node given _ inner => (inner.option? name) <|> given.options.lookup name

end Matches

def command? (words : List String) (given : Given) : Option Command :=
  match words, given.values with
  | ["deploy"], [key] => some (.deploy key)
  | ["query-transfer"], [contract, key, receiver] =>
    some (.queryTransfer contract key receiver (given.options.lookup "amount"))
  | ["info"], [contract] => some (.info contract)
  | ["balance"], [contract, account] => some (.balance contract account)
  | ["allowance"], [contract, owner, spender] => some (.allowance contract owner spender)
  | ["approve"], [contract, key, spender, amount] => some (.approve contract key spender amount)
  | ["transfer-from"], [contract, key, owner, recipient, amount] =>
    some (.transferFrom contract key owner recipient amount)
  | ["events"], [contract] =>
    some (.events contract (((given.options.lookup "from-block").bind number?).getD 0))
  | ["tx", "status"], [hash] => some (.transactionStatus hash)
  | ["config", "init"], [] => some (.initSettings (given.flags.contains "force"))
  | ["config", "show"], [] => some .showSettings
  | _, _ => none

def parse (args : List String) : Except UsageFault Invocation := do
  let found ← scan grammar .start args
  match command? found.path.1 found.path.2 with
  | some command =>
    return {
      rpcUrl := found.option? "rpc-url"
      gasLimit := (found.option? "gas-limit").bind number?
      config := found.option? "config"
      command }
  | none => throw .missingSubcommand

end TokenClient.CommandLine
