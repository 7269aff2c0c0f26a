/-! What can be asked for on the command line. -/
namespace TokenClient

inductive Command where
  | deploy (deployerKey : String)
  | queryTransfer (contract deployerKey receiver : String) (amount : Option String)
  | info (contract : String)
  | balance (contract account : String)
  | allowance (contract owner spender : String)
  | approve (contract ownerKey spender amount : String)
  | transferFrom (contract spenderKey owner recipient amount : String)
  | events (contract : String) (fromBlock : Nat)
  | transactionStatus (hash : String)
  | initSettings (force : Bool)
  | showSettings
  deriving DecidableEq, Repr

structure Invocation where
  rpcUrl : Option String
  gasLimit : Option Nat
  config : Option String
  command : Command
  deriving DecidableEq, Repr

/-- Why arguments are not a command; asking for help counts as one of the reasons. -/
inductive UsageFault where
  | missingArgument
  | missingSubcommand
  | unknownArgument
  | unknownSubcommand
  | noValue
  | badValue
  | repeated
  | unwantedValue
  | help
  | version
  | nothingGiven
  deriving DecidableEq, Repr

def UsageFault.exitCode : UsageFault → Nat
  | .help | .version => 0
  | _ => 2

end TokenClient
