import TokenClient.Authorization
import TokenClient.Toml.Value
import TokenClient.Toml.Writer

/-! The settings of the client, and the document that holds them. -/
namespace TokenClient

structure Settings where
  rpcUrl : String := "http://localhost:8545"
  /-- Where it is set, a node of any other chain is refused. -/
  chainId : Option Nat := none
  gasLimit : Nat := Authorization.defaultGasLimit
  confirmationTimeoutSecs : Nat := 30
  pollIntervalMs : Nat := 500
  /-- Whole tokens that a transfer moves where no amount is given. -/
  transferAmount : String := "10"
  deriving DecidableEq, Repr

namespace Settings

def session (s : Settings) : SessionConfig :=
  { rpcUrl := s.rpcUrl
    expectedChainId := s.chainId
    pollInterval := s.pollIntervalMs
    confirmationTimeout := 1000 * s.confirmationTimeoutSecs }

abbrev Reader := Settings → Toml → Option Settings

def natural? : Toml → Option Nat
  | .integer i => if 0 ≤ i then some i.toInt.toNat else none
  | _ => none

def readRpcUrl : Reader
  | s, .text url => some { s with rpcUrl := url }
  | _, _ => none

def readChainId : Reader := fun s value =>
  (natural? value).map fun n => { s with chainId := some n }

def readGasLimit : Reader := fun s value => (natural? value).map fun n => { s with gasLimit := n }

def readTimeout : Reader := fun s value =>
  (natural? value).map fun n => { s with confirmationTimeoutSecs := n }

def readInterval : Reader := fun s value =>
  (natural? value).map fun n => { s with pollIntervalMs := n }

def readAmount : Reader
  | s, .text amount => some { s with transferAmount := amount }
  | _, _ => none

def sections : List (String × List (String × Reader)) :=
  [("network", [("rpc_url", readRpcUrl), ("chain_id", readChainId)]),
   ("tx", [("gas_limit", readGasLimit), ("confirmation_timeout_secs", readTimeout),
     ("poll_interval_ms", readInterval)]),
   ("transfer", [("amount", readAmount)])]

/-- Members that are not there leave the settings as they are, and unknown ones do not count. -/
def readTable (members : List (String × Toml)) (s : Settings) (fields : List (String × Reader)) :
    Option Settings :=
  fields.foldlM (fun s (key, read) =>
    match members.lookup key with
    | some value => read s value
    | none => some s) s

/-- An array holds the members of a section in order; the last ones may be missing. -/
def readArray (items : List Toml) (s : Settings) (fields : List (String × Reader)) :
    Option Settings :=
  (items.zip fields).foldlM (fun s (value, _, read) => read s value) s

def readSection (s : Settings) (fields : List (String × Reader)) : Toml → Option Settings
  | .table members => readTable members s fields
  | .array items => readArray items s fields
  | _ => none

/-- The settings that a document says, on top of the defaults. -/
def ofToml? (document : List (String × Toml)) : Option Settings :=
  sections.foldlM (fun s (name, fields) =>
    match document.lookup name with
    | some value => readSection s fields value
    | none => some s) {}

def maxInteger : Nat := Int64.maxValue.toInt.toNat

def numbers (s : Settings) : List Nat :=
  s.chainId.toList ++ [s.gasLimit, s.confirmationTimeoutSecs, s.pollIntervalMs]

def line (key : String) (value : List Char) : List Char :=
  key.toList ++ " = ".toList ++ value ++ ['\n']

def textLine (key value : String) : List Char := line key (Toml.quoted value.toList)

def numberLine (key : String) (n : Nat) : List Char := line key (Decimal.digits n)

def chars (s : Settings) : List Char :=
  "[network]\n".toList ++ textLine "rpc_url" s.rpcUrl ++
    s.chainId.toList.flatMap (numberLine "chain_id") ++
    "\n[tx]\n".toList ++ numberLine "gas_limit" s.gasLimit ++
    numberLine "confirmation_timeout_secs" s.confirmationTimeoutSecs ++
    numberLine "poll_interval_ms" s.pollIntervalMs ++
    "\n[transfer]\n".toList ++ textLine "amount" s.transferAmount

def document (s : Settings) : Except Failure String :=
  if s.numbers.all (· ≤ maxInteger) then .ok (String.ofList s.chars) else .error .settingsUnwritable

end Settings
end TokenClient
