import TokenClient.Address
import TokenClient.Amount
import TokenClient.Storage

/-! Why an operation or a command ended without its result. -/
namespace TokenClient

inductive Failure where
  | invalidKey (detail : String)
  | invalidAddress (detail : String)
  /-- The node could not be reached, or the handshake failed. -/
  | connection (url reason : String)
  | rpc (reason : String)
  | chainMismatch (expected actual : Nat)
  | signing (detail : String)
  | contractCall (detail : String)
  | notIncluded (hash : TxHash) (waitedSeconds : Nat)
  | amount (fault : AmountFault)
  | invalidHash (text : String) (fault : Hex.Fault)
  | settingsUnreadable (path : String)
  | settingsUnwritable
  | settingsExist (path : String)
  | storage (fault : StorageFault)
  /-- A receipt was to be polled for without any time between two polls. -/
  | zeroPollInterval
  deriving DecidableEq, Repr

def Failure.message : Failure → String
  | .invalidKey detail => "invalid private key: " ++ detail
  | .invalidAddress detail => "invalid address: " ++ detail
  | .connection url reason => "cannot connect to " ++ url ++ ": " ++ reason
  | .rpc reason => "RPC error: " ++ reason
  | .chainMismatch expected actual =>
    "chain ID mismatch: expected " ++ Decimal.text expected ++ ", node reports " ++
      Decimal.text actual
  | .signing detail => "failed to sign transaction: " ++ detail
  | .contractCall detail => "contract call failed: " ++ detail
  | .notIncluded hash waitedSeconds =>
    "transaction " ++ hash.text ++ " not included after " ++ Decimal.text waitedSeconds ++ "s"
  | .amount fault => fault.message
  | .invalidHash text fault =>
    "invalid transaction hash " ++ Text.quoted text ++ ": " ++ fault.message
  | .settingsUnreadable path => "failed to parse " ++ path
  | .settingsUnwritable => "out-of-range value for u64 type"
  | .settingsExist path => path ++ " already exists (use --force to overwrite)"
  | .storage fault => fault.message
  | .zeroPollInterval => "`period` must be non-zero."

end TokenClient
