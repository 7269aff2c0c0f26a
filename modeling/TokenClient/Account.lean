import TokenClient.Credential

/-! Accounts named on the command line, by address or by private key. -/
namespace TokenClient.Account

def parseAddress (text : String) : Except Failure Address :=
  (Address.read (Bytes.ofString (Text.trim text))).mapError fun fault =>
    .invalidAddress (text ++ ": " ++ fault.message)

/-- Forty digits are an address, sixty-four are a key that stands for its address. -/
def resolve (text : String) : Except Failure Address :=
  match (hexBody text).length with
  | 40 => parseAddress text
  | 64 => (Credential.read text).map Credential.address
  | size =>
    .error (.invalidAddress (text ++
      ": expected a 40-digit address or 64-digit private key, got " ++ Decimal.text size ++
      " digits"))

def resolveRecipient (text : String) : Except Failure Address := do
  let address ← resolve text
  if address = 0 then
    throw (.invalidAddress (text ++ ": the zero address cannot receive tokens"))
  return address

end TokenClient.Account
