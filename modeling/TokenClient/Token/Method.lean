import TokenClient.Abi

/-! The calls that a token contract answers. -/
namespace TokenClient

namespace Token

inductive Method where
  | name
  | symbol
  | decimals
  | totalSupply
  | balanceOf (account : Address)
  | allowance (owner spender : Address)
  | transfer (recipient : Address) (amount : Word)
  | transferFrom (owner recipient : Address) (amount : Word)
  | approve (spender : Address) (amount : Word)
  | increaseAllowance (spender : Address) (added : Word)
  | decreaseAllowance (spender : Address) (subtracted : Word)
  deriving DecidableEq, Repr

namespace Method

def label : Method → String
  | .name => "name"
  | .symbol => "symbol"
  | .decimals => "decimals"
  | .totalSupply => "totalSupply"
  | .balanceOf _ => "balanceOf"
  | .allowance .. => "allowance"
  | .transfer .. => "transfer"
  | .transferFrom .. => "transferFrom"
  | .approve .. => "approve"
  | .increaseAllowance .. => "increaseAllowance"
  | .decreaseAllowance .. => "decreaseAllowance"

def parameters : Method → String
  | .name | .symbol | .decimals | .totalSupply => "()"
  | .balanceOf _ => "(address)"
  | .allowance .. => "(address,address)"
  | .transferFrom .. => "(address,address,uint256)"
  | .transfer .. | .approve .. | .increaseAllowance .. | .decreaseAllowance .. =>
    "(address,uint256)"

def arguments : Method → List Word
  | .name | .symbol | .decimals | .totalSupply => []
  | .balanceOf account => [Abi.addressWord account]
  | .allowance owner spender => [Abi.addressWord owner, Abi.addressWord spender]
  | .transferFrom owner recipient amount =>
    [Abi.addressWord owner, Abi.addressWord recipient, amount]
  | .transfer account amount | .approve account amount | .increaseAllowance account amount
  | .decreaseAllowance account amount => [Abi.addressWord account, amount]

/-- The four bytes that tell the contract which method is meant. -/
def selector (method : Method) : Bytes :=
  (Keccak.hash (Bytes.ofString (method.label ++ method.parameters))).take 4

def input (method : Method) : Bytes := method.selector ++ Abi.encodeWords method.arguments

end Method
end Token
end TokenClient
