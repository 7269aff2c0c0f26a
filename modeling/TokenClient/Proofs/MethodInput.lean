import TokenClient.Proofs.KeccakLanes
import TokenClient.Proofs.RawTransaction
import TokenClient.Token.Method

/-! Reading the input of a call back. The first four bytes tell the method by a fixed table, the
words after them are its arguments, and nothing else may follow. -/
namespace TokenClient

theorem Bytes.pieces_append {size : Nat} {piece : Bytes} (rest : Bytes)
    (whole : piece.length = size) (some_byte : size ≠ 0) :
    pieces size (piece ++ rest) = piece :: pieces size rest := by
  have more : ¬ (size = 0 ∨ piece ++ rest = []) := by
    rintro (none | none)
    · exact some_byte none
    · have empty := (List.append_eq_nil_iff.mp none).1
      rw [empty] at whole
      exact some_byte whole.symm
  rw [pieces, dif_neg more, List.take_left' whole, List.drop_left' whole]

namespace Abi

/-- The words that the bytes consist of. -/
def readWords (bytes : Bytes) : Option (List Word) :=
  if bytes.length % 32 = 0 then some ((bytes.pieces 32).map Word.ofBytes) else none

theorem length_encodeWords (words : List Word) :
    (encodeWords words).length = 32 * words.length := by
  simp [encodeWords, Word.toBytes, List.length_flatMap, Nat.mul_comm, List.map_const']

theorem readWords_encodeWords (words : List Word) :
    readWords (encodeWords words) = some words := by
  have cut : ((encodeWords words).pieces 32).map Word.ofBytes = words := by
    induction words with
    | nil => rw [encodeWords, List.flatMap_nil, Bytes.pieces]; rfl
    | cons word words ih =>
      have length : word.toBytes.length = 32 := Bytes.length_ofNat 32 _
      have inOrder : encodeWords (word :: words) = word.toBytes ++ encodeWords words := rfl
      rw [inOrder, Bytes.pieces_append _ length (by decide), List.map_cons, ih,
        Word.ofBytes_toBytes]
  rw [readWords, length_encodeWords, if_pos (Nat.mul_mod_right 32 _), cut]

/-- The address in a word whose upper twelve bytes are zero. -/
def readAddress (word : Word) : Option Address :=
  if word.toNat < 2 ^ 160 then some (word.setWidth 160) else none

theorem readAddress_addressWord (address : Address) :
    readAddress (addressWord address) = some address := by
  have bounded := address.isLt
  have same : (addressWord address).toNat = address.toNat := by
    rw [addressWord, BitVec.toNat_setWidth]
    omega
  rw [readAddress, same, if_pos bounded]
  congr 1
  apply BitVec.eq_of_toNat_eq
  rw [BitVec.toNat_setWidth, same, Nat.mod_eq_of_lt bounded]

end Abi

namespace Token

/-- A method of the contract's interface: how it is declared, what calls of it begin with, and
which call the words of its arguments make. -/
structure Declared where
  signature : String
  selector : Bytes
  ofWords : List Word → Option Method

namespace Method

def ofNone (method : Method) : List Word → Option Method
  | [] => some method
  | _ => none

def ofAccount (make : Address → Method) : List Word → Option Method
  | [account] => (Abi.readAddress account).map make
  | _ => none

def ofAccounts (make : Address → Address → Method) : List Word → Option Method
  | [first, second] => do return make (← Abi.readAddress first) (← Abi.readAddress second)
  | _ => none

def ofAccountAmount (make : Address → Word → Method) : List Word → Option Method
  | [account, amount] => (Abi.readAddress account).map (make · amount)
  | _ => none

def ofAccountsAmount (make : Address → Address → Word → Method) : List Word → Option Method
  | [first, second, amount] => do
    return make (← Abi.readAddress first) (← Abi.readAddress second) amount
  | _ => none

def declarations : List Declared :=
  [⟨"name()", [0x06, 0xfd, 0xde, 0x03], ofNone .name⟩,
   ⟨"symbol()", [0x95, 0xd8, 0x9b, 0x41], ofNone .symbol⟩,
   ⟨"decimals()", [0x31, 0x3c, 0xe5, 0x67], ofNone .decimals⟩,
   ⟨"totalSupply()", [0x18, 0x16, 0x0d, 0xdd], ofNone .totalSupply⟩,
   ⟨"balanceOf(address)", [0x70, 0xa0, 0x82, 0x31], ofAccount .balanceOf⟩,
   ⟨"allowance(address,address)", [0xdd, 0x62, 0xed, 0x3e], ofAccounts .allowance⟩,
   ⟨"transfer(address,uint256)", [0xa9, 0x05, 0x9c, 0xbb], ofAccountAmount .transfer⟩,
   ⟨"transferFrom(address,address,uint256)", [0x23, 0xb8, 0x72, 0xdd],
     ofAccountsAmount .transferFrom⟩,
   ⟨"approve(address,uint256)", [0x09, 0x5e, 0xa7, 0xb3], ofAccountAmount .approve⟩,
   ⟨"increaseAllowance(address,uint256)", [0x39, 0x50, 0x93, 0x51],
     ofAccountAmount .increaseAllowance⟩,
   ⟨"decreaseAllowance(address,uint256)", [0xa4, 0x57, 0xc2, 0xd7],
     ofAccountAmount .decreaseAllowance⟩]

/-- The call that an input is. -/
def ofInput? (input : Bytes) : Option Method := do
  let declared ← declarations.find? (·.selector = input.take 4)
  declared.ofWords (← Abi.readWords (input.drop 4))

/-- The selectors of the table are the front of the hashes of the declarations. -/
theorem declarations_hashed : ∀ declared ∈ declarations,
    (Keccak.hash (Bytes.ofString declared.signature)).take 4 = declared.selector := by
  simp only [Keccak.hash_eq_hashLanes]
  decide +kernel

theorem length_selector : ∀ declared ∈ declarations, declared.selector.length = 4 := by decide

theorem ofInput?_of_declared {method : Method} (declared : Declared)
    (found : declarations.find? (·.selector = declared.selector) = some declared)
    (signed : method.label ++ method.parameters = declared.signature) :
    ofInput? method.input = declared.ofWords method.arguments := by
  have member := List.mem_of_find?_eq_some found
  have hashed : method.selector = declared.selector := by
    rw [selector, signed]
    exact declarations_hashed declared member
  have four : method.selector.length = 4 := by
    rw [hashed]
    exact length_selector declared member
  rw [ofInput?, input, List.take_left' four, List.drop_left' four, hashed, found,
    Abi.readWords_encodeWords]
  rfl

/-- The input of a call tells which method is called, and with which arguments. -/
theorem ofInput?_input (method : Method) : ofInput? method.input = some method := by
  cases method with
  | name => exact ofInput?_of_declared declarations[0] (by rfl) (by rfl)
  | symbol => exact ofInput?_of_declared declarations[1] (by rfl) (by rfl)
  | decimals => exact ofInput?_of_declared declarations[2] (by rfl) (by rfl)
  | totalSupply => exact ofInput?_of_declared declarations[3] (by rfl) (by rfl)
  | balanceOf account =>
    rw [ofInput?_of_declared declarations[4] (by rfl) (by rfl)]
    simp [declarations, ofAccount, arguments, Abi.readAddress_addressWord]
  | allowance owner spender =>
    rw [ofInput?_of_declared declarations[5] (by rfl) (by rfl)]
    simp [declarations, ofAccounts, arguments, Abi.readAddress_addressWord]
  | transfer recipient amount =>
    rw [ofInput?_of_declared declarations[6] (by rfl) (by rfl)]
    simp [declarations, ofAccountAmount, arguments, Abi.readAddress_addressWord]
  | transferFrom owner recipient amount =>
    rw [ofInput?_of_declared declarations[7] (by rfl) (by rfl)]
    simp [declarations, ofAccountsAmount, arguments, Abi.readAddress_addressWord]
  | approve spender amount =>
    rw [ofInput?_of_declared declarations[8] (by rfl) (by rfl)]
    simp [declarations, ofAccountAmount, arguments, Abi.readAddress_addressWord]
  | increaseAllowance spender added =>
    rw [ofInput?_of_declared declarations[9] (by rfl) (by rfl)]
    simp [declarations, ofAccountAmount, arguments, Abi.readAddress_addressWord]
  | decreaseAllowance spender subtracted =>
    rw [ofInput?_of_declared declarations[10] (by rfl) (by rfl)]
    simp [declarations, ofAccountAmount, arguments, Abi.readAddress_addressWord]

end Method
end Token
end TokenClient
