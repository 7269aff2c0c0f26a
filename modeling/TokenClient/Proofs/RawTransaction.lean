import Mathlib.Algebra.Order.BigOperators.Group.List
import Mathlib.Algebra.Order.Ring.Nat
import TokenClient.Proofs.WordBytes
import TokenClient.Transaction.Envelope

/-! Reading a broadcast back. A reader of length marks that is written without the encoder takes
signed transactions of the older kind apart again, down to chain and parity in one number. -/
namespace TokenClient

namespace Bytes

theorem length_minimal_le {n size : Nat} (small : n < 256 ^ size) :
    (minimal n).length ≤ size := by
  induction size generalizing n with
  | zero =>
    have zero : n = 0 := by simpa using small
    simp [zero, minimal]
  | succ size ih =>
    unfold minimal
    by_cases zero : n = 0
    · simp [zero]
    · have shorter : n / 256 < 256 ^ size := by
        rw [Nat.pow_succ] at small
        exact Nat.div_lt_of_lt_mul (by omega)
      have := ih shorter
      simp [zero]
      omega

theorem minimal_ne_nil {n : Nat} (positive : n ≠ 0) : minimal n ≠ [] := by
  rw [minimal, if_neg positive]
  simp

theorem head_minimal (n : Nat) : (minimal n).head? ≠ some 0 := by
  fun_induction minimal n with
  | case1 => simp
  | case2 n positive ih =>
    by_cases small : n / 256 = 0
    · have low : n < 256 := by omega
      rw [small, minimal, if_pos rfl]
      intro zero
      have := congrArg UInt8.toNat (Option.some.inj zero)
      simp at this
      omega
    · obtain ⟨byte, rest, digits⟩ := List.exists_cons_of_ne_nil (minimal_ne_nil small)
      rw [digits] at ih ⊢
      exact ih

end Bytes

namespace Rlp

def cut (size : Nat) (bytes : Bytes) : Option (Bytes × Bytes) :=
  if size ≤ bytes.length then some (bytes.take size, bytes.drop size) else none

/-- The content behind a mark, and what follows it. Up to 55 bytes are counted by the mark itself;
else the mark tells how many bytes count them. -/
def behindMark (base : Nat) : Bytes → Option (Bytes × Bytes)
  | [] => none
  | first :: rest =>
    if base ≤ first.toNat ∧ first.toNat < base + 56 then cut (first.toNat - base) rest
    else if base + 56 ≤ first.toNat ∧ first.toNat < base + 64 then
      match cut (first.toNat - base - 55) rest with
      | none => none
      | some (digits, rest) =>
        if digits.head? = some 0 ∨ digits.toNat < 56 then none else cut digits.toNat rest
    else none

/-- A byte below 128 stands for itself. -/
def readString : Bytes → Option (Bytes × Bytes)
  | [] => none
  | first :: rest =>
    if first.toNat < 128 then some ([first], rest) else behindMark 128 (first :: rest)

def readStrings : (count : Nat) → Bytes → Option (List Bytes)
  | 0, bytes => if bytes = [] then some [] else none
  | count + 1, bytes =>
    match readString bytes with
    | none => none
    | some (content, rest) => (readStrings count rest).map (content :: ·)

def readList (count : Nat) (bytes : Bytes) : Option (List Bytes) :=
  match behindMark 0xc0 bytes with
  | some (content, []) => readStrings count content
  | _ => none

/-- Numbers have no leading zero byte. -/
def readNumber (content : Bytes) : Option Nat :=
  if content.head? = some 0 then none else some content.toNat

@[simp] theorem cut_append (content rest : Bytes) :
    cut content.length (content ++ rest) = some (content, rest) := by
  simp [cut]

theorem behindMark_mark (base : UInt8) (content rest : Bytes) (room : base.toNat + 64 ≤ 256)
    (bounded : content.length < 256 ^ 8) :
    behindMark base.toNat (mark base content.length ++ (content ++ rest)) =
      some (content, rest) := by
  unfold mark
  by_cases short : content.length < 56
  · have first : (base + UInt8.ofNat content.length).toNat = base.toNat + content.length := by
      rw [UInt8.toNat_add, UInt8.toNat_ofNat']
      omega
    simp only [short, ↓reduceIte, List.cons_append, List.nil_append, behindMark, first]
    rw [if_pos (by omega), Nat.add_sub_cancel_left, cut_append]
  · have digits := Bytes.length_minimal_le bounded
    have some_digit : (Bytes.minimal content.length).length ≠ 0 := by
      simpa using Bytes.minimal_ne_nil (by omega)
    have first : (base + 55 + UInt8.ofNat (Bytes.minimal content.length).length).toNat =
        base.toNat + 55 + (Bytes.minimal content.length).length := by
      rw [UInt8.toNat_add, UInt8.toNat_add, UInt8.toNat_ofNat']
      have : (55 : UInt8).toNat = 55 := rfl
      omega
    have counted : base.toNat + 55 + (Bytes.minimal content.length).length - base.toNat - 55 =
        (Bytes.minimal content.length).length := by omega
    have canonical : ¬ ((Bytes.minimal content.length).head? = some 0 ∨ content.length < 56) := by
      rintro (zero | less)
      · exact Bytes.head_minimal _ zero
      · exact short less
    simp only [short, ↓reduceIte, List.cons_append, behindMark, first]
    rw [if_neg (by omega), if_pos (by omega), counted, cut_append]
    simp only [Bytes.toNat_minimal]
    rw [if_neg canonical, cut_append]

theorem encode_bytes (content : Bytes) :
    (Item.bytes content).encode = mark 0x80 content.length ++ content ∨
    ∃ byte, content = [byte] ∧ byte.toNat < 128 ∧ (Item.bytes content).encode = [byte] := by
  unfold Item.encode
  split
  · rename_i byte
    by_cases small : byte < 0x80
    · exact .inr ⟨byte, rfl, small, by simp [small]⟩
    · refine .inl ?_
      simp only [small, ↓reduceIte]
      rfl
  · exact .inl rfl

theorem readString_encode (content rest : Bytes) (bounded : content.length < 256 ^ 8) :
    readString ((Item.bytes content).encode ++ rest) = some (content, rest) := by
  rcases encode_bytes content with marked | ⟨byte, rfl, small, alone⟩
  · rw [marked, List.append_assoc]
    have found : behindMark 128 (mark 0x80 content.length ++ (content ++ rest)) =
        some (content, rest) := behindMark_mark 0x80 content rest (by decide) bounded
    generalize mark 0x80 content.length ++ (content ++ rest) = bytes at found
    cases bytes with
    | nil => simp [behindMark] at found
    | cons first tail =>
      have high : ¬ first.toNat < 128 := by
        intro low
        rw [behindMark, if_neg (by omega), if_neg (by omega)] at found
        contradiction
      rw [readString, if_neg high, found]
  · rw [alone, List.cons_append, List.nil_append, readString, if_pos small]

theorem length_mark_le (base : UInt8) {size : Nat} (bounded : size < 256 ^ 8) :
    (mark base size).length ≤ 9 := by
  have digits := Bytes.length_minimal_le bounded
  unfold mark
  split
  · simp
  · simp
    omega

theorem length_encode_bytes_le {content : Bytes} (bounded : content.length < 256 ^ 8) :
    (Item.bytes content).encode.length ≤ content.length + 9 := by
  have marked := length_mark_le 0x80 bounded
  unfold Item.encode
  split
  · split <;> simp
  · simp
    omega

theorem readStrings_encodeAll (contents : List Bytes)
    (bounded : ∀ content ∈ contents, content.length < 256 ^ 8) :
    readStrings contents.length (encodeAll (contents.map Item.bytes)) = some contents := by
  induction contents with
  | nil => simp [encodeAll, readStrings]
  | cons content contents ih =>
    have first := readString_encode content (encodeAll (contents.map Item.bytes))
      (bounded content (.head contents))
    have later := ih fun other member => bounded other (.tail content member)
    simp [encodeAll, readStrings, first, later]

theorem length_encodeAll_le {contents : List Bytes}
    (bounded : ∀ content ∈ contents, content.length < 256 ^ 8) :
    (encodeAll (contents.map Item.bytes)).length ≤
      (contents.map fun content => content.length + 9).sum := by
  induction contents with
  | nil => simp [encodeAll]
  | cons content contents ih =>
    have first := length_encode_bytes_le (bounded content (.head contents))
    have later := ih fun other member => bounded other (.tail content member)
    simp only [List.map_cons, encodeAll, List.length_append, List.sum_cons]
    omega

/-- A list is read back where its content, marks included, can be counted. -/
theorem readList_encode {contents : List Bytes}
    (room : (contents.map fun content => content.length + 9).sum < 256 ^ 8) :
    readList contents.length (Item.list (contents.map Item.bytes)).encode = some contents := by
  have bounded : ∀ content ∈ contents, content.length < 256 ^ 8 := by
    intro content member
    have counted : content.length + 9 ≤ (contents.map fun content => content.length + 9).sum :=
      List.le_sum_of_mem (List.mem_map.mpr ⟨content, member, rfl⟩)
    omega
  have marked := behindMark_mark 0xc0 (encodeAll (contents.map Item.bytes)) [] (by decide)
    (Nat.lt_of_le_of_lt (length_encodeAll_le bounded) room)
  have unmarked : behindMark 0xc0 (Item.list (contents.map Item.bytes)).encode =
      some (encodeAll (contents.map Item.bytes), []) := by
    rw [Item.encode]
    simpa using marked
  rw [readList, unmarked]
  exact readStrings_encodeAll contents bounded

theorem readNumber_minimal (n : Nat) : readNumber (Bytes.minimal n) = some n := by
  rw [readNumber, if_neg (Bytes.head_minimal n), Bytes.toNat_minimal]

end Rlp

namespace Transaction

open Rlp

/-- No bytes stand for the creation of a contract. -/
def readDestination (content : Bytes) : Option Destination :=
  if content = [] then some .creation
  else if content.length = 20 then some (.account (Address.ofBytes content))
  else none

def readWord (content : Bytes) : Option Word :=
  match readNumber content with
  | some n => if n < 2 ^ 256 then some (BitVec.ofNat 256 n) else none
  | none => none

/-- The parts of a signed transaction. The number in front of `r` and `s` is 35 and twice the
chain, and one more for the odd point. -/
def ofParts : List Bytes → Option (Transaction × Secp256k1.Signature)
  | [nonce, gasPrice, gas, destination, value, input, v, r, s] => do
    let nonce ← readNumber nonce
    let gasPrice ← readNumber gasPrice
    let gas ← readNumber gas
    let destination ← readDestination destination
    let value ← readWord value
    let v ← readNumber v
    let r ← readNumber r
    let s ← readNumber s
    if v < 35 then none
    else
      let chainId := (v - 35) / 2
      return ({ nonce, gasPrice, gas, destination, value, input, chainId, accessList := none },
        ⟨r, s, (v - 35) % 2 = 1⟩)
  | _ => none

def ofRaw (raw : Bytes) : Option (Transaction × Secp256k1.Signature) := do
  let (content, rest) ← behindMark 0xc0 raw
  if rest = [] then ofParts (← readStrings 9 content) else none

def destinationBytes : Destination → Bytes
  | .account address => address.toBytes
  | .creation => []

theorem destinationItem_eq (destination : Destination) :
    destinationItem destination = .bytes (destinationBytes destination) := by
  cases destination <;> rfl

theorem readDestination_bytes (destination : Destination) :
    readDestination (destinationBytes destination) = some destination := by
  cases destination with
  | creation => rfl
  | account address =>
    have length : address.toBytes.length = 20 := Bytes.length_ofNat 20 _
    have nonempty : address.toBytes ≠ [] := by
      intro empty
      simp [empty] at length
    simp [destinationBytes, readDestination, nonempty, length, address.ofBytes_toBytes]

/-- The parts of a transaction as they are signed and sent. -/
def parts (t : Transaction) (signature : Secp256k1.Signature) : List Bytes :=
  [Bytes.minimal t.nonce, Bytes.minimal t.gasPrice, Bytes.minimal t.gas,
    destinationBytes t.destination, Bytes.minimal t.value.toNat, t.input,
    Bytes.minimal (35 + 2 * t.chainId + signature.parity.toNat), Bytes.minimal signature.r,
    Bytes.minimal signature.s]

theorem signedBytes_eq (t : Transaction) (signature : Secp256k1.Signature)
    (older : t.accessList = none) :
    t.signedBytes signature = (Item.list ((t.parts signature).map Item.bytes)).encode := by
  simp [signedBytes, older, parts, items, Item.number, destinationItem_eq]

theorem ofParts_parts (t : Transaction) (signature : Secp256k1.Signature)
    (older : t.accessList = none) : ofParts (t.parts signature) = some (t, signature) := by
  obtain ⟨nonce, gasPrice, gas, destination, value, input, chainId, accessList⟩ := t
  obtain ⟨r, s, parity⟩ := signature
  cases older
  have word : readWord (Bytes.minimal value.toNat) = some value := by
    have bounded := value.isLt
    simp [readWord, readNumber_minimal, bounded]
  have chain : (35 + 2 * chainId + parity.toNat - 35) / 2 = chainId := by
    have low := Bool.toNat_le parity
    omega
  have odd : decide ((35 + 2 * chainId + parity.toNat - 35) % 2 = 1) = parity := by
    rw [Nat.add_assoc, Nat.add_sub_cancel_left, Nat.mul_add_mod]
    cases parity <;> rfl
  have high : 35 ≤ 35 + 2 * chainId + parity.toNat := by omega
  simp [ofParts, parts, readNumber_minimal, readDestination_bytes, word, chain, odd, high]

/-- Every number of a transaction that comes from settings and a node fits. -/
structure Fits (t : Transaction) (signature : Secp256k1.Signature) : Prop where
  older : t.accessList = none
  nonce : t.nonce < 2 ^ 256
  gasPrice : t.gasPrice < 2 ^ 256
  gas : t.gas < 2 ^ 256
  chainId : t.chainId < 2 ^ 256
  input : t.input.length < 2 ^ 63
  r : signature.r < 2 ^ 256
  s : signature.s < 2 ^ 256

theorem ofRaw_eq (raw : Bytes) : ofRaw raw = (readList 9 raw).bind ofParts := by
  unfold ofRaw readList
  rcases behindMark 0xc0 raw with _ | ⟨content, rest⟩
  · rfl
  · cases rest <;> rfl

theorem length_minimal_lt {n : Nat} (small : n < 2 ^ 256) : (Bytes.minimal n).length ≤ 32 :=
  Bytes.length_minimal_le (by omega)

theorem length_destinationBytes_le (destination : Destination) :
    (destinationBytes destination).length ≤ 20 := by
  cases destination <;> simp [destinationBytes, Address.toBytes]

/-- What a transaction spells with and without its signature has room in a list. -/
theorem Fits.room {t : Transaction} {signature : Secp256k1.Signature} (fits : t.Fits signature) :
    (Bytes.minimal t.nonce).length + (Bytes.minimal t.gasPrice).length +
      (Bytes.minimal t.gas).length + (destinationBytes t.destination).length +
      (Bytes.minimal t.value.toNat).length + t.input.length < 2 ^ 63 + 148 := by
  have nonce := length_minimal_lt fits.nonce
  have gasPrice := length_minimal_lt fits.gasPrice
  have gas := length_minimal_lt fits.gas
  have destination := length_destinationBytes_le t.destination
  have value := length_minimal_lt t.value.isLt
  have input := fits.input
  omega

theorem readList_signedBytes (t : Transaction) (signature : Secp256k1.Signature)
    (fits : t.Fits signature) :
    readList 9 (t.signedBytes signature) = some (t.parts signature) := by
  have v : (Bytes.minimal (35 + 2 * t.chainId + signature.parity.toNat)).length ≤ 33 := by
    have chainId := fits.chainId
    have parity := Bool.toNat_le signature.parity
    exact Bytes.length_minimal_le (by omega)
  have room : ((t.parts signature).map fun content => content.length + 9).sum < 256 ^ 8 := by
    have common := fits.room
    have r := length_minimal_lt fits.r
    have s := length_minimal_lt fits.s
    simp only [parts, List.map_cons, List.map_nil, List.sum_cons, List.sum_nil]
    omega
  rw [signedBytes_eq t signature fits.older]
  exact readList_encode room

theorem ofRaw_signedBytes (t : Transaction) (signature : Secp256k1.Signature)
    (fits : t.Fits signature) : ofRaw (t.signedBytes signature) = some (t, signature) := by
  rw [ofRaw_eq, readList_signedBytes t signature fits]
  exact ofParts_parts t signature fits.older

end Transaction

theorem Secp256k1.sign_bounded (secret digest : Nat) :
    (sign secret digest).r < 2 ^ 256 ∧ (sign secret digest).s < 2 ^ 256 := by
  have bounded : n < 2 ^ 256 := by decide
  have reduced (m : Nat) : m % n < 2 ^ 256 := Nat.lt_trans (Nat.mod_lt m (by decide)) bounded
  unfold sign
  extract_lets k
  -- the coordinates stay closed, so that nothing unfolds the multiplication
  generalize (generator.times k).affine = point
  obtain ⟨x, y⟩ := point
  dsimp only
  split
  · exact ⟨reduced _, Nat.lt_of_le_of_lt (Nat.sub_le _ _) bounded⟩
  · exact ⟨reduced _, reduced _⟩

end TokenClient
