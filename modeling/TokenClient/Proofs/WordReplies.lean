import TokenClient.Proofs.HexDigits
import TokenClient.Proofs.TokenDialogue
import TokenClient.Proofs.WordBytes

/-! Replies that hold one word: what was written in hexadecimal digits is read as it was, as a hash
and as the result of a call. -/
namespace TokenClient

open Token

theorem Hex.digit_read :
    ∀ d < 16, (digit d).utf8Size = 1 ∧ value? (digit d).val.toUInt8 = some d := by
  decide +kernel

theorem Hex.fixed_two (n : Nat) : fixed 2 n = [digit (n / 16 % 16), digit (n % 16)] := rfl

theorem Hex.pairs_ofBytes (position : Nat) (bytes : Bytes) :
    pairs position ((ofBytes bytes).map (·.val.toUInt8)) = .ok bytes := by
  induction bytes generalizing position with
  | nil => rfl
  | cons byte rest ih =>
    have spelled : (ofBytes (byte :: rest)).map (·.val.toUInt8) =
        (digit (byte.toNat / 16 % 16)).val.toUInt8 :: (digit (byte.toNat % 16)).val.toUInt8 ::
          (ofBytes rest).map (·.val.toUInt8) := rfl
    have high := (digit_read (byte.toNat / 16 % 16) (Nat.mod_lt _ (by decide))).2
    have low := (digit_read (byte.toNat % 16) (Nat.mod_lt _ (by decide))).2
    have bounded := byte.toNat_lt
    have whole : UInt8.ofNat (16 * (byte.toNat / 16 % 16) + byte.toNat % 16) = byte := by
      rw [Nat.mod_eq_of_lt (by omega : byte.toNat / 16 < 16), Nat.div_add_mod]
      exact UInt8.ofNat_toNat
    rw [spelled, pairs, high, low]
    simp only [ih, Except.map, whole]

/-- What is written in hexadecimal digits is read as it was. -/
theorem Json.bytes?_text (bytes : Bytes) : Json.bytes? (.string (Hex.text bytes)) = some bytes := by
  have narrow : ∀ c ∈ '0' :: 'x' :: Hex.ofBytes bytes, c.utf8Size = 1 := by
    rw [List.forall_mem_cons, List.forall_mem_cons]
    refine ⟨by decide, by decide, ?_⟩
    intro c member
    obtain ⟨byte, _, member⟩ := List.mem_flatMap.mp member
    rw [Hex.fixed_two, List.mem_cons, List.mem_singleton] at member
    rcases member with rfl | rfl <;> exact (Hex.digit_read _ (Nat.mod_lt _ (by decide))).1
  have even : ((Hex.ofBytes bytes).map (·.val.toUInt8)).length % 2 ≠ 1 := by
    simp [Hex.ofBytes, List.length_flatMap, List.map_const']
  have dropped : Hex.dropMark (Bytes.ofString (Hex.text bytes)) =
      (Hex.ofBytes bytes).map (·.val.toUInt8) := by
    rw [Hex.text, Bytes.ofString_ofList narrow]
    rfl
  rw [Json.bytes?, dropped, Hex.decode, if_neg even, Hex.pairs_ofBytes]
  rfl

theorem Json.fixedBytes?_text (bytes : Bytes) :
    Json.fixedBytes? bytes.length (.string (Hex.text bytes)) = some bytes := by
  rw [Json.fixedBytes?, Json.bytes?_text, Option.filter_some, if_pos (by simp)]

def wordReply (n : Nat) : Reply := .result (.string (Hex.text (Bytes.ofNat 32 n)))

theorem wordReply_understood (n : Nat) :
    (wordReply n).understood Json.bytes? = .ok (Bytes.ofNat 32 n) :=
  understood_iff.mpr ⟨_, rfl, Json.bytes?_text _⟩

theorem Word.ofBytes_ofNat (n : Nat) : ofBytes (Bytes.ofNat 32 n) = BitVec.ofNat 256 n := by
  have count : 256 ^ 32 = 2 ^ 256 := by decide
  apply BitVec.eq_of_toNat_eq
  rw [ofBytes, Bytes.toNat_ofNat, count, BitVec.toNat_ofNat, BitVec.toNat_ofNat, Nat.mod_mod]

theorem wordReply_hash (n : Nat) :
    (wordReply n).understood Json.hash? = .ok (BitVec.ofNat 256 n) := by
  have read := Json.fixedBytes?_text (Bytes.ofNat 32 n)
  rw [Bytes.length_ofNat] at read
  refine understood_iff.mpr ⟨_, rfl, ?_⟩
  rw [Json.hash?, read, Option.map_some, Word.ofBytes_ofNat]

theorem Abi.word_ofNat (n : Nat) : Abi.word (Bytes.ofNat 32 n) = .ok (BitVec.ofNat 256 n) := by
  have length := Bytes.length_ofNat 32 n
  rw [Abi.word, if_neg (by omega), List.take_of_length_le (by omega), Word.ofBytes_ofNat]

theorem Abi.flag_ofNat {n : Nat} (bounded : n < Word.count) :
    Abi.flag (Bytes.ofNat 32 n) = .ok (decide (n ≠ 0)) := by
  have small : n % 2 ^ 256 = n := Nat.mod_eq_of_lt bounded
  have zero : BitVec.ofNat 256 n = 0 ↔ n = 0 := by
    constructor
    · intro none
      have value := congrArg BitVec.toNat none
      rwa [BitVec.toNat_ofNat, small] at value
    · rintro rfl
      rfl
  rw [Abi.flag, Abi.word_ofNat, Except.map]
  exact congrArg Except.ok (decide_eq_decide.mpr (not_congr zero))

theorem viewed_balance (account : Address) (n : Nat) :
    Contract.viewed (.balanceOf account) Abi.word (wordReply n) = .ok (BitVec.ofNat 256 n) :=
  Contract.viewed_iff.mpr (Contract.evaluated_iff.mpr
    ⟨_, wordReply_understood n, List.ne_nil_of_length_pos (by simp), Abi.word_ofNat n⟩)

theorem viewed_decimals {n : Nat} (few : n < 256) :
    Contract.viewed .decimals Abi.small (wordReply n) = .ok n := by
  have small : n % 2 ^ 256 = n := Nat.mod_eq_of_lt (Nat.lt_trans few (by decide))
  refine Contract.viewed_iff.mpr (Contract.evaluated_iff.mpr
    ⟨_, wordReply_understood n, List.ne_nil_of_length_pos (by simp), ?_⟩)
  rw [Abi.small, Abi.word_ofNat, Except.map, BitVec.toNat_ofNat, small,
    Nat.mod_eq_of_lt few]

theorem rehearsed_one (method : Method) : Contract.rehearsed method (wordReply 1) = .ok () :=
  Contract.rehearsed_iff.mpr (Contract.evaluated_iff.mpr
    ⟨_, wordReply_understood 1, List.ne_nil_of_length_pos (by simp), Abi.flag_ofNat (by decide)⟩)

end TokenClient
