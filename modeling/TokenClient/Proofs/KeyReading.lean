import TokenClient.Proofs.HexDigits
import TokenClient.Proofs.WordBytes

/-! Which texts are private keys. A key is sixty-four digits for a number below the order of the
group and above zero; how its digits and its mark are written does not count, nor what white space
stands around it. Any other text is refused for the first thing that is wrong with its bytes. -/
namespace TokenClient

open Hex

namespace Credential

/-- What the bytes of a key must meet, in the order in which they are looked at, each with the
fault of a key that meets all before it and not this. -/
def requirements (body : Bytes) : List (Prop × KeyFault) :=
  (body.length % 2 = 0, .oddLength) ::
    (body.zipIdx.map fun (byte, place) => (IsDigit (glyph byte), .notADigit byte place)) ++
    [(body.length / 2 = 32, .wrongSize (body.length / 2)),
      (0 < number (body.map glyph) ∧ number (body.map glyph) < Secp256k1.n, .outOfRange)]

def digitFault : Hex.Fault → KeyFault
  | .notADigit byte place => .notADigit byte place
  | _ => .oddLength

theorem requirements_eq (body : Bytes) :
    requirements body =
      ((body.length % 2 = 0, .oddLength) :: digitChecks 0 body).map (Prod.map id digitFault) ++
        [(body.length / 2 = 32, .wrongSize (body.length / 2)),
          (0 < number (body.map glyph) ∧ number (body.map glyph) < Secp256k1.n, .outOfRange)] := by
  rw [requirements, List.map_cons, digitChecks, List.map_map]
  rfl

theorem ofDigits_judged (body : Bytes) :
    Judged (requirements body) (fun c => c.secret = number (body.map glyph)) (ofDigits body) := by
  have inOrder : ofDigits body = ((Hex.decode body).mapError digitFault).bind fun bytes =>
      if bytes.length ≠ 32 then .error (.wrongSize bytes.length)
      else (ofSecret? bytes.toNat).elim (.error .outOfRange) .ok := by
    unfold ofDigits
    cases Hex.decode body with
    | error fault => cases fault <;> rfl
    | ok bytes =>
      simp only [Except.mapError, Except.bind]
      cases ofSecret? bytes.toNat <;> rfl
  rw [inOrder, requirements_eq]
  refine (decode_judged body).bind digitFault fun bytes paired => ?_
  have size : body.length / 2 = bytes.length := by
    have := paired.half
    omega
  have value : number (body.map glyph) = bytes.toNat := (paired.same 0).symm
  rw [size, value]
  refine .guard Iff.rfl fun _ => ?_
  unfold ofSecret?
  by_cases inRange : 0 < bytes.toNat ∧ bytes.toNat < Secp256k1.n
  · rw [dif_pos inRange]
    exact .met inRange ⟨List.forall_mem_nil _, rfl⟩
  · rw [dif_neg inRange]
    exact FirstUnmet.here inRange

theorem requirements_met_iff (body : Bytes) :
    (∀ entry ∈ requirements body, entry.1) ↔
      body.length = 64 ∧ (∀ byte ∈ body, IsDigit (glyph byte)) ∧
        0 < number (body.map glyph) ∧ number (body.map glyph) < Secp256k1.n := by
  have size : body.length % 2 = 0 ∧ body.length / 2 = 32 ↔ body.length = 64 := by omega
  have checks : (∀ entry ∈ (digitChecks 0 body).map (Prod.map id digitFault), entry.1) ↔
      ∀ byte ∈ body, IsDigit (glyph byte) := by
    rw [List.forall_mem_map]
    exact digitChecks_met_iff 0 body
  rw [requirements_eq, List.forall_mem_append, List.map_cons, List.forall_mem_cons, checks,
    List.forall_mem_cons, List.forall_mem_singleton, ← size]
  simp only [Prod.map_fst, id_eq]
  tauto

theorem eq_of_secret {c other : Credential} (same : c.secret = other.secret) : c = other := by
  cases c
  cases other
  cases same
  rfl

/-- A credential that stands for this number: it signs with it, and its account is named by the
last twenty bytes of the hash of the number's point on the curve. -/
structure StandsFor (c : Credential) (k : Nat) : Prop where
  secret : c.secret = k
  signs : ∀ payload, c.sign payload = Secp256k1.sign k payload.toNat
  address : ∃ x y, (Secp256k1.generator.times k).affine = (x, y) ∧
    c.address.toBytes = (Keccak.hash (Bytes.ofNat 32 x ++ Bytes.ofNat 32 y)).rtake 20

theorem standsFor_secret (c : Credential) : c.StandsFor c.secret where
  secret := rfl
  signs _ := rfl
  address := ⟨_, _, rfl, Address.toBytes_digest _⟩

section Reading

variable {text : String} {digits : List Char}

theorem read_eq (stripped : Stripped text digits) :
    read text = (ofDigits (Bytes.ofString (String.ofList digits))).mapError
      fun fault => .invalidKey fault.message := by
  rw [read, hexBody_eq stripped]

theorem read_eq_ok_iff (stripped : Stripped text digits) {c : Credential} :
    read text = .ok c ↔ Spells digits 64 c.secret := by
  have judged := ofDigits_judged (Bytes.ofString (String.ofList digits))
  rw [read_eq stripped, mapError_eq_ok,
    judged.ok_iff fun _ _ first second => eq_of_secret (first.trans second.symm),
    requirements_met_iff, ← spells_ofString_iff]
  have positive := c.positive
  have below := c.below_order
  constructor
  · rintro ⟨⟨count, all, _⟩, value⟩
    exact ⟨count, all, value.symm⟩
  · rintro ⟨count, all, value⟩
    exact ⟨⟨count, all, by omega, by omega⟩, value.symm⟩

theorem read_eq_error_iff (stripped : Stripped text digits) {failure : Failure} :
    read text = .error failure ↔ ∃ fault,
      FirstUnmet (requirements (Bytes.ofString (String.ofList digits))) fault ∧
      failure = .invalidKey fault.message := by
  have judged := ofDigits_judged (Bytes.ofString (String.ofList digits))
  rw [read_eq stripped, mapError_eq_error]
  simp only [judged.error_iff]

end Reading

/-- A text is a key just where it spells one. Spelled in another case, with another mark or between
other white space it is the same key, and any other text is refused for the first thing that is
wrong with its bytes. -/
theorem read_spelled (text : String) :
    ∃ digits, (∀ rest, Stripped text rest ↔ rest = digits) ∧
      ((∃ c, read text = .ok c) ↔ ∃ k, Spells digits 64 k ∧ 0 < k ∧ k < Secp256k1.n) ∧
      (∀ c, read text = .ok c → c.StandsFor (number digits)) ∧
      (∀ other rest, Stripped other rest → rest.map Char.toLower = digits.map Char.toLower →
        ∀ c, read text = .ok c → read other = .ok c) ∧
      ∀ failure, read text = .error failure ↔ ∃ fault,
        FirstUnmet (requirements (Bytes.ofString (String.ofList digits))) fault ∧
        failure = .invalidKey fault.message := by
  refine ⟨unmarked (Text.trimChars text.toList), fun _ => stripped_iff, ?_⟩
  have stripped := stripped_unmarked text
  generalize unmarked (Text.trimChars text.toList) = digits at stripped
  refine ⟨⟨?_, ?_⟩, ?_, ?_, fun _ => read_eq_error_iff stripped⟩
  · rintro ⟨c, isRead⟩
    exact ⟨c.secret, (read_eq_ok_iff stripped).mp isRead, c.positive, c.below_order⟩
  · rintro ⟨k, spells, positive, below⟩
    exact ⟨⟨k, positive, below⟩, (read_eq_ok_iff stripped).mpr spells⟩
  · intro c isRead
    rw [((read_eq_ok_iff stripped).mp isRead).value]
    exact c.standsFor_secret
  · intro other rest respelled alike c isRead
    have spells := (read_eq_ok_iff stripped).mp isRead
    exact (read_eq_ok_iff respelled).mpr (spells.recased alike)

/-- The number of bytes is looked at before the digits, and these before the size. -/
example : ofDigits (hexBody " 0xzzz") = .error .oddLength ∧
    ofDigits (hexBody "0X0xé") = .error (.notADigit 120 1) := by decide +kernel

end Credential
end TokenClient
