import TokenClient.Account
import TokenClient.Proofs.KeyReading

/-! Which texts name accounts. They are the addresses of forty digits and the private keys of
sixty-four, and none is both: the number of bytes alone tells which of the two readers is asked. -/
namespace TokenClient.Account

open Hex

section Reading

variable {text : String} {digits : List Char}

theorem digits_judged (body : Bytes) :
    Judged ((body.length % 2 = 0, .oddLength) :: (body.length = 40, .wrongLength) ::
        digitChecks 0 body)
      (fun a => body.length = 40 → a.toNat = number (body.map glyph))
      ((decodeFixed 20 body).map Address.ofBytes) := by
  refine (decodeFixed_judged 20 body).map fun bytes paired size => ?_
  have short : bytes.length = 20 := by
    have := paired.half
    omega
  have small := bytes.toNat_lt
  rw [short] at small
  have value : bytes.toNat = number (body.map glyph) := paired.same 0
  rw [Address.ofBytes, BitVec.toNat_ofNat, ← value]
  exact Nat.mod_eq_of_lt small

theorem parseAddress_eq (stripped : Stripped text digits) :
    parseAddress text = ((decodeFixed 20 (Bytes.ofString (String.ofList digits))).map
      Address.ofBytes).mapError fun fault => .invalidAddress (text ++ ": " ++ fault.message) := by
  rw [← hexBody_eq stripped]
  rfl

theorem parseAddress_eq_ok_iff (stripped : Stripped text digits) {a : Address} :
    parseAddress text = .ok a ↔ Spells digits 40 a.toNat := by
  have judged := digits_judged (Bytes.ofString (String.ofList digits))
  rw [parseAddress_eq stripped, mapError_eq_ok, ← spells_ofString_iff]
  generalize Bytes.ofString (String.ofList digits) = body at judged
  rw [judged.ok_iff ?_]
  · rw [List.forall_mem_cons, List.forall_mem_cons, digitChecks_met_iff]
    constructor
    · rintro ⟨⟨_, size, all⟩, value⟩
      exact ⟨size, all, (value size).symm⟩
    · rintro ⟨size, all, value⟩
      exact ⟨⟨by simp [size], size, all⟩, fun _ => value.symm⟩
  · intro met b first second
    have size := (List.forall_mem_cons.mp (List.forall_mem_cons.mp met).2).1
    exact BitVec.eq_of_toNat_eq ((first size).trans (second size).symm)

theorem exists_address_iff (stripped : Stripped text digits) :
    (∃ a, parseAddress text = .ok a) ↔ digits.length = 40 ∧ ∀ c ∈ digits, IsDigit c := by
  simp only [parseAddress_eq_ok_iff stripped]
  constructor
  · rintro ⟨a, spells⟩
    exact ⟨spells.count, spells.all⟩
  · rintro ⟨count, all⟩
    have small := number_lt all
    rw [count] at small
    exact ⟨BitVec.ofNat 160 (number digits), count, all, (Nat.mod_eq_of_lt small).symm⟩

theorem not_key_of_address {a : Address} {c : Credential} (parsed : parseAddress text = .ok a) :
    Credential.read text ≠ .ok c := by
  intro read
  have stripped := stripped_unmarked text
  have short := ((parseAddress_eq_ok_iff stripped).mp parsed).count
  have long := ((Credential.read_eq_ok_iff stripped).mp read).count
  omega

theorem resolve_of_key {credential : Credential} (read : Credential.read text = .ok credential) :
    resolve text = .ok credential.address := by
  have stripped := stripped_unmarked text
  have size := length_hexBody stripped ((Credential.read_eq_ok_iff stripped).mp read)
  rw [resolve, size, read]
  rfl

theorem resolve_of_address {address : Address} (parsed : parseAddress text = .ok address) :
    resolve text = .ok address := by
  have stripped := stripped_unmarked text
  have size := length_hexBody stripped ((parseAddress_eq_ok_iff stripped).mp parsed)
  rw [resolve, size, parsed]
  rfl

theorem resolve_eq_ok_iff {a : Address} :
    resolve text = .ok a ↔
      parseAddress text = .ok a ∨ ∃ c, Credential.read text = .ok c ∧ c.address = a := by
  constructor
  · intro resolved
    unfold resolve at resolved
    split at resolved
    · exact .inl resolved
    · cases read : Credential.read text with
      | error failure => simp [read, Except.map] at resolved
      | ok c =>
        simp only [read, Except.map, Except.ok.injEq] at resolved
        exact .inr ⟨c, rfl, resolved⟩
    · contradiction
  · rintro (parsed | ⟨c, read, rfl⟩)
    · exact resolve_of_address parsed
    · exact resolve_of_key read

/-- Of the accounts, all but the zero address may receive. -/
theorem resolveRecipient_eq (text : String) :
    resolveRecipient text = match resolve text with
      | .error failure => .error failure
      | .ok a =>
        if a = 0 then
          .error (.invalidAddress (text ++ ": the zero address cannot receive tokens"))
        else .ok a := by
  unfold resolveRecipient
  cases resolve text with
  | error failure => rfl
  | ok a =>
    by_cases zero : a = 0
    · rw [zero]
      rfl
    · exact (if_neg zero).trans (if_neg zero).symm

theorem resolveRecipient_eq_ok_iff {a : Address} :
    resolveRecipient text = .ok a ↔ resolve text = .ok a ∧ a ≠ 0 := by
  rw [resolveRecipient_eq]
  cases resolve text with
  | error failure => simp
  | ok b =>
    by_cases zero : b = 0
    · simp only [zero, if_pos, reduceCtorEq, false_iff, not_and, not_not, Except.ok.injEq]
      exact Eq.symm
    · simp only [if_neg zero, Except.ok.injEq, iff_self_and]
      rintro rfl
      exact zero

/-- A text that names no account is refused as a key just where it has as many bytes as one. -/
theorem resolve_refused {failure : Failure} (refused : resolve text = .error failure) :
    ((∃ detail, failure = .invalidKey detail) ↔ (hexBody text).length = 64) ∧
      ((∃ detail, failure = .invalidAddress detail) ↔ (hexBody text).length ≠ 64) := by
  unfold resolve at refused
  split at refused
  · rename_i size
    obtain ⟨fault, _, rfl⟩ := mapError_eq_error.mp refused
    simp [size]
  · rename_i size
    cases read : Credential.read text with
    | ok c => simp [read, Except.map] at refused
    | error other =>
      obtain ⟨fault, _, rfl⟩ := mapError_eq_error.mp read
      simp only [read, Except.map, Except.error.injEq] at refused
      simp [← refused, size]
  · rename_i other
    cases refused
    exact ⟨iff_of_false nofun other, iff_of_true ⟨_, rfl⟩ other⟩

end Reading

/-- An account is named by its address or by its key, in any spelling, and by nothing else; no text
is both. What is no address and no key is refused as a key where it has the size of one, and else as
an address. -/
theorem resolve_splits (text : String) :
    ∃ digits, (∀ rest, Stripped text rest ↔ rest = digits) ∧
      (∀ a, parseAddress text = .ok a ↔ Spells digits 40 a.toNat) ∧
      ((∃ a, parseAddress text = .ok a) ↔ digits.length = 40 ∧ ∀ c ∈ digits, IsDigit c) ∧
      (∀ a, resolve text = .ok a ↔
        parseAddress text = .ok a ∨ ∃ c, Credential.read text = .ok c ∧ c.address = a) ∧
      (∀ a c, ¬ (parseAddress text = .ok a ∧ Credential.read text = .ok c)) ∧
      (∀ a, resolveRecipient text = .ok a ↔ resolve text = .ok a ∧ a ≠ 0) ∧
      ∀ failure, resolve text = .error failure →
        ((∃ detail, failure = .invalidKey detail) ↔
          (Bytes.ofString (String.ofList digits)).length = 64) ∧
        ((∃ detail, failure = .invalidAddress detail) ↔
          (Bytes.ofString (String.ofList digits)).length ≠ 64) := by
  refine ⟨unmarked (Text.trimChars text.toList), fun _ => stripped_iff, ?_⟩
  have stripped := stripped_unmarked text
  rw [← hexBody_eq stripped]
  exact ⟨fun _ => parseAddress_eq_ok_iff stripped, exists_address_iff stripped,
    fun _ => resolve_eq_ok_iff, fun _ _ ⟨parsed, read⟩ => not_key_of_address parsed read,
    fun _ => resolveRecipient_eq_ok_iff, fun _ => resolve_refused⟩

end TokenClient.Account
