import TokenClient.Proofs.AmountSpelling

/-! Amounts of whole tokens. A number of tokens is counted in base units by one product; its
spellings are cut at the point, padded and added up. Both ways lead to the same amount, or both to
none. -/
namespace TokenClient.Amount

/-- How a whole number may be spelled with so many decimals: zeros in front of its digits, and
behind them perhaps a point, with zeros for places. -/
inductive SpellsWhole (whole decimals : Nat) : List Char → Prop where
  | bare (zeros : Nat) :
      SpellsWhole whole decimals (List.replicate zeros '0' ++ Decimal.digits whole)
  | pointed (zeros : Nat) {places : Nat} (few : places ≤ decimals) :
      SpellsWhole whole decimals
        (List.replicate zeros '0' ++ Decimal.digits whole ++ '.' :: List.replicate places '0')

/-- The amount is so many tokens, and a word holds its base units. -/
structure IsWhole (a : Amount) (whole decimals : Nat) : Prop where
  scaled : decimals ≤ 77
  fits : whole * 10 ^ decimals < 2 ^ 256
  raw : a.raw.toNat = whole * 10 ^ decimals
  inDecimals : a.decimals = decimals

variable {whole decimals : Nat} {text : String} {cs : List Char} {a : Amount}

theorem isWhole_ofNat (scaled : decimals ≤ 77) (fits : whole * 10 ^ decimals < 2 ^ 256) :
    IsWhole ⟨BitVec.ofNat 256 (whole * 10 ^ decimals), decimals⟩ whole decimals :=
  ⟨scaled, fits, Nat.mod_eq_of_lt fits, rfl⟩

theorem exists_isWhole_iff :
    (∃ a, IsWhole a whole decimals) ↔ decimals ≤ 77 ∧ whole * 10 ^ decimals < 2 ^ 256 :=
  ⟨fun ⟨_, isWhole⟩ => ⟨isWhole.scaled, isWhole.fits⟩,
    fun ⟨scaled, fits⟩ => ⟨_, isWhole_ofNat scaled fits⟩⟩

theorem IsWhole.unique {b : Amount} (isWhole : IsWhole a whole decimals)
    (again : IsWhole b whole decimals) : a = b := by
  have raw : a.raw = b.raw := BitVec.eq_of_toNat_eq (isWhole.raw.trans again.raw.symm)
  have same : a.decimals = b.decimals := isWhole.inDecimals.trans again.inDecimals.symm
  cases a
  cases b
  cases raw
  cases same
  rfl

theorem IsWhole.text_eq (isWhole : IsWhole a whole decimals) : a.text = Decimal.text whole := by
  have few : a.decimals ≤ 77 := isWhole.inDecimals ▸ isWhole.scaled
  have units : a.raw.toNat = whole * 10 ^ a.decimals := by rw [isWhole.raw, isWhole.inDecimals]
  have front : a.raw.toNat / 10 ^ a.decimals = whole := by
    rw [units, Nat.mul_div_cancel _ (Nat.pow_pos (by decide))]
  have back : shownPlaces a.raw.toNat a.decimals = [] := by
    rw [shownPlaces_eq_nil_iff, units, Nat.mul_mod_left]
  rw [Amount.text, chars_eq_spell few, spell, front, back]
  rfl

theorem ofWhole_eq_ok_iff : ofWhole whole decimals = .ok a ↔ IsWhole a whole decimals := by
  unfold ofWhole
  by_cases scaled : decimals ≤ 77
  · have count : Word.count = 2 ^ 256 := rfl
    simp only [scale_of_le scaled, count, Nat.mul_comm _ whole]
    by_cases fits : whole * 10 ^ decimals < 2 ^ 256
    · rw [if_pos fits, Except.ok.injEq]
      constructor
      · rintro rfl
        exact isWhole_ofNat scaled fits
      · exact (isWhole_ofNat scaled fits).unique
    · rw [if_neg fits]
      exact iff_of_false nofun fun isWhole => fits isWhole.fits
  · rw [scale_eq_none (Nat.lt_of_not_le scaled)]
    exact iff_of_false nofun fun isWhole => scaled isWhole.scaled

/-- What stands before the point is worth the number, and what stands behind it nothing. -/
theorem SpellsWhole.parts (spelled : SpellsWhole whole decimals cs) :
    ∃ front places, Spells cs front (List.replicate places '0') ∧ front ≠ [] ∧
      Decimal.value front = whole ∧ places ≤ decimals := by
  have zero {count : Nat} : ∀ c ∈ List.replicate count '0', Decimal.isDigit c = true := by
    intro c member
    rw [List.eq_of_mem_replicate member]
    rfl
  have digits {zeros : Nat} : ∀ c ∈ List.replicate zeros '0' ++ Decimal.digits whole,
      Decimal.isDigit c = true :=
    List.forall_mem_append.mpr ⟨zero, fun _ => Decimal.isDigit_of_mem_digits⟩
  have nonempty {zeros : Nat} : List.replicate zeros '0' ++ Decimal.digits whole ≠ [] := by
    simp [Decimal.digits_ne_nil]
  have value {zeros : Nat} :
      Decimal.value (List.replicate zeros '0' ++ Decimal.digits whole) = whole := by
    rw [Decimal.value_append, value_zeros, Decimal.value_digits, Nat.zero_mul, Nat.zero_add]
  cases spelled with
  | bare zeros =>
    exact ⟨_, 0, ⟨.inr ⟨rfl, rfl⟩, List.forall_mem_append.mpr ⟨digits, zero⟩⟩, nonempty, value,
      Nat.zero_le _⟩
  | @pointed zeros places few =>
    exact ⟨_, places, ⟨.inl rfl, List.forall_mem_append.mpr ⟨digits, zero⟩⟩, nonempty, value, few⟩

theorem SpellsWhole.parse_eq_ok_iff (spelled : SpellsWhole whole decimals text.toList) :
    parse text decimals = .ok a ↔ IsWhole a whole decimals := by
  obtain ⟨front, places, spells, nonempty, value, few⟩ := spelled.parts
  have counted : units front (List.replicate places '0') decimals = whole * 10 ^ decimals := by
    rw [units, value, value_zeros, Nat.zero_mul, Nat.add_zero]
  rw [Amount.parse_eq_ok_iff, spells.trimChars_eq]
  constructor
  · rintro ⟨scaled, front', places', again, -, -, fits, same, raw⟩
    cases spells.splitPoint_eq.symm.trans again.splitPoint_eq
    rw [counted] at fits raw
    exact ⟨scaled, fits, raw, same⟩
  · rintro ⟨scaled, fits, raw, same⟩
    refine ⟨scaled, front, _, spells, by simp [nonempty], ?_, ?_, same, ?_⟩
    · rwa [List.length_replicate]
    · rwa [counted]
    · rwa [counted]

/-- A number of tokens is an amount just where each of its spellings is read as one, and then both
are the same amount: as many base units as there are tokens times those of one token, shown as the
number without superfluous zeros. -/
theorem ofWhole_parse_agree (spelled : SpellsWhole whole decimals text.toList) :
    ((∃ a, ofWhole whole decimals = .ok a) ↔ decimals ≤ 77 ∧ whole * 10 ^ decimals < 2 ^ 256) ∧
      ((∃ a, parse text decimals = .ok a) ↔ ∃ a, ofWhole whole decimals = .ok a) ∧
      ∀ a, (ofWhole whole decimals = .ok a ∨ parse text decimals = .ok a) →
        ofWhole whole decimals = .ok a ∧ parse text decimals = .ok a ∧ a.decimals = decimals ∧
          a.raw.toNat = whole * 10 ^ decimals ∧ a.text = Decimal.text whole := by
  simp only [ofWhole_eq_ok_iff, spelled.parse_eq_ok_iff, or_self]
  exact ⟨exists_isWhole_iff, trivial, fun a isWhole =>
    ⟨isWhole, isWhole, isWhole.inDecimals, isWhole.raw, isWhole.text_eq⟩⟩

/-- The largest number of tokens that can be given, in as many decimals as there is room for. -/
theorem ofWhole_parse_agree_largest :
    SpellsWhole 18446744073709551615 57 "0018446744073709551615.000".toList ∧
      parse "0018446744073709551615.000" 57 =
        .ok ⟨BitVec.ofNat 256 (18446744073709551615 * 10 ^ 57), 57⟩ ∧
      Amount.text ⟨BitVec.ofNat 256 (18446744073709551615 * 10 ^ 57), 57⟩ =
        "18446744073709551615" := by
  have plain : "18446744073709551615".toList.all Decimal.isDigit = true := by decide
  have leading : Decimal.Leading "18446744073709551615".toList :=
    ⟨List.all_eq_true.mp plain, by decide, by decide⟩
  have digits : Decimal.digits 18446744073709551615 = "18446744073709551615".toList :=
    Decimal.digits_value leading
  have spelled : SpellsWhole 18446744073709551615 57 "0018446744073709551615.000".toList := by
    have pointed : SpellsWhole 18446744073709551615 57 _ := .pointed 2 (by decide : 3 ≤ 57)
    rwa [digits] at pointed
  have made : ofWhole 18446744073709551615 57 =
      .ok ⟨BitVec.ofNat 256 (18446744073709551615 * 10 ^ 57), 57⟩ := by decide +kernel
  obtain ⟨-, -, agree⟩ := ofWhole_parse_agree spelled
  obtain ⟨-, parsed, -, -, shown⟩ := agree _ (.inl made)
  refine ⟨spelled, parsed, ?_⟩
  rw [shown, Decimal.text, digits]
  rfl

end TokenClient.Amount
