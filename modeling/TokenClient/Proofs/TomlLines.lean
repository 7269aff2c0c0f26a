import TokenClient.Proofs.DecimalDigits
import TokenClient.Proofs.TomlText
import TokenClient.Settings.Basic

/-! Lines of a document. A number, a string, an assignment and the header of a table are read for
what they were written for, whatever comes after them. -/
namespace TokenClient.Toml

section Numbers

variable {cs : List Char}

theorem digitsOf?_digits (some_ : cs ≠ []) (digits : ∀ c ∈ cs, Decimal.isDigit c = true) :
    digitsOf? Decimal.isDigit cs = some cs := by
  fun_induction digitsOf? Decimal.isDigit cs with
  | case1 => contradiction
  | case2 c isDigit => rfl
  | case3 c notDigit => simp_all
  | case4 c rest isDigit ih =>
    have underscore := digits '_' (by simp)
    contradiction
  | case5 c rest notDigit => simp_all
  | case6 c rest single underscored isDigit ih =>
    have later : rest ≠ [] := by
      rintro rfl
      exact single rfl
    simp [ih later fun c member => digits c (.tail _ member)]
  | case7 c rest single underscored notDigit => simp_all

theorem mark?_digits {mark : Char} (notDigit : Decimal.isDigit mark = false)
    (digits : ∀ c ∈ cs, Decimal.isDigit c = true) : mark? mark cs = none := by
  cases cs with
  | nil => rfl
  | cons c cs =>
    have other : c ≠ mark := by
      rintro rfl
      simp [notDigit] at digits
    simp [mark?, other]

theorem clock?_rest {size low high n : Nat} {rest : List Char}
    (read : clock? size low high cs = some (n, rest)) : rest = cs.drop size := by
  unfold clock? at read
  simp only [Option.ite_none_right_eq_some, Option.some.injEq, Prod.mk.injEq] at read
  exact read.2.2.symm

/-- Digits alone are neither a date nor a time. -/
theorem isMoment_digits (digits : ∀ c ∈ cs, Decimal.isDigit c = true) : isMoment cs = false := by
  have unmarked {mark : Char} (size : Nat) (notDigit : Decimal.isDigit mark = false) :
      mark? mark (cs.drop size) = none :=
    mark?_digits notDigit fun c member => digits c (List.mem_of_mem_drop member)
  have noDate : date? cs = none := by
    rcases read : clock? 4 0 9999 cs with _ | ⟨year, rest⟩
    · simp [date?, read]
    · simp [date?, read, clock?_rest read, unmarked 4 (rfl : Decimal.isDigit '-' = false)]
  have noTime : time? cs = none := by
    rcases read : clock? 2 0 23 cs with _ | ⟨hour, rest⟩
    · simp [time?, read]
    · simp [time?, read, clock?_rest read, unmarked 2 (rfl : Decimal.isDigit ':' = false)]
  simp [isMoment, noDate, noTime]

theorem value?_word {limits : Limits} {c : Char} {rest : List Char} {fuel depth : Nat}
    (word : isWordChar c = true) :
    value? limits (fuel + 1) depth (c :: rest) = word? limits (c :: rest) := by
  unfold value?
  split
  case h_1 | h_2 | h_3 | h_4 =>
    rename_i same
    cases same
    contradiction
  case h_5 => rfl

section Leading

variable (leading : Decimal.Leading cs)
include leading

theorem decimal?_leading : decimal? cs = some cs := by
  unfold decimal?
  split
  · exact absurd (leading.front rfl) (by simp)
  · exact digitsOf?_digits leading.nonempty leading.digits

theorem signed_leading : signed cs = (false, cs) := by
  unfold signed
  split
  · exact absurd (leading.digits '-' (.head _)) (by decide)
  · exact absurd (leading.digits '+' (.head _)) (by decide)
  · rfl

theorem integer?_leading (small : Decimal.value cs ≤ Settings.maxInteger) :
    integer? cs = some (Int64.ofInt (Decimal.value cs)) := by
  have fits : Int64.minValue.toInt ≤ (Decimal.value cs : Int) ∧
      (Decimal.value cs : Int) ≤ Int64.maxValue.toInt := by
    have low : Int64.minValue.toInt ≤ 0 := by decide
    have high : (Settings.maxInteger : Int) = Int64.maxValue.toInt := by decide
    omega
  unfold integer?
  dsimp only
  split
  · exact absurd (leading.front rfl) (by simp)
  · exact absurd (leading.front rfl) (by simp)
  · exact absurd (leading.front rfl) (by simp)
  · simp [signed_leading leading, decimal?_leading leading, fits]

theorem word?_leading {limits : Limits} {rest : List Char}
    (small : Decimal.value cs ≤ Settings.maxInteger)
    (stops : ∀ c, rest.head? = some c → isWordChar c = false) :
    word? limits (cs ++ rest) = some (.integer (Int64.ofInt (Decimal.value cs)), rest) := by
  have word : ∀ c ∈ cs, isWordChar c = true := fun c member => by
    simp [isWordChar, isBare, leading.digits c member]
  have notTrue : cs ≠ "true".toList := by
    rintro rfl
    exact absurd (leading.digits 't' (by simp)) (by decide)
  have notFalse : cs ≠ "false".toList := by
    rintro rfl
    exact absurd (leading.digits 'f' (by simp)) (by decide)
  rw [word?, takeWhile_span word stops, dropWhile_span word stops]
  dsimp only
  rw [if_neg notTrue, if_neg notFalse, isMoment_digits leading.digits, if_neg Bool.false_ne_true,
    integer?_leading leading small]

theorem value?_leading {limits : Limits} {rest : List Char} {fuel depth : Nat}
    (small : Decimal.value cs ≤ Settings.maxInteger)
    (stops : ∀ c, rest.head? = some c → isWordChar c = false) :
    value? limits (fuel + 1) depth (cs ++ rest) =
      some (.integer (Int64.ofInt (Decimal.value cs)), rest) := by
  have read := @word?_leading _ leading limits rest small stops
  obtain ⟨c, cs, rfl⟩ := List.exists_cons_of_ne_nil leading.nonempty
  have word : isWordChar c = true := by simp [isWordChar, isBare, leading.digits c (.head cs)]
  rw [List.cons_append] at read ⊢
  rw [value?_word word, read]

end Leading

end Numbers

theorem ne_of_isBare {c d : Char} (bare : isBare c = true) (other : isBare d = false) : c ≠ d := by
  rintro rfl
  simp [bare] at other

theorem isBlank_of_isBare {c : Char} (bare : isBare c = true) : isBlank c = false := by
  simp [isBlank, ne_of_isBare bare (rfl : isBare ' ' = false),
    ne_of_isBare bare (rfl : isBare '\t' = false)]

theorem skipBlanks_of_head {cs : List Char} (unblank : ∀ c, cs.head? = some c → isBlank c = false) :
    skipBlanks cs = cs :=
  @dropWhile_span isBlank [] cs (by simp) unblank

/-- A value that ends its line. -/
structure Written (value : List Char) (content : Toml) : Prop where
  unblank : ∀ c, value.head? = some c → isBlank c = false
  read : ∀ rest fuel, value.length < fuel →
    value? .strict fuel Limits.strict.depth (value ++ '\n' :: rest) = some (content, '\n' :: rest)

theorem written_digits {n : Nat} (small : n ≤ Settings.maxInteger) :
    Written (Decimal.digits n) (.integer (Int64.ofInt n)) where
  unblank c head := by
    have digit := Decimal.isDigit_of_mem_digits (List.mem_of_mem_head? head)
    exact isBlank_of_isBare (by simp [isBare, digit])
  read rest fuel enough := by
    obtain ⟨fuel, rfl⟩ := Nat.exists_eq_succ_of_ne_zero (Nat.ne_zero_of_lt enough)
    have spelled := Decimal.value_digits n
    rw [value?_leading (Decimal.leading_digits n) (by omega) (by rintro c ⟨⟩; rfl), spelled]

theorem written_quoted (cs : List Char) : Written (quoted cs) (.text (String.ofList cs)) where
  unblank c head := by
    rcases head_quoted cs with ⟨rest, quoted⟩ | ⟨rest, quoted⟩ <;> rw [quoted] at head <;>
      cases head <;> rfl
  read rest fuel enough := by
    obtain ⟨fuel, rfl⟩ := Nat.exists_eq_succ_of_ne_zero (Nat.ne_zero_of_lt enough)
    have long := length_quoted cs
    have read : string? fuel (quoted cs ++ '\n' :: rest) = some (cs, '\n' :: rest) :=
      string?_quoted (by omega) (by simp) (by simp)
    rcases head_quoted cs with ⟨rest, quoted⟩ | ⟨rest, quoted⟩
    · rw [quoted, List.cons_append] at read ⊢
      simp [value?, read]
    · rw [quoted, List.cons_append] at read ⊢
      simp [value?, read]

section Keys

variable {key : List Char} (some_ : key ≠ []) (bare : ∀ c ∈ key, isBare c = true)
include some_ bare

theorem keyPart?_bare {rest : List Char} {fuel : Nat}
    (stops : ∀ c, rest.head? = some c → isBare c = false) :
    keyPart? fuel (key ++ rest) = some (String.ofList key, rest) := by
  obtain ⟨c, key, rfl⟩ := List.exists_cons_of_ne_nil some_
  have first := bare c (.head key)
  unfold keyPart?
  split
  case h_1 | h_2 =>
    rename_i same
    cases same
    contradiction
  case h_3 => rw [takeWhile_span bare stops, dropWhile_span bare stops, if_neg some_]

theorem key?_bare {before after : List Char} {mark : Char} {fuel : Nat}
    (blanks : skipBlanks before = mark :: after) (notDot : mark ≠ '.')
    (stops : ∀ c, before.head? = some c → isBare c = false) :
    key? .strict (fuel + 1) (key ++ before) = some ([], String.ofList key, mark :: after) := by
  have front : skipBlanks (key ++ before) = key ++ before := by
    obtain ⟨c, key, rfl⟩ := List.exists_cons_of_ne_nil some_
    exact skipBlanks_of_head (by rintro c ⟨⟩; exact isBlank_of_isBare (bare c (.head key)))
  have parts : keyParts? (fuel + 1) (key ++ before) =
      some ([], String.ofList key, mark :: after) := by
    simp [keyParts?, front, keyPart?_bare some_ bare stops, blanks, notDot]
  rw [key?, parts]
  rfl

theorem statement?_header (rest : List Char) {fuel : Nat} :
    statement? .strict (fuel + 1) ('[' :: (key ++ ']' :: '\n' :: rest)) =
      some (.header [] (String.ofList key), rest) := by
  have read : key? .strict (fuel + 1) (key ++ ']' :: '\n' :: rest) =
      some ([], String.ofList key, ']' :: '\n' :: rest) :=
    key?_bare some_ bare rfl (by decide) (by rintro c ⟨⟩; rfl)
  obtain ⟨c, key, rfl⟩ := List.exists_cons_of_ne_nil some_
  have single : c ≠ '[' := ne_of_isBare (bare c (.head key)) rfl
  unfold statement?
  split
  case h_1 =>
    rename_i same
    cases same
    contradiction
  case h_2 =>
    rename_i same
    cases same
    rw [read]
    rfl
  case h_3 =>
    rename_i other
    exact absurd rfl (other _)

theorem statement?_assign {value : List Char} {content : Toml} (written : Written value content)
    (rest : List Char) {fuel : Nat} (enough : value.length < fuel) :
    statement? .strict fuel (key ++ " = ".toList ++ value ++ ['\n'] ++ rest) =
      some (.assign [] (String.ofList key) content, rest) := by
  have joined : key ++ " = ".toList ++ value ++ ['\n'] ++ rest =
      key ++ ' ' :: '=' :: ' ' :: (value ++ '\n' :: rest) := by simp
  have blanks : skipBlanks (' ' :: (value ++ '\n' :: rest)) = value ++ '\n' :: rest :=
    @dropWhile_span isBlank [' '] _ (by simp [isBlank]) fun c head => by
      cases value with
      | nil => cases head; rfl
      | cons d value => exact written.unblank c head
  have line : endOfLine? ('\n' :: rest) = some rest := rfl
  obtain ⟨fuel, rfl⟩ := Nat.exists_eq_succ_of_ne_zero (Nat.ne_zero_of_lt enough)
  have read : key? .strict (fuel + 1) (key ++ ' ' :: '=' :: ' ' :: (value ++ '\n' :: rest)) =
      some ([], String.ofList key, '=' :: ' ' :: (value ++ '\n' :: rest)) :=
    key?_bare some_ bare rfl (by decide) (by rintro c ⟨⟩; rfl)
  rw [joined]
  obtain ⟨c, key, rfl⟩ := List.exists_cons_of_ne_nil some_
  have notHeader : c ≠ '[' := ne_of_isBare (bare c (.head key)) rfl
  unfold statement?
  split
  case h_1 | h_2 =>
    rename_i same
    injection same with same _
    exact absurd same notHeader
  case h_3 =>
    rw [read]
    simp [mark?, blanks, written.read rest _ enough, line]

end Keys

/-- The statements that a text stands for, whatever follows it. -/
structure Spells (text : List Char) (said : List Statement) : Prop where
  read : ∀ rest fuel, statements? .strict (said.length + fuel) (text ++ rest) =
    (statements? .strict fuel rest).map (said ++ ·)
  short : said.length ≤ text.length

theorem skipLines_of_head {c : Char} {fuel : Nat} (rest : List Char)
    (opens : isBare c = true ∨ c = '[') : skipLines fuel (c :: rest) = c :: rest := by
  have other {d : Char} (plain : isBare d = false) (bracket : d ≠ '[') : c ≠ d := by
    rintro rfl
    simp [plain, bracket] at opens
  have unblank : isBlank c = false := by
    simp [isBlank, @other ' ' rfl (by decide), @other '\t' rfl (by decide)]
  cases fuel with
  | zero => rfl
  | succ fuel =>
    have blanks : skipBlanks (c :: rest) = c :: rest := by simp [skipBlanks, unblank]
    have comment : skipComment (c :: rest) = c :: rest := by
      simp [skipComment, @other '#' rfl (by decide)]
    have newline : newline? (c :: rest) = none :=
      newline?_eq_none (by simpa using @other '\n' rfl (by decide))
        (by simpa using @other '\r' rfl (by decide))
    simp [skipLines, blanks, comment, newline]

namespace Spells

variable {text front back : List Char} {first second : List Statement}

theorem nil : Spells [] [] := ⟨fun _ _ => by simp, Nat.le_refl 0⟩

theorem append (here : Spells front first) (later : Spells back second) :
    Spells (front ++ back) (first ++ second) where
  read rest fuel := by
    rw [List.length_append, Nat.add_assoc, List.append_assoc, here.read, later.read]
    simp [Function.comp_def]
  short := by
    have := here.short
    have := later.short
    simp only [List.length_append]
    omega

theorem newline (spells : Spells text first) : Spells ('\n' :: text) first where
  read rest fuel := by
    rw [← spells.read]
    cases first.length + fuel with
    | zero => rfl
    | succ fuel => rfl
  short := Nat.le_succ_of_le spells.short

theorem statement {c : Char} {said : Statement} (opens : isBare c = true ∨ c = '[')
    (read : ∀ rest fuel, (c :: text).length < fuel →
      statement? .strict fuel (c :: text ++ rest) = some (said, rest)) : Spells (c :: text) [said] where
  read rest fuel := by
    have enough : (c :: text).length < (c :: text ++ rest).length + 1 := by
      rw [List.length_append]
      omega
    have one := read rest _ enough
    rw [List.cons_append] at one ⊢
    rw [List.length_singleton, Nat.add_comm, statements?, skipLines_of_head _ opens]
    simp only [one, Option.bind_eq_bind, Option.bind_some]
    cases statements? .strict fuel rest <;> rfl
  short := by simp

theorem header (key : List Char) (some_ : key ≠ []) (bare : ∀ c ∈ key, isBare c = true) :
    Spells ('[' :: (key ++ [']', '\n'])) [.header [] (String.ofList key)] :=
  statement (.inr rfl) fun rest fuel enough => by
    obtain ⟨fuel, rfl⟩ := Nat.exists_eq_succ_of_ne_zero (Nat.ne_zero_of_lt enough)
    simpa using statement?_header some_ bare rest

theorem line {key : List Char} {value : List Char} {content : Toml} (some_ : key ≠ [])
    (bare : ∀ c ∈ key, isBare c = true) (written : Written value content) :
    Spells (key ++ " = ".toList ++ value ++ ['\n']) [.assign [] (String.ofList key) content] := by
  have read := statement?_assign some_ bare written
  obtain ⟨c, key, rfl⟩ := List.exists_cons_of_ne_nil some_
  exact statement (.inl (bare c (.head key))) fun rest fuel enough =>
    read rest (by simp at enough; omega)

end Spells

end TokenClient.Toml
