import Mathlib.Data.List.Infix
import TokenClient.Toml.Reader
import TokenClient.Toml.Writer

/-! Written strings are read back. Whichever of the four forms a string is written in, the reader
takes exactly that form off the text and finds the string in it. -/
namespace TokenClient.Toml

/-- What stands behind a backslash for a character. -/
structure Escape (c : Char) (code : List Char) : Prop where
  read : ∀ rest, escape? (code ++ rest) = some (c, rest)
  /-- A backslash before it does not join lines. -/
  inLine : ∀ rest, joinLine? (code ++ rest) = none

theorem scalar?_append {size : Nat} {digits : List Char} {c : Char} (rest : List Char)
    (length : digits.length = size) (hex : digits.all isHexDigit)
    (value : digits.foldl (fun n d => 16 * n + digitValue d) 0 = c.toNat) :
    scalar? size (digits ++ rest) = some (c, rest) := by
  have valid : c.toNat.isValidChar := c.valid
  simp [scalar?, List.take_left' length, List.drop_left' length, length, hex, value, valid]

theorem hexDigits_of_control : ∀ n < 128,
    ((Hex.fixed 4 n).map Char.toUpper).length = 4 ∧
    ((Hex.fixed 4 n).map Char.toUpper).all isHexDigit ∧
    ((Hex.fixed 4 n).map Char.toUpper).foldl (fun n d => 16 * n + digitValue d) 0 = n := by
  decide +kernel

theorem unicodeEscape_escape {c : Char} (control : isControl c = true) :
    ∃ code, unicodeEscape c = '\\' :: code ∧ Escape c code := by
  have low : c.toNat < 128 := by
    simp [isControl] at control
    omega
  obtain ⟨length, hex, value⟩ := hexDigits_of_control c.toNat low
  exact ⟨_, rfl, fun rest => scalar?_append rest length hex value, fun _ => rfl⟩

theorem escapePlain_cases {c : Char} (notNewline : c ≠ '\n') :
    (escapePlain c = [c] ∧ isPlain c = true ∧ c ≠ '\\') ∨
    ∃ code, escapePlain c = '\\' :: code ∧ Escape c code := by
  unfold escapePlain
  split_ifs with backslash backspace tab formFeed return_ control
  · subst backslash; exact .inr ⟨_, rfl, fun _ => rfl, fun _ => rfl⟩
  · subst backspace; exact .inr ⟨_, rfl, fun _ => rfl, fun _ => rfl⟩
  · subst tab; exact .inr ⟨_, rfl, fun _ => rfl, fun _ => rfl⟩
  · subst formFeed; exact .inr ⟨_, rfl, fun _ => rfl, fun _ => rfl⟩
  · subst return_; exact .inr ⟨_, rfl, fun _ => rfl, fun _ => rfl⟩
  · exact .inr (unicodeEscape_escape control)
  · refine .inl ⟨rfl, ?_, backslash⟩
    simp [isControl, tab, notNewline] at control
    simp [isPlain]
    omega

theorem isPlain_of_not_control {c : Char} (shown : isControl c = false) (notNewline : c ≠ '\n') :
    isPlain c = true := by
  simp [isControl, notNewline] at shown
  by_cases tab : c = '\t'
  · simp [isPlain, tab]
  · simp [isPlain]
    have := shown.1
    simp [tab] at this
    omega

theorem basicBody?_escapeLine (cs rest : List Char) {fuel : Nat} (enough : cs.length < fuel) :
    basicBody? fuel (escapeLine cs ++ '"' :: rest) = some (cs, rest) := by
  induction cs generalizing fuel with
  | nil =>
    obtain ⟨fuel, rfl⟩ := Nat.exists_eq_succ_of_ne_zero (Nat.ne_zero_of_lt enough)
    rfl
  | cons c cs ih =>
    obtain ⟨fuel, rfl⟩ := Nat.exists_eq_succ_of_ne_zero (Nat.ne_zero_of_lt enough)
    have later := ih (Nat.lt_of_succ_lt_succ enough)
    have escaped {code : List Char} (escape : Escape c code) :
        basicBody? (fuel + 1) ('\\' :: code ++ (escapeLine cs ++ '"' :: rest)) =
          some (c :: cs, rest) := by
      simp [basicBody?, escape.read, later]
    rw [escapeLine, List.append_assoc]
    split_ifs with quote newline
    · subst quote
      have escape : Escape '"' ['"'] := ⟨fun _ => rfl, fun _ => rfl⟩
      exact escaped escape
    · subst newline
      have escape : Escape '\n' ['n'] := ⟨fun _ => rfl, fun _ => rfl⟩
      exact escaped escape
    · rcases escapePlain_cases newline with ⟨plain, shown, notBackslash⟩ | ⟨code, coded, escape⟩
      · rw [plain]
        simp [basicBody?, quote, notBackslash, shown, later]
      · rw [coded]
        exact escaped escape

theorem literalBody?_append {cs : List Char} (rest : List Char)
    (shown : ∀ c ∈ cs, isControl c = false) (notNewline : '\n' ∉ cs) (notQuote : '\'' ∉ cs) :
    literalBody? (cs ++ '\'' :: rest) = some (cs, rest) := by
  induction cs with
  | nil => rfl
  | cons c cs ih =>
    rw [List.forall_mem_cons] at shown
    rw [List.mem_cons, not_or] at notNewline notQuote
    have later := ih shown.2 notNewline.2 notQuote.2
    have plain := isPlain_of_not_control shown.1 (Ne.symm notNewline.1)
    simp [literalBody?, Ne.symm notQuote.1, plain, later]

section Spans

variable {p : Char → Bool} {front rest : List Char}

theorem takeWhile_span (all : ∀ c ∈ front, p c = true)
    (stops : ∀ c, rest.head? = some c → p c = false) : (front ++ rest).takeWhile p = front := by
  rw [List.takeWhile_append_of_pos all]
  cases rest with
  | nil => simp
  | cons c rest => simp [stops c rfl]

theorem dropWhile_span (all : ∀ c ∈ front, p c = true)
    (stops : ∀ c, rest.head? = some c → p c = false) : (front ++ rest).dropWhile p = rest := by
  rw [List.dropWhile_append_of_pos all]
  cases rest with
  | nil => rfl
  | cons c rest => simp [stops c rfl]

end Spans

/-- Up to two quotes are part of a long string; of three to five the last three end it. -/
theorem quoteRun?_replicate {quote : Char} (count : Nat) {rest : List Char}
    (stops : rest.head? ≠ some quote) :
    quoteRun? quote (List.replicate count quote ++ rest) =
      if count < 3 then some (List.replicate count quote, false, rest)
      else if count < 6 then some (List.replicate (count - 3) quote, true, rest)
      else none := by
  have all : ∀ c ∈ List.replicate count quote, (c == quote) = true := fun c member => by
    simp [List.eq_of_mem_replicate member]
  have other : ∀ c, rest.head? = some c → (c == quote) = false := fun c head => by
    rw [beq_eq_false_iff_ne]
    rintro rfl
    exact stops head
  rw [quoteRun?, takeWhile_span all other, dropWhile_span all other]
  simp

/-- A reader of long strings that takes a run of its quotes at once. -/
def TakesRuns (quote : Char) (body? : Nat → List Char → Option (List Char × List Char)) : Prop :=
  ∀ fuel rest, body? (fuel + 1) (quote :: rest) =
    match quoteRun? quote (quote :: rest) with
    | none => none
    | some (quotes, true, rest) => some (quotes, rest)
    | some (quotes, false, rest) => (body? fuel rest).map fun (ds, rest) => (quotes ++ ds, rest)

namespace TakesRuns

variable {quote : Char} {body? : Nat → List Char → Option (List Char × List Char)}
  {run fuel : Nat} {rest : List Char}

theorem close (takes : TakesRuns quote body?) (short : run ≤ 2) (enough : 0 < fuel)
    (stops : rest.head? ≠ some quote) :
    body? fuel (List.replicate run quote ++ quote :: quote :: quote :: rest) =
      some (List.replicate run quote, rest) := by
  obtain ⟨fuel, rfl⟩ := Nat.exists_eq_succ_of_ne_zero (Nat.ne_zero_of_lt enough)
  have joined : List.replicate run quote ++ quote :: quote :: quote :: rest =
      List.replicate (run + 3) quote ++ rest := by
    rw [List.replicate_add, List.append_assoc]
    rfl
  have taken := quoteRun?_replicate (run + 3) stops
  rw [if_neg (by omega), if_pos (by omega), Nat.add_sub_cancel] at taken
  rw [joined, List.replicate_succ, List.cons_append, takes, ← List.cons_append,
    ← List.replicate_succ, taken]

theorem goOn (takes : TakesRuns quote body?) (short : run ≤ 2) {tail ds : List Char} {need : Nat}
    (enough : need + run ≤ fuel) (stops : tail.head? ≠ some quote)
    (read : ∀ fuel, need ≤ fuel → body? fuel tail = some (ds, rest)) :
    body? fuel (List.replicate run quote ++ tail) =
      some (List.replicate run quote ++ ds, rest) := by
  cases run with
  | zero => exact read fuel enough
  | succ run =>
    obtain ⟨fuel, rfl⟩ := Nat.exists_eq_succ_of_ne_zero (by omega : fuel ≠ 0)
    have taken := quoteRun?_replicate (run + 1) stops
    rw [if_pos (by omega)] at taken
    rw [List.replicate_succ, List.cons_append, takes, ← List.cons_append, ← List.replicate_succ,
      taken]
    simp [read fuel (by omega)]

end TakesRuns

theorem longBasicBody?_takesRuns : TakesRuns '"' longBasicBody? := by
  intro fuel rest
  rw [longBasicBody?, if_pos rfl]
  rcases quoteRun? '"' ('"' :: rest) with _ | ⟨quotes, _ | _, rest⟩
  · rfl
  · simp only
    cases longBasicBody? fuel rest <;> rfl
  · rfl

theorem longLiteralBody?_takesRuns : TakesRuns '\'' longLiteralBody? := by
  intro fuel rest
  rw [longLiteralBody?, if_pos rfl]
  rcases quoteRun? '\'' ('\'' :: rest) with _ | ⟨quotes, _ | _, rest⟩
  · rfl
  · simp only
    cases longLiteralBody? fuel rest <;> rfl
  · rfl

theorem newline?_of_plain {c : Char} (rest : List Char) (plain : isPlain c = true) :
    newline? (c :: rest) = none := by
  unfold newline?
  split
  · simp_all [isPlain]
  · simp_all [isPlain]
  · rfl

/-- The induction is on the string, with the quotes just before it that are still to be taken. -/
theorem longBasicBody?_escapeLines (cs : List Char) {rest : List Char} {run fuel : Nat}
    (short : run ≤ 2) (enough : cs.length + run < fuel) (stops : rest.head? ≠ some '"') :
    longBasicBody? fuel
        (List.replicate run '"' ++ (escapeLines run cs ++ '"' :: '"' :: '"' :: rest)) =
      some (List.replicate run '"' ++ cs, rest) := by
  induction cs generalizing run fuel with
  | nil =>
    rw [List.append_nil]
    exact longBasicBody?_takesRuns.close short (by omega) stops
  | cons c cs ih =>
    rw [List.length_cons] at enough
    -- what follows a character that ends the run is read from a run of none
    have later {fuel : Nat} (enough : cs.length < fuel) :
        longBasicBody? fuel (escapeLines 0 cs ++ '"' :: '"' :: '"' :: rest) = some (cs, rest) :=
      ih (Nat.zero_le 2) enough
    have escaped {code : List Char} (escape : Escape c code) : ∀ fuel, cs.length + 2 ≤ fuel →
        longBasicBody? fuel ('\\' :: code ++ (escapeLines 0 cs ++ '"' :: '"' :: '"' :: rest)) =
          some (c :: cs, rest) := by
      intro fuel enough
      obtain ⟨fuel, rfl⟩ := Nat.exists_eq_succ_of_ne_zero (by omega : fuel ≠ 0)
      simp [longBasicBody?, escape.inLine, escape.read, later (by omega : cs.length < fuel)]
    rw [escapeLines]
    split_ifs with quote full newline
    · subst quote full
      have escape : Escape '"' ['"'] := ⟨fun _ => rfl, fun _ => rfl⟩
      exact longBasicBody?_takesRuns.goOn short (by omega) (by simp) (escaped escape)
    · subst quote
      have more := ih (by omega : run + 1 ≤ 2) (by omega : cs.length + (run + 1) < fuel)
      rw [List.replicate_succ', List.append_assoc, List.append_assoc] at more
      exact more
    · subst newline
      refine longBasicBody?_takesRuns.goOn short (by omega : cs.length + 2 + run ≤ fuel)
        (by simp) ?_
      intro fuel enough
      obtain ⟨fuel, rfl⟩ := Nat.exists_eq_succ_of_ne_zero (by omega : fuel ≠ 0)
      simp [longBasicBody?, newline?, later (by omega : cs.length < fuel)]
    · rcases escapePlain_cases newline with ⟨plain, shown, notBackslash⟩ | ⟨code, coded, escape⟩
      · rw [plain]
        refine longBasicBody?_takesRuns.goOn short (by omega : cs.length + 2 + run ≤ fuel)
          (by simpa using quote) ?_
        intro fuel enough
        obtain ⟨fuel, rfl⟩ := Nat.exists_eq_succ_of_ne_zero (by omega : fuel ≠ 0)
        simp [longBasicBody?, quote, notBackslash, newline?_of_plain _ shown, shown,
          later (by omega : cs.length < fuel)]
      · rw [coded, List.append_assoc]
        exact longBasicBody?_takesRuns.goOn short (by omega) (by simp) (escaped escape)

/-- One character more: the run that it ends or goes on, and the longest run so far. -/
def countRun (mark : Char) : Nat × Nat → Char → Nat × Nat := fun (run, best) c =>
  let run := if c = mark then run + 1 else 0
  (run, max run best)

theorem longestRun_eq (mark : Char) (cs : List Char) :
    longestRun mark cs = (cs.foldl (countRun mark) (0, 0)).2 := rfl

theorem le_foldl_countRun (mark : Char) (cs : List Char) (run best : Nat) :
    best ≤ (cs.foldl (countRun mark) (run, best)).2 := by
  induction cs generalizing run best with
  | nil => exact Nat.le_refl best
  | cons c cs ih => exact Nat.le_trans (Nat.le_max_right _ _) (ih _ _)

theorem longLiteralBody?_append {cs : List Char} {rest : List Char} {run best fuel : Nat}
    (shown : ∀ c ∈ cs, isControl c = false) (short : run ≤ 2)
    (runs : (cs.foldl (countRun '\'') (run, best)).2 < 3) (enough : cs.length + run < fuel)
    (stops : rest.head? ≠ some '\'') :
    longLiteralBody? fuel (List.replicate run '\'' ++ (cs ++ '\'' :: '\'' :: '\'' :: rest)) =
      some (List.replicate run '\'' ++ cs, rest) := by
  induction cs generalizing run best fuel with
  | nil =>
    rw [List.append_nil]
    exact longLiteralBody?_takesRuns.close short (by omega) stops
  | cons c cs ih =>
    rw [List.forall_mem_cons] at shown
    rw [List.length_cons] at enough
    rw [List.foldl_cons] at runs
    by_cases quote : c = '\''
    · subst quote
      have counted : countRun '\'' (run, best) '\'' = (run + 1, max (run + 1) best) := rfl
      rw [counted] at runs
      have longer := le_foldl_countRun '\'' cs (run + 1) (max (run + 1) best)
      have more := ih shown.2 (by omega) runs (by omega : cs.length + (run + 1) < fuel)
      rw [List.replicate_succ', List.append_assoc, List.append_assoc] at more
      exact more
    · have counted : countRun '\'' (run, best) c = (0, max 0 best) := by simp [countRun, quote]
      rw [counted] at runs
      refine longLiteralBody?_takesRuns.goOn short (by omega : cs.length + 2 + run ≤ fuel)
        (by simpa using quote) fun fuel enough => ?_
      obtain ⟨fuel, rfl⟩ := Nat.exists_eq_succ_of_ne_zero (by omega : fuel ≠ 0)
      have later : longLiteralBody? fuel (cs ++ '\'' :: '\'' :: '\'' :: rest) = some (cs, rest) :=
        ih shown.2 (Nat.zero_le 2) runs (by omega)
      by_cases newline : c = '\n'
      · subst newline
        simp [longLiteralBody?, newline?, later]
      · have plain := isPlain_of_not_control shown.1 newline
        simp [longLiteralBody?, quote, newline?_of_plain _ plain, plain, later]

theorem newline?_eq_none {cs : List Char} (newline : cs.head? ≠ some '\n')
    (return_ : cs.head? ≠ some '\r') : newline? cs = none := by
  unfold newline?
  split <;> simp_all

/-- A text behind opening quotes is read from its first character on. -/
theorem dropOpening_opening {cs text : List Char} (newline : text.head? = some '\n' → '\n' ∈ cs)
    (return_ : text.head? = some '\r' → '\n' ∈ cs) : dropOpening (opening cs ++ text) = text := by
  by_cases has : '\n' ∈ cs
  · simp [opening, has, dropOpening, newline?]
  · have none : newline? text = none :=
      newline?_eq_none (fun head => has (newline head)) fun head => has (return_ head)
    simp [opening, has, dropOpening, none]

theorem head_escapeLine {cs : List Char} (rest : List Char) (some_ : cs ≠ []) :
    (escapeLine cs ++ rest).head? ≠ some '"' := by
  obtain ⟨c, cs, rfl⟩ := List.exists_cons_of_ne_nil some_
  rw [escapeLine]
  split_ifs with quote newline
  · simp
  · simp
  · rcases escapePlain_cases newline with ⟨plain, _⟩ | ⟨code, coded, _⟩
    · simpa [plain] using quote
    · simp [coded]

theorem head_escapeLines (cs rest : List Char) {mark : Char} (break_ : mark = '\n' ∨ mark = '\r')
    (head : (escapeLines 0 cs ++ '"' :: rest).head? = some mark) : '\n' ∈ cs := by
  have notQuote : '"' ≠ mark := by rcases break_ with rfl | rfl <;> decide
  cases cs with
  | nil => simp [escapeLines, notQuote] at head
  | cons c cs =>
    rw [escapeLines] at head
    split_ifs at head with quote full newline
    · contradiction
    · simp [notQuote] at head
    · simp [newline]
    · rcases escapePlain_cases newline with ⟨plain, shown, _⟩ | ⟨code, coded, _⟩
      · have same : c = mark := by simpa [plain] using head
        subst same
        rcases break_ with rfl | rfl <;> simp [isPlain] at shown
      · rcases break_ with rfl | rfl <;> simp [coded] at head

section Forms

variable {fuel : Nat} {cs rest : List Char}

theorem string?_quote {text : List Char} (apart : ¬ ['"', '"'] <+: text) :
    string? fuel ('"' :: text) = basicBody? fuel text := by
  unfold string?
  split <;> simp_all

theorem string?_apostrophe {text : List Char} (apart : ¬ ['\'', '\''] <+: text) :
    string? fuel ('\'' :: text) = literalBody? text := by
  unfold string?
  split <;> simp_all

theorem string?_basic (enough : cs.length < fuel) (stops : rest.head? ≠ some '"') :
    string? fuel (basic cs ++ rest) = some (cs, rest) := by
  have apart : ¬ ['"', '"'] <+: escapeLine cs ++ '"' :: rest := by
    rintro ⟨more, same⟩
    by_cases none : cs = []
    · subst none
      injection same with _ same
      exact stops (same ▸ rfl)
    · exact head_escapeLine ('"' :: rest) none (same ▸ rfl)
  have joined : basic cs ++ rest = '"' :: (escapeLine cs ++ '"' :: rest) := by simp [basic]
  rw [joined, string?_quote apart, basicBody?_escapeLine cs rest enough]

theorem string?_literal (shown : ∀ c ∈ cs, isControl c = false) (notNewline : '\n' ∉ cs)
    (notQuote : '\'' ∉ cs) (stops : rest.head? ≠ some '\'') :
    string? fuel (literal cs ++ rest) = some (cs, rest) := by
  have apart : ¬ ['\'', '\''] <+: cs ++ '\'' :: rest := by
    rintro ⟨more, same⟩
    cases cs with
    | nil =>
      injection same with _ same
      exact stops (same ▸ rfl)
    | cons c cs =>
      injection same with same _
      exact notQuote (same ▸ .head cs)
  have joined : literal cs ++ rest = '\'' :: (cs ++ '\'' :: rest) := by simp [literal]
  rw [joined, string?_apostrophe apart, literalBody?_append rest shown notNewline notQuote]

theorem string?_longBasic (enough : cs.length < fuel) (stops : rest.head? ≠ some '"') :
    string? fuel (longBasic cs ++ rest) = some (cs, rest) := by
  have joined : longBasic cs ++ rest = '"' :: '"' :: '"' ::
      (opening cs ++ (escapeLines 0 cs ++ '"' :: '"' :: '"' :: rest)) := by simp [longBasic]
  rw [joined, string?, dropOpening_opening (head_escapeLines cs _ (.inl rfl))
    (head_escapeLines cs _ (.inr rfl))]
  exact longBasicBody?_escapeLines cs (Nat.zero_le 2) enough stops

theorem string?_longLiteral (shown : ∀ c ∈ cs, isControl c = false)
    (runs : longestRun '\'' cs < 3) (enough : cs.length < fuel)
    (stops : rest.head? ≠ some '\'') :
    string? fuel (longLiteral cs ++ rest) = some (cs, rest) := by
  have joined : longLiteral cs ++ rest = '\'' :: '\'' :: '\'' ::
      (opening cs ++ (cs ++ '\'' :: '\'' :: '\'' :: rest)) := by simp [longLiteral]
  have newline : (cs ++ '\'' :: '\'' :: '\'' :: rest).head? = some '\n' → '\n' ∈ cs := by
    cases cs <;> simp_all
  have return_ : (cs ++ '\'' :: '\'' :: '\'' :: rest).head? ≠ some '\r' := by
    cases cs with
    | nil => simp
    | cons c cs =>
      intro head
      have same : c = '\r' := by simpa using head
      subst same
      have control := shown '\r' (.head cs)
      contradiction
  rw [joined, string?, dropOpening_opening newline fun head => absurd head return_]
  rw [longestRun_eq] at runs
  exact longLiteralBody?_append shown (Nat.zero_le 2) runs enough stops

theorem string?_quoted (enough : cs.length < fuel) (notQuote : rest.head? ≠ some '"')
    (notApostrophe : rest.head? ≠ some '\'') :
    string? fuel (quoted cs ++ rest) = some (cs, rest) := by
  have shown (none : (!cs.any isControl) = true) : ∀ c ∈ cs, isControl c = false := by
    simpa using none
  unfold quoted
  dsimp only
  split_ifs with plain apostrophes backslashes runs newline
  · exact string?_basic enough notQuote
  · simp only [Bool.and_eq_true] at apostrophes
    obtain ⟨⟨control, apostrophe⟩, newline⟩ := apostrophes
    exact string?_literal (shown control) (by simpa using newline) (by simpa using apostrophe)
      notApostrophe
  · exact string?_longBasic enough notQuote
  · simp only [Bool.and_eq_true, decide_eq_true_eq] at runs
    exact string?_longLiteral (shown runs.1) runs.2 enough notApostrophe
  · exact string?_longBasic enough notQuote
  · exact string?_basic enough notQuote

end Forms

theorem length_escapePlain (c : Char) : 1 ≤ (escapePlain c).length := by
  unfold escapePlain
  split_ifs <;> simp [unicodeEscape]

theorem length_escapeLine (cs : List Char) : cs.length ≤ (escapeLine cs).length := by
  induction cs with
  | nil => exact Nat.le_refl 0
  | cons c cs ih =>
    have plain := length_escapePlain c
    rw [escapeLine]
    split_ifs <;> simp only [List.length_append, List.length_cons, List.length_nil] <;> omega

theorem length_escapeLines (run : Nat) (cs : List Char) :
    cs.length ≤ (escapeLines run cs).length := by
  induction cs generalizing run with
  | nil => exact Nat.le_refl 0
  | cons c cs ih =>
    have plain := length_escapePlain c
    have ended := ih 0
    have longer := ih (run + 1)
    rw [escapeLines]
    split_ifs <;> simp only [List.length_append, List.length_cons] <;> omega

theorem length_quoted (cs : List Char) : cs.length < (quoted cs).length := by
  have oneLine := length_escapeLine cs
  have lines := length_escapeLines 0 cs
  unfold quoted
  dsimp only
  split_ifs <;>
    simp only [basic, literal, longBasic, longLiteral, List.length_append, List.length_cons,
      List.length_nil] <;>
    omega

theorem head_quoted (cs : List Char) :
    (∃ rest, quoted cs = '"' :: rest) ∨ ∃ rest, quoted cs = '\'' :: rest := by
  unfold quoted
  dsimp only
  split_ifs
  · exact .inl ⟨_, rfl⟩
  · exact .inr ⟨_, rfl⟩
  · exact .inl ⟨_, rfl⟩
  · exact .inr ⟨_, rfl⟩
  · exact .inl ⟨_, rfl⟩
  · exact .inl ⟨_, rfl⟩

end TokenClient.Toml
