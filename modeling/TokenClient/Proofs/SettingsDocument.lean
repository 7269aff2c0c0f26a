import TokenClient.Proofs.SettingsReading
import TokenClient.Proofs.TomlLines

/-! The document of settings, read line by line, gives the settings back. -/
namespace TokenClient.Settings

open Toml

section Keys

variable (key : String) (some_ : key.toList ≠ []) (bare : key.toList.all isBare = true)
include some_ bare

theorem spells_header : Spells ('[' :: (key.toList ++ [']', '\n'])) [.header [] key] := by
  have spells := Spells.header key.toList some_ (List.all_eq_true.mp bare)
  rwa [String.ofList_toList] at spells

theorem spells_line {value : List Char} {content : Toml} (written : Written value content) :
    Spells (line key value) [.assign [] key content] := by
  have spells := Spells.line some_ (List.all_eq_true.mp bare) written
  rwa [String.ofList_toList] at spells

theorem spells_textLine (value : String) :
    Spells (textLine key value) [.assign [] key (.text value)] := by
  have written := written_quoted value.toList
  rw [String.ofList_toList] at written
  exact spells_line key some_ bare written

theorem spells_numberLine {n : Nat} (small : n ≤ maxInteger) :
    Spells (numberLine key n) [.assign [] key (.integer (Int64.ofInt n))] :=
  spells_line key some_ bare (written_digits small)

end Keys

def said (s : Settings) : List Statement :=
  let number (key : String) (n : Nat) : Statement := .assign [] key (.integer (Int64.ofInt n))
  [.header [] "network"] ++ [.assign [] "rpc_url" (.text s.rpcUrl)] ++
    s.chainId.toList.map (number "chain_id") ++
    [.header [] "tx"] ++ [number "gas_limit" s.gasLimit] ++
    [number "confirmation_timeout_secs" s.confirmationTimeoutSecs] ++
    [number "poll_interval_ms" s.pollIntervalMs] ++
    [.header [] "transfer"] ++ [.assign [] "amount" (.text s.transferAmount)]

theorem spells_chars {s : Settings} (bounded : s.Bounded) : Spells s.chars s.said := by
  obtain ⟨chain, gasLimit, timeout, interval⟩ := (bounded_iff s).mp bounded
  have network : Spells "[network]\n".toList [.header [] "network"] :=
    spells_header "network" (by decide) (by decide)
  have tx : Spells "\n[tx]\n".toList [.header [] "tx"] :=
    (spells_header "tx" (by decide) (by decide)).newline
  have transfer : Spells "\n[transfer]\n".toList [.header [] "transfer"] :=
    (spells_header "transfer" (by decide) (by decide)).newline
  have chainId : Spells (s.chainId.toList.flatMap (numberLine "chain_id"))
      (s.chainId.toList.map fun n : Nat => .assign [] "chain_id" (.integer (Int64.ofInt n))) := by
    cases given : s.chainId with
    | none => exact .nil
    | some n =>
      have spells := spells_numberLine "chain_id" (by decide) (by decide) (chain n given)
      simpa using spells
  exact network.append (spells_textLine "rpc_url" (by decide) (by decide) s.rpcUrl)
    |>.append chainId
    |>.append tx
    |>.append (spells_numberLine "gas_limit" (by decide) (by decide) gasLimit)
    |>.append (spells_numberLine "confirmation_timeout_secs" (by decide) (by decide) timeout)
    |>.append (spells_numberLine "poll_interval_ms" (by decide) (by decide) interval)
    |>.append transfer
    |>.append (spells_textLine "amount" (by decide) (by decide) s.transferAmount)

theorem natural?_ofInt {n : Nat} (small : n ≤ maxInteger) :
    natural? (.integer (Int64.ofInt n)) = some n := by
  have largest : maxInteger < 2 ^ 63 := by decide
  have exact_ : (Int64.ofInt n).toInt = n := Int64.toInt_ofInt_of_le (by omega) (by omega)
  have nonnegative : 0 ≤ Int64.ofInt n := Int64.le_iff_toInt_le.mpr (by simp [exact_])
  simp [natural?, nonnegative, exact_]

def tables (s : Settings) : List (String × Toml) :=
  let number (n : Nat) : Toml := .integer (Int64.ofInt n)
  [("network", .table (("rpc_url", .text s.rpcUrl) ::
      s.chainId.toList.map fun n => ("chain_id", number n))),
    ("tx", .table [("gas_limit", number s.gasLimit),
      ("confirmation_timeout_secs", number s.confirmationTimeoutSecs),
      ("poll_interval_ms", number s.pollIntervalMs)]),
    ("transfer", .table [("amount", .text s.transferAmount)])]

theorem ofStatements?_said (s : Settings) : ofStatements? s.said = some s.tables := by
  obtain ⟨rpcUrl, chainId, gasLimit, timeout, interval, amount⟩ := s
  cases chainId <;> rfl

theorem ofToml?_tables {s : Settings} (bounded : s.Bounded) : ofToml? s.tables = some s := by
  obtain ⟨chain, gasLimit, timeout, interval⟩ := (bounded_iff s).mp bounded
  obtain ⟨rpcUrl, chainId, gas, seconds, milliseconds, amount⟩ := s
  cases chainId with
  | none =>
    simp [ofToml?, sections, tables, List.lookup_cons, readSection, readTable, readRpcUrl,
      readGasLimit, readTimeout, readInterval, readAmount, natural?_ofInt gasLimit,
      natural?_ofInt timeout, natural?_ofInt interval]
  | some n =>
    simp [ofToml?, sections, tables, List.lookup_cons, readSection, readTable, readRpcUrl,
      readGasLimit, readTimeout, readInterval, readAmount, readChainId, natural?_ofInt gasLimit,
      natural?_ofInt timeout, natural?_ofInt interval, natural?_ofInt (chain n rfl)]

/-- A document that opens with a bracket has no byte order mark. -/
theorem parse?_bracket (rest : List Char) : parse? (String.ofList ('[' :: rest)) =
    (statements? .strict (('[' :: rest).length + 1) ('[' :: rest)).bind ofStatements? := by
  rw [parse?, read?, String.toList_ofList]
  rfl

/-- A document is read as the statements that its lines stand for. -/
theorem parse?_of_spells {rest : List Char} {statements : List Statement}
    (spells : Spells ('[' :: rest) statements) :
    parse? (String.ofList ('[' :: rest)) = ofStatements? statements := by
  obtain ⟨fuel, enough⟩ := Nat.exists_eq_add_of_le spells.short
  have ended : statements? .strict (fuel + 1) [] = some [] := rfl
  have read := spells.read [] (fuel + 1)
  rw [List.append_nil, ended, Option.map_some, List.append_nil, ← Nat.add_assoc, ← enough] at read
  rw [parse?_bracket, read, Option.bind_some]

theorem parse?_chars {s : Settings} (bounded : s.Bounded) :
    parse? (String.ofList s.chars) = some s.tables := by
  have spells := spells_chars bounded
  obtain ⟨rest, front⟩ : ∃ rest, s.chars = '[' :: rest := ⟨_, rfl⟩
  rw [front] at spells ⊢
  rw [parse?_of_spells spells, ofStatements?_said]

theorem document_of_bounded {s : Settings} (bounded : s.Bounded) :
    s.document = .ok (String.ofList s.chars) :=
  if_pos (by simpa [Bounded] using bounded)

theorem document_of_not_bounded {s : Settings} (large : ¬ s.Bounded) :
    s.document = .error .settingsUnwritable :=
  if_neg (by simpa [Bounded] using large)

theorem bounded_of_document {s : Settings} {text : String} (written : s.document = .ok text) :
    s.Bounded := by
  by_contra large
  rw [document_of_not_bounded large] at written
  contradiction

theorem read_document {s : Settings} {text : String} (written : s.document = .ok text) :
    (parse? text).bind ofToml? = some s := by
  have bounded := bounded_of_document written
  rw [document_of_bounded bounded] at written
  obtain rfl := Except.ok.inj written
  rw [parse?_chars bounded]
  exact ofToml?_tables bounded

end TokenClient.Settings
