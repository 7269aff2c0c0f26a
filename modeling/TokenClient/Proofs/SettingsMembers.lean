import TokenClient.Proofs.SettingsReading

/-! What a document says of each setting. A setting is the value of its own member, and the default
where there is none; no other member counts. -/
namespace TokenClient

namespace Settings

/-- The member of a section under a key; an array holds the members in order. -/
def memberIn (keys : List String) (key : String) : Toml → Option Toml
  | .table members => members.lookup key
  | .array items => (keys.zip items).lookup key
  | _ => none

def keys (name : String) : List String := ((sections.lookup name).getD []).map Prod.fst

def member? (document : List (String × Toml)) (name key : String) : Option Toml :=
  (document.lookup name).bind (memberIn (keys name) key)

/-- A member that is not there leaves the settings as they are. -/
def readMember (value? : Option Toml) (read : Reader) (s : Settings) : Option Settings :=
  match value? with
  | some value => read s value
  | none => some s

theorem foldlM_unread (fields : List (String × Reader)) (s : Settings) :
    fields.foldlM (fun s field => readMember none field.2 s) s = some s := by
  induction fields with
  | nil => rfl
  | cons field rest ih => exact ih

theorem readArray_eq {fields : List (String × Reader)} (distinct : (fields.map Prod.fst).Nodup)
    (items : List Toml) (s : Settings) :
    readArray items s fields = fields.foldlM (fun s field =>
      readMember (((fields.map Prod.fst).zip items).lookup field.1) field.2 s) s := by
  induction fields generalizing items s with
  | nil => simp [readArray]
  | cons field rest ih =>
    cases items with
    | nil => exact (foldlM_unread (field :: rest) s).symm
    | cons first items =>
      obtain ⟨fresh, distinct⟩ := List.nodup_cons.mp distinct
      have others : ∀ other ∈ rest, ∀ s : Settings,
          readMember (((rest.map Prod.fst).zip items).lookup other.1) other.2 s =
            readMember ((((field :: rest).map Prod.fst).zip (first :: items)).lookup other.1)
              other.2 s := by
        intro other member s
        have apart : (other.1 == field.1) = false := by
          rw [beq_eq_false_iff_ne]
          rintro same
          exact fresh (same ▸ List.mem_map_of_mem member)
        simp [List.lookup_cons, apart]
      have own : (((field :: rest).map Prod.fst).zip (first :: items)).lookup field.1 =
          some first := by simp
      rw [List.foldlM_cons, own]
      change (field.2 s first >>= fun s => readArray items s rest) = _
      congr 1
      funext s
      rw [ih distinct items s]
      exact foldlM_congr others s

theorem readSection_members {fields : List (String × Reader)}
    (distinct : (fields.map Prod.fst).Nodup) {value : Toml} {s s' : Settings}
    (read : readSection s fields value = some s') :
    fields.foldlM (fun s field =>
      readMember (memberIn (fields.map Prod.fst) field.1 value) field.2 s) s = some s' := by
  cases value with
  | table members => exact read
  | array items => exact (readArray_eq distinct items s).symm.trans read
  | text | integer | float | boolean | moment => contradiction

/-- The sections have names of their own, and so have the members of each. -/
theorem section_named {name : String} {fields : List (String × Reader)}
    (place : (name, fields) ∈ sections) :
    keys name = fields.map Prod.fst ∧ (fields.map Prod.fst).Nodup := by
  simp only [sections, List.mem_cons, Prod.mk.injEq, List.not_mem_nil, or_false] at place
  rcases place with ⟨rfl, rfl⟩ | ⟨rfl, rfl⟩ | ⟨rfl, rfl⟩ <;> exact ⟨rfl, by decide⟩

theorem section_members {document : List (String × Toml)} {name : String}
    {fields : List (String × Reader)} (place : (name, fields) ∈ sections) {s s' : Settings}
    (read : (match document.lookup name with
      | some value => readSection s fields value
      | none => some s) = some s') :
    fields.foldlM (fun s field => readMember (member? document name field.1) field.2 s) s =
      some s' := by
  obtain ⟨named, distinct⟩ := section_named place
  unfold member?
  cases found : document.lookup name with
  | none =>
    rw [found] at read
    cases read
    exact foldlM_unread fields _
  | some value =>
    rw [found] at read
    rw [named]
    exact readSection_members distinct read

/-- The member is as it is said, or it is not there. -/
def Stands (value? : Option Toml) (said : Toml → Prop) (otherwise : Prop) : Prop :=
  match value? with
  | some value => said value
  | none => otherwise

/-- The settings are what the document says, and the defaults elsewhere. -/
structure Says (document : List (String × Toml)) (s : Settings) : Prop where
  rpcUrl : Stands (member? document "network" "rpc_url") (· = .text s.rpcUrl)
    (s.rpcUrl = "http://localhost:8545")
  chainId : Stands (member? document "network" "chain_id")
    (fun value => ∃ n, natural? value = some n ∧ s.chainId = some n) (s.chainId = none)
  gasLimit : Stands (member? document "tx" "gas_limit")
    (fun value => ∃ n, natural? value = some n ∧ s.gasLimit = n) (s.gasLimit = 3000000)
  confirmationTimeoutSecs : Stands (member? document "tx" "confirmation_timeout_secs")
    (fun value => ∃ n, natural? value = some n ∧ s.confirmationTimeoutSecs = n)
    (s.confirmationTimeoutSecs = 30)
  pollIntervalMs : Stands (member? document "tx" "poll_interval_ms")
    (fun value => ∃ n, natural? value = some n ∧ s.pollIntervalMs = n) (s.pollIntervalMs = 500)
  transferAmount : Stands (member? document "transfer" "amount") (· = .text s.transferAmount)
    (s.transferAmount = "10")

/-- A reader that, where it succeeds, puts what the value says in its place. -/
def Puts (read : Reader) (place : Settings → α → Settings) (said : Toml → α → Prop) : Prop :=
  ∀ s value s', read s value = some s' → ∃ new, s' = place s new ∧ said value new

theorem readRpcUrl_puts : Puts readRpcUrl (fun s url => { s with rpcUrl := url })
    fun value url => value = .text url := by
  intro s value s' read
  cases value <;> simp only [readRpcUrl, Option.some.injEq, reduceCtorEq] at read
  exact ⟨_, read.symm, rfl⟩

theorem readAmount_puts : Puts readAmount (fun s amount => { s with transferAmount := amount })
    fun value amount => value = .text amount := by
  intro s value s' read
  cases value <;> simp only [readAmount, Option.some.injEq, reduceCtorEq] at read
  exact ⟨_, read.symm, rfl⟩

theorem number_puts (place : Settings → α → Settings) (of : Nat → α) :
    Puts (fun s value => (natural? value).map fun n => place s (of n)) place
      fun value new => ∃ n, natural? value = some n ∧ new = of n := by
  intro s value s' read
  obtain ⟨n, natural, rfl⟩ := Option.map_eq_some_iff.mp read
  exact ⟨of n, rfl, n, natural, rfl⟩

theorem Puts.member {read : Reader} {place : Settings → α → Settings} {said : Toml → α → Prop}
    (puts : Puts read place said) {value? : Option Toml} {s s' : Settings} {old : α}
    (found : readMember value? read s = some s') (same : place s old = s) :
    ∃ new, s' = place s new ∧ Stands value? (said · new) (new = old) := by
  cases value? with
  | none =>
    cases found
    exact ⟨old, same.symm, rfl⟩
  | some value => exact puts s value s' found

theorem says_of_read {document : List (String × Toml)} {s : Settings}
    (read : ofToml? document = some s) : Says document s := by
  simp only [ofToml?, sections, List.foldlM_cons, List.foldlM_nil] at read
  obtain ⟨networked, network, read⟩ := Option.bind_eq_some_iff.mp read
  obtain ⟨paced, tx, read⟩ := Option.bind_eq_some_iff.mp read
  obtain ⟨_, transfer, ⟨⟩⟩ := Option.bind_eq_some_iff.mp read
  have network := section_members (.head _) network
  have tx := section_members (.tail _ (.head _)) tx
  have transfer := section_members (.tail _ (.tail _ (.head _))) transfer
  simp only [List.foldlM_cons, List.foldlM_nil] at network tx transfer
  obtain ⟨_, first, network⟩ := Option.bind_eq_some_iff.mp network
  obtain ⟨_, second, ⟨⟩⟩ := Option.bind_eq_some_iff.mp network
  obtain ⟨_, third, tx⟩ := Option.bind_eq_some_iff.mp tx
  obtain ⟨_, fourth, tx⟩ := Option.bind_eq_some_iff.mp tx
  obtain ⟨_, fifth, ⟨⟩⟩ := Option.bind_eq_some_iff.mp tx
  obtain ⟨_, sixth, ⟨⟩⟩ := Option.bind_eq_some_iff.mp transfer
  obtain ⟨url, rfl, rpcUrl⟩ := readRpcUrl_puts.member first rfl
  obtain ⟨chain, rfl, chainId⟩ :=
    (number_puts (fun s chain => { s with chainId := chain }) some).member second rfl
  obtain ⟨limit, rfl, gasLimit⟩ :=
    (number_puts (fun s limit => { s with gasLimit := limit }) id).member third rfl
  obtain ⟨timeout, rfl, confirmationTimeoutSecs⟩ :=
    (number_puts (fun s timeout => { s with confirmationTimeoutSecs := timeout }) id).member
      fourth rfl
  obtain ⟨interval, rfl, pollIntervalMs⟩ :=
    (number_puts (fun s interval => { s with pollIntervalMs := interval }) id).member fifth rfl
  obtain ⟨amount, rfl, transferAmount⟩ := readAmount_puts.member sixth rfl
  exact ⟨rpcUrl, chainId, gasLimit, confirmationTimeoutSecs, pollIntervalMs, transferAmount⟩

/-- What a file holds as a document; a file that is not there holds none of the members. -/
def Holds (files : Storage) (path : String) (document : List (String × Toml)) : Prop :=
  (files.isThere path = false ∧ document = []) ∨
  ∃ text, files.read path = .ok text ∧ Toml.parse? text = some document

theorem says_of_load {files : Storage} {path : String} {s : Settings}
    (loaded : load files path = .ok s) :
    ∃ document, Holds files path document ∧ Says document s := by
  unfold load at loaded
  split at loaded
  · split at loaded
    · contradiction
    · next text opened =>
      split at loaded
      · next read =>
        cases loaded
        obtain ⟨document, parsed, read⟩ := Option.bind_eq_some_iff.mp read
        exact ⟨document, .inr ⟨text, opened, parsed⟩, says_of_read read⟩
      · contradiction
  · next missing =>
    cases loaded
    have defaults : Says [] {} := ⟨rfl, rfl, rfl, rfl, rfl, rfl⟩
    exact ⟨[], .inl ⟨by simpa using missing, rfl⟩, defaults⟩

end Settings
end TokenClient
