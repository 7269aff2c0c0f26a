import TokenClient.Proofs.ArgumentScan

/-! How a command is spelled in arguments. Its words come in order, its values behind them; the
common options may stand anywhere, its own ones behind the last word. Whichever of the spellings is
chosen, the command is read back, and with a value less or a value more nothing is. -/
namespace TokenClient

namespace CommandLine

/-- Digits of a number of 64 bits, perhaps behind a plus sign. -/
def Numeral (text : String) (n : Nat) : Prop :=
  n < UInt64.size ∧ ∃ digits : List Char, (text.toList = digits ∨ text.toList = '+' :: digits) ∧
    digits ≠ [] ∧ digits.all Decimal.isDigit ∧ Decimal.value digits = n

theorem Numeral.number? {text : String} {n : Nat} (numeral : Numeral text n) :
    number? text = some n := by
  obtain ⟨bounded, digits, spelled, more, plain, rfl⟩ := numeral
  have fits : digits ≠ [] ∧ digits.all Decimal.isDigit ∧ Decimal.value digits < UInt64.size :=
    ⟨more, plain, bounded⟩
  rcases spelled with same | plus
  · simp only [CommandLine.number?, same]
    split
    · next rest => exact absurd (List.all_eq_true.mp plain '+' (.head rest)) (by decide)
    · exact if_pos fits
  · simp only [CommandLine.number?, plus]
    exact if_pos fits

theorem Numeral.of_rel {text : String} {n? : Option Nat} (rel : Option.Rel Numeral (some text) n?) :
    ∃ n, Numeral text n := by
  cases rel with
  | some numeral => exact ⟨_, numeral⟩

theorem Numeral.bind_eq {text? : Option String} {n? : Option Nat}
    (rel : Option.Rel Numeral text? n?) : text?.bind CommandLine.number? = n? := by
  cases rel with
  | none => rfl
  | some numeral => exact numeral.number?

theorem Numeral.checked {text : String} {n : Nat} (numeral : Numeral text n) :
    ValueKind.number.check text = .ok () := by
  simp [ValueKind.check, numeral.number?]

theorem leaf_legible (positionals : Nat) (own : List (String × ValueKind)) (flags : List String)
    (options : ∀ option ∈ everywhere ++ own, option.1 ≠ "" ∧ '=' ∉ option.1.toList)
    (apart : ∀ name ∈ flags, name ≠ "" ∧ '=' ∉ name.toList ∧
      (everywhere ++ own).lookup name = none ∧ name ≠ "help") :
    (leaf positionals own flags).Legible where
  words branch member := nomatch member
  shared := ⟨own, rfl⟩
  options := options
  flags name member := by
    obtain ⟨named, plain, free, help⟩ := apart name member
    exact ⟨named, plain, free, help, fun _ => rfl⟩
  values := .inr rfl

theorem grammar_legible : grammar.Legible :=
  ⟨by decide +kernel, ⟨[], rfl⟩, by decide +kernel, by decide +kernel, .inl rfl⟩

theorem group_legible {branches : List (String × Shape)}
    (words : ∀ branch ∈ branches, ¬ Dashed branch.1) : (group branches).Legible :=
  ⟨words, ⟨[], rfl⟩, grammar_legible.options, nofun, .inl rfl⟩

end CommandLine

open CommandLine

namespace Command

def words : Command → List String
  | deploy .. => ["deploy"]
  | queryTransfer .. => ["query-transfer"]
  | info .. => ["info"]
  | balance .. => ["balance"]
  | allowance .. => ["allowance"]
  | approve .. => ["approve"]
  | transferFrom .. => ["transfer-from"]
  | events .. => ["events"]
  | transactionStatus .. => ["tx", "status"]
  | initSettings .. => ["config", "init"]
  | showSettings => ["config", "show"]

def values : Command → List String
  | deploy key => [key]
  | queryTransfer contract key receiver _ => [contract, key, receiver]
  | info contract => [contract]
  | balance contract account => [contract, account]
  | allowance contract owner spender => [contract, owner, spender]
  | approve contract key spender amount => [contract, key, spender, amount]
  | transferFrom contract key owner recipient amount => [contract, key, owner, recipient, amount]
  | events contract _ => [contract]
  | transactionStatus hash => [hash]
  | initSettings _ | showSettings => []

/-- The options that no other command has. -/
def ownOptions : Command → List (String × ValueKind)
  | queryTransfer .. => [("amount", .text)]
  | events .. => [("from-block", .number)]
  | _ => []

def ownFlags : Command → List String
  | initSettings _ => ["force"]
  | _ => []

def flags : Command → List String
  | initSettings true => ["force"]
  | _ => []

/-- What is written for the command's own option is what the command has for it. -/
def Agrees (option? : String → Option String) : Command → Prop
  | queryTransfer _ _ _ amount => option? "amount" = amount
  | events _ fromBlock =>
    match option? "from-block" with
    | none => fromBlock = 0
    | some text => Numeral text fromBlock
  | _ => True

def shape (command : Command) : Shape :=
  leaf command.values.length command.ownOptions command.ownFlags

theorem shape_legible (command : Command) : command.shape.Legible := by
  cases command with
  | queryTransfer => exact leaf_legible _ [("amount", .text)] [] (by decide +kernel) nofun
  | events => exact leaf_legible _ [("from-block", .number)] [] (by decide +kernel) nofun
  | initSettings => exact leaf_legible _ [] ["force"] (by decide +kernel) (by decide +kernel)
  | _ => exact leaf_legible _ [] [] (by decide +kernel) nofun

theorem leads (command : Command) : Leads grammar command.words command.shape := by
  cases command with
  | transactionStatus | initSettings | showSettings =>
    exact .down grammar_legible rfl (.down (group_legible (by decide +kernel)) rfl (.here _))
  | _ => exact .down grammar_legible rfl (.here _)

theorem command?_eq {command : Command} {given : Given} (values : given.values = command.values)
    (flags : given.flags = command.flags) (agrees : command.Agrees (given.options.lookup ·)) :
    command? command.words given = some command := by
  cases command with
  | queryTransfer contract key receiver amount =>
    simp only [command?, words, values, Command.values]
    exact congrArg (fun amount => some (queryTransfer contract key receiver amount)) agrees
  | events contract fromBlock =>
    have told : ((given.options.lookup "from-block").bind number?).getD 0 = fromBlock := by
      cases found : given.options.lookup "from-block" with
      | none =>
        simp only [Agrees, found] at agrees
        exact agrees.symm
      | some text =>
        simp only [Agrees, found] at agrees
        rw [Option.bind_some, agrees.number?, Option.getD_some]
    simp only [command?, words, values, Command.values, told]
  | initSettings force =>
    cases force <;> simp [command?, words, values, Command.values, flags, Command.flags]
  | _ => simp [command?, words, values, Command.values]

end Command

namespace CommandLine

def sharedNames : List String := ["rpc-url", "gas-limit", "config"]

/-- Arguments as they are meant: the stretches up to the last word, and what comes behind it. -/
structure Spelling where
  way : List Stretch
  items : List Item
  deriving DecidableEq, Repr

namespace Spelling

def args (spelling : Spelling) : List String :=
  spelling.way.flatMap Stretch.args ++ spelling.items.flatMap Item.args

def settings (spelling : Spelling) : List Setting :=
  spelling.way.flatMap Prod.fst ++ spelling.items.filterMap Item.setting?

def given (spelling : Spelling) : Given :=
  ⟨spelling.items.filterMap Item.value?, (spelling.items.filterMap Item.setting?).map Setting.entry,
    spelling.items.filterMap Item.flag?⟩

def option? (spelling : Spelling) (name : String) : Option String :=
  (spelling.settings.map Setting.entry).lookup name

/-- The arguments say this command with these options, each of them once. -/
structure Spells (spelling : Spelling) (invocation : Invocation) : Prop where
  words : spelling.way.map Prod.snd = invocation.command.words
  values : spelling.items.filterMap Item.value? = invocation.command.values
  flags : spelling.items.filterMap Item.flag? = invocation.command.flags
  once : (spelling.settings.map Setting.name).Nodup
  common : ∀ s ∈ spelling.way.flatMap Prod.fst, s.name ∈ sharedNames
  known : ∀ s ∈ spelling.items.filterMap Item.setting?,
    s.name ∈ sharedNames ++ invocation.command.ownOptions.map Prod.fst
  rpcUrl : spelling.option? "rpc-url" = invocation.rpcUrl
  gasLimit : Option.Rel Numeral (spelling.option? "gas-limit") invocation.gasLimit
  config : spelling.option? "config" = invocation.config
  own : invocation.command.Agrees spelling.option?
  filled : ∀ s ∈ spelling.settings, s.value ≠ ""
  apart : ∀ s ∈ spelling.settings, s.joined = false → ¬ Dashed s.value
  plain : ∀ value ∈ invocation.command.values, value ≠ "" ∧ ¬ Dashed value

end Spelling

def assemble (found : Matches) : Except UsageFault Invocation :=
  match command? found.path.1 found.path.2 with
  | some command =>
    .ok ⟨found.option? "rpc-url", (found.option? "gas-limit").bind number?,
      found.option? "config", command⟩
  | none => .error .missingSubcommand

theorem parse_eq (args : List String) : parse args = scan grammar .start args >>= assemble := by
  rw [parse]
  refine congrArg (scan grammar .start args >>= ·) (funext fun found => ?_)
  rw [assemble]
  cases command? found.path.1 found.path.2 <;> rfl

theorem option?_enclose {way : List Stretch} {given : Given} (name : String)
    (once : (((way.flatMap Prod.fst).map Setting.entry ++ given.options).map Prod.fst).Nodup) :
    (enclose way (.leaf given)).option? name =
      ((way.flatMap Prod.fst).map Setting.entry ++ given.options).lookup name := by
  induction way with
  | nil => rfl
  | cons stretch way ih =>
    have split : ((stretch :: way).flatMap Prod.fst).map Setting.entry ++ given.options =
        stretch.1.map Setting.entry ++
          ((way.flatMap Prod.fst).map Setting.entry ++ given.options) := by
      rw [List.flatMap_cons, List.map_append, List.append_assoc]
    rw [split] at once ⊢
    have inner := ih (once.sublist ((List.sublist_append_right _ _).map _))
    rw [lookup_append_comm once, ← inner]
    rfl

theorem path_enclose (way : List Stretch) (given : Given) :
    (enclose way (.leaf given)).path = (way.map Prod.snd, given) := by
  induction way with
  | nil => rfl
  | cons stretch way ih =>
    have outer : (enclose (stretch :: way) (.leaf given)).path =
        (stretch.2 :: (enclose way (.leaf given)).path.1, (enclose way (.leaf given)).path.2) := rfl
    rw [outer, ih]
    rfl

namespace Spelling.Spells

variable {spelling : Spelling} {invocation : Invocation}

theorem option?_of_mem (spells : spelling.Spells invocation) {s : Setting}
    (member : s ∈ spelling.settings) : spelling.option? s.name = some s.value := by
  obtain ⟨before, after, split⟩ := List.append_of_mem member
  have once := spells.once
  rw [split, List.map_append, List.map_cons, List.nodup_append] at once
  refine List.lookup_eq_some_iff.mpr ⟨before.map Setting.entry, after.map Setting.entry, ?_, ?_⟩
  · rw [split, List.map_append, List.map_cons]
    rfl
  · intro entry earlier
    obtain ⟨other, placed, rfl⟩ := List.mem_map.mp earlier
    have apart := once.2.2 other.name (List.mem_map_of_mem placed) s.name (.head _)
    simpa [Setting.entry] using apart.symm

theorem fits_everywhere (spells : spelling.Spells invocation) {s : Setting}
    (member : s ∈ spelling.settings) (shared : s.name ∈ sharedNames) : s.Fits everywhere := by
  have found := spells.option?_of_mem member
  have apart := spells.apart s member
  simp only [sharedNames, List.mem_cons, List.not_mem_nil, or_false] at shared
  rcases shared with named | named | named <;> rw [named] at found <;> rw [Setting.Fits, named]
  · exact ⟨.text, rfl, rfl, apart⟩
  · have numeral := spells.gasLimit
    rw [found] at numeral
    obtain ⟨n, numeral⟩ := Numeral.of_rel numeral
    exact ⟨.number, rfl, numeral.checked, apart⟩
  · exact ⟨.path, rfl, if_neg (spells.filled s member), apart⟩

theorem fits_own (spells : spelling.Spells invocation) {s : Setting}
    (member : s ∈ spelling.settings)
    (own : s.name ∈ invocation.command.ownOptions.map Prod.fst) :
    s.Fits invocation.command.shape.options := by
  have found := spells.option?_of_mem member
  have agrees := spells.own
  have apart := spells.apart s member
  cases same : invocation.command with
  | queryTransfer contract key receiver amount =>
    rw [same] at own
    have named : s.name = "amount" := by simpa [Command.ownOptions] using own
    rw [Setting.Fits, named]
    exact ⟨.text, rfl, rfl, apart⟩
  | events contract fromBlock =>
    rw [same] at own agrees
    have named : s.name = "from-block" := by simpa [Command.ownOptions] using own
    rw [named] at found
    rw [Command.Agrees, found] at agrees
    rw [Setting.Fits, named]
    exact ⟨.number, rfl, agrees.checked, apart⟩
  | _ =>
    rw [same] at own
    simp [Command.ownOptions] at own

theorem takes (spells : spelling.Spells invocation) :
    invocation.command.shape.Takes ⟨[], [], []⟩ spelling.items where
  room := by
    rw [spells.values]
    exact (Nat.zero_add _).le
  plain := by
    rw [spells.values]
    exact fun value member => (spells.plain value member).2
  known s member := by
    have among : s ∈ spelling.settings := List.mem_append_right _ member
    rcases List.mem_append.mp (spells.known s member) with shared | own
    · exact (Command.shape_legible _).fits_shared (spells.fits_everywhere among shared)
    · exact spells.fits_own among own
  once := by
    have once := spells.once
    rw [settings, List.map_append] at once
    rw [List.nil_append, List.map_map]
    exact (List.nodup_append.mp once).2.1
  flags := by
    rw [spells.flags]
    cases invocation.command with
    | initSettings force => cases force <;> simp [Command.flags, Command.shape, leaf, Shape.flags,
        Command.ownFlags]
    | _ => simp [Command.flags]
  flagged := by
    rw [spells.flags]
    cases invocation.command with
    | initSettings force => cases force <;> simp [Command.flags]
    | _ => simp [Command.flags]

/-- Behind the words only the last level is left to be read. -/
theorem parse_way (spells : spelling.Spells invocation) (rest : List String) :
    parse (spelling.way.flatMap Stretch.args ++ rest) =
      (scan invocation.command.shape .start rest).map (enclose spelling.way) >>= assemble := by
  have leads : Leads grammar (spelling.way.map Prod.snd) invocation.command.shape := by
    rw [spells.words]
    exact invocation.command.leads
  have once := spells.once
  rw [settings, List.map_append] at once
  rw [parse_eq, leads.scan_way ?_ (List.nodup_append.mp once).1]
  intro s member
  exact spells.fits_everywhere (List.mem_append_left _ member) (spells.common s member)

theorem agrees (spells : spelling.Spells invocation) :
    invocation.command.Agrees (spelling.given.options.lookup ·) := by
  have inner {name : String} (own : name ∉ sharedNames) :
      spelling.option? name = spelling.given.options.lookup name := by
    have none : ((spelling.way.flatMap Prod.fst).map Setting.entry).lookup name = none := by
      rw [List.lookup_eq_none_iff]
      intro entry member
      obtain ⟨s, passed, rfl⟩ := List.mem_map.mp member
      simpa [Setting.entry] using (ne_of_mem_of_not_mem (spells.common s passed) own).symm
    rw [option?, settings, List.map_append, List.lookup_append, none, Option.none_or, given]
  have agrees := spells.own
  cases same : invocation.command with
  | queryTransfer =>
    rw [same, Command.Agrees, inner (by decide)] at agrees
    exact agrees
  | events =>
    rw [same, Command.Agrees, inner (by decide)] at agrees
    exact agrees
  | _ => trivial

theorem assembled (spells : spelling.Spells invocation) :
    assemble (enclose spelling.way (.leaf spelling.given)) = .ok invocation := by
  have option (name : String) :
      (enclose spelling.way (.leaf spelling.given)).option? name = spelling.option? name := by
    have once := spells.once
    rw [option?_enclose name, option?, settings, List.map_append]
    · rfl
    · rw [given, ← List.map_append, List.map_map]
      exact once
  have command : command? invocation.command.words spelling.given = some invocation.command :=
    Command.command?_eq spells.values spells.flags spells.agrees
  rw [assemble, path_enclose, spells.words, command, option, option, option, spells.rpcUrl,
    spells.config, Numeral.bind_eq spells.gasLimit]

theorem level_read (spells : spelling.Spells invocation) : Scan.start.Reads
    invocation.command.shape (spelling.items.flatMap Item.args) spelling.given := by
  have reads := spells.takes.reads (Command.shape_legible _) (Scan.holds_start _)
  rwa [Given.takes_eq] at reads

theorem parse_args (spells : spelling.Spells invocation) :
    parse spelling.args = .ok invocation := by
  obtain ⟨later, holds, reads⟩ := spells.level_read
  have full : ¬ spelling.given.values.length < invocation.command.shape.positionals := by
    rw [given, spells.values]
    exact Nat.lt_irrefl _
  have scanned : scan invocation.command.shape .start (spelling.items.flatMap Item.args) =
      .ok (.leaf spelling.given) := by
    rw [← List.append_nil (spelling.items.flatMap _), reads, Scan.scan_end holds rfl, if_neg full]
  rw [args, spells.parse_way, scanned]
  exact spells.assembled

theorem parse_fewer (spells : spelling.Spells invocation) {before after : List Item}
    {value : String} (among : spelling.items = before ++ .value value :: after) :
    parse (Spelling.args ⟨spelling.way, before ++ after⟩) = .error .missingArgument := by
  have part : (before ++ after).Sublist spelling.items := by
    rw [among]
    exact (List.sublist_cons_self _ _).append_left _
  have reads := (spells.takes.sublist part).reads (Command.shape_legible _) (Scan.holds_start _)
  obtain ⟨later, holds, reads⟩ := reads
  have count := congrArg List.length spells.values
  have few : ((before ++ after).foldl Given.take ⟨[], [], []⟩).values.length <
      invocation.command.shape.positionals := by
    have room : invocation.command.shape.positionals = invocation.command.values.length := rfl
    rw [Given.takes_eq, room, ← count, among]
    simp [Item.value?]
  have scanned : scan invocation.command.shape .start ((before ++ after).flatMap Item.args) =
      .error .missingArgument := by
    rw [← List.append_nil (List.flatMap _ _), reads, Scan.scan_end holds rfl, if_pos few]
  rw [args, spells.parse_way, scanned]
  rfl

theorem parse_more (spells : spelling.Spells invocation) {value : String}
    (plain : ¬ Dashed value) :
    parse (spelling.args ++ [value]) = .error .unknownArgument := by
  obtain ⟨later, holds, reads⟩ := spells.level_read
  have full : spelling.given.values.length = invocation.command.shape.positionals :=
    congrArg List.length spells.values
  rw [args, List.append_assoc, spells.parse_way, reads, Scan.scan_end_value holds rfl full plain]
  rfl

end Spelling.Spells

/-- A command is read back from each of its spellings, and only with as many values as it has. -/
theorem parse_spelling {spelling : Spelling} {invocation : Invocation}
    (spells : spelling.Spells invocation) :
    parse spelling.args = .ok invocation ∧
    (∀ before value after, spelling.items = before ++ .value value :: after →
      parse (Spelling.args ⟨spelling.way, before ++ after⟩) = .error .missingArgument) ∧
    ∀ value, ¬ Dashed value → parse (spelling.args ++ [value]) = .error .unknownArgument :=
  ⟨spells.parse_args, fun _ _ _ among => spells.parse_fewer among,
    fun _ plain => spells.parse_more plain⟩

/-- Options on every level, and values that are words of commands. -/
def sampleSpelling : Spelling where
  way := [([⟨"config", "deploy", true⟩], "tx"), ([⟨"rpc-url", "info", false⟩], "status")]
  items := [.setting ⟨"gas-limit", "021000", false⟩, .value "events"]

theorem parse_spelling_sample :
    sampleSpelling.Spells ⟨some "info", some 21000, some "deploy", .transactionStatus "events"⟩ ∧
    sampleSpelling.args =
      ["--config=deploy", "tx", "--rpc-url", "info", "status", "--gas-limit", "021000", "events"] ∧
    parse sampleSpelling.args =
      .ok ⟨some "info", some 21000, some "deploy", .transactionStatus "events"⟩ ∧
    parse ["--config=deploy", "tx", "--rpc-url", "info", "status", "--gas-limit", "021000"] =
      .error .missingArgument ∧
    parse (sampleSpelling.args ++ ["help"]) = .error .unknownArgument := by
  have numeral : Numeral "021000" 21000 :=
    ⟨by decide, "021000".toList, .inl rfl, by decide, by decide, by decide⟩
  have spells : sampleSpelling.Spells
      ⟨some "info", some 21000, some "deploy", .transactionStatus "events"⟩ :=
    { words := rfl
      values := rfl
      flags := rfl
      once := by decide +kernel
      common := by decide +kernel
      known := by decide +kernel
      rpcUrl := rfl
      gasLimit := .some numeral
      config := rfl
      own := trivial
      filled := by decide +kernel
      apart := by decide +kernel
      plain := by decide +kernel }
  obtain ⟨whole, fewer, more⟩ := parse_spelling spells
  exact ⟨spells, by decide, whole, fewer [.setting ⟨"gas-limit", "021000", false⟩] "events" [] rfl,
    more "help" (by decide)⟩

end CommandLine
end TokenClient
