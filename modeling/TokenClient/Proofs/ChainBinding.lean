import TokenClient.Proofs.Broadcast

/-! Which chain a broadcast is for. The chain that the settings expect is compared with the node's
first answer only; a transaction is signed for the chain that the node reports right before. -/
namespace TokenClient

theorem Session.new_config {config : SessionConfig} {session : Session}
    (opened : Session.new config = .ok session) : session.config = config := by
  unfold Session.new at opened
  split at opened
  · cases opened
    rfl
  · contradiction

theorem Session.greeted_other {config : SessionConfig} {reply : Reply} {expected actual : Nat}
    (expects : config.expectedChainId = some expected)
    (reported : reply.understood (Json.quantity? 64) = .ok actual) (other : actual ≠ expected) :
    greeted config reply = .error (.chainMismatch expected actual) := by
  simp [greeted, reported, expects, Ne.symm other]

namespace Invocation

variable {i : Invocation} {home : String} {files : Storage} {node : Node} {s : Settings}

theorem refused_at_greeting {session : Session} {expected actual : Nat}
    (online : i.command.isOnline) (settled : i.settings home files = .ok s)
    (expects : s.chainId = some expected) (opened : Session.new s.session = .ok session)
    (reported : (node [] ⟨session.url, .chainId⟩).reply.understood (Json.quantity? 64) = .ok actual)
    (other : actual ≠ expected) :
    i.outcome home files node = .error (.chainMismatch expected actual) ∧
      i.requests home files node = [.chainId] := by
  obtain ⟨f, ending, walk, -, failed⟩ := (i.run_ends home files node online).walk
  have called := i.requests_eq home files node
  unfold transcript at walk
  generalize (i.perform home files node).2.wire.calls = calls at walk called
  obtain ⟨settings, walk⟩ := walk.passed settled
  rw [settings] at walk
  obtain ⟨same, walk⟩ := walk.passed opened
  rw [same] at walk
  have config : session.config.expectedChainId = some expected := by
    rw [Session.new_config opened]
    exact expects
  obtain ⟨rfl, ended⟩ := walk.halted (Session.greeted_other config reported other)
  exact ⟨failed _ ended, called⟩

end Invocation

def lastChain? (made : List Exchange) : Option Nat :=
  (made.filter fun exchange => exchange.request = .chainId).getLast?.bind fun exchange =>
    (exchange.reply.understood (Json.quantity? 64)).toOption

theorem lastChain_append (earlier : List Exchange) {later : List Exchange} {url : String}
    {answer : Reply} {chain : Nat} (reported : answer.understood (Json.quantity? 64) = .ok chain)
    (silent : ∀ exchange ∈ later, exchange.request ≠ .chainId) :
    lastChain? (earlier ++ ⟨⟨url, .chainId⟩, answer⟩ :: later) = some chain := by
  have none_later : later.filter (fun exchange => decide (exchange.request = .chainId)) = [] := by
    simpa using silent
  have last : ((earlier ++ ⟨⟨url, .chainId⟩, answer⟩ :: later).filter
      fun exchange => decide (exchange.request = .chainId)).getLast? =
      some ⟨⟨url, .chainId⟩, answer⟩ := by
    rw [List.filter_append, List.filter_cons_of_pos (by rfl), none_later, List.getLast?_concat]
  rw [lastChain?, last, Option.bind_some, reported]
  rfl

/-- A transaction is for the chain of the latest report, whatever was reported before. -/
theorem Backed.last_chain {s : Settings} {command : Command} {url : String}
    {before : List Exchange} {raw : Bytes} (backed : Backed s command url before raw) :
    ∃ t signature, Transaction.ofRaw raw = some (t, signature) ∧
      lastChain? before = some t.chainId := by
  obtain ⟨signer, t, read, backing⟩ := backed
  obtain ⟨_, earlier, terms, rehearsal, rfl, _, told, rehearsed⟩ := backing.grounds
  obtain ⟨nonce, gasPrice, chain, rfl, _, _, reported⟩ := told
  have silent : ∀ exchange ∈ rehearsal, exchange.request ≠ .chainId := by
    intro exchange member
    cases target : t.destination with
    | creation =>
      rw [target] at rehearsed
      simp [rehearsed] at member
    | account address =>
      rw [target] at rehearsed
      obtain ⟨⟨reply, _, rfl, _⟩, _⟩ := rehearsed
      rw [List.mem_singleton] at member
      subst member
      exact nofun
  have found : lastChain? (earlier ++ [⟨⟨url, .transactionCount signer.address⟩, nonce⟩,
      ⟨⟨url, .gasPrice⟩, gasPrice⟩] ++ ⟨⟨url, .chainId⟩, chain⟩ :: rehearsal) = some t.chainId :=
    lastChain_append _ reported silent
  refine ⟨t, _, read, ?_⟩
  simpa using found

namespace Invocation

/-- The expected chain is asked for at the greeting, and a run on another one ends there. What is
broadcast later is for the expected chain just where the node still reports it. -/
theorem chain_bound_by_last_report {args : List String} {i : Invocation} {home : String}
    {files : Storage} {s : Settings} {expected : Nat} (node : Node)
    (parsed : CommandLine.parse args = .ok i) (settled : i.settings home files = .ok s)
    (expects : s.chainId = some expected) :
    (∀ session actual, i.command.isOnline → Session.new s.session = .ok session →
      (node [] ⟨session.url, .chainId⟩).reply.understood (Json.quantity? 64) = .ok actual →
      actual ≠ expected →
      i.outcome home files node = .error (.chainMismatch expected actual) ∧
        i.requests home files node = [.chainId]) ∧
    ∀ before url raw reply after,
      i.transcript home files node = before ++ ⟨⟨url, .sendRaw raw⟩, reply⟩ :: after →
      ∃ t signature, Transaction.ofRaw raw = some (t, signature) ∧
        (t.chainId = expected ↔ lastChain? before = some expected) := by
  refine ⟨fun session actual online opened reported other =>
    refused_at_greeting online settled expects opened reported other, ?_⟩
  intro before url raw reply after sent
  have spoke : i.transcript home files node ≠ [] := by simp [sent]
  have online := isOnline_of_asked spoke
  obtain ⟨f, ending, walk, -, -⟩ := (i.run_ends home files node online).walk
  have gas := settings_gasLimit_lt parsed (settings_of_walk walk spoke)
  obtain ⟨t, signature, read, last⟩ := (backed_of_walk walk online sent gas).last_chain
  exact ⟨t, signature, read, by rw [last, Option.some.injEq]⟩

end Invocation

theorem sample_terms : TermsTold sampleUrl sampleSigner.address
    (sampleAuthorization.transaction (.account 0xc0) sampleMethod.input)
    (sampleNode.exchanges (sampleCalls.take 2) ((sampleCalls.drop 2).take 3)) :=
  ⟨_, _, _, rfl, ok_of_toOption (by decide +kernel), ok_of_toOption (by decide +kernel),
    ok_of_toOption (by decide +kernel)⟩

/-- With the chain 9000 expected and greeted by it, a transaction goes out for the chain 1. -/
theorem broadcast_for_other_chain :
    CommandLine.parse sampleArgs = .ok sampleInvocation ∧
    sampleInvocation.settings "" sampleFiles = .ok sampleSettings ∧
    sampleSettings.chainId = some 9000 ∧
    (∃ before reply after, sampleInvocation.transcript "" sampleFiles sampleNode =
      before ++ ⟨⟨sampleUrl, .sendRaw sampleRaw⟩, reply⟩ :: after) ∧
    ∃ t signature, Transaction.ofRaw sampleRaw = some (t, signature) ∧ t.chainId = 1 := by
  obtain ⟨reply, after, sent⟩ := sample_transcript
  have short := Nat.lt_of_le_of_lt sampleMethod.length_input_le (by decide : 100 < 2 ^ 32)
  have read := Authorization.ofRaw_raw sample_terms (by decide : 90000 < 2 ^ 64) short
  exact ⟨sample_parsed, sample_settings, rfl, ⟨_, reply, after, sent⟩, _, _, read, rfl⟩

/-- The same run by the rule: the last report differs from the first. -/
theorem chain_bound_by_last_report_sample :
    CommandLine.parse sampleArgs = .ok sampleInvocation ∧
    sampleInvocation.settings "" sampleFiles = .ok sampleSettings ∧
    sampleSettings.chainId = some 9000 ∧
    ∃ t signature, Transaction.ofRaw sampleRaw = some (t, signature) ∧
      (t.chainId = 9000 ↔ lastChain? (sampleNode.exchanges [] sampleCalls) = some 9000) := by
  obtain ⟨reply, after, sent⟩ := sample_transcript
  have bound := Invocation.chain_bound_by_last_report sampleNode sample_parsed sample_settings rfl
  exact ⟨sample_parsed, sample_settings, rfl, bound.2 _ _ _ _ _ sent⟩

end TokenClient
