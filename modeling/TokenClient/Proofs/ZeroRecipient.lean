import TokenClient.Proofs.AccountReading
import TokenClient.Proofs.ArgumentChecks

/-! Recipients that are the zero address. They are refused, but as any other argument: behind the
handshake. -/
namespace TokenClient

/-- Right texts for the contract and for the key, and one that names the zero address where an
account is to get tokens or an allowance. -/
structure Command.ZeroRecipient (command : Command) (text : String) : Prop where
  named : ⟨.recipient, text⟩ ∈ command.arguments
  zero : Account.resolve text = .ok 0
  others : ∀ argument ∈ command.arguments, argument.role = .contract ∨ argument.role = .key →
    argument.check = .ok ()

namespace Command

variable {command : Command} {text : String}

def zeroRefusal (text : String) : Failure :=
  .invalidAddress (text ++ ": the zero address cannot receive tokens")

def accountRefusal? (command : Command) : Option Failure :=
  (command.arguments.filter (·.role = .account)).findSome? Argument.refusal?

theorem ZeroRecipient.refusal?_eq (zero : command.ZeroRecipient text) :
    Argument.refusal? ⟨.recipient, text⟩ = some (zeroRefusal text) := by
  rw [Argument.refusal?_eq_some, Argument.check, Account.resolveRecipient_eq, zero.zero]
  rfl

/-- The recipient is read last. Only an account can be refused before it. -/
theorem ZeroRecipient.refused (zero : command.ZeroRecipient text) :
    command.arguments.findSome? Argument.refusal? =
      some (command.accountRefusal?.getD (zeroRefusal text)) := by
  have fine : ∀ argument ∈ command.arguments, argument.role = .contract ∨ argument.role = .key →
      argument.refusal? = none := fun argument member role =>
    Argument.refusal?_eq_none.mpr (zero.others argument member role)
  have named := zero.named
  have refused := zero.refusal?_eq
  cases command with
  | queryTransfer contract key receiver amount | approve contract key spender amount =>
    obtain rfl : text = _ := by simpa [arguments] using named
    have contractFine := fine _ (.head _) (.inl rfl)
    have keyFine := fine _ (.tail _ (.head _)) (.inr rfl)
    simp [arguments, accountRefusal?, contractFine, keyFine, refused]
  | transferFrom contract key owner recipient amount =>
    obtain rfl : text = recipient := by simpa [arguments] using named
    have contractFine := fine _ (.head _) (.inl rfl)
    have keyFine := fine _ (.tail _ (.head _)) (.inr rfl)
    cases account : Argument.refusal? ⟨.account, owner⟩ <;>
      simp [arguments, accountRefusal?, contractFine, keyFine, refused, account]
  | _ => simp [arguments] at named

end Command

namespace Invocation

variable {i : Invocation} {home : String} {files : Storage} {s : Settings} {session : Session}
  {text : String}

/-- With a recipient that is the zero address a run asks for the chain and for nothing more, and
what is wrong with the answer is reported first. -/
theorem zero_recipient_requests (settled : i.settings home files = .ok s)
    (zero : i.command.ZeroRecipient text) (opened : Session.new s.session = .ok session)
    (node : Node) : i.requests home files node = [.chainId] ∧
      i.outcome home files node =
        ((Session.greeted session.config (node [] ⟨session.url, .chainId⟩).reply).bind fun _ =>
          .error (i.command.accountRefusal?.getD (Command.zeroRefusal text))) := by
  obtain ⟨f, ending, walk, -, halted⟩ :=
    (i.run_ends home files node (isOnline_of_arguments zero.named)).walk
  have called := i.requests_eq home files node
  unfold transcript at walk
  generalize (i.perform home files node).2.wire.calls = calls at walk called
  have connected := Session.connect_eq s.session node .idle
  rw [opened] at connected
  cases greets : Session.greeted session.config (node [] ⟨session.url, .chainId⟩).reply with
  | error failure =>
    obtain ⟨same, walk⟩ := walk.passed settled
    obtain ⟨rfl, walk⟩ := walk.passed (same ▸ opened)
    obtain ⟨rfl, ended⟩ := walk.halted greets
    exact ⟨called, halted _ ended⟩
  | ok chain =>
    have ready : (Session.connect s.session node .idle).1 = .ok session := by
      rw [connected]
      exact congrArg (Except.map _) greets
    obtain ⟨ended, rfl⟩ := refusal_reported walk settled ready zero.refused
    exact ⟨called, halted _ ended⟩

/-- A zero recipient is refused behind the handshake. Where no session can be made, that is what is
reported, and nothing is asked. Else the node is asked for its chain and for nothing more; what is
wrong with its answer, or with an account that stands in front, is reported first. -/
theorem zero_recipient_refused (settled : i.settings home files = .ok s)
    (zero : i.command.ZeroRecipient text) (node : Node) :
    (∀ failure, Session.new s.session = .error failure →
      (∃ detail, failure = .connection s.rpcUrl detail) ∧
        i.outcome home files node = .error failure ∧ i.requests home files node = []) ∧
    ∀ session, Session.new s.session = .ok session →
      i.requests home files node = [.chainId] ∧
      (∀ failure,
        Session.greeted session.config (node [] ⟨session.url, .chainId⟩).reply = .error failure →
        i.outcome home files node = .error failure) ∧
      ∀ chain, Session.greeted session.config (node [] ⟨session.url, .chainId⟩).reply = .ok chain →
        i.outcome home files node =
          .error (i.command.accountRefusal?.getD (Command.zeroRefusal text)) := by
  constructor
  · intro failure unmade
    obtain ⟨f, ending, walk, -, halted⟩ :=
      (i.run_ends home files node (isOnline_of_arguments zero.named)).walk
    obtain ⟨same, walk⟩ := walk.passed settled
    obtain ⟨silent, ended⟩ := walk.unread (same ▸ unmade)
    refine ⟨?_, halted _ ended, by rw [requests, silent]; rfl⟩
    unfold Session.new at unmade
    split at unmade
    · contradiction
    · cases unmade
      exact ⟨_, rfl⟩
  · intro session opened
    obtain ⟨asked, ended⟩ := zero_recipient_requests settled zero opened node
    refine ⟨asked, ?_, ?_⟩
    · intro failure greets
      rw [ended, greets]
      rfl
    · intro chain greets
      rw [ended, greets]
      rfl

end Invocation

/-- The sample approval with the zero address for its spender. -/
def unpayingArgs : List String :=
  ["approve", "0x00000000000000000000000000000000000000c0", "--gas-limit=90000",
    "0000000000000000000000000000000000000000000000000000000000000001",
    "0x0000000000000000000000000000000000000000", "1.5", "--config", "/settings.toml"]

def unpayingInvocation : Invocation :=
  { sampleInvocation with
    command := .approve "0x00000000000000000000000000000000000000c0"
      "0000000000000000000000000000000000000000000000000000000000000001"
      "0x0000000000000000000000000000000000000000" "1.5" }

theorem unpaying_zero :
    unpayingInvocation.command.ZeroRecipient "0x0000000000000000000000000000000000000000" where
  named := .tail _ (.tail _ (.head _))
  zero := ok_of_toOption (by decide +kernel)
  others := by decide +kernel

theorem unpaying_settings : unpayingInvocation.settings "" sampleFiles = .ok sampleSettings :=
  ok_of_toOption (by decide +kernel)

theorem zero_recipient_refused_approve :
    unpayingInvocation.settings "" sampleFiles = .ok sampleSettings ∧
    unpayingInvocation.command.ZeroRecipient "0x0000000000000000000000000000000000000000" ∧
    unpayingInvocation.requests "" sampleFiles sampleNode = [.chainId] ∧
    unpayingInvocation.outcome "" sampleFiles sampleNode = .error (.invalidAddress
      "0x0000000000000000000000000000000000000000: the zero address cannot receive tokens") := by
  have refused := (Invocation.zero_recipient_refused unpaying_settings unpaying_zero sampleNode).2
    sampleSession sample_opened
  exact ⟨unpaying_settings, unpaying_zero, refused.1,
    refused.2.2 9000 (ok_of_toOption (by decide +kernel))⟩

/-- The node is asked although the spender is the zero address. -/
theorem zero_recipient_asked_about :
    CommandLine.parse unpayingArgs = .ok unpayingInvocation ∧
    unpayingInvocation.settings "" sampleFiles = .ok sampleSettings ∧
    unpayingInvocation.command.ZeroRecipient "0x0000000000000000000000000000000000000000" ∧
    unpayingInvocation.requests "" sampleFiles sampleNode ≠ [] := by
  have asked := (Invocation.zero_recipient_requests unpaying_settings unpaying_zero sample_opened
    sampleNode).1
  exact ⟨ok_of_toOption (by decide +kernel), unpaying_settings, unpaying_zero, by simp [asked]⟩

end TokenClient
