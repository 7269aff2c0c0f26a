import TokenClient.CommandLine.Grammar
import TokenClient.Proofs.Broadcast
import TokenClient.Proofs.KeyReading

/-! Private keys that are refused. A command that signs goes no further than the handshake with such
a key, and what it tells of the key is read off its length and the first of its bytes that is no
digit. -/
namespace TokenClient

open Hex

namespace Credential

/-- The first of the bytes that is no digit, with its place. -/
def flaw? (body : Bytes) : Option (UInt8 × Nat) :=
  body.zipIdx.find? fun entry => ¬ IsDigit (glyph entry.1)

/-- The fault of a refused key of this length with this flaw. -/
def verdict (length : Nat) (flaw : Option (UInt8 × Nat)) : KeyFault :=
  if length % 2 ≠ 0 then .oddLength
  else
    match flaw with
    | some (byte, place) => .notADigit byte place
    | none => if length / 2 ≠ 32 then .wrongSize (length / 2) else .outOfRange

theorem unmet_digits {body : Bytes} {start : Nat} {rest : List (Prop × KeyFault)}
    {fault : KeyFault}
    (unmet : FirstUnmet (((body.zipIdx start).map fun (byte, place) =>
      (IsDigit (glyph byte), KeyFault.notADigit byte place)) ++ rest) fault) :
    match (body.zipIdx start).find? fun entry => ¬ IsDigit (glyph entry.1) with
    | some (byte, place) => fault = .notADigit byte place
    | none => FirstUnmet rest fault := by
  induction body generalizing start with
  | nil => exact unmet
  | cons byte body ih =>
    rw [List.zipIdx_cons, List.map_cons, List.cons_append] at unmet
    rw [List.zipIdx_cons]
    cases unmet with
    | here missed => rw [List.find?_cons_of_pos (by simpa using missed)]
    | later met unmet =>
      rw [List.find?_cons_of_neg (by simpa using met)]
      exact ih unmet

theorem requirements_unmet {body : Bytes} {fault : KeyFault}
    (unmet : FirstUnmet (requirements body) fault) : fault = verdict body.length (flaw? body) := by
  rw [requirements, List.cons_append] at unmet
  cases unmet with
  | here odd => exact (if_pos odd).symm
  | later even unmet =>
    have digits := unmet_digits unmet
    rw [verdict.eq_def, if_neg (not_not.mpr even)]
    unfold flaw?
    split at digits
    · exact digits
    · cases digits with
      | here size => exact (if_pos size).symm
      | later size unmet =>
        rw [if_neg (not_not.mpr size)]
        cases unmet with
        | here => rfl
        | later _ unmet => cases unmet

theorem read_refused {text : String} {failure : Failure} (refused : read text = .error failure) :
    failure = .invalidKey (verdict (hexBody text).length (flaw? (hexBody text))).message := by
  rw [read, mapError_eq_error] at refused
  obtain ⟨fault, refused, rfl⟩ := refused
  rw [requirements_unmet ((ofDigits_judged _).error_iff.mp refused)]

end Credential

/-- A command that signs, with its key left open. -/
inductive KeyPlace where
  | deploy
  | queryTransfer (contract receiver : String) (amount : Option String)
  | approve (contract spender amount : String)
  | transferFrom (contract owner recipient amount : String)
  deriving DecidableEq, Repr

namespace KeyPlace

def fill (place : KeyPlace) (key : String) : Command :=
  match place with
  | deploy => .deploy key
  | queryTransfer contract receiver amount => .queryTransfer contract key receiver amount
  | approve contract spender amount => .approve contract key spender amount
  | transferFrom contract owner recipient amount =>
    .transferFrom contract key owner recipient amount

theorem isOnline_fill (place : KeyPlace) (key : String) : (place.fill key).isOnline = true := by
  cases place <;> rfl

/-- The contract, which is read before the key. -/
def contract? : KeyPlace → Option String
  | deploy => none
  | queryTransfer contract _ _ | approve contract _ _ | transferFrom contract _ _ _ => some contract

/-- What is reported where the key is refused for this reason. -/
def reported (place : KeyPlace) (refusal : Failure) : Failure :=
  match place.contract?.map Account.parseAddress with
  | some (.error failure) => failure
  | _ => refusal

theorem carryOut_refused (place : KeyPlace) {key : String} {refusal : Failure}
    (refused : Credential.read key = .error refusal) (s : Settings) (session : Session)
    (node : Node) (desk : Desk) :
    (place.fill key).carryOut s session node desk = (.error (place.reported refusal), desk) := by
  cases place with
  | deploy =>
    simp only [fill, Command.carryOut, Action.deploy, refused]
    rfl
  | queryTransfer contract | approve contract | transferFrom contract =>
    simp only [fill, Command.carryOut, Action.queryTransfer, Action.approve, Action.transferFrom,
      Action.contractAt, refused, reported, contract?, Option.map_some]
    cases Account.parseAddress contract <;> rfl

/-- How a run with a refused key ends does not depend on the key; only what is told may, and that
depends on how the key was refused. -/
theorem perform_refused (i : Invocation) (place : KeyPlace) (home : String) (files : Storage)
    (node : Node) : ∃ (tell : Failure → Failure) (desk : Desk), ∀ key refusal,
      Credential.read key = .error refusal →
      { i with command := place.fill key }.perform home files node =
        (.error (tell refusal), desk) := by
  have settled (key : String) := Invocation.perform_of_online
    (i := { i with command := place.fill key }) home files node (place.isOnline_fill key)
  have sameSettings (key : String) :
      { i with command := place.fill key }.settings home files = i.settings home files := rfl
  simp only [sameSettings] at settled
  cases read : i.settings home files with
  | error failure =>
    refine ⟨fun _ => failure, ⟨.idle, files, []⟩, fun key _ _ => ?_⟩
    rw [settled, read]
  | ok s =>
    rcases opened : Session.connect s.session node .idle with ⟨failure | session, wire⟩
    · refine ⟨fun _ => failure, ⟨wire, files, []⟩, fun key _ _ => ?_⟩
      rw [settled, read]
      exact Shell.talk_error opened
    · refine ⟨place.reported, ⟨wire, files, []⟩, fun key refusal refused => ?_⟩
      rw [settled, read]
      exact (Shell.talk_ok opened).trans (place.carryOut_refused refused s session node _)

end KeyPlace

/-- What comes of a command line: a usage fault, or a run of the command that it spells. -/
def CommandLine.carriedOut (args : List String) (home : String) (files : Storage) (node : Node) :
    Except UsageFault (Except Failure Unit × Desk) :=
  (parse args).map fun i => i.perform home files node

/-- A command line that is accepted, with a text for its key that is no key. -/
structure KeyPlace.Misused (place : KeyPlace) (i : Invocation) (args : List String)
    (key : String) : Prop where
  parsed : CommandLine.parse args = .ok { i with command := place.fill key }
  refused : ∃ failure, Credential.read key = .error failure

/-- Texts of one length, both of digits only or with the same byte for the first that is none. -/
structure Credential.Alike (key other : String) : Prop where
  length : (hexBody key).length = (hexBody other).length
  flaw : flaw? (hexBody key) = flaw? (hexBody other)

/-- A refused key is not disclosed. With another one of the same length and the same flaw the run
makes the same requests and reports the same failure, and any refused key shows in the report by
its length and its flaw alone. -/
theorem CommandLine.refused_keys_alike (i : Invocation) (place : KeyPlace) (home : String)
    (files : Storage) (node : Node) :
    (∀ first second key other, place.Misused i first key → place.Misused i second other →
      Credential.Alike key other → ∃ failure desk,
        carriedOut first home files node = .ok (.error failure, desk) ∧
        carriedOut second home files node = .ok (.error failure, desk)) ∧
    ∃ (tell : Nat → Option (UInt8 × Nat) → Failure) (desk : Desk), ∀ args key,
      place.Misused i args key → carriedOut args home files node =
        .ok (.error (tell (hexBody key).length (Credential.flaw? (hexBody key))), desk) := by
  obtain ⟨tell, desk, ends⟩ := place.perform_refused i home files node
  have ran (args : List String) (key : String) (misused : place.Misused i args key) :
      carriedOut args home files node = .ok (.error (tell (.invalidKey (Credential.verdict
        (hexBody key).length (Credential.flaw? (hexBody key))).message)), desk) := by
    obtain ⟨failure, refused⟩ := misused.refused
    rw [carriedOut, misused.parsed, Except.map, ends key failure refused,
      Credential.read_refused refused]
  refine ⟨fun first second key other misused again alike => ⟨_, desk, ran first key misused, ?_⟩,
    fun length flaw => tell (.invalidKey (Credential.verdict length flaw).message), desk, ran⟩
  rw [alike.length, alike.flaw]
  exact ran second other again

/-- The report for a key whose third character is a letter too far. -/
def sampleRefusal : Failure := .invalidKey "Invalid character 'z' at position 2"

def sampleKeyPlace : KeyPlace :=
  .approve "0x00000000000000000000000000000000000000c0"
    "0x00000000000000000000000000000000000000d1" "1.5"

def approvalArgs (key : String) : List String :=
  ["approve", "0x00000000000000000000000000000000000000c0", "--gas-limit=90000", key,
    "0x00000000000000000000000000000000000000d1", "1.5", "--config", "/settings.toml"]

theorem CommandLine.refused_keys_alike_spoilt :
    hexBody "0x12zz" ≠ hexBody " 0X9Ez4" ∧
    (∃ failure desk,
      carriedOut (approvalArgs "0x12zz") "" sampleFiles sampleNode = .ok (.error failure, desk) ∧
      carriedOut (approvalArgs " 0X9Ez4") "" sampleFiles sampleNode = .ok (.error failure, desk)) ∧
    ∃ (tell : Nat → Option (UInt8 × Nat) → Failure) (desk : Desk),
      carriedOut (approvalArgs "0x12zz") "" sampleFiles sampleNode =
        .ok (.error (tell 4 (some (122, 2))), desk) := by
  have short : sampleKeyPlace.Misused sampleInvocation (approvalArgs "0x12zz") "0x12zz" :=
    ⟨by decide +kernel, sampleRefusal, by decide +kernel⟩
  have long : sampleKeyPlace.Misused sampleInvocation (approvalArgs " 0X9Ez4") " 0X9Ez4" :=
    ⟨by decide +kernel, sampleRefusal, by decide +kernel⟩
  have length : (hexBody "0x12zz").length = 4 := by decide +kernel
  have flaw : Credential.flaw? (hexBody "0x12zz") = some (122, 2) := by decide +kernel
  obtain ⟨alike, tell, desk, told⟩ :=
    refused_keys_alike sampleInvocation sampleKeyPlace "" sampleFiles sampleNode
  refine ⟨by decide +kernel, alike _ _ _ _ short long ⟨by decide +kernel, by decide +kernel⟩,
    tell, desk, ?_⟩
  rw [← length, ← flaw]
  exact told _ _ short

end TokenClient
