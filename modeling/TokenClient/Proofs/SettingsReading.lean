import Mathlib.Algebra.Ring.Nat
import TokenClient.Command.Run
import TokenClient.CommandLine.Grammar
import TokenClient.Proofs.Entries

/-! What settings can hold that were read: numbers from a document have 63 bits, and a gas limit
from the command line has 64. -/
namespace TokenClient

namespace Settings

/-- All numbers are ones that a document can hold. -/
def Bounded (s : Settings) : Prop := ∀ number ∈ s.numbers, number ≤ maxInteger

theorem natural_le {value : Toml} {number : Nat} (read : natural? value = some number) :
    number ≤ maxInteger := by
  unfold natural? at read
  split at read
  · rename_i i
    split at read
    · cases read
      have high := i.toInt_le
      unfold maxInteger
      omega
    · contradiction
  · contradiction

theorem bounded_iff (s : Settings) : s.Bounded ↔
    (∀ chain, s.chainId = some chain → chain ≤ maxInteger) ∧ s.gasLimit ≤ maxInteger ∧
      s.confirmationTimeoutSecs ≤ maxInteger ∧ s.pollIntervalMs ≤ maxInteger := by
  simp [Bounded, numbers, or_imp, forall_and, Option.mem_toList]

theorem default_bounded : Bounded {} := by
  rw [bounded_iff]
  decide

def Keeps (read : Reader) : Prop :=
  ∀ s s' value, read s value = some s' → s.Bounded → s'.Bounded

theorem readRpcUrl_keeps : Keeps readRpcUrl := by
  intro s s' value read bounded
  cases value <;> simp only [readRpcUrl, Option.some.injEq, reduceCtorEq] at read
  subst read
  exact bounded

theorem readAmount_keeps : Keeps readAmount := by
  intro s s' value read bounded
  cases value <;> simp only [readAmount, Option.some.injEq, reduceCtorEq] at read
  subst read
  exact bounded

theorem number_keeps {place : Settings → Nat → Settings}
    (places : ∀ s number, s.Bounded → number ≤ maxInteger → (place s number).Bounded) :
    Keeps fun s value => (natural? value).map (place s) := by
  intro s s' value read bounded
  obtain ⟨number, natural, rfl⟩ := Option.map_eq_some_iff.mp read
  exact places s number bounded (natural_le natural)

theorem reader_keeps {name : String} {fields : List (String × Reader)} {key : String}
    {read : Reader} (place : (name, fields) ∈ sections) (member : (key, read) ∈ fields) :
    Keeps read := by
  have chainId : Keeps readChainId := number_keeps fun s number bounded low => by
    rw [bounded_iff] at bounded ⊢
    exact ⟨fun chain same => by cases same; exact low, bounded.2⟩
  have gasLimit : Keeps readGasLimit := number_keeps fun s number bounded low => by
    rw [bounded_iff] at bounded ⊢
    exact ⟨bounded.1, low, bounded.2.2⟩
  have timeout : Keeps readTimeout := number_keeps fun s number bounded low => by
    rw [bounded_iff] at bounded ⊢
    exact ⟨bounded.1, bounded.2.1, low, bounded.2.2.2⟩
  have interval : Keeps readInterval := number_keeps fun s number bounded low => by
    rw [bounded_iff] at bounded ⊢
    exact ⟨bounded.1, bounded.2.1, bounded.2.2.1, low⟩
  simp only [sections, List.mem_cons, Prod.mk.injEq, List.not_mem_nil, or_false] at place
  rcases place with ⟨_, rfl⟩ | ⟨_, rfl⟩ | ⟨_, rfl⟩ <;>
    simp only [List.mem_cons, Prod.mk.injEq, List.not_mem_nil, or_false] at member
  · rcases member with ⟨_, rfl⟩ | ⟨_, rfl⟩
    · exact readRpcUrl_keeps
    · exact chainId
  · rcases member with ⟨_, rfl⟩ | ⟨_, rfl⟩ | ⟨_, rfl⟩
    · exact gasLimit
    · exact timeout
    · exact interval
  · obtain ⟨_, rfl⟩ := member
    exact readAmount_keeps

theorem readSection_bounded {fields : List (String × Reader)} {s s' : Settings} {value : Toml}
    (keeps : ∀ key read, (key, read) ∈ fields → Keeps read)
    (read : readSection s fields value = some s') (bounded : s.Bounded) : s'.Bounded := by
  unfold readSection at read
  split at read
  · refine foldlM_keeps (P := Bounded) ?_ read bounded
    rintro s ⟨key, reader⟩ s' member step here
    dsimp only at step
    split at step
    · exact keeps key reader member s s' _ step here
    · cases step
      exact here
  · refine foldlM_keeps (P := Bounded) ?_ read bounded
    rintro s ⟨value, key, reader⟩ s' member step here
    exact keeps key reader (List.of_mem_zip member).2 s s' value step here
  · contradiction

theorem ofToml_bounded {document : List (String × Toml)} {s : Settings}
    (read : ofToml? document = some s) : s.Bounded := by
  refine foldlM_keeps (P := Bounded) ?_ read default_bounded
  rintro s ⟨name, fields⟩ s' member step here
  dsimp only at step
  split at step
  · exact readSection_bounded (fun _ _ => reader_keeps member) step here
  · cases step
    exact here

theorem load_bounded {files : Storage} {path : String} {s : Settings}
    (loaded : load files path = .ok s) : s.Bounded := by
  unfold load at loaded
  split at loaded
  · split at loaded
    · contradiction
    · split at loaded
      · rename_i settings read
        cases loaded
        obtain ⟨document, _, read⟩ := Option.bind_eq_some_iff.mp read
        exact ofToml_bounded read
      · contradiction
  · cases loaded
    exact default_bounded

end Settings

theorem CommandLine.number_lt {text : String} {number : Nat} (read : number? text = some number) :
    number < 2 ^ 64 := by
  unfold number? at read
  simp only [Option.ite_none_right_eq_some, Option.some.injEq] at read
  obtain ⟨⟨_, _, low⟩, rfl⟩ := read
  exact low

namespace Invocation

theorem gasLimit_lt {args : List String} {i : Invocation} {limit : Nat}
    (parsed : CommandLine.parse args = .ok i) (given : i.gasLimit = some limit) :
    limit < 2 ^ 64 := by
  simp only [CommandLine.parse, bind, Except.bind] at parsed
  split at parsed
  · contradiction
  · split at parsed
    · cases parsed
      obtain ⟨text, _, number⟩ := Option.bind_eq_some_iff.mp given
      exact CommandLine.number_lt number
    · contradiction

/-- The gas limit that counts has 64 bits, wherever it comes from. -/
theorem settings_gasLimit_lt {args : List String} {i : Invocation} {home : String}
    {files : Storage} {s : Settings} (parsed : CommandLine.parse args = .ok i)
    (settled : i.settings home files = .ok s) : s.gasLimit < 2 ^ 64 := by
  simp only [settings, bind, Except.bind] at settled
  split at settled
  · contradiction
  · rename_i stored loaded
    cases settled
    have bounded := (Settings.bounded_iff stored).mp (Settings.load_bounded loaded)
    have low := bounded.2.1
    have small : Settings.maxInteger < 2 ^ 64 := by decide
    cases given : i.gasLimit with
    | none =>
      simp only [Option.getD_none]
      omega
    | some limit =>
      simp only [Option.getD_some]
      exact gasLimit_lt parsed given

end Invocation
end TokenClient
