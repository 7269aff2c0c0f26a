import TokenClient.Proofs.EventReading
import TokenClient.Proofs.PrintedNames

/-! Lines that tell of events. The parts of a line stand apart by white space and hold none, up to
the amount at the end; and each part tells what it was written for. So two events with one line
differ in their transactions at most. -/
namespace TokenClient

open Token

/-- Where white space first comes, a line is cut in one way. -/
theorem Text.cut_unique {front front' rest rest' gap : List Char} {c : Char}
    (same : front ++ (c :: gap ++ rest) = front' ++ (c :: gap ++ rest'))
    (blank : isBlank c = true) (visible : ∀ d ∈ front, isBlank d = false)
    (visible' : ∀ d ∈ front', isBlank d = false) : front = front' ∧ rest = rest' := by
  have kept (front rest : List Char) (visible : ∀ d ∈ front, isBlank d = false) :
      (front ++ (c :: gap ++ rest)).takeWhile (fun d => !isBlank d) = front := by
    rw [List.takeWhile_append_of_pos (fun d member => by simp [visible d member]),
      List.cons_append, List.takeWhile_cons_of_neg (by simp [blank]), List.append_nil]
  obtain rfl : front = front' := by rw [← kept front rest visible, same, kept front' rest' visible']
  exact ⟨rfl, List.append_cancel_left (List.append_cancel_left same)⟩

theorem Text.visible_of_all {cs : List Char} (all : (cs.all fun c => !isBlank c) = true) :
    ∀ c ∈ cs, isBlank c = false := by
  simpa using all

theorem Decimal.digits_injective {n m : Nat} (same : digits n = digits m) : n = m := by
  rw [← value_digits n, same, value_digits]

theorem Decimal.digits_visible (n : Nat) : ∀ c ∈ digits n, Text.isBlank c = false :=
  fun _ member => Text.isBlank_of_isDigit (isDigit_of_mem_digits member)

theorem Address.checksum_visible (a : Address) :
    ∀ c ∈ a.checksum.toList, Text.isBlank c = false := by
  rw [toList_checksum]
  exact Hex.marked_not_blank a.spells_checksumDigits.all

theorem Address.checksum_injective {a b : Address} (same : a.checksum = b.checksum) : a = b := by
  have named := parseAddress_of_padded (Text.padded_self a.checksum)
  rw [same, parseAddress_of_padded (Text.padded_self b.checksum)] at named
  exact (Except.ok.inj named).symm

namespace Amount

theorem text_of_many_decimals {decimals : Nat} (many : 77 < decimals) (raw : Word) :
    (text ⟨raw, decimals⟩).toList = Decimal.digits raw.toNat ++
      (" (base units, ".toList ++ (Decimal.digits decimals ++ " decimals)".toList)) := by
  rw [text, String.toList_ofList, chars]
  simp only [scale_eq_none many, List.append_assoc]

theorem text_injective {raw other : Word} {decimals : Nat}
    (same : text ⟨raw, decimals⟩ = text ⟨other, decimals⟩) : raw = other := by
  by_cases few : decimals ≤ 77
  · have read := parse_text raw few
    rw [same, parse_text other few] at read
    exact ((Amount.mk.inj (Except.ok.inj read)).1).symm
  · have many := Nat.lt_of_not_le few
    have shown := congrArg String.toList same
    rw [text_of_many_decimals many, text_of_many_decimals many] at shown
    have cut := Text.cut_unique shown rfl (Decimal.digits_visible _) (Decimal.digits_visible _)
    exact BitVec.eq_of_toNat_eq (Decimal.digits_injective cut.1)

end Amount

namespace Report

/-- How a line calls the block of its event. -/
def blockText (block : Option Nat) : String := block.elim "pending" Decimal.text

/-- How a line calls the kind of its event. -/
def label : EventKind → String
  | .transfer .. => "Transfer"
  | .approval .. => "Approval"

theorem blockText_visible (block : Option Nat) :
    ∀ c ∈ (blockText block).toList, Text.isBlank c = false := by
  cases block with
  | none => exact Text.visible_of_all (by decide)
  | some block => simpa [blockText, Decimal.text] using Decimal.digits_visible block

theorem blockText_injective {block other : Option Nat} (same : blockText block = blockText other) :
    block = other := by
  have numbered (n : Nat) : Decimal.text n ≠ "pending" := by
    intro pending
    have first : 'p' ∈ Decimal.digits n := by
      rw [← String.toList_ofList (l := Decimal.digits n), ← Decimal.text, pending]
      decide
    exact absurd (Decimal.isDigit_of_mem_digits first) (by decide)
  cases block with
  | none =>
    cases other with
    | none => rfl
    | some m => exact absurd same.symm (numbered m)
  | some n =>
    cases other with
    | none => exact absurd same (numbered n)
    | some m => rw [Decimal.digits_injective (String.ofList_injective same)]

theorem label_visible (kind : EventKind) : ∀ c ∈ (label kind).toList, Text.isBlank c = false := by
  have all : ∀ name ∈ ["Transfer", "Approval"],
      (name.toList.all fun c => !Text.isBlank c) = true := by decide
  cases kind <;> exact Text.visible_of_all (all _ (by simp [label]))

/-- The kind of an event is known from its label and what it is about. -/
theorem kind_unique {kind other : EventKind} (labelled : label kind = label other)
    (giver : kind.giver = other.giver) (taker : kind.taker = other.taker)
    (value : kind.value = other.value) : kind = other := by
  cases kind with
  | transfer =>
    cases other with
    | transfer =>
      cases giver
      cases taker
      cases value
      rfl
    | approval => simp [label] at labelled
  | approval =>
    cases other with
    | transfer => simp [label] at labelled
    | approval =>
      cases giver
      cases taker
      cases value
      rfl

theorem eventLine_eq (event : Event) (decimals : Nat) :
    eventLine event decimals = "#" ++ blockText event.block ++ "  " ++ label event.kind ++ "  " ++
      event.kind.giver.checksum ++ " -> " ++ event.kind.taker.checksum ++ "  " ++
      Amount.text ⟨event.kind.value, decimals⟩ := by
  unfold eventLine
  cases event.block <;> cases event.kind <;> rfl

theorem toList_parts (block label giver taker amount : String) :
    ("#" ++ block ++ "  " ++ label ++ "  " ++ giver ++ " -> " ++ taker ++ "  " ++ amount).toList =
      '#' :: block.toList ++ ([' ', ' '] ++ (label.toList ++ ([' ', ' '] ++ (giver.toList ++
        ([' ', '-', '>', ' '] ++ (taker.toList ++ ([' ', ' '] ++ amount.toList))))))) := by
  simp

/-- A line tells the block, the kind, the accounts and the value of its event. -/
theorem eventLine_eq_iff {first second : Event} {decimals : Nat} :
    eventLine first decimals = eventLine second decimals ↔
      first.block = second.block ∧ first.kind = second.kind := by
  constructor
  · intro same
    have shown := congrArg String.toList same
    have marked (block : Option Nat) :
        ∀ c ∈ '#' :: (blockText block).toList, Text.isBlank c = false :=
      List.forall_mem_cons.mpr ⟨rfl, blockText_visible block⟩
    rw [eventLine_eq, eventLine_eq, toList_parts, toList_parts] at shown
    obtain ⟨block, shown⟩ := Text.cut_unique shown rfl (marked _) (marked _)
    obtain ⟨labelled, shown⟩ := Text.cut_unique shown rfl (label_visible _) (label_visible _)
    obtain ⟨giver, shown⟩ :=
      Text.cut_unique shown rfl (Address.checksum_visible _) (Address.checksum_visible _)
    obtain ⟨taker, value⟩ :=
      Text.cut_unique shown rfl (Address.checksum_visible _) (Address.checksum_visible _)
    refine ⟨blockText_injective ?_, kind_unique ?_ ?_ ?_ ?_⟩
    · exact String.toList_inj.mp (List.cons.inj block).2
    · exact String.toList_inj.mp labelled
    · exact Address.checksum_injective (String.toList_inj.mp giver)
    · exact Address.checksum_injective (String.toList_inj.mp taker)
    · exact Amount.text_injective (String.toList_inj.mp value)
  · rintro ⟨block, kind⟩
    rw [eventLine_eq, eventLine_eq, block, kind]

end Report
end TokenClient
