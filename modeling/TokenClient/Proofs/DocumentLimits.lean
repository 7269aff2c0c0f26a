import TokenClient.Toml.Reader

/-! Limits on documents. What is read within some limits is read as the same within wider ones, so
that limits decide whether a document is read, and never as what. -/
namespace TokenClient.Toml

/-- The first reader gives nothing, or what the second gives. -/
def Refines (narrow wide : Option α) : Prop := narrow = none ∨ narrow = wide

namespace Refines

variable {narrow wide : Option α}

theorem refl (read : Option α) : Refines read read := .inr rfl

theorem bind {first second : α → Option β} (here : Refines narrow wide)
    (later : ∀ a, Refines (first a) (second a)) : Refines (narrow >>= first) (wide >>= second) := by
  rcases here with rfl | rfl
  · exact .inl rfl
  · cases narrow with
    | none => exact .inl rfl
    | some a => exact later a

theorem map (refines : Refines narrow wide) (f : α → β) :
    Refines (narrow.map f) (wide.map f) := by
  rcases refines with rfl | rfl
  · exact .inl rfl
  · exact .inr rfl

theorem some {a : α} (refines : Refines narrow wide) (read : narrow = some a) : wide = some a := by
  rcases refines with rfl | rfl
  · contradiction
  · exact read

end Refines

/-- Whatever keeps to the first limits keeps to the second. -/
structure Limits.Within (narrow wide : Limits) : Prop where
  depth : narrow.depth ≤ wide.depth
  huge : narrow.huge = true → wide.huge = true

theorem Limits.exists_within (first second : Limits) :
    ∃ wide, first.Within wide ∧ second.Within wide :=
  ⟨⟨max first.depth second.depth, first.huge || second.huge⟩,
    ⟨Nat.le_max_left .., by simp_all⟩, ⟨Nat.le_max_right .., by simp_all⟩⟩

theorem isFloat_within {huge huger : Bool} {cs : List Char} (more : huge = true → huger = true)
    (float : isFloat huge cs = true) : isFloat huger cs = true := by
  unfold isFloat at float ⊢
  dsimp only at float ⊢
  split at float
  · next inf => rw [if_pos inf]
  · next notInf =>
    rw [if_neg notInf]
    have widened (small : Bool) : (huge || (signed cs).1 || small) = true →
        (huger || (signed cs).1 || small) = true := by
      simp only [Bool.or_eq_true]
      exact Or.imp_left (Or.imp_left more)
    split at float
    · exact widened _ float
    · exact widened _ float
    · contradiction

section

variable {narrow wide : Limits} (within : narrow.Within wide)
include within

theorem word?_within (cs : List Char) : Refines (word? narrow cs) (word? wide cs) := by
  unfold word?
  dsimp only
  split
  · exact .refl _
  · split
    · exact .refl _
    · split
      · exact .refl _
      · split
        · exact .refl _
        · split
          · next float => exact .inr (by rw [if_pos (isFloat_within within.huge float)])
          · exact .inl rfl

theorem key?_within (fuel : Nat) (cs : List Char) : Refines (key? narrow fuel cs) (key? wide fuel cs) := by
  cases read : keyParts? fuel cs with
  | none => exact .inl (by rw [key?, read]; rfl)
  | some parts =>
    by_cases few : parts.1.length < narrow.depth
    · have fewer := Nat.lt_of_lt_of_le few within.depth
      refine .inr ?_
      simp [key?, read, Option.filter, few, fewer]
    · refine .inl ?_
      simp [key?, read, Option.filter, few]

theorem readers_within (fuel : Nat) :
    (∀ {depth deeper} cs, depth ≤ deeper →
      Refines (value? narrow fuel depth cs) (value? wide fuel deeper cs)) ∧
    (∀ {depth deeper} cs, depth ≤ deeper →
      Refines (items? narrow fuel depth cs) (items? wide fuel deeper cs)) ∧
    ∀ {depth deeper} members cs, depth ≤ deeper →
      Refines (pairs? narrow fuel depth members cs) (pairs? wide fuel deeper members cs) := by
  induction fuel with
  | zero => exact ⟨fun _ _ => .inl rfl, fun _ _ => .inl rfl, fun _ _ _ => .inl rfl⟩
  | succ fuel ih =>
    obtain ⟨values, arrays, tables⟩ := ih
    refine ⟨?_, ?_, ?_⟩
    · intro depth deeper cs le
      unfold value?
      split
      · exact .refl _
      · exact .refl _
      · cases depth with
        | zero => exact .inl rfl
        | succ depth =>
          obtain ⟨deeper, rfl⟩ := Nat.exists_eq_succ_of_ne_zero (Nat.ne_zero_of_lt le)
          exact (arrays _ (Nat.le_of_succ_le_succ le)).map _
      · cases depth with
        | zero => exact .inl rfl
        | succ depth =>
          obtain ⟨deeper, rfl⟩ := Nat.exists_eq_succ_of_ne_zero (Nat.ne_zero_of_lt le)
          dsimp only
          split
          · exact .refl _
          · exact (tables _ _ (Nat.le_of_succ_le_succ le)).bind fun _ => .refl _
      · exact word?_within within _
    · intro depth deeper cs le
      unfold items?
      split
      · exact .refl _
      · refine (values _ le).bind fun _ => ?_
        dsimp only
        split
        · exact (arrays _ le).bind fun _ => .refl _
        · exact .refl _
        · exact .refl _
    · intro depth deeper members cs le
      unfold pairs?
      refine (key?_within within _ _).bind fun _ => .bind (.refl _) fun _ =>
        (values _ le).bind fun _ => .bind (.refl _) fun _ => ?_
      split
      · exact tables _ _ le
      · exact .refl _
      · exact .refl _

theorem statement?_within (fuel : Nat) (cs : List Char) :
    Refines (statement? narrow fuel cs) (statement? wide fuel cs) := by
  unfold statement?
  split
  · exact (key?_within within _ _).bind fun _ => .refl _
  · exact (key?_within within _ _).bind fun _ => .refl _
  · refine (key?_within within _ _).bind fun _ => .bind (.refl _) fun _ => ?_
    exact ((readers_within within fuel).1 _ within.depth).bind fun _ => .refl _

theorem statements?_within (fuel : Nat) (cs : List Char) :
    Refines (statements? narrow fuel cs) (statements? wide fuel cs) := by
  induction fuel generalizing cs with
  | zero => exact .inl rfl
  | succ fuel ih =>
    unfold statements?
    split
    · exact .refl _
    · exact (statement?_within within _ _).bind fun _ => (ih _).bind fun _ => .refl _

theorem read?_within (text : String) : Refines (read? narrow text) (read? wide text) :=
  (statements?_within within _ _).bind fun _ => .refl _

end

/-- The text is this document, within limits however wide. -/
def IsDocument (text : String) (document : List (String × Toml)) : Prop :=
  ∃ limits, read? limits text = some document

theorem IsDocument.unique {text : String} {document other : List (String × Toml)}
    (isDocument : IsDocument text document) (again : IsDocument text other) : document = other := by
  obtain ⟨first, read⟩ := isDocument
  obtain ⟨second, reread⟩ := again
  obtain ⟨wide, here, there⟩ := Limits.exists_within first second
  have same := (read?_within here text).some read
  exact Option.some.inj (same.symm.trans ((read?_within there text).some reread))

end TokenClient.Toml
