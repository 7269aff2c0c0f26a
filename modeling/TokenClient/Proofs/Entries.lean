import Mathlib.Data.List.Nodup

/-! Lists of entries under keys, and steps along a list any of which can fail. A look-up finds the
first entry under its key, and so every entry where no key occurs twice. -/
namespace TokenClient

section Lookup

variable {α : Type} {key : String} {value : α}

theorem mem_of_lookup {entries : List (String × α)} (found : entries.lookup key = some value) :
    (key, value) ∈ entries := by
  obtain ⟨before, after, rfl, _⟩ := List.lookup_eq_some_iff.mp found
  simp

/-- Where no key occurs twice, the order of the entries does not count. -/
theorem lookup_append_comm {outer inner : List (String × α)}
    (once : ((outer ++ inner).map Prod.fst).Nodup) :
    (outer ++ inner).lookup key = (inner.lookup key <|> outer.lookup key) := by
  rw [List.lookup_append]
  cases found : outer.lookup key with
  | none => cases inner.lookup key <;> rfl
  | some value =>
    have none : inner.lookup key = none := by
      rw [List.lookup_eq_none_iff]
      intro entry member
      rw [List.map_append, List.nodup_append] at once
      have other := once.2.2 key (List.mem_map_of_mem (mem_of_lookup found)) entry.1
        (List.mem_map_of_mem member)
      simpa using other
    rw [none]
    rfl

end Lookup

section Folds

variable {α σ : Type} {items : List α}

/-- What every step keeps, all of them keep. -/
theorem foldlM_keeps {P : σ → Prop} {step : σ → α → Option σ} {start last : σ}
    (keeps : ∀ s item s', item ∈ items → step s item = some s' → P s → P s')
    (folded : items.foldlM step start = some last) (holds : P start) : P last := by
  induction items generalizing start with
  | nil =>
    cases folded
    exact holds
  | cons item rest ih =>
    rw [List.foldlM_cons] at folded
    obtain ⟨middle, first, later⟩ := Option.bind_eq_some_iff.mp folded
    have here := keeps start item middle (.head rest) first holds
    exact ih (fun s other s' member => keeps s other s' (.tail item member)) later here

theorem foldlM_congr {first second : σ → α → Option σ}
    (same : ∀ item ∈ items, ∀ s, first s item = second s item) (start : σ) :
    items.foldlM first start = items.foldlM second start := by
  induction items generalizing start with
  | nil => rfl
  | cons item rest ih =>
    have later := ih fun other member => same other (.tail item member)
    rw [List.foldlM_cons, List.foldlM_cons, same item (.head rest) start]
    exact congrArg _ (funext later)

end Folds

end TokenClient
