import Mathlib

/-!
# Filtered lists

A search does not notice a filter that keeps whatever it looks for, and a stable sort keeps the
order of what a filter leaves.
-/

namespace List

variable {α : Type} {list : List α} {keep found : α → Bool}

theorem find?_filter_of_imp (hkeep : ∀ a, found a = true → keep a = true) :
    (list.filter keep).find? found = list.find? found := by
  rw [find?_filter]
  congr 1
  funext a
  cases hfound : found a with
  | true => simp [hkeep a hfound]
  | false => simp

variable {le : α → α → Bool} (trans : ∀ a b c, le a b = true → le b c = true → le a c = true)
  (total : ∀ a b, (le a b || le b a) = true)

include trans total

/-- Sorting puts the head of a list between those that go before it and those that do not. -/
theorem mergeSort_cons_eq (first : α) (rest : List α) :
    (first :: rest).mergeSort le =
      (rest.mergeSort le).filter (fun other => !le first other) ++
        first :: (rest.mergeSort le).filter (le first) := by
  obtain ⟨below, above, hsorted, hrest, hbelow⟩ := mergeSort_cons trans total first rest
  have habove : ∀ other ∈ above, le first other = true := by
    have hpairwise := pairwise_mergeSort trans total (first :: rest)
    rw [hsorted, pairwise_append, pairwise_cons] at hpairwise
    exact hpairwise.2.1.1
  have hbefore : (below ++ above).filter (fun other => !le first other) = below := by
    rw [filter_append, filter_eq_self.mpr hbelow, filter_eq_nil_iff.mpr (by simpa using habove),
      append_nil]
  have hafter : (below ++ above).filter (le first) = above := by
    rw [filter_append, filter_eq_nil_iff.mpr (by simpa using hbelow), filter_eq_self.mpr habove,
      nil_append]
  rw [hsorted, hrest, hbefore, hafter]

theorem mergeSort_filter (keep : α → Bool) (list : List α) :
    (list.filter keep).mergeSort le = (list.mergeSort le).filter keep := by
  induction list with
  | nil => simp
  | cons first rest ih =>
      -- The two parts around the head are filtered once more, which commutes with `keep`.
      have hswap (p : α → Bool) : ((rest.filter keep).mergeSort le).filter p =
          ((rest.mergeSort le).filter p).filter keep := by
        rw [ih, filter_filter, filter_filter]
        exact filter_congr fun other _ => Bool.and_comm _ _
      by_cases hkeep : keep first = true
      · rw [filter_cons_of_pos hkeep, mergeSort_cons_eq trans total first,
          mergeSort_cons_eq trans total first, hswap, hswap, filter_append,
          filter_cons_of_pos hkeep]
      · obtain ⟨below, above, hsorted, hrest, -⟩ := mergeSort_cons trans total first rest
        rw [filter_cons_of_neg hkeep, ih, hsorted, hrest, filter_append, filter_append,
          filter_cons_of_neg hkeep]

end List
