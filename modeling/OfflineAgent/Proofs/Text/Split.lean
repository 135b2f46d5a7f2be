import Mathlib
import OfflineAgent.Text.Split

/-!
# Texts cut at separators

There is always one part more than there are separators, and no part holds any. What is put between
separators is found again, part by part.
-/

namespace OfflineAgent.Text

section

variable {isSeparator : Char → Bool} {separator : Char} {text front back : List Char}

/-! ### Cutting everywhere -/

theorem splitWhere_ne_nil (isSeparator : Char → Bool) (text : List Char) :
    splitWhere isSeparator text ≠ [] := by
  cases text with
  | nil => exact List.cons_ne_nil _ _
  | cons c text =>
      unfold splitWhere
      split
      · exact List.cons_ne_nil _ _
      · split <;> exact List.cons_ne_nil _ _

theorem not_isSeparator_of_mem_splitWhere {part : List Char}
    (hpart : part ∈ splitWhere isSeparator text) : ∀ c ∈ part, isSeparator c = false := by
  induction text generalizing part with
  | nil =>
      obtain rfl := List.mem_singleton.mp hpart
      exact nofun
  | cons c rest ih =>
      unfold splitWhere at hpart
      split at hpart
      · obtain rfl | hrest := List.mem_cons.mp hpart
        · exact nofun
        · exact ih hrest
      · rename_i hc
        have hc : isSeparator c = false := Bool.eq_false_iff.mpr hc
        split at hpart
        · rename_i first parts hsplit
          rw [hsplit] at ih
          obtain rfl | hrest := List.mem_cons.mp hpart
          · exact List.forall_mem_cons.mpr ⟨hc, ih List.mem_cons_self⟩
          · exact ih (List.mem_cons_of_mem _ hrest)
        · obtain rfl := List.mem_singleton.mp hpart
          simpa using hc

theorem splitWhere_append (hfront : ∀ c ∈ front, isSeparator c = false) (rest : List Char) :
    splitWhere isSeparator (front ++ rest) =
      (splitWhere isSeparator rest).modifyHead (front ++ ·) := by
  obtain ⟨part, parts, hrest⟩ := List.exists_cons_of_ne_nil (splitWhere_ne_nil isSeparator rest)
  induction front with
  | nil => simp [hrest]
  | cons c front ih =>
      obtain ⟨hc, hfront⟩ := List.forall_mem_cons.mp hfront
      rw [List.cons_append, splitWhere, hc, ih hfront, hrest]
      rfl

theorem splitWhere_eq_singleton (htext : ∀ c ∈ text, isSeparator c = false) :
    splitWhere isSeparator text = [text] := by
  have hsplit := splitWhere_append htext []
  simpa [splitWhere] using hsplit

theorem split_append_cons :
    split separator (front ++ separator :: back) =
      split separator front ++ split separator back := by
  unfold split
  induction front with
  | nil => simp [splitWhere]
  | cons c front ih =>
      rw [List.cons_append, splitWhere, splitWhere, ih]
      obtain ⟨part, parts, hparts⟩ :=
        List.exists_cons_of_ne_nil (splitWhere_ne_nil (· = separator) front)
      rw [hparts]
      split <;> rfl

theorem split_intercalate {lines : List (List Char)} (hlines : lines ≠ []) :
    split separator ([separator].intercalate lines) = lines.flatMap (split separator) := by
  induction lines with
  | nil => exact absurd rfl hlines
  | cons line rest ih =>
      cases rest with
      | nil => simp
      | cons next rest =>
          rw [List.intercalate_cons_cons, List.append_assoc, List.singleton_append,
            split_append_cons, ih (List.cons_ne_nil _ _)]
          rfl

/-! ### Cutting once -/

theorem cut_eq_none_iff : cut separator text = none ↔ separator ∉ text := by
  induction text with
  | nil => simp [cut]
  | cons c text ih =>
      unfold cut
      split
      · simp_all
      · rename_i hne
        simp [ih, Ne.symm hne]

theorem cut_eq_some_iff : cut separator text = some (front, back) ↔
    text = front ++ separator :: back ∧ separator ∉ front := by
  induction text generalizing front with
  | nil => simp [cut]
  | cons c text ih =>
      unfold cut
      split
      · rename_i hsame
        subst hsame
        cases front with
        | nil => simp
        | cons d front => simp_all
      · rename_i hne
        cases front with
        | nil => simp [hne]
        | cons d front =>
            rw [Option.map_eq_some_iff, List.cons_append, List.cons.injEq, List.mem_cons, not_or]
            constructor
            · rintro ⟨⟨read, left⟩, hcut, hpair⟩
              obtain ⟨⟨rfl, rfl⟩, rfl⟩ : (c = d ∧ read = front) ∧ left = back := by
                simpa using hpair
              obtain ⟨htext, hfront⟩ := ih.mp hcut
              exact ⟨⟨rfl, htext⟩, Ne.symm hne, hfront⟩
            · rintro ⟨⟨rfl, htext⟩, -, hfront⟩
              exact ⟨(front, back), ih.mpr ⟨htext, hfront⟩, rfl⟩

theorem cutLast_eq_none_iff : cutLast separator text = none ↔ separator ∉ text := by
  rw [cutLast, Option.map_eq_none_iff, cut_eq_none_iff, List.mem_reverse]

theorem cutLast_eq_some_iff : cutLast separator text = some (front, back) ↔
    text = front ++ separator :: back ∧ separator ∉ back := by
  have hreverse : text.reverse = back.reverse ++ separator :: front.reverse ↔
      text = front ++ separator :: back := by
    rw [List.reverse_eq_iff]
    simp
  have hcut : cut separator text.reverse = some (back.reverse, front.reverse) ↔
      text = front ++ separator :: back ∧ separator ∉ back := by
    rw [cut_eq_some_iff, hreverse, List.mem_reverse]
  rw [cutLast, Option.map_eq_some_iff, ← hcut]
  constructor
  · rintro ⟨⟨last, first⟩, hsome, hpair⟩
    obtain ⟨rfl, rfl⟩ := Prod.mk.inj hpair
    simpa using hsome
  · intro hsome
    exact ⟨_, hsome, by simp⟩

end

end OfflineAgent.Text
