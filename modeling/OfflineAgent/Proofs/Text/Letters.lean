import OfflineAgent.Proofs.Text.Split
import OfflineAgent.Text.Lowercase

/-!
# Letter case

Texts that differ only in the case of letters from A to Z are the same in lower case, in that of
these letters and in that of all letters: such a letter has a case in either form, so whether a
sigma stands at the end of a word does not hang on it.
-/

namespace OfflineAgent.Text

/-- A letter from A to Z, small or capital. -/
def IsLetter (c : Char) : Prop :=
  (0x41 ≤ c.toNat ∧ c.toNat ≤ 0x5A) ∨ (0x61 ≤ c.toNat ∧ c.toNat ≤ 0x7A)

/-- The same character, or the small and the capital form of one letter from A to Z. -/
def SameLetter (c d : Char) : Prop :=
  c = d ∨ ∃ n < 26, (c = .ofNat (0x41 + n) ∧ d = .ofNat (0x61 + n)) ∨
    (c = .ofNat (0x61 + n) ∧ d = .ofNat (0x41 + n))

instance : DecidableRel SameLetter := fun _ _ =>
  inferInstanceAs (Decidable (_ ∨ _))

def SameButCase (text other : List Char) : Prop :=
  List.Forall₂ SameLetter text other

instance (text other : List Char) : Decidable (SameButCase text other) :=
  inferInstanceAs (Decidable (List.Forall₂ _ _ _))

section

variable {c d : Char} {text other : List Char}

theorem SameLetter.toLower (same : SameLetter c d) : c.toLower = d.toLower := by
  obtain rfl | ⟨n, hn, ⟨rfl, rfl⟩ | ⟨rfl, rfl⟩⟩ := same
  · rfl
  · interval_cases n <;> rfl
  · interval_cases n <;> rfl

/-- Only letters have another form. -/
theorem SameLetter.eq_or_isLetter (same : SameLetter c d) : c = d ∨ (IsLetter c ∧ IsLetter d) := by
  refine same.imp_right ?_
  rintro ⟨n, hn, ⟨rfl, rfl⟩ | ⟨rfl, rfl⟩⟩
  · interval_cases n <;> simp [IsLetter]
  · interval_cases n <;> simp [IsLetter]

theorem SameButCase.refl (text : List Char) : SameButCase text text :=
  List.forall₂_same.mpr fun _ _ => .inl rfl

theorem SameButCase.toLower (same : SameButCase text other) :
    (String.ofList text).toLower = (String.ofList other).toLower := by
  have hmap : text.map Char.toLower = other.map Char.toLower := by
    induction same with
    | nil => rfl
    | cons hletter _ ih => rw [List.map_cons, List.map_cons, hletter.toLower, ih]
  apply String.toList_inj.mp
  simpa [String.toLower, String.toList_map] using hmap

/-- What is no letter stands in both texts. -/
theorem SameButCase.mem_iff (same : SameButCase text other) (hletter : ¬IsLetter c) :
    c ∈ text ↔ c ∈ other := by
  induction same with
  | nil => exact Iff.rfl
  | @cons d d' _ _ hsame _ ih =>
      have hfirst : c = d ↔ c = d' := by
        obtain rfl | ⟨hd, hd'⟩ := hsame.eq_or_isLetter
        · exact Iff.rfl
        · exact iff_of_false (fun hc => hletter (hc ▸ hd)) fun hc => hletter (hc ▸ hd')
      rw [List.mem_cons, List.mem_cons, hfirst, ih]

theorem SameButCase.dropDots (same : SameButCase text other) :
    SameButCase (text.dropWhile (· = '.')) (other.dropWhile (· = '.')) := by
  induction same with
  | nil => exact .nil
  | @cons d d' _ _ hsame hrest ih =>
      have hdot : d = '.' ↔ d' = '.' := by
        obtain rfl | ⟨hd, hd'⟩ := hsame.eq_or_isLetter
        · exact Iff.rfl
        · have hno : ¬IsLetter '.' := by simp [IsLetter]
          exact iff_of_false (fun hc => hno (hc ▸ hd)) fun hc => hno (hc ▸ hd')
      by_cases hd : d = '.'
      · rw [List.dropWhile_cons_of_pos (by simpa using hd),
          List.dropWhile_cons_of_pos (by simpa using hdot.mp hd)]
        exact ih
      · rw [List.dropWhile_cons_of_neg (by simpa using hd),
          List.dropWhile_cons_of_neg (by simpa using mt hdot.mpr hd)]
        exact .cons hsame hrest

end

/-! ### Tables of characters -/

namespace Ranges

section

variable {lines : List String} {range : Nat × Nat}

/-- The ranges of a table are those of its lines. -/
theorem mem_parse_intercalate (hlines : lines ≠ []) :
    range ∈ (parse (" ".intercalate lines)).toList ↔
      ∃ line ∈ lines, ∃ word ∈ split ' ' line.toList, parseRange word = range := by
  have hwords : split ' ' (" ".intercalate lines).toList =
      (lines.map String.toList).flatMap (split ' ') := by
    rw [String.toList_intercalate]
    exact split_intercalate (by simpa using hlines)
  simp only [parse, hwords, List.mem_map, List.mem_flatMap, exists_exists_and_eq_and]
  constructor
  · rintro ⟨word, ⟨line, hline, hword⟩, hrange⟩
    exact ⟨line, hline, word, hword, hrange⟩
  · rintro ⟨line, hline, word, hword, hrange⟩
    exact ⟨word, ⟨line, hline, hword⟩, hrange⟩

theorem forall_parse_intercalate {P : Nat × Nat → Prop} (hlines : lines ≠ [])
    (hall : ∀ line ∈ lines, ∀ word ∈ split ' ' line.toList, P (parseRange word)) :
    ∀ range ∈ (parse (" ".intercalate lines)).toList, P range := by
  intro range hmem
  obtain ⟨line, hline, word, hword, rfl⟩ := (mem_parse_intercalate hlines).mp hmem
  exact hall line hline word hword

theorem mem_parse_of_line {line : List Char} {rest : List String}
    (hrange : range ∈ (split ' ' line).map parseRange) :
    range ∈ (parse (" ".intercalate (String.ofList line :: rest))).toList := by
  obtain ⟨word, hword, hread⟩ := List.mem_map.mp hrange
  refine (mem_parse_intercalate (List.cons_ne_nil _ _)).mpr ⟨_, List.mem_cons_self, word, ?_, hread⟩
  rwa [String.toList_ofList]

end

end Ranges

/-- The range holds no letter from A to Z. -/
def HoldsNoLetter (range : Nat × Nat) : Prop :=
  range.2 < 0x41 ∨ (0x5A < range.1 ∧ range.2 < 0x61) ∨ 0x7A < range.1

instance (range : Nat × Nat) : Decidable (HoldsNoLetter range) :=
  inferInstanceAs (Decidable (_ ∨ _))

def LineHoldsNoLetter (line : String) : Prop :=
  ∀ word ∈ split ' ' line.toList, HoldsNoLetter (Ranges.parseRange word)

theorem lineHoldsNoLetter {line : List Char}
    (hline : ∀ word ∈ split ' ' line, HoldsNoLetter (Ranges.parseRange word)) :
    LineHoldsNoLetter (String.ofList line) := by
  rwa [LineHoldsNoLetter, String.toList_ofList]

theorem holdsNoLetter_of_caseIgnorable : ∀ range ∈ caseIgnorable.toList, HoldsNoLetter range := by
  refine Ranges.forall_parse_intercalate (by nofun) ?_
  change ∀ line ∈ _, LineHoldsNoLetter line
  simp only [List.forall_mem_cons]
  and_intros
  all_goals first | exact lineHoldsNoLetter (by decide +kernel) | exact List.forall_mem_nil _

theorem letters_mem_cased : (0x41, 0x5A) ∈ cased.toList ∧ (0x61, 0x7A) ∈ cased.toList := by
  unfold cased
  exact ⟨Ranges.mem_parse_of_line (by decide +kernel), Ranges.mem_parse_of_line (by decide +kernel)⟩

/-! ### The lower case of all letters -/

section

variable {c d : Char} {text other before before' : List Char}

theorem IsLetter.contains_cased (letter : IsLetter c) : cased.contains c.toNat = true := by
  rw [Ranges.contains, Array.any_eq_true']
  obtain hcapital | hsmall := letter
  · exact ⟨_, Array.mem_toList_iff.mp letters_mem_cased.1, by simpa using hcapital⟩
  · exact ⟨_, Array.mem_toList_iff.mp letters_mem_cased.2, by simpa using hsmall⟩

theorem IsLetter.contains_caseIgnorable (letter : IsLetter c) :
    caseIgnorable.contains c.toNat = false := by
  rw [Ranges.contains, Array.any_eq_false']
  intro range hmem
  have hapart := holdsNoLetter_of_caseIgnorable range (Array.mem_toList_iff.mpr hmem)
  simp only [HoldsNoLetter] at hapart
  unfold IsLetter at letter
  simp only [Bool.and_eq_true, decide_eq_true_eq]
  omega

theorem meetsLetter_of_ignorable {rest : List Char}
    (hskip : caseIgnorable.contains c.toNat = true) :
    meetsLetter (c :: rest) = meetsLetter rest := by
  have hdrop : (c :: rest).dropWhile (caseIgnorable.contains ·.toNat) =
      rest.dropWhile (caseIgnorable.contains ·.toNat) := List.dropWhile_cons_of_pos hskip
  rw [meetsLetter, hdrop, meetsLetter]

theorem meetsLetter_of_not_ignorable {rest : List Char}
    (hstop : caseIgnorable.contains c.toNat = false) :
    meetsLetter (c :: rest) = cased.contains c.toNat := by
  have hdrop : (c :: rest).dropWhile (caseIgnorable.contains ·.toNat) = c :: rest :=
    List.dropWhile_cons_of_neg (ne_true_of_eq_false hstop)
  rw [meetsLetter, hdrop]

theorem SameButCase.meetsLetter_eq (same : SameButCase text other) :
    meetsLetter text = meetsLetter other := by
  induction same with
  | nil => rfl
  | @cons d d' rest rest' hsame hrest ih =>
      obtain rfl | ⟨hd, hd'⟩ := hsame.eq_or_isLetter
      · cases hskip : caseIgnorable.contains d.toNat with
        | true => rw [meetsLetter_of_ignorable hskip, meetsLetter_of_ignorable hskip, ih]
        | false => rw [meetsLetter_of_not_ignorable hskip, meetsLetter_of_not_ignorable hskip]
      · rw [meetsLetter_of_not_ignorable hd.contains_caseIgnorable,
          meetsLetter_of_not_ignorable hd'.contains_caseIgnorable, hd.contains_cased,
          hd'.contains_cased]

theorem lowerFrom_letter {rest : List Char} (letter : IsLetter c) :
    lowerFrom before (c :: rest) = c.toLower :: lowerFrom (c :: before) rest := by
  have hsigma : c ≠ 'Σ' := by
    rintro rfl
    simp [IsLetter] at letter
  have hdotted : c ≠ 'İ' := by
    rintro rfl
    simp [IsLetter] at letter
  have hascii : c.toNat < 0x80 := by
    unfold IsLetter at letter
    omega
  rw [lowerFrom, if_neg hsigma, if_neg hdotted, if_pos hascii]
  rfl

/-- By induction on the text, with all that stands before it. -/
theorem SameButCase.lowerFrom_eq (same : SameButCase text other)
    (hbefore : SameButCase before before') : lowerFrom before text = lowerFrom before' other := by
  induction same generalizing before before' with
  | nil => rfl
  | @cons d d' rest rest' hsame hrest ih =>
      have htail := ih (.cons hsame hbefore)
      obtain rfl | ⟨hd, hd'⟩ := hsame.eq_or_isLetter
      · rw [lowerFrom, lowerFrom, htail, hbefore.meetsLetter_eq, SameButCase.meetsLetter_eq hrest]
      · rw [lowerFrom_letter hd, lowerFrom_letter hd', htail, hsame.toLower]

theorem SameButCase.lower_eq (same : SameButCase text other) :
    lower (String.ofList text) = lower (String.ofList other) := by
  rw [lower, lower, String.toList_ofList, String.toList_ofList, same.lowerFrom_eq .nil]

end

end OfflineAgent.Text
