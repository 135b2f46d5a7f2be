import OfflineAgent.Proofs.Text.Split
import OfflineAgent.Url.Parser

/-!
# What the parts of a URL are written in

Numbers, domains and addresses are written in characters that end no part of a URL, and
percent-encoding gets rid of all characters that would. So a part can be told from what comes after
it. In particular no part holds a number sign.
-/

namespace OfflineAgent

/-- A blank, which may be cut off, or a mark that ends the authority of a URL. -/
def Url.isBreak (c : Char) : Bool :=
  decide (c.toNat ≤ 0x20) || isSlash c || endsPath c

/-- The text holds nothing that ends an authority. -/
def Solid (text : List Char) : Prop :=
  ∀ c ∈ text, Url.isBreak c = false

/-- The text holds no number sign. -/
def Plain (text : String) : Prop :=
  '#' ∉ text.toList

instance (text : List Char) : Decidable (Solid text) :=
  List.decidableBAll (fun c => Url.isBreak c = false) text

instance (text : String) : Decidable (Plain text) :=
  inferInstanceAs (Decidable ('#' ∉ text.toList))

@[simp]
theorem solid_nil : Solid [] := nofun

@[simp]
theorem solid_cons {c : Char} {text : List Char} :
    Solid (c :: text) ↔ Url.isBreak c = false ∧ Solid text :=
  List.forall_mem_cons

@[simp]
theorem solid_append {first second : List Char} :
    Solid (first ++ second) ↔ Solid first ∧ Solid second :=
  List.forall_mem_append

theorem Solid.plain {text : String} (solid : Solid text.toList) : Plain text :=
  fun hmem => absurd (solid '#' hmem) (by decide)

theorem Solid.visible {text : List Char} (solid : Solid text) {c : Char} (hmem : c ∈ text) :
    0x20 < c.toNat := by
  have hc := solid c hmem
  simp only [Url.isBreak, Bool.or_eq_false_iff, decide_eq_false_iff_not] at hc
  omega

@[simp]
theorem plain_append {first second : String} :
    Plain (first ++ second) ↔ Plain first ∧ Plain second := by
  simp [Plain, not_or]

@[simp]
theorem plain_ofList {text : List Char} : Plain (String.ofList text) ↔ '#' ∉ text := by
  simp [Plain]

namespace Url

theorem isBreak_iff {c : Char} :
    isBreak c = true ↔ c.toNat ≤ 0x20 ∨ c = '/' ∨ c = '\\' ∨ c = '?' ∨ c = '#' := by
  simp [isBreak, isSlash, endsPath, or_assoc]

end Url

open Url (isBreak isBreak_iff)

/-! ### Numbers -/

theorem forall_mem_toDigits {holds : Char → Prop} {base : Nat} (hbase : 1 < base)
    (hdigits : ∀ n < base, holds (Nat.digitChar n)) (n : Nat) :
    ∀ c ∈ Nat.toDigits base n, holds c := by
  induction n using Nat.strongRecOn with
  | _ n ih =>
      obtain hlt | hle := Nat.lt_or_ge n base
      · rw [Nat.toDigits_of_lt_base hlt]
        simpa using hdigits n hlt
      · have hsmaller := ih (n / base) (Nat.div_lt_self (by omega) hbase)
        have hlast : n % base < base := Nat.mod_lt n (by omega)
        rw [Nat.toDigits_of_base_le hbase hle, List.forall_mem_append]
        exact ⟨hsmaller, by simpa using hdigits _ hlast⟩

theorem isBreak_digitChar {n : Nat} (hn : n < 16) : isBreak (Nat.digitChar n) = false := by
  revert n
  decide

theorem solid_toDigits {base : Nat} (hbase : 1 < base) (hle : base ≤ 16) (n : Nat) :
    Solid (Nat.toDigits base n) :=
  forall_mem_toDigits hbase (fun _ hn => isBreak_digitChar (hn.trans_le hle)) n

theorem solid_toString (n : Nat) : Solid (toString n).toList := by
  change Solid n.repr.toList
  rw [Nat.toList_repr]
  exact solid_toDigits (by decide) (by decide) n

theorem forall_mem_intercalate {holds : Char → Prop} {separator : String} {texts : List String}
    (hseparator : ∀ c ∈ separator.toList, holds c)
    (htexts : ∀ text ∈ texts, ∀ c ∈ text.toList, holds c) :
    ∀ c ∈ (separator.intercalate texts).toList, holds c := by
  induction texts with
  | nil => exact fun _ hmem => absurd hmem List.not_mem_nil
  | cons first rest ih =>
      have hfirst := htexts first List.mem_cons_self
      have hrest := ih fun text hmem => htexts text (List.mem_cons_of_mem _ hmem)
      cases rest with
      | nil => rwa [String.intercalate_singleton]
      | cons second rest =>
          rw [String.intercalate_cons_cons, String.toList_append, String.toList_append,
            List.forall_mem_append, List.forall_mem_append]
          exact ⟨⟨hfirst, hseparator⟩, hrest⟩

theorem solid_intercalate {separator : String} {texts : List String}
    (hseparator : Solid separator.toList) (htexts : ∀ text ∈ texts, Solid text.toList) :
    Solid (separator.intercalate texts).toList :=
  forall_mem_intercalate hseparator htexts

/-! ### Percent-encoding -/

namespace Percent

theorem forall_mem_encodeByte {holds : Char → Prop} (hsign : holds '%')
    (hdigits : ∀ n < 16, holds (upperDigit (.ofNat n))) (b : UInt8) :
    ∀ c ∈ encodeByte b, holds c := by
  have hdigit {n : UInt8} (hn : n.toNat < 16) : holds (upperDigit n) := by
    have hholds := hdigits n.toNat hn
    rwa [UInt8.ofNat_toNat] at hholds
  have hhigh : (b >>> 4).toNat < 16 := by
    have hbyte := b.toNat_lt
    rw [UInt8.toNat_shiftRight, Nat.shiftRight_eq_div_pow]
    simp
    omega
  have hlow : (b &&& 15).toNat < 16 := by
    rw [UInt8.toNat_and]
    exact Nat.lt_of_le_of_lt Nat.and_le_right (by decide)
  rw [encodeByte, List.forall_mem_cons, List.forall_mem_cons, List.forall_mem_singleton]
  exact ⟨hsign, hdigit hhigh, hdigit hlow⟩

theorem solid_encodeByte (b : UInt8) : Solid (encodeByte b) :=
  forall_mem_encodeByte (by decide) (by decide) b

/-- What comes up in an encoded text was there before and is kept, or is part of a code. -/
theorem mem_encode {set : Set} {text : List Char} {c : Char} (hmem : c ∈ (encode set text).toList) :
    (c ∈ text ∧ isEncoded set c = false) ∨ ∃ b, c ∈ encodeByte b := by
  rw [encode, String.toList_ofList, List.mem_flatMap] at hmem
  obtain ⟨d, hd, hc⟩ := hmem
  unfold encodeChar at hc
  split at hc
  · obtain ⟨b, -, hb⟩ := List.mem_flatMap.mp hc
    exact .inr ⟨b, hb⟩
  · rename_i hkept
    obtain rfl := List.mem_singleton.mp hc
    exact .inl ⟨hd, Bool.eq_false_iff.mpr hkept⟩

theorem solid_encode {set : Set} {text : List Char}
    (h : ∀ c ∈ text, isBreak c → isEncoded set c) : Solid (encode set text).toList := by
  intro c hmem
  obtain ⟨htext, hkept⟩ | ⟨b, hb⟩ := mem_encode hmem
  · refine Bool.eq_false_iff.mpr fun hbreak => ?_
    rw [h c htext hbreak] at hkept
    cases hkept
  · exact solid_encodeByte b c hb

/-- A number sign does not survive where it is encoded, and does not come up where there is none. -/
theorem plain_encode {set : Set} {text : List Char} (h : '#' ∈ set ∨ '#' ∉ text) :
    Plain (encode set text) := by
  intro hmem
  obtain ⟨htext, hkept⟩ | ⟨b, hb⟩ := mem_encode hmem
  · obtain hset | hnone := h
    · simp [isEncoded, hset] at hkept
    · exact hnone htext
  · exact absurd (solid_encodeByte b '#' hb) (by decide)

theorem isEncoded_userinfo {c : Char} (hbreak : isBreak c) : isEncoded userinfo c := by
  obtain hlow | rfl | rfl | rfl | rfl := isBreak_iff.mp hbreak
  · obtain hlt | heq := Nat.lt_or_eq_of_le hlow
    · simp [isEncoded, hlt]
    · obtain rfl : c = ' ' := Char.toNat_inj.mp heq
      decide
  all_goals decide

theorem solid_userinfo (text : List Char) : Solid (encode userinfo text).toList :=
  solid_encode fun _ _ hbreak => isEncoded_userinfo hbreak

end Percent

/-! ### Domains -/

namespace Domain

open Punycode

/-- The text holds nothing that no domain holds. -/
def Allowed (text : List Char) : Prop :=
  ∀ c ∈ text, isForbidden c = false

instance (text : List Char) : Decidable (Allowed text) :=
  List.decidableBAll (fun c => isForbidden c = false) text

@[simp]
theorem allowed_nil : Allowed [] := nofun

@[simp]
theorem allowed_cons {c : Char} {text : List Char} :
    Allowed (c :: text) ↔ isForbidden c = false ∧ Allowed text :=
  List.forall_mem_cons

@[simp]
theorem allowed_append {first second : List Char} :
    Allowed (first ++ second) ↔ Allowed first ∧ Allowed second :=
  List.forall_mem_append

theorem isForbidden_of_isBreak {c : Char} (hbreak : isBreak c) : isForbidden c = true := by
  obtain hlow | rfl | rfl | rfl | rfl := isBreak_iff.mp hbreak
  · simp [isForbidden, hlow]
  all_goals decide

theorem Allowed.solid {text : List Char} (allowed : Allowed text) : Solid text := by
  intro c hmem
  refine Bool.eq_false_iff.mpr fun hbreak => ?_
  have hforbidden := isForbidden_of_isBreak hbreak
  rw [allowed c hmem] at hforbidden
  cases hforbidden

theorem isForbidden_digit {n : Nat} (hn : n < 36) : isForbidden (digit n) = false := by
  revert n
  decide

theorem threshold_le (bias position : Nat) : threshold bias position ≤ 26 := by
  grind [threshold]

theorem allowed_number (bias position n : Nat) : Allowed (number bias position n) := by
  fun_induction number bias position n with
  | case1 position n t hlt =>
      have hle : t ≤ 26 := threshold_le bias position
      simpa using isForbidden_digit (by omega)
  | case2 position n t hge ih =>
      have hle : t ≤ 26 := threshold_le bias position
      have hrest : (n - t) % (36 - t) < 36 - t := Nat.mod_lt _ (by omega)
      rw [allowed_cons]
      exact ⟨isForbidden_digit (by omega), ih⟩

theorem allowed_meet {basicCount n c : Nat} {w : Writer} (hw : Allowed w.text) :
    Allowed (w.meet basicCount n c).text := by
  unfold Writer.meet
  split
  · exact hw
  · split
    · exact allowed_append.mpr ⟨hw, allowed_number _ _ _⟩
    · exact hw

theorem allowed_writeFrom {label found : List Nat} {basicCount low : Nat} {w : Writer}
    (hw : Allowed w.text) : Allowed (writeFrom label basicCount low w found).text := by
  induction found generalizing low w with
  | nil => exact hw
  | cons n found ih =>
      have hfold (letters : List Nat) (writer : Writer) (hwriter : Allowed writer.text) :
          Allowed (letters.foldl (Writer.meet basicCount n) writer).text := by
        induction letters generalizing writer with
        | nil => exact hwriter
        | cons c letters ihletters => exact ihletters _ (allowed_meet hwriter)
      exact ih (hfold label _ hw)

/-- The ASCII characters of the label are allowed. -/
def IsAllowed (label : List Nat) : Prop :=
  ∀ n ∈ label, n < 0x80 → isForbidden (Char.ofNat n) = false

theorem allowed_encode {label : List Nat} (hlabel : IsAllowed label) : Allowed (encode label) := by
  have hbasic : Allowed ((label.filter (· < 0x80)).map Char.ofNat) := by
    intro c hmem
    obtain ⟨n, hn, rfl⟩ := List.mem_map.mp hmem
    obtain ⟨hmem, hlt⟩ := List.mem_filter.mp hn
    exact hlabel n hmem (of_decide_eq_true hlt)
  refine allowed_writeFrom ?_
  dsimp only
  split
  · exact allowed_nil
  · exact allowed_append.mpr ⟨hbasic, by decide⟩

theorem isAllowed_of_isValidLabel {label : List Nat} (hvalid : isValidLabel label = true) :
    IsAllowed label := by
  intro n hmem hlt
  simp only [isValidLabel, Bool.and_eq_true, List.all_eq_true, Bool.or_eq_true, Bool.not_eq_true',
    decide_eq_true_eq] at hvalid
  obtain hge | hallowed := hvalid.2 n hmem
  · omega
  · exact hallowed

theorem allowed_labelText {label : List Nat} (hvalid : isValidLabel label = true) :
    Allowed (labelText label) := by
  have hlabel := isAllowed_of_isValidLabel hvalid
  unfold labelText
  split
  · rename_i hascii
    intro c hmem
    obtain ⟨n, hn, rfl⟩ := List.mem_map.mp hmem
    exact hlabel n hn (of_decide_eq_true (List.all_eq_true.mp hascii n hn))
  · exact allowed_append.mpr ⟨by decide, allowed_encode hlabel⟩

theorem allowed_toAscii {name : List Char} {domain : String} (hname : toAscii name = some domain) :
    Allowed domain.toList := by
  obtain ⟨mapped, -, hlabels⟩ := Option.bind_eq_some_iff.mp hname
  obtain ⟨labels, -, hvalid⟩ := Option.bind_eq_some_iff.mp hlabels
  obtain ⟨hconditions, hdomain⟩ := Option.ite_none_right_eq_some.mp hvalid
  obtain rfl := Option.some.inj hdomain
  rw [Bool.and_eq_true, List.all_eq_true] at hconditions
  refine forall_mem_intercalate (show Allowed ".".toList by decide) fun text hmem => ?_
  obtain ⟨label, hlabel, rfl⟩ := List.mem_map.mp hmem
  rw [String.toList_ofList]
  exact allowed_labelText (hconditions.2 label hlabel)

theorem solid_toAscii {name : List Char} {domain : String} (hname : toAscii name = some domain) :
    Solid domain.toList :=
  (allowed_toAscii hname).solid

end Domain

/-! ### Hosts -/

namespace Host

theorem solid_ipv4Text (address : Nat) : Solid (ipv4Text address).toList := by
  refine solid_intercalate (by decide) fun text hmem => ?_
  obtain ⟨shift, -, rfl⟩ := List.mem_map.mp hmem
  exact solid_toString _

theorem solid_hexPieces (pieces : List Nat) : Solid (hexPieces pieces).toList := by
  refine solid_intercalate (by decide) fun text hmem => ?_
  obtain ⟨n, -, rfl⟩ := List.mem_map.mp hmem
  rw [String.toList_ofList]
  exact solid_toDigits (by decide) (by decide) n

theorem solid_ipv6Text (pieces : List Nat) : Solid (ipv6Text pieces).toList := by
  unfold ipv6Text
  split
  · exact solid_hexPieces pieces
  · simp only [String.toList_append, solid_append]
    exact ⟨⟨solid_hexPieces _, by decide⟩, solid_hexPieces _⟩

theorem solid_text_ipv6 (pieces : List Nat) : Solid (Host.ipv6 pieces).text.toList := by
  simp only [text, String.toList_append, solid_append]
  exact ⟨⟨by decide, solid_ipv6Text pieces⟩, by decide⟩

theorem of_parseIpv6 {input : List Char} {host : Host} (hparse : parseIpv6 input = .ok host) :
    ∃ text pieces, ipv6Pieces text = some pieces ∧ host = .ipv6 pieces := by
  unfold parseIpv6 at hparse
  split at hparse
  · split at hparse
    · rename_i hpieces
      exact ⟨_, _, hpieces, (Except.ok.inj hparse).symm⟩
    · cases hparse
  · cases hparse

/-- The host of a special scheme is an address, or a domain that is not empty and does not end in a
number. -/
theorem of_parse {input : List Char} {host : Host} (hparse : parse input = .ok host) :
    (∃ text pieces, ipv6Pieces text = some pieces ∧ host = .ipv6 pieces) ∨
      (∃ parts address, ipv4Address parts = some address ∧ host = .ipv4 address) ∨
      ∃ name domain, Domain.toAscii name = some domain ∧ domain ≠ "" ∧
        endsInNumber domain.toList = false ∧ host = .named domain := by
  unfold parse at hparse
  split at hparse
  · exact .inl (of_parseIpv6 hparse)
  · split at hparse
    · cases hparse
    · split at hparse
      · cases hparse
      · rename_i domain hdomain
        split at hparse
        · cases hparse
        · rename_i hsome
          split at hparse
          · unfold parseIpv4 at hparse
            split at hparse
            · rename_i haddress
              obtain ⟨parts, -, haddress⟩ := Option.bind_eq_some_iff.mp haddress
              exact .inr (.inl ⟨parts, _, haddress, (Except.ok.inj hparse).symm⟩)
            · cases hparse
          · rename_i hname
            refine .inr (.inr ⟨_, domain, hdomain, ?_, Bool.eq_false_iff.mpr hname,
              (Except.ok.inj hparse).symm⟩)
            rintro rfl
            exact hsome rfl

theorem solid_parse {input : List Char} {host : Host} (hparse : parse input = .ok host) :
    Solid host.text.toList := by
  obtain ⟨-, pieces, -, rfl⟩ | ⟨-, address, -, rfl⟩ | ⟨name, domain, hdomain, -, -, rfl⟩ :=
    of_parse hparse
  · exact solid_text_ipv6 pieces
  · exact solid_ipv4Text address
  · exact Domain.solid_toAscii hdomain

theorem ipv4Text_ne (address : Nat) : ipv4Text address ≠ "" := by
  intro hempty
  have hlist := congrArg String.toList hempty
  simp [ipv4Text, String.intercalate_cons_cons] at hlist

theorem text_ne_of_parse {input : List Char} {host : Host} (hparse : parse input = .ok host) :
    host.text ≠ "" := by
  obtain ⟨-, pieces, -, rfl⟩ | ⟨-, address, -, rfl⟩ | ⟨name, domain, -, hne, -, rfl⟩ :=
    of_parse hparse
  · simp [text]
  · exact ipv4Text_ne address
  · exact hne

theorem isForbidden_of_isBreak {c : Char} (hbreak : isBreak c) :
    isForbidden c = true ∨ c.toNat < 0x20 := by
  obtain hlow | rfl | rfl | rfl | rfl := isBreak_iff.mp hbreak
  · obtain hlt | heq := Nat.lt_or_eq_of_le hlow
    · exact .inr hlt
    · obtain rfl : c = ' ' := Char.toNat_inj.mp heq
      exact .inl (by decide)
  all_goals exact .inl (by decide)

theorem solid_parseOpen {input : List Char} {host : Host} (hparse : parseOpen input = .ok host) :
    Solid host.text.toList := by
  unfold parseOpen at hparse
  split at hparse
  · obtain ⟨-, pieces, -, rfl⟩ := of_parseIpv6 hparse
    exact solid_text_ipv6 pieces
  · split at hparse
    · cases hparse
    · rename_i hallowed
      obtain rfl := Except.ok.inj hparse
      refine Percent.solid_encode fun c hmem hbreak => ?_
      obtain hforbidden | hlow := isForbidden_of_isBreak hbreak
      · exact absurd (List.any_eq_true.mpr ⟨c, hmem, hforbidden⟩) hallowed
      · simp [Percent.isEncoded, hlow]

end Host

end OfflineAgent
