import OfflineAgent.Proofs.Url.Delimiters

/-!
# Hosts and their texts

An IPv4 address is written as four numbers and an IPv6 address as up to eight, with a gap for some
zeros, and both can be told from the text. So can an address from a name, since no name ends in a
number where addresses are read.
-/

namespace OfflineAgent

open Url (isDelimiter)

/-! ### Parts between separators -/

/-- Parts that hold no separator are found again between separators. -/
theorem split_intercalate_of_not_mem {c : Char} {separator : String} {texts : List String}
    (hseparator : separator.toList = [c]) (hne : texts ≠ [])
    (htexts : ∀ text ∈ texts, c ∉ text.toList) :
    Text.split c (separator.intercalate texts).toList = texts.map String.toList := by
  have hsingle {part : List Char} (hpart : part ∈ texts.map String.toList) :
      Text.split c part = [part] := by
    obtain ⟨text, htext, rfl⟩ := List.mem_map.mp hpart
    refine Text.splitWhere_eq_singleton fun d hmem => decide_eq_false_iff_not.mpr ?_
    rintro rfl
    exact htexts text htext hmem
  rw [String.toList_intercalate, hseparator, Text.split_intercalate (by simpa using hne),
    List.flatMap_congr fun part => hsingle, List.flatMap_singleton']

theorem intercalate_inj {c : Char} {separator : String} {texts texts' : List String}
    (hseparator : separator.toList = [c]) (hne : texts ≠ []) (hne' : texts' ≠ [])
    (htexts : ∀ text ∈ texts, c ∉ text.toList) (htexts' : ∀ text ∈ texts', c ∉ text.toList)
    (hsame : separator.intercalate texts = separator.intercalate texts') : texts = texts' := by
  have hsplit := congrArg (fun text : String => Text.split c text.toList) hsame
  rw [split_intercalate_of_not_mem hseparator hne htexts,
    split_intercalate_of_not_mem hseparator hne' htexts'] at hsplit
  exact List.map_injective_iff.mpr (fun _ _ => String.toList_inj.mp) hsplit

namespace Host

/-! ### IPv4 addresses -/

theorem toList_dot : ".".toList = ['.'] := rfl

def ipv4Parts (address : Nat) : List String :=
  [24, 16, 8, 0].map fun shift => toString (address >>> shift % 256)

theorem dot_not_mem_ipv4Parts {address : Nat} {text : String} (hmem : text ∈ ipv4Parts address) :
    '.' ∉ text.toList := by
  obtain ⟨shift, -, rfl⟩ := List.mem_map.mp hmem
  intro hdot
  change '.' ∈ (Nat.repr _).toList at hdot
  rw [Nat.toList_repr] at hdot
  exact absurd (Nat.isDigit_of_mem_toDigits (by decide) (by decide) hdot) (by decide)

theorem ipv4Text_inj {address address' : Nat} (hlt : address < 2 ^ 32) (hlt' : address' < 2 ^ 32)
    (hsame : ipv4Text address = ipv4Text address') : address = address' := by
  have hparts : ipv4Parts address = ipv4Parts address' :=
    intercalate_inj toList_dot (List.cons_ne_nil _ _) (List.cons_ne_nil _ _)
      (fun _ => dot_not_mem_ipv4Parts) (fun _ => dot_not_mem_ipv4Parts) hsame
  have hbytes (shift : Nat) (hshift : shift ∈ [24, 16, 8, 0]) :
      address >>> shift % 256 = address' >>> shift % 256 :=
    Nat.repr_inj.mp (List.map_inj_left.mp hparts shift hshift)
  have h24 := hbytes 24 (by decide)
  have h16 := hbytes 16 (by decide)
  have h8 := hbytes 8 (by decide)
  have h0 := hbytes 0 (by decide)
  simp only [Nat.shiftRight_eq_div_pow] at h24 h16 h8 h0
  omega

theorem endsInNumber_ipv4Text (address : Nat) : endsInNumber (ipv4Text address).toList = true := by
  have hsplit : splitDots (ipv4Text address).toList = (ipv4Parts address).map String.toList :=
    split_intercalate_of_not_mem toList_dot (List.cons_ne_nil _ _)
      fun _ => dot_not_mem_ipv4Parts
  have hlast : (splitDots (ipv4Text address).toList).getLast? =
      some (Nat.toDigits 10 (address >>> 0 % 256)) := by
    rw [hsplit, ← Nat.toList_repr]
    rfl
  have hdigits : (Nat.toDigits 10 (address >>> 0 % 256)).all isDigit = true := by
    rw [List.all_eq_true]
    exact forall_mem_toDigits (by decide) (by decide) _
  unfold endsInNumber labels
  simp only [hlast, Option.some.injEq, Nat.toDigits_ne_nil, if_false, hdigits]
  simp [Nat.toDigits_ne_nil]

/-- All parts but the last are bytes, and the last one has the rest of the 32 bits. -/
theorem lt_of_ipv4Address {parts : List Nat} {address : Nat}
    (haddress : ipv4Address parts = some address) : address < 2 ^ 32 := by
  unfold ipv4Address at haddress
  split at haddress
  · cases haddress
  · rename_i last front hreverse
    split at haddress
    · cases haddress
    · rename_i hfit
      obtain rfl := Option.some.inj haddress
      have hlength : parts.length = front.length + 1 := by
        rw [← List.length_reverse, hreverse, List.length_cons]
      simp only [not_or, not_lt, not_le, Bool.not_eq_true, List.any_eq_false, decide_eq_true_eq]
        at hfit
      obtain ⟨hcount, hbytes, hlast⟩ := hfit
      rcases front with _ | ⟨a, _ | ⟨b, _ | ⟨c, _ | ⟨d, rest⟩⟩⟩⟩
      · simpa using hlast
      · simp [Nat.shiftLeft_eq] at hbytes hlast ⊢
        omega
      · simp [Nat.shiftLeft_eq, List.range_succ] at hbytes hlast ⊢
        omega
      · simp [Nat.shiftLeft_eq, List.range_succ] at hbytes hlast ⊢
        omega
      · simp only [List.length_cons] at hlength
        omega

/-! ### IPv6 addresses -/

/-- The signs of an address are its own. -/
theorem mem_ipv6Text {pieces : List Nat} :
    ∀ c ∈ (ipv6Text pieces).toList, c = ':' ∨ isDelimiter c = false := by
  have hcolon : ∀ c ∈ ":".toList, c = ':' ∨ isDelimiter c = false :=
    fun c hmem => .inl (List.mem_singleton.mp hmem)
  have hgap : ∀ c ∈ "::".toList, c = ':' ∨ isDelimiter c = false :=
    fun c hmem => .inl (List.eq_of_mem_replicate (n := 2) hmem)
  have hpieces (list : List Nat) :
      ∀ c ∈ (hexPieces list).toList, c = ':' ∨ isDelimiter c = false := by
    refine forall_mem_intercalate hcolon fun text hmem c hc => ?_
    obtain ⟨n, -, rfl⟩ := List.mem_map.mp hmem
    rw [String.toList_ofList] at hc
    exact .inr (unmarked_toDigits (by decide) (by decide) n c hc)
  unfold ipv6Text
  split
  · exact hpieces pieces
  · rw [String.toList_append, String.toList_append, List.forall_mem_append, List.forall_mem_append]
    exact ⟨⟨hpieces _, hgap⟩, hpieces _⟩

theorem digitValue_digitChar {n : Nat} (hn : n < 16) :
    Hex.digitValue (Nat.digitChar n) = some n := by
  revert n
  decide

theorem value_toDigits (n : Nat) : Hex.value (Nat.toDigits 16 n) = n := by
  induction n using Nat.strongRecOn with
  | _ n ih =>
      unfold Hex.value at ih ⊢
      obtain hlt | hle := Nat.lt_or_ge n 16
      · rw [Nat.toDigits_of_lt_base hlt]
        simp [digitValue_digitChar hlt]
      · have hlast : n % 16 < 16 := Nat.mod_lt n (by decide)
        rw [Nat.toDigits_of_base_le (by decide) hle, List.foldl_append,
          ih (n / 16) (Nat.div_lt_self (by omega) (by decide))]
        simp only [List.foldl_cons, List.foldl_nil, digitValue_digitChar hlast, Option.getD_some]
        exact Nat.div_add_mod n 16

theorem colon_not_mem_toDigits (n : Nat) : ':' ∉ Nat.toDigits 16 n :=
  (unmarked_toDigits (by decide) (by decide) n).not_mem (by decide)

theorem toList_hexPieces_cons (n : Nat) (rest : List Nat) : (hexPieces (n :: rest)).toList =
    Nat.toDigits 16 n ++ if rest = [] then [] else ':' :: (hexPieces rest).toList := by
  unfold hexPieces
  cases rest with
  | nil => simp
  | cons m rest =>
      rw [List.map_cons, List.map_cons, String.intercalate_cons_cons]
      simp

theorem hexPieces_ne {pieces : List Nat} (hne : pieces ≠ []) : hexPieces pieces ≠ "" := by
  obtain ⟨n, rest, rfl⟩ := List.exists_cons_of_ne_nil hne
  intro hempty
  have hlist := toList_hexPieces_cons n rest
  rw [hempty] at hlist
  exact Nat.toDigits_ne_nil (List.append_eq_nil_iff.mp hlist.symm).1

theorem hexPieces_inj {pieces pieces' : List Nat} (hsame : hexPieces pieces = hexPieces pieces') :
    pieces = pieces' := by
  by_cases hne : pieces = []
  · subst hne
    by_contra hne'
    exact hexPieces_ne (Ne.symm hne') hsame.symm
  by_cases hne' : pieces' = []
  · subst hne'
    exact absurd hsame (hexPieces_ne hne)
  have hfree (list : List Nat) :
      ∀ text ∈ list.map fun n => String.ofList (Nat.toDigits 16 n), ':' ∉ text.toList := by
    intro text hmem
    obtain ⟨n, -, rfl⟩ := List.mem_map.mp hmem
    rw [String.toList_ofList]
    exact colon_not_mem_toDigits n
  have hcolon : ":".toList = [':'] := rfl
  have htexts := intercalate_inj hcolon (by simpa using hne) (by simpa using hne')
    (hfree pieces) (hfree pieces') hsame
  refine List.map_injective_iff.mpr (fun n m hdigits => ?_) htexts
  rw [← value_toDigits n, ← value_toDigits m, String.ofList_injective hdigits]

theorem splitGap_append {front : List Char} (hfront : ':' ∉ front) (rest : List Char) :
    splitGap (front ++ rest) = (splitGap rest).map fun (a, b) => (front ++ a, b) := by
  induction front with
  | nil => simp
  | cons c front ih =>
      rw [List.mem_cons, not_or] at hfront
      rw [List.cons_append, splitGap, ih hfront.2, Option.map_map]
      · rfl
      · rintro _ rfl _
        exact hfront.1 rfl

/-- There is no gap among numbers, so the first one comes after them. -/
theorem splitGap_hexPieces (pieces : List Nat) (tail : List Char) :
    splitGap ((hexPieces pieces).toList ++ tail) =
      (splitGap tail).map fun (front, back) => ((hexPieces pieces).toList ++ front, back) := by
  induction pieces with
  | nil =>
      cases hgap : splitGap tail <;> simp [hexPieces, hgap]
  | cons n rest ih =>
      rw [toList_hexPieces_cons, List.append_assoc, splitGap_append (colon_not_mem_toDigits n)]
      by_cases hrest : rest = []
      · simp [hrest]
      · obtain ⟨m, more, rfl⟩ := List.exists_cons_of_ne_nil hrest
        obtain ⟨d, digits, hdigits⟩ : ∃ d digits, Nat.toDigits 16 m = d :: digits :=
          List.exists_cons_of_ne_nil Nat.toDigits_ne_nil
        have hd : d ≠ ':' := by
          rintro rfl
          exact colon_not_mem_toDigits m (hdigits ▸ List.mem_cons_self)
        have hcolon : splitGap (':' :: ((hexPieces (m :: more)).toList ++ tail)) =
            (splitGap ((hexPieces (m :: more)).toList ++ tail)).map
              fun (a, b) => (':' :: a, b) := by
          rw [toList_hexPieces_cons, hdigits]
          rw [List.cons_append, List.cons_append, splitGap]
          rintro _ _ hsame
          exact hd (List.cons.inj hsame).1
        rw [if_neg hrest, List.cons_append, hcolon, ih, Option.map_map, Option.map_map]
        congr 1
        funext ⟨a, b⟩
        simp

theorem foldl_eq_or_mem {α : Type} {choose : α → α → α}
    (hchoose : ∀ a b, choose a b = a ∨ choose a b = b) (start : α) (list : List α) :
    list.foldl choose start = start ∨ list.foldl choose start ∈ list := by
  induction list generalizing start with
  | nil => exact .inl rfl
  | cons a rest ih =>
      rw [List.foldl_cons]
      obtain hstart | hmem := ih (choose start a)
      · rw [hstart]
        obtain hkept | htaken := hchoose start a
        · exact .inl hkept
        · rw [htaken]
          exact .inr List.mem_cons_self
      · exact .inr (List.mem_cons_of_mem _ hmem)

/-- A run of zeros parts the pieces into those before it and those after it. -/
theorem of_zeroRun {pieces : List Nat} {start length : Nat}
    (hrun : zeroRun pieces = some (start, length)) :
    pieces = pieces.take start ++ List.replicate length 0 ++ pieces.drop (start + length) := by
  unfold zeroRun at hrun
  dsimp only at hrun
  obtain ⟨hlong, hbest⟩ := Option.ite_none_left_eq_some.mp hrun
  have hbest := Option.some.inj hbest
  have hchoose (best run : Nat × Nat) : (if best.2 < run.2 then run else best) = best ∨
      (if best.2 < run.2 then run else best) = run := by
    by_cases hlt : best.2 < run.2
    · exact .inr (if_pos hlt)
    · exact .inl (if_neg hlt)
  obtain hfirst | hmem := foldl_eq_or_mem hchoose (0, 1)
    ((List.range pieces.length).map fun i => (i, ((pieces.drop i).takeWhile (· = 0)).length))
  · rw [hfirst] at hlong
    exact absurd (by decide) hlong
  · rw [hbest] at hmem
    obtain ⟨i, -, hi⟩ := List.mem_map.mp hmem
    obtain ⟨rfl, rfl⟩ := Prod.mk.inj hi
    have hzeros : (pieces.drop i).takeWhile (· = 0) =
        List.replicate ((pieces.drop i).takeWhile (· = 0)).length 0 := by
      refine List.eq_replicate_of_mem fun n hn => ?_
      simpa using List.mem_takeWhile_imp hn
    have hrun := List.prefix_iff_eq_append.mp (List.takeWhile_prefix (· = 0) (l := pieces.drop i))
    rw [← hzeros, ← List.drop_drop, List.append_assoc, hrun, List.take_append_drop]

theorem splitGap_ipv6Text (pieces : List Nat) : splitGap (ipv6Text pieces).toList =
    (zeroRun pieces).map fun (start, length) =>
      ((hexPieces (pieces.take start)).toList,
        (hexPieces (pieces.drop (start + length))).toList) := by
  unfold ipv6Text
  cases zeroRun pieces with
  | none =>
      have hgap := splitGap_hexPieces pieces []
      simpa [splitGap] using hgap
  | some run =>
      have hgap := splitGap_hexPieces (pieces.take run.1)
        (':' :: ':' :: (hexPieces (pieces.drop (run.1 + run.2))).toList)
      simpa [splitGap] using hgap

/-- Addresses of one length are told apart by their texts. -/
theorem ipv6Text_inj {pieces pieces' : List Nat} (hlength : pieces.length = pieces'.length)
    (hsame : ipv6Text pieces = ipv6Text pieces') : pieces = pieces' := by
  have hgap : splitGap (ipv6Text pieces).toList = splitGap (ipv6Text pieces').toList := by
    rw [hsame]
  rw [splitGap_ipv6Text, splitGap_ipv6Text] at hgap
  cases hrun : zeroRun pieces with
  | none =>
      cases hrun' : zeroRun pieces' with
      | none =>
          unfold ipv6Text at hsame
          rw [hrun, hrun'] at hsame
          exact hexPieces_inj hsame
      | some run =>
          rw [hrun, hrun'] at hgap
          cases hgap
  | some run =>
      cases hrun' : zeroRun pieces' with
      | none =>
          rw [hrun, hrun'] at hgap
          cases hgap
      | some run' =>
          rw [hrun, hrun'] at hgap
          obtain ⟨hfront, hback⟩ := Prod.mk.inj (Option.some.inj hgap)
          have hfront := hexPieces_inj (String.toList_inj.mp hfront)
          have hback := hexPieces_inj (String.toList_inj.mp hback)
          have hparts := of_zeroRun hrun
          have hparts' := of_zeroRun hrun'
          have hcount := congrArg List.length hparts
          have hcount' := congrArg List.length hparts'
          rw [hfront, hback] at hcount hparts
          simp only [List.length_append, List.length_replicate] at hcount hcount'
          have hzeros : run.2 = run'.2 := by omega
          rw [hparts, hzeros, ← hparts']

theorem length_of_ipv6Pieces {text : List Char} {pieces : List Nat}
    (hpieces : ipv6Pieces text = some pieces) : pieces.length = 8 := by
  unfold ipv6Pieces at hpieces
  split at hpieces
  · split at hpieces
    · split at hpieces
      · rename_i hlength
        obtain rfl := Option.some.inj hpieces
        exact hlength
      · cases hpieces
    · cases hpieces
  · split at hpieces
    · cases hpieces
    · split at hpieces
      · split at hpieces
        · obtain rfl := Option.some.inj hpieces
          simp only [List.length_append, List.length_replicate]
          omega
        · cases hpieces
      · cases hpieces

/-! ### Hosts -/

/-- The host is such as is read in a URL, of a special scheme or of another. Only special schemes
have IPv4 addresses, and names there do not end in a number. -/
def Orderly (isSpecial : Bool) : Host → Prop
  | .named text => Unmarked text.toList ∧ (isSpecial = true → endsInNumber text.toList = false)
  | .ipv4 address => isSpecial = true ∧ address < 2 ^ 32
  | .ipv6 pieces => pieces.length = 8

theorem orderly_parse {input : List Char} {host : Host} (hparse : parse input = .ok host) :
    host.Orderly true := by
  obtain ⟨text, pieces, hpieces, rfl⟩ | ⟨parts, address, haddress, rfl⟩ |
    ⟨name, domain, hdomain, -, hnumber, rfl⟩ := of_parse hparse
  · exact length_of_ipv6Pieces hpieces
  · exact ⟨rfl, lt_of_ipv4Address haddress⟩
  · exact ⟨(Domain.allowed_toAscii hdomain).unmarked, fun _ => hnumber⟩

theorem orderly_parseOpen {input : List Char} {host : Host} (hparse : parseOpen input = .ok host) :
    host.Orderly false := by
  unfold parseOpen at hparse
  split at hparse
  · obtain ⟨text, pieces, hpieces, rfl⟩ := of_parseIpv6 hparse
    exact length_of_ipv6Pieces hpieces
  · split at hparse
    · cases hparse
    · rename_i hallowed
      obtain rfl := Except.ok.inj hparse
      refine ⟨Percent.unmarked_encode fun c hmem hmark => ?_, nofun⟩
      refine absurd (List.any_eq_true.mpr ⟨c, hmem, ?_⟩) hallowed
      obtain rfl | rfl | rfl | rfl | rfl | rfl | rfl := isDelimiter_iff.mp hmark <;> decide

theorem orderly_empty (isSpecial : Bool) : (Host.named "").Orderly isSpecial :=
  ⟨unmarked_nil, fun _ => by decide⟩

theorem toList_text_ipv6 (pieces : List Nat) :
    (Host.ipv6 pieces).text.toList = '[' :: ((ipv6Text pieces).toList ++ [']']) := by
  simp [text]

theorem not_unmarked_ipv6 (pieces : List Nat) : ¬Unmarked (Host.ipv6 pieces).text.toList := by
  rw [toList_text_ipv6, unmarked_cons]
  rintro ⟨hbracket, -⟩
  exact absurd hbracket (by decide)

/-- Only the brackets of an IPv6 address, and what stands in them, are signs. -/
theorem Orderly.ipv6_or_unmarked {isSpecial : Bool} {host : Host}
    (orderly : host.Orderly isSpecial) :
    (∃ pieces, host = .ipv6 pieces) ∨ Unmarked host.text.toList := by
  cases host with
  | named name => exact .inr orderly.1
  | ipv4 address => exact .inr (unmarked_ipv4Text address)
  | ipv6 pieces => exact .inl ⟨pieces, rfl⟩

theorem Orderly.mem_text {isSpecial : Bool} {host : Host} (orderly : host.Orderly isSpecial) :
    ∀ c ∈ host.text.toList, c ∈ [':', '[', ']'] ∨ isDelimiter c = false := by
  obtain ⟨pieces, rfl⟩ | unmarked := orderly.ipv6_or_unmarked
  · rw [toList_text_ipv6, List.forall_mem_cons, List.forall_mem_append, List.forall_mem_singleton]
    refine ⟨by decide, fun c hmem => ?_, by decide⟩
    obtain rfl | hfree := mem_ipv6Text c hmem
    · exact .inl (by decide)
    · exact .inr hfree
  · exact fun c hmem => .inr (unmarked c hmem)

theorem Orderly.text_ne_ipv4Text {isSpecial : Bool} {name : String} {address : Nat}
    (named : (Host.named name).Orderly isSpecial)
    (numbered : (Host.ipv4 address).Orderly isSpecial) :
    name ≠ ipv4Text address := by
  rintro rfl
  have hnumber := named.2 numbered.1
  rw [endsInNumber_ipv4Text] at hnumber
  cases hnumber

/-- **A host is told by its text.** -/
theorem Orderly.text_inj {isSpecial : Bool} {host host' : Host} (orderly : host.Orderly isSpecial)
    (orderly' : host'.Orderly isSpecial) (hsame : host.text = host'.text) : host = host' := by
  have hbracket {pieces : List Nat} {unmarked : String} (hunmarked : Unmarked unmarked.toList) :
      (Host.ipv6 pieces).text ≠ unmarked := by
    rintro rfl
    exact not_unmarked_ipv6 pieces hunmarked
  cases host with
  | named name =>
      cases host' with
      | named name' => exact congrArg Host.named hsame
      | ipv4 address' => exact absurd hsame (orderly.text_ne_ipv4Text orderly')
      | ipv6 pieces' => exact absurd hsame.symm (hbracket orderly.1)
  | ipv4 address =>
      cases host' with
      | named name' => exact absurd hsame.symm (orderly'.text_ne_ipv4Text orderly)
      | ipv4 address' => exact congrArg Host.ipv4 (ipv4Text_inj orderly.2 orderly'.2 hsame)
      | ipv6 pieces' => exact absurd hsame.symm (hbracket (unmarked_ipv4Text address))
  | ipv6 pieces =>
      cases host' with
      | named name' => exact absurd hsame (hbracket orderly'.1)
      | ipv4 address' => exact absurd hsame (hbracket (unmarked_ipv4Text address'))
      | ipv6 pieces' =>
          have htext := congrArg String.toList hsame
          rw [toList_text_ipv6, toList_text_ipv6] at htext
          have hinner := List.append_cancel_right (List.cons.inj htext).2
          have hlength : pieces.length = pieces'.length := orderly.trans orderly'.symm
          exact congrArg Host.ipv6 (ipv6Text_inj hlength (String.toList_inj.mp hinner))

end Host

end OfflineAgent
