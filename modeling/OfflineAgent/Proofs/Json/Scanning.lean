import OfflineAgent.Json.Reader
import OfflineAgent.Proofs.Json.Grammar
import OfflineAgent.Proofs.Text.Utf8

/-!
# Scanning JSON

What the reader does between the values of a text: it passes white space, takes strings however they
are written, and finds the next item or member.
-/

namespace OfflineAgent.Json

open Utf8 (bytes bytes_cons)

section

variable {text rest tail s blank : List UInt8} {fuel depth : Nat} {value : Value}

/-! ### White space -/

theorem skipSpace_cons {b : UInt8} (hspace : isSpace b = false) :
    skipSpace (b :: rest) = b :: rest := by
  rw [skipSpace, hspace]
  rfl

theorem isBlank_nil : IsBlank [] :=
  List.forall_mem_nil _

theorem skipSpace_blank (hblank : IsBlank blank) : skipSpace (blank ++ rest) = skipSpace rest := by
  induction blank with
  | nil => rfl
  | cons b blank ih =>
      obtain ⟨hb, hmore⟩ := List.forall_mem_cons.mp hblank
      have hspace : isSpace b = true := by
        obtain rfl | rfl | rfl | rfl := hb <;> rfl
      rw [List.cons_append, skipSpace, if_pos hspace, ih hmore]

theorem skipSpace_token {b : UInt8} (hblank : IsBlank blank) (hspace : isSpace b = false) :
    skipSpace (blank ++ b :: rest) = b :: rest := by
  rw [skipSpace_blank hblank, skipSpace_cons hspace]

/-! ### Strings -/

/-- Bytes that stand for themselves inside a string. -/
def IsPlain (b : UInt8) : Prop :=
  b ≠ 0x22 ∧ b ≠ 0x5C ∧ ¬b < 0x20

theorem stringFrom_plain {run : List UInt8} (hplain : ∀ b ∈ run, IsPlain b) :
    stringFrom .plain text (run ++ rest) = stringFrom .plain (run.reverse ++ text) rest := by
  induction run generalizing text with
  | nil => rfl
  | cons b run ih =>
      obtain ⟨hquote, hbackslash, hcontrol⟩ := hplain b List.mem_cons_self
      rw [List.cons_append, stringFrom, if_neg hquote, if_neg hbackslash, if_neg hcontrol,
        ih fun other hmem => hplain other (List.mem_cons_of_mem _ hmem), List.reverse_cons,
        List.append_assoc, List.singleton_append]

theorem utf8Reversed_eq (n : Nat) :
    utf8Reversed n = (String.utf8EncodeChar (.ofNat n)).reverse := by
  rw [utf8Reversed, Utf8.toList_toUTF8]
  simp

theorem HexDigit.digitValue {d : Nat} {b : UInt8} (digit : HexDigit d b) :
    Hex.digitValue (Char.ofNat b.toNat) = some d := by
  cases digit with
  | @decimal d hd => interval_cases d <;> rfl
  | @small d hd => interval_cases d <;> rfl
  | @capital d hd => interval_cases d <;> rfl

theorem HexFour.exists_digits {n : Nat} {digits : List UInt8} (hexFour : HexFour n digits) :
    ∃ a b c d, digits = [a, b, c, d] ∧ hexValue [a, b, c, d] = some n := by
  cases hexFour with
  | mk ha hb hc hd =>
      refine ⟨_, _, _, _, rfl, ?_⟩
      simp [hexValue, List.foldlM, ha.digitValue, hb.digitValue, hc.digitValue, hd.digitValue]

theorem stringFrom_unit {n : Nat} {digits : List UInt8} (hdigits : HexFour n digits)
    (hlead : ¬(0xD800 ≤ n ∧ n ≤ 0xDBFF)) (htrail : ¬(0xDC00 ≤ n ∧ n ≤ 0xDFFF)) :
    stringFrom .plain text (0x5C :: 0x75 :: (digits ++ rest)) =
      stringFrom .plain ((String.utf8EncodeChar (.ofNat n)).reverse ++ text) rest := by
  obtain ⟨a, b, c, d, rfl, hvalue⟩ := hdigits.exists_digits
  have hnotLead : isLeadSurrogate n = false := by simpa [isLeadSurrogate] using hlead
  have hnotTrail : isTrailSurrogate n = false := by simpa [isTrailSurrogate] using htrail
  simp [stringFrom, hvalue, hnotTrail, hnotLead, utf8Reversed_eq]

theorem stringFrom_pair {lead trail : Nat} {first second : List UInt8}
    (hlead : 0xD800 ≤ lead ∧ lead ≤ 0xDBFF) (htrail : 0xDC00 ≤ trail ∧ trail ≤ 0xDFFF)
    (hfirst : HexFour lead first) (hsecond : HexFour trail second) :
    stringFrom .plain text (0x5C :: 0x75 :: (first ++ 0x5C :: 0x75 :: (second ++ rest))) =
      stringFrom .plain ((String.utf8EncodeChar
        (.ofNat (0x10000 + (lead - 0xD800) * 0x400 + (trail - 0xDC00)))).reverse ++ text) rest := by
  obtain ⟨a, b, c, d, rfl, hvalue⟩ := hfirst.exists_digits
  obtain ⟨a', b', c', d', rfl, hvalue'⟩ := hsecond.exists_digits
  have hisLead : isLeadSurrogate lead = true := by simpa [isLeadSurrogate] using hlead
  have hnotTrail : isTrailSurrogate lead = false := by
    simp [isTrailSurrogate]
    omega
  have hisTrail : isTrailSurrogate trail = true := by simpa [isTrailSurrogate] using htrail
  simp [stringFrom, hvalue, hvalue', hisLead, hnotTrail, hisTrail, utf8Reversed_eq]

theorem isPlain_ofNat {n : Nat} (hn : n < 256) (hquote : n ≠ 0x22) (hbackslash : n ≠ 0x5C)
    (hcontrol : 0x20 ≤ n) : IsPlain (.ofNat n) := by
  have hvalue : (UInt8.ofNat n).toNat = n := UInt8.toNat_ofNat_of_lt' hn
  refine ⟨?_, ?_, ?_⟩
  · rw [ne_eq, ← UInt8.toNat_inj, hvalue]
    exact hquote
  · rw [ne_eq, ← UInt8.toNat_inj, hvalue]
    exact hbackslash
  · rw [UInt8.lt_iff_toNat_lt, hvalue]
    exact Nat.not_lt.mpr hcontrol

theorem isPlain_of_not_escaped {c : Char} (hquote : c ≠ '"') (hbackslash : c ≠ '\\')
    (hcontrol : ¬c.toNat < 0x20) : ∀ b ∈ String.utf8EncodeChar c, IsPlain b := by
  have hquote' : c.val.toNat ≠ 0x22 := fun hv => hquote (Char.toNat_inj.mp hv)
  have hbackslash' : c.val.toNat ≠ 0x5C := fun hv => hbackslash (Char.toNat_inj.mp hv)
  have hcontrol' : ¬c.val.toNat < 0x20 := hcontrol
  intro b hmem
  unfold String.utf8EncodeChar at hmem
  generalize c.val.toNat = v at hquote' hbackslash' hcontrol' hmem
  dsimp only at hmem
  split at hmem
  · obtain rfl := List.mem_singleton.mp hmem
    exact isPlain_ofNat (by omega) hquote' hbackslash' (by omega)
  split at hmem
  · simp only [List.mem_cons, List.not_mem_nil, or_false] at hmem
    obtain rfl | rfl := hmem <;> exact isPlain_ofNat (by omega) (by omega) (by omega) (by omega)
  split at hmem
  · simp only [List.mem_cons, List.not_mem_nil, or_false] at hmem
    obtain rfl | rfl | rfl := hmem <;>
      exact isPlain_ofNat (by omega) (by omega) (by omega) (by omega)
  · simp only [List.mem_cons, List.not_mem_nil, or_false] at hmem
    obtain rfl | rfl | rfl | rfl := hmem <;>
      exact isPlain_ofNat (by omega) (by omega) (by omega) (by omega)

/-- However a character is written, it is read as its bytes. -/
theorem WrittenChar.stringFrom {c : Char} (written : WrittenChar c s) :
    stringFrom .plain text (s ++ rest) =
      Json.stringFrom .plain ((String.utf8EncodeChar c).reverse ++ text) rest := by
  cases written with
  | plain hquote hbackslash hcontrol =>
      exact stringFrom_plain (isPlain_of_not_escaped hquote hbackslash hcontrol)
  | short hsign =>
      simp only [shortEscapes, List.mem_cons, Prod.mk.injEq, List.not_mem_nil, or_false] at hsign
      obtain ⟨rfl, rfl⟩ | ⟨rfl, rfl⟩ | ⟨rfl, rfl⟩ | ⟨rfl, rfl⟩ | ⟨rfl, rfl⟩ | ⟨rfl, rfl⟩ |
        ⟨rfl, rfl⟩ | ⟨rfl, rfl⟩ := hsign <;> rfl
  | unit hdigits =>
      have hvalid : c.toNat < 0xD800 ∨ 0xDFFF < c.toNat ∧ c.toNat < 0x110000 := c.valid
      rw [List.cons_append, List.cons_append, stringFrom_unit hdigits (by omega) (by omega),
        Char.ofNat_toNat]
  | pair hlead htrail hpoint hfirst hsecond =>
      simp only [List.cons_append, List.append_assoc]
      rw [stringFrom_pair hlead htrail hfirst hsecond, ← hpoint, Char.ofNat_toNat]

theorem WrittenChars.stringFrom {chars : List Char} (written : WrittenChars chars s) :
    stringFrom .plain text (s ++ rest) =
      Json.stringFrom .plain ((bytes chars).reverse ++ text) rest := by
  induction written generalizing text with
  | nil => rfl
  | cons hfirst hrest ih =>
      rw [List.append_assoc, hfirst.stringFrom, ih, bytes_cons, List.reverse_append,
        List.append_assoc]

/-- A string is read up to its closing quote. -/
theorem WrittenChars.stringFrom_quoted {string : String} (written : WrittenChars string.toList s) :
    Json.stringFrom .plain [] (s ++ 0x22 :: rest) = .ok (string, rest) := by
  rw [written.stringFrom, List.append_nil, Json.stringFrom, if_pos rfl, List.reverse_reverse,
    Utf8.decode_bytes]
  simp

/-! ### Between items and members -/

theorem nextItem_first {b : UInt8} (hblank : IsBlank blank) (hspace : isSpace b = false)
    (hclose : b ≠ 0x5D) : nextItem true (blank ++ b :: rest) = .ok (true, b :: rest) := by
  rw [nextItem, skipSpace_token hblank hspace]
  split <;> simp_all

theorem nextItem_next {b : UInt8} {after : List UInt8} (hafter : IsBlank after)
    (hblank : IsBlank blank) (hspace : isSpace b = false) (hclose : b ≠ 0x5D) :
    nextItem false (after ++ 0x2C :: (blank ++ b :: rest)) = .ok (true, b :: rest) := by
  rw [nextItem, skipSpace_token hafter rfl]
  change (if false = true then _ else if (0x2C : UInt8) = 0x2C then _ else _) = _
  rw [if_neg Bool.false_ne_true, if_pos rfl, skipSpace_token hblank hspace]
  split <;> simp_all

theorem nextItem_close (hblank : IsBlank blank) (isFirst : Bool) :
    nextItem isFirst (blank ++ 0x5D :: rest) = .ok (false, 0x5D :: rest) := by
  rw [nextItem, skipSpace_token hblank rfl]
  rfl

theorem nextMember_close (hblank : IsBlank blank) (isFirst : Bool) :
    nextMember isFirst (blank ++ 0x7D :: rest) = .ok (false, 0x7D :: rest) := by
  rw [nextMember, skipSpace_token hblank rfl]
  rfl

section

variable {name : String} (written : WrittenString name text)

include written

theorem WrittenString.nextMember_first (hblank : IsBlank blank) :
    nextMember true (blank ++ (text ++ rest)) = .ok (true, text ++ rest) := by
  obtain ⟨inner⟩ := written
  rw [nextMember, List.cons_append, skipSpace_token hblank rfl]
  rfl

theorem WrittenString.nextMember_next {after : List UInt8} (hafter : IsBlank after)
    (hblank : IsBlank blank) :
    nextMember false (after ++ 0x2C :: (blank ++ (text ++ rest))) = .ok (true, text ++ rest) := by
  obtain ⟨inner⟩ := written
  rw [nextMember, skipSpace_token hafter rfl]
  change (if false = true then _ else if (0x2C : UInt8) = 0x2C then _ else _) = _
  rw [if_neg Bool.false_ne_true, if_pos rfl, List.cons_append, skipSpace_token hblank rfl]
  rfl

theorem WrittenString.stringFrom :
    stringFrom .plain [] ((text ++ rest).drop 1) = .ok (name, rest) := by
  obtain ⟨hinner⟩ := written
  rw [List.cons_append, List.drop_succ_cons, List.drop_zero, List.append_assoc]
  exact hinner.stringFrom_quoted

end

theorem colon_blank (hblank : IsBlank blank) : colon (blank ++ 0x3A :: rest) = .ok rest := by
  rw [colon, skipSpace_token hblank rfl]
  rfl

end

end OfflineAgent.Json
