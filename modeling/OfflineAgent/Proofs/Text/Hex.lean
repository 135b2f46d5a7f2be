import Mathlib
import OfflineAgent.Text.Hex

/-!
# Hexadecimal digits

Every byte is written as two digits from which it is read again, and so no two texts of bytes are
written alike.
-/

namespace OfflineAgent.Hex

/-- The two digits of a byte. -/
def pair (b : UInt8) : List Char :=
  [digit (b >>> 4), digit (b &&& 15)]

/-! ### Digits -/

theorem digitValue_digit {n : UInt8} (hn : n < 16) : digitValue (digit n) = some n.toNat := by
  have hall : ∀ k < 16, digitValue (digit (UInt8.ofNat k)) = some k := by decide
  have hvalue := hall n.toNat (UInt8.lt_iff_toNat_lt.mp hn)
  rwa [UInt8.ofNat_toNat] at hvalue

theorem ofNat_halves (b : UInt8) :
    UInt8.ofNat (16 * (b >>> 4).toNat + (b &&& 15).toNat) = b := by
  have hhigh : (b >>> 4).toNat = b.toNat / 16 := by
    rw [UInt8.toNat_shiftRight, Nat.shiftRight_eq_div_pow]
    rfl
  have hlow : (b &&& 15).toNat = b.toNat % 16 := by
    rw [UInt8.toNat_and]
    exact Nat.and_two_pow_sub_one_eq_mod b.toNat 4
  rw [hhigh, hlow, Nat.div_add_mod, UInt8.ofNat_toNat]

theorem high_lt (b : UInt8) : b >>> 4 < 16 := by
  have hbyte := b.toNat_lt
  rw [UInt8.lt_iff_toNat_lt, UInt8.toNat_shiftRight, Nat.shiftRight_eq_div_pow]
  simp
  omega

theorem low_lt (b : UInt8) : b &&& 15 < 16 := by
  rw [UInt8.lt_iff_toNat_lt, UInt8.toNat_and]
  exact Nat.lt_of_le_of_lt Nat.and_le_right (by decide)

/-! ### Texts -/

/-- By induction on the number of bytes that are left; the next one is at `i`. -/
theorem run_foldlM_loop {β : Type} {f : β → UInt8 → β} {bytes : ByteArray} {left i : Nat}
    {start : β} (hleft : i + left = bytes.size) :
    (ByteArray.foldlM.loop (fun read b => (pure (f read b) : Id β)) bytes bytes.size le_rfl left i
      start).run = (bytes.data.toList.drop i).foldl f start := by
  induction left generalizing i start with
  | zero =>
      have hall : bytes.data.toList.length ≤ i := hleft.ge
      rw [ByteArray.foldlM.loop, List.drop_eq_nil_of_le hall]
      split <;> rfl
  | succ left ih =>
      have hlt : i < bytes.size := by omega
      have hlist : i < bytes.data.toList.length := hlt
      rw [ByteArray.foldlM.loop, dif_pos hlt, List.drop_eq_getElem_cons hlist]
      exact ih (by omega)

theorem foldl_eq {β : Type} (f : β → UInt8 → β) (start : β) (bytes : ByteArray) :
    bytes.foldl f start = bytes.data.toList.foldl f start := by
  unfold ByteArray.foldl ByteArray.foldlM
  rw [dif_pos le_rfl]
  exact run_foldlM_loop (Nat.zero_add _)

theorem encode_eq (bytes : ByteArray) :
    encode bytes = String.ofList (bytes.data.toList.flatMap pair) := by
  have hfold (list : List UInt8) (text : String) :
      list.foldl (fun text b => (text.push (digit (b >>> 4))).push (digit (b &&& 15))) text =
        text ++ String.ofList (list.flatMap pair) := by
    induction list generalizing text with
    | nil => simp
    | cons b rest ih =>
        rw [List.foldl_cons, ih, List.flatMap_cons]
        apply String.toList_inj.mp
        simp [pair]
  rw [encode, foldl_eq, hfold, String.empty_append]

theorem decodeFrom_flatMap (done : ByteArray) (bytes : List UInt8) :
    decodeFrom done (bytes.flatMap pair) = some ⟨done.data ++ bytes.toArray⟩ := by
  induction bytes generalizing done with
  | nil => simp [decodeFrom]
  | cons b rest ih =>
      rw [List.flatMap_cons, pair, List.cons_append, List.cons_append, List.nil_append, decodeFrom,
        digitValue_digit (high_lt b), digitValue_digit (low_lt b)]
      dsimp only
      rw [ofNat_halves, ih]
      simp [ByteArray.push]

/-- **Bytes are read as they were written.** -/
theorem decode_encode (bytes : ByteArray) : decode (encode bytes) = some bytes := by
  rw [decode, encode_eq, String.toList_ofList, decodeFrom_flatMap]
  simp

theorem encode_injective : Function.Injective encode := by
  intro first second hsame
  have hread := congrArg decode hsame
  rw [decode_encode, decode_encode] at hread
  exact Option.some.inj hread

end OfflineAgent.Hex
