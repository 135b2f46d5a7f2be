import Mathlib
import OfflineAgent.Text.Utf8

/-!
# Reading back the bytes of a text

The byte reader takes the encoding of any text for that text.
-/

namespace OfflineAgent.Utf8

def bytes (text : List Char) : List UInt8 :=
  text.flatMap String.utf8EncodeChar

@[simp]
theorem bytes_nil : bytes [] = [] := rfl

@[simp]
theorem bytes_cons (c : Char) (text : List Char) :
    bytes (c :: text) = String.utf8EncodeChar c ++ bytes text := rfl

@[simp]
theorem bytes_append (first second : List Char) :
    bytes (first ++ second) = bytes first ++ bytes second :=
  List.flatMap_append

/-! ### Byte arrays -/

theorem toList_loop (array : ByteArray) (i : Nat) (read : List UInt8) :
    ByteArray.toList.loop array i read = read.reverse ++ array.data.toList.drop i := by
  fun_induction ByteArray.toList.loop array i read with
  | case1 i read hlt ih =>
      have hlt' : i < array.data.toList.length := by simpa using hlt
      rw [ih, List.drop_eq_getElem_cons hlt']
      simp [ByteArray.get!, hlt]
  | case2 i read hge =>
      rw [List.drop_eq_nil_of_le (by simpa using Nat.le_of_not_lt hge), List.append_nil]

theorem toList_toByteArray (list : List UInt8) : list.toByteArray.toList = list := by
  rw [ByteArray.toList, toList_loop]
  simp

theorem toList_toUTF8 (text : String) : text.toUTF8.toList = bytes text.toList := by
  rw [← String.ofList_toList (s := text), String.toUTF8_eq_toByteArray, String.toByteArray_ofList]
  simp only [List.utf8Encode, toList_toByteArray, String.toList_ofList]
  rfl

/-! ### One character -/

section

variable {n : Nat} {part : Unfinished} {offset : Nat} {text : List Char} {rest : List UInt8}

theorem ofLead_two (hlow : 0xC2 ≤ n) (hhigh : n ≤ 0xDF) :
    Unfinished.ofLead (.ofNat n) = some ⟨1, 0x80, 0xBF, n - 0xC0, 1⟩ := by
  interval_cases n <;> rfl

theorem ofLead_three (hlow : 0xE0 ≤ n) (hhigh : n ≤ 0xEF) :
    Unfinished.ofLead (.ofNat n) =
      some ⟨2, if n = 0xE0 then 0xA0 else 0x80, if n = 0xED then 0x9F else 0xBF, n - 0xE0, 1⟩ := by
  interval_cases n <;> rfl

theorem ofLead_four (hlow : 0xF0 ≤ n) (hhigh : n ≤ 0xF4) :
    Unfinished.ofLead (.ofNat n) =
      some ⟨3, if n = 0xF0 then 0x90 else 0x80, if n = 0xF4 then 0x8F else 0xBF, n - 0xF0, 1⟩ := by
  interval_cases n <;> rfl

theorem encode_ascii {b : UInt8} (hascii : b.toNat < 0x80) :
    String.utf8EncodeChar (Char.ofNat b.toNat) = [b] := by
  have hvalue : (Char.ofNat b.toNat).val.toNat = b.toNat := by
    change (Char.ofNat b.toNat).toNat = b.toNat
    rw [Char.toNat_ofNat, if_pos (.inl (by omega))]
  simp only [String.utf8EncodeChar, hvalue]
  rw [if_pos (by omega)]
  simp

theorem decodeFrom_ascii (hn : n < 0x80) :
    decodeFrom none offset text (.ofNat n :: rest) =
      decodeFrom none (offset + 1) (Char.ofNat n :: text) rest := by
  have hvalue : (UInt8.ofNat n).toNat = n := UInt8.toNat_ofNat_of_lt' (hn.trans (by decide))
  simp only [decodeFrom, UInt8.lt_iff_toNat_lt, hvalue]
  exact if_pos hn

theorem decodeFrom_lead (hlead : Unfinished.ofLead (.ofNat n) = some part) (hlow : 0x80 ≤ n)
    (hhigh : n < 256) :
    decodeFrom none offset text (.ofNat n :: rest) = decodeFrom (some part) offset text rest := by
  have hvalue : (UInt8.ofNat n).toNat = n := UInt8.toNat_ofNat_of_lt' hhigh
  rw [decodeFrom, if_neg (by rw [UInt8.lt_iff_toNat_lt, hvalue]; exact Nat.not_lt.mpr hlow), hlead]

/-- The second byte of a long character, which has the bounds of its first byte. -/
theorem decodeFrom_second {low high : UInt8} {missing code read : Nat}
    (hlow : low.toNat ≤ n + 0x80) (hhigh : n + 0x80 ≤ high.toNat) :
    decodeFrom (some ⟨missing + 2, low, high, code, read⟩) offset text (.ofNat (n + 0x80) :: rest) =
      decodeFrom (some ⟨missing + 1, 0x80, 0xBF, code * 64 + n, read + 1⟩) offset text rest := by
  have hvalue : (UInt8.ofNat (n + 0x80)).toNat = n + 0x80 :=
    UInt8.toNat_ofNat_of_lt' (hhigh.trans_lt high.toNat_lt)
  have hbounds : low ≤ .ofNat (n + 0x80) ∧ .ofNat (n + 0x80) ≤ high := by
    rw [UInt8.le_iff_toNat_le, UInt8.le_iff_toNat_le, hvalue]
    exact ⟨hlow, hhigh⟩
  simp only [decodeFrom, if_pos hbounds, hvalue]
  rw [if_neg (by omega)]
  simp

theorem decodeFrom_last {code read : Nat} (hn : n < 64) :
    decodeFrom (some ⟨1, 0x80, 0xBF, code, read⟩) offset text (.ofNat (n + 0x80) :: rest) =
      decodeFrom none (offset + read + 1) (Char.ofNat (code * 64 + n) :: text) rest := by
  have hvalue : (UInt8.ofNat (n + 0x80)).toNat = n + 0x80 :=
    UInt8.toNat_ofNat_of_lt' (show n + 0x80 < 256 by omega)
  have hbounds : 0x80 ≤ UInt8.ofNat (n + 0x80) ∧ UInt8.ofNat (n + 0x80) ≤ 0xBF := by
    simp only [UInt8.le_iff_toNat_le, hvalue, UInt8.reduceToNat]
    omega
  simp only [decodeFrom, if_pos hbounds, hvalue]
  simp

theorem decodeFrom_two (hlow : 0x80 ≤ n) (hhigh : n < 0x800) :
    decodeFrom none offset text (.ofNat (n / 64 % 32 + 0xC0) :: .ofNat (n % 64 + 0x80) :: rest) =
      decodeFrom none (offset + 2) (Char.ofNat n :: text) rest := by
  have hcode : (n / 64 % 32 + 0xC0 - 0xC0) * 64 + n % 64 = n := by omega
  rw [decodeFrom_lead (ofLead_two (by omega) (by omega)) (by omega) (by omega),
    decodeFrom_last (by omega), hcode]

/-- The bounds of the second byte keep out the long forms of shorter encodings and the halves of
surrogate pairs. -/
theorem decodeFrom_three (hlow : 0x800 ≤ n) (hhigh : n < 0x10000)
    (hvalid : n < 0xD800 ∨ 0xDFFF < n) :
    decodeFrom none offset text (.ofNat (n / 4096 % 16 + 0xE0) :: .ofNat (n / 64 % 64 + 0x80) ::
        .ofNat (n % 64 + 0x80) :: rest) =
      decodeFrom none (offset + 3) (Char.ofNat n :: text) rest := by
  have hleast : (if n / 4096 % 16 + 0xE0 = 0xE0 then (0xA0 : UInt8) else 0x80).toNat ≤
      n / 64 % 64 + 0x80 := by
    split <;> simp only [UInt8.reduceToNat] <;> omega
  have hmost : n / 64 % 64 + 0x80 ≤
      (if n / 4096 % 16 + 0xE0 = 0xED then (0x9F : UInt8) else 0xBF).toNat := by
    split <;> simp only [UInt8.reduceToNat] <;> omega
  have hcode : ((n / 4096 % 16 + 0xE0 - 0xE0) * 64 + n / 64 % 64) * 64 + n % 64 = n := by omega
  rw [decodeFrom_lead (ofLead_three (by omega) (by omega)) (by omega) (by omega),
    decodeFrom_second hleast hmost, decodeFrom_last (by omega), hcode]

theorem decodeFrom_four (hlow : 0x10000 ≤ n) (hhigh : n < 0x110000) :
    decodeFrom none offset text (.ofNat (n / 262144 % 8 + 0xF0) ::
        .ofNat (n / 4096 % 64 + 0x80) :: .ofNat (n / 64 % 64 + 0x80) ::
        .ofNat (n % 64 + 0x80) :: rest) =
      decodeFrom none (offset + 4) (Char.ofNat n :: text) rest := by
  have hleast : (if n / 262144 % 8 + 0xF0 = 0xF0 then (0x90 : UInt8) else 0x80).toNat ≤
      n / 4096 % 64 + 0x80 := by
    split <;> simp only [UInt8.reduceToNat] <;> omega
  have hmost : n / 4096 % 64 + 0x80 ≤
      (if n / 262144 % 8 + 0xF0 = 0xF4 then (0x8F : UInt8) else 0xBF).toNat := by
    split <;> simp only [UInt8.reduceToNat] <;> omega
  have hthird : n / 64 % 64 + 0x80 ≤ (0xBF : UInt8).toNat := by
    simp only [UInt8.reduceToNat]
    omega
  have hcode : (((n / 262144 % 8 + 0xF0 - 0xF0) * 64 + n / 4096 % 64) * 64 + n / 64 % 64) * 64 +
      n % 64 = n := by omega
  rw [decodeFrom_lead (ofLead_four (by omega) (by omega)) (by omega) (by omega),
    decodeFrom_second hleast hmost, decodeFrom_second (Nat.le_add_left _ _) hthird,
    decodeFrom_last (by omega), hcode]

/-- The encoding of a character is read as that character. -/
theorem decodeFrom_char (c : Char) :
    decodeFrom none offset text (String.utf8EncodeChar c ++ rest) =
      decodeFrom none (offset + c.utf8Size) (c :: text) rest := by
  have hvalid : c.val.toNat < 0xD800 ∨ 0xDFFF < c.val.toNat ∧ c.val.toNat < 0x110000 := c.valid
  have hself : Char.ofNat c.val.toNat = c := Char.ofNat_toNat c
  rw [← String.length_utf8EncodeChar]
  unfold String.utf8EncodeChar
  generalize c.val.toNat = n at hvalid hself
  dsimp only
  split
  · rw [List.singleton_append, decodeFrom_ascii (by omega), hself]
    rfl
  split
  · rw [List.cons_append, List.singleton_append, decodeFrom_two (by omega) (by omega), hself]
    rfl
  split
  · rw [List.cons_append, List.cons_append, List.singleton_append,
      decodeFrom_three (by omega) (by omega) (by omega), hself]
    rfl
  · rw [List.cons_append, List.cons_append, List.cons_append, List.singleton_append,
      decodeFrom_four (by omega) (by omega), hself]
    rfl

theorem decodeFrom_bytes (read : List Char) :
    decodeFrom none offset read (bytes text) = .ok (read.reverse ++ text) := by
  induction text generalizing offset read with
  | nil => simp [decodeFrom]
  | cons c text ih => rw [bytes_cons, decodeFrom_char, ih, List.reverse_cons, List.append_assoc,
      List.singleton_append]

theorem decode_bytes (text : List Char) : decode (bytes text) = .ok text :=
  decodeFrom_bytes []

end

end OfflineAgent.Utf8
