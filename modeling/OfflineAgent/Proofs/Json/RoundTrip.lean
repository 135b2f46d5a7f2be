import OfflineAgent.Json.Printer
import OfflineAgent.Json.Typed
import OfflineAgent.Proofs.Json.Scanning

/-!
# Reading back printed JSON

What the printer writes of a list of pairs of strings the typed reader takes for the same list,
whatever characters the strings are made of.
-/

namespace OfflineAgent.Json

open Utf8 (bytes bytes_nil bytes_cons bytes_append)

/-! ### Strings -/

section

variable {rest : List UInt8}

theorem hexDigit_digitChar {d : Nat} (hd : d < 16) :
    HexDigit d (.ofNat (Nat.digitChar d).toNat) := by
  obtain hlow | ⟨e, rfl⟩ : d < 10 ∨ ∃ e, d = 10 + e :=
    (Nat.lt_or_ge d 10).imp_right Nat.exists_eq_add_of_le
  · have hdigit := HexDigit.decimal hlow
    interval_cases d <;> exact hdigit
  · have hletter := HexDigit.small (show e < 6 by omega)
    have he : e < 6 := by omega
    interval_cases e <;> exact hletter

theorem hexFour_hex4 {n : Nat} (hn : n < 0x20) : HexFour n (bytes (hex4 n)) := by
  have hbytes : bytes (hex4 n) = [0, 0, n / 16, n % 16].map
      fun d => .ofNat (Nat.digitChar d).toNat := by
    interval_cases n <;> rfl
  have hvalue : 16 * (16 * (16 * 0 + 0) + n / 16) + n % 16 = n := by omega
  have hdigits := HexFour.mk (hexDigit_digitChar (d := 0) (by decide))
    (hexDigit_digitChar (d := 0) (by decide)) (hexDigit_digitChar (d := n / 16) (by omega))
    (hexDigit_digitChar (d := n % 16) (by omega))
  rw [hvalue] at hdigits
  rw [hbytes]
  exact hdigits

/-- What is printed of a character is a way to write it. -/
theorem writtenChar_escape (c : Char) : WrittenChar c (bytes (escape c)) := by
  by_cases hquote : c = '"'
  · subst hquote
    exact .short (by decide)
  by_cases hbackslash : c = '\\'
  · subst hbackslash
    exact .short (by decide)
  unfold escape
  rw [if_neg hquote, if_neg hbackslash]
  -- Line ends, tabs and the like have short forms of their own.
  iterate 5
    split
    · rename_i hc
      subst hc
      exact .short (by decide)
  split
  · rename_i hcontrol
    rw [bytes_cons, bytes_cons]
    exact .unit (hexFour_hex4 hcontrol)
  · rename_i hcontrol
    rw [bytes_cons, bytes_nil, List.append_nil]
    exact .plain hquote hbackslash hcontrol

theorem writtenChars_escape (chars : List Char) :
    WrittenChars chars (bytes (chars.flatMap escape)) := by
  induction chars with
  | nil => exact .nil
  | cons c chars ih =>
      rw [List.flatMap_cons, bytes_append]
      exact .cons (writtenChar_escape c) ih

theorem bytes_quote (s : String) :
    bytes (quote s) = 0x22 :: (bytes (s.toList.flatMap escape) ++ [0x22]) := by
  rw [quote, List.cons_append, bytes_cons, bytes_append]
  rfl

theorem writtenString_quote (s : String) : WrittenString s (bytes (quote s)) := by
  rw [bytes_quote]
  exact .quoted (writtenChars_escape s.toList)

theorem stringValue_quote (s : String) : stringValue (bytes (quote s) ++ rest) = .ok (s, rest) := by
  rw [bytes_quote, List.cons_append, List.append_assoc]
  exact (writtenChars_escape s.toList).stringFrom_quoted

end

/-! ### Lists -/

section

variable {rest : List UInt8}

theorem bytes_pair (a b : String) :
    bytes (Value.strings [a, b]).chars ++ rest =
      0x5B :: (bytes (quote a) ++ 0x2C :: (bytes (quote b) ++ 0x5D :: rest)) := by
  have hchars : (Value.strings [a, b]).chars =
      '[' :: (quote a ++ ',' :: (quote b ++ [']'])) := rfl
  rw [hchars, bytes_cons, bytes_append, bytes_cons, bytes_append]
  simp only [List.append_assoc]
  rfl

theorem stringPair_chars (a b : String) :
    stringPair (bytes (Value.strings [a, b]).chars ++ rest) = .ok ((a, b), rest) := by
  have hfirst (tail : List UInt8) :
      nextItem true (bytes (quote a) ++ tail) = .ok (true, bytes (quote a) ++ tail) := by
    rw [bytes_quote]
    exact nextItem_first isBlank_nil rfl (by decide)
  have hsecond (tail : List UInt8) :
      nextItem false (0x2C :: (bytes (quote b) ++ tail)) = .ok (true, bytes (quote b) ++ tail) := by
    rw [bytes_quote]
    exact nextItem_next isBlank_nil isBlank_nil rfl (by decide)
  have hopen (tail : List UInt8) : skipSpace (0x5B :: tail) = 0x5B :: tail := skipSpace_cons rfl
  have hclose : closeList (0x5D :: rest) = .ok rest := rfl
  rw [bytes_pair]
  simp [stringPair, hopen, hfirst, stringValue_quote, hsecond, hclose, bind, Except.bind, pure,
    Except.pure]

def pairValues (pairs : List (String × String)) : List Value :=
  pairs.map fun (a, b) => .strings [a, b]

theorem listFrom_items {pairs read : List (String × String)} {fuel : Nat}
    (hfuel : pairs.length < fuel) (hread : read ≠ []) :
    listFrom stringPair fuel read (bytes (Value.itemChars (pairValues pairs)) ++ rest) =
      .ok (read.reverse ++ pairs, rest) := by
  obtain ⟨fuel, rfl⟩ : ∃ n, fuel = n + 1 := ⟨fuel - 1, by omega⟩
  have hempty : read.isEmpty = false := by simpa using hread
  induction pairs generalizing read fuel with
  | nil =>
      have hnext : nextItem false (bytes (Value.itemChars (pairValues [])) ++ rest) =
          .ok (false, 0x5D :: rest) := rfl
      have hclose : closeList (0x5D :: rest) = .ok rest := rfl
      rw [listFrom, hempty, hnext]
      simp [hclose]
  | cons pair pairs ih =>
      obtain ⟨a, b⟩ := pair
      have hchars : bytes (Value.itemChars (pairValues ((a, b) :: pairs))) ++ rest =
          0x2C :: (bytes (Value.strings [a, b]).chars ++
            (bytes (Value.itemChars (pairValues pairs)) ++ rest)) := by
        rw [← List.append_assoc, ← bytes_append]
        rfl
      have hnext (tail : List UInt8) :
          nextItem false (0x2C :: (bytes (Value.strings [a, b]).chars ++ tail)) =
            .ok (true, bytes (Value.strings [a, b]).chars ++ tail) := by
        rw [bytes_pair]
        exact nextItem_next isBlank_nil isBlank_nil rfl (by decide)
      obtain ⟨fuel, rfl⟩ : ∃ n, fuel = n + 1 := ⟨fuel - 1, by simp at hfuel; omega⟩
      rw [listFrom, hempty, hchars, hnext]
      simp only [stringPair_chars]
      rw [ih (by simp) fuel (by simpa using hfuel) rfl, List.reverse_cons, List.append_assoc,
        List.singleton_append]

theorem length_lt_itemChars (pairs : List (String × String)) :
    pairs.length < (bytes (Value.itemChars (pairValues pairs)) ++ rest).length := by
  induction pairs with
  | nil => exact Nat.succ_pos _
  | cons pair pairs ih =>
      have hchars : Value.itemChars (pairValues (pair :: pairs)) =
          ',' :: ((Value.strings [pair.1, pair.2]).chars ++
            Value.itemChars (pairValues pairs)) := rfl
      rw [hchars, bytes_cons, bytes_append]
      simp only [List.length_append, List.length_cons] at ih ⊢
      have hcomma : (String.utf8EncodeChar ',').length = 1 := rfl
      omega

/-- **A printed list of pairs of strings is read as the list.** -/
theorem parseStringPairs_compact (pairs : List (String × String)) :
    parseStringPairs (stringPairs pairs).compact.toUTF8.toList = .ok pairs := by
  have hread : list stringPair (bytes (stringPairs pairs).chars) = .ok (pairs, []) := by
    cases pairs with
    | nil => rfl
    | cons pair pairs =>
        obtain ⟨a, b⟩ := pair
        have hchars : bytes (stringPairs ((a, b) :: pairs)).chars =
            0x5B :: (bytes (Value.strings [a, b]).chars ++
              (bytes (Value.itemChars (pairValues pairs)) ++ [])) := by
          rw [List.append_nil, ← bytes_append]
          rfl
        have hopen (tail : List UInt8) : skipSpace (0x5B :: tail) = 0x5B :: tail :=
          skipSpace_cons rfl
        have hnext (tail : List UInt8) :
            nextItem true (bytes (Value.strings [a, b]).chars ++ tail) =
              .ok (true, bytes (Value.strings [a, b]).chars ++ tail) := by
          rw [bytes_pair]
          exact nextItem_first isBlank_nil rfl (by decide)
        rw [hchars, list, hopen]
        simp only [listFrom, List.isEmpty_nil, hnext, stringPair_chars]
        rw [listFrom_items _ (by simp)]
        · rfl
        · rw [List.length_append]
          exact Nat.lt_add_left _ (length_lt_itemChars pairs)
  rw [Utf8.toList_toUTF8, Value.compact, String.toList_ofList, parseStringPairs, hread]
  rfl

end

end OfflineAgent.Json
