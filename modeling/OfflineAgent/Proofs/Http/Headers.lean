import OfflineAgent.Http.Token
import OfflineAgent.Proofs.Text.Utf8

/-!
# The values of a header

A message may hold many values of one name, and the letter case of a name does not count. What is
passed on from one message to the next keeps the values of each name in their order, but for the
names of one hop and for values that cannot be written.
-/

namespace OfflineAgent.Http

variable {α β : Type} {name first second : String}

/-! ### Names in lower case -/

@[simp]
theorem toLower_toLower (name : String) : name.toLower.toLower = name.toLower := by
  apply String.toList_injective
  simp [String.toLower]

theorem isTokenChar_toLower (c : Char) : isTokenChar c.toLower = isTokenChar c := by
  by_cases hupper : c.isUpper
  · have hletters : ∀ n : Fin 26,
        isTokenChar (Char.ofNat (n + 65)).toLower = isTokenChar (Char.ofNat (n + 65)) := by decide
    obtain ⟨hfrom, hto⟩ : 65 ≤ c.toNat ∧ c.toNat ≤ 90 := by
      simpa [Char.isUpper, UInt32.le_iff_toNat_le] using hupper
    have hletter := hletters ⟨c.toNat - 65, by omega⟩
    rwa [Nat.sub_add_cancel hfrom, Char.ofNat_toNat] at hletter
  · rw [Char.toLower_eq_of_not_isUpper hupper]

theorem isHeaderName_toLower (name : String) : isHeaderName name.toLower = isHeaderName name := by
  have hempty : name.toLower.isEmpty = name.isEmpty := by
    rw [Bool.eq_iff_iff]
    simp [String.toLower]
  have hchars : name.toLower.toList.all isTokenChar = name.toList.all isTokenChar := by
    simp [String.toLower, Function.comp_def, isTokenChar_toLower]
  rw [isHeaderName, isToken, hempty, hchars, isHeaderName, isToken]
  simp [String.toLower]

theorem isHeaderName_congr (hsame : first.toLower = second.toLower) :
    isHeaderName first = isHeaderName second := by
  rw [← isHeaderName_toLower first, hsame, isHeaderName_toLower]

theorem isHopByHop_congr (hsame : first.toLower = second.toLower) :
    isHopByHop first = isHopByHop second := by
  rw [isHopByHop, hsame, isHopByHop]

/-! ### Values -/

/-- The values of a name in any letter case, in their order. -/
def valuesOf (headers : List (String × α)) (name : String) : List α :=
  headers.filterMap fun header => if header.1.toLower = name.toLower then some header.2 else none

@[simp]
theorem valuesOf_singleton (value : α) : valuesOf [(name, value)] name = [value] := by
  simp [valuesOf]

theorem valuesOf_eq_nil {headers : List (String × α)}
    (hother : ∀ header ∈ headers, header.1.toLower ≠ name.toLower) : valuesOf headers name = [] :=
  List.filterMap_eq_nil_iff.mpr fun header hmem => if_neg (hother header hmem)

@[simp]
theorem valuesOf_append (front back : List (String × α)) :
    valuesOf (front ++ back) name = valuesOf front name ++ valuesOf back name :=
  List.filterMap_append

/-! ### Passing headers on -/

/-- The headers of the names that are kept, with the values that can be read. -/
def passOn (keep : String → Bool) (rename : String → String) (read : α → Option β)
    (headers : List (String × α)) : List (String × β) :=
  headers.filterMap fun header =>
    if keep header.1 then (read header.2).map fun value => (rename header.1, value) else none

/-- What is passed on by name and by value keeps the values of each name in their order. -/
theorem valuesOf_passOn {keep : String → Bool} {rename : String → String}
    (hkeep : ∀ first second, first.toLower = second.toLower → keep first = keep second)
    (hrename : ∀ name, (rename name).toLower = name.toLower) (read : α → Option β)
    (headers : List (String × α)) :
    valuesOf (passOn keep rename read headers) name =
      if keep name then (valuesOf headers name).filterMap read else [] := by
  rw [valuesOf, valuesOf, passOn, List.filterMap_filterMap]
  split
  · rename_i hname
    rw [List.filterMap_filterMap]
    apply List.filterMap_congr
    intro header _
    by_cases hsame : header.1.toLower = name.toLower
    · rw [hkeep _ _ hsame, if_pos hname, if_pos hsame]
      cases hread : read header.2 <;> simp [hrename, hsame, hread]
    · cases keep header.1 <;> cases read header.2 <;> simp [hrename, hsame]
  · rename_i hname
    apply List.filterMap_eq_nil_iff.mpr
    intro header _
    by_cases hsame : header.1.toLower = name.toLower
    · rw [hkeep _ _ hsame, if_neg hname, Option.bind_none]
    · cases keep header.1 <;> cases read header.2 <;> simp [hrename, hsame]

theorem received_eq (headers : RawHeaders) :
    received headers = passOn (!isHopByHop ·) id valueText? headers := by
  apply List.filterMap_congr
  rintro ⟨name, value⟩ _
  cases hhop : isHopByHop name <;> simp [hhop]

theorem forwarded_eq (headers : Headers) :
    forwarded headers = passOn (fun name => !isHopByHop name && isHeaderName name) String.toLower
      (Option.guard (isHeaderValue ·)) headers := by
  rw [forwarded, ← List.filterMap_eq_map, List.filterMap_filter]
  apply List.filterMap_congr
  rintro ⟨name, value⟩ _
  cases hkept : !isHopByHop name && isHeaderName name
  · simp [hkept]
  · cases hvalue : isHeaderValue value <;> simp [hkept, hvalue, Option.guard]

/-- A value of printing ASCII, blanks and tabs is text on the wire. -/
def isText (value : List UInt8) : Bool :=
  (valueText? value).isSome

theorem toList_of_valueText {value : List UInt8} {text : String}
    (htext : valueText? value = some text) : text.toUTF8.toList = value := by
  obtain ⟨hbytes, htext⟩ := Option.ite_none_right_eq_some.mp htext
  obtain rfl := Option.some.inj htext
  have hself : ∀ b ∈ value, String.utf8EncodeChar (Char.ofNat b.toNat) = [b] := by
    intro b hmem
    have hb := List.all_eq_true.mp hbytes b hmem
    simp only [Bool.or_eq_true, Bool.and_eq_true, decide_eq_true_eq] at hb
    obtain hprinting | rfl := hb
    · exact Utf8.encode_ascii (Nat.lt_trans (UInt8.lt_iff_toNat_lt.mp hprinting.2) (by decide))
    · exact Utf8.encode_ascii (by decide)
  calc (String.ofList (value.map fun b => Char.ofNat b.toNat)).toUTF8.toList
      = value.flatMap fun b => String.utf8EncodeChar (Char.ofNat b.toNat) := by
        rw [Utf8.toList_toUTF8, String.toList_ofList, Utf8.bytes, List.flatMap_map]
    _ = value.flatMap fun b => [b] := List.flatMap_congr hself
    _ = value := List.flatMap_singleton' value

/-- Text is read from a value and written again as the bytes it was. -/
theorem map_valueText (values : List (List UInt8)) :
    (values.filterMap valueText?).map (fun text => text.toUTF8.toList) = values.filter isText := by
  rw [List.map_filterMap, ← List.filterMap_eq_filter]
  apply List.filterMap_congr
  intro value _
  rw [Option.guard]
  split
  · rename_i hsome
    obtain ⟨text, htext⟩ := Option.isSome_iff_exists.mp hsome
    rw [htext, Option.map_some, toList_of_valueText htext]
  · rename_i hnone
    rw [Option.not_isSome_iff_eq_none.mp hnone, Option.map_none]

/-- Of the values that are received, those that are text are passed on, byte by byte. -/
theorem valuesOf_received (headers : RawHeaders) :
    (valuesOf (received headers) name).map (fun text => text.toUTF8.toList) =
      if isHopByHop name then [] else (valuesOf headers name).filter isText := by
  have hkeep : ∀ first second : String, first.toLower = second.toLower →
      (!isHopByHop first) = !isHopByHop second := by
    intro first second hsame
    rw [isHopByHop_congr hsame]
  have hrename : ∀ name : String, (id name).toLower = name.toLower := fun _ => rfl
  rw [received_eq, valuesOf_passOn hkeep hrename]
  cases isHopByHop name
  · exact map_valueText _
  · rfl

theorem toLower_of_mem_forwarded {headers : Headers} {header : String × String}
    (hmem : header ∈ forwarded headers) : header.1.toLower = header.1 := by
  obtain ⟨read, -, rfl⟩ := List.mem_map.mp hmem
  exact toLower_toLower read.1

/-- Of the values of a response, those that can be written are passed on. -/
theorem valuesOf_forwarded (headers : Headers) :
    valuesOf (forwarded headers) name =
      if !isHopByHop name && isHeaderName name then (valuesOf headers name).filter isHeaderValue
      else [] := by
  have hkeep : ∀ first second : String, first.toLower = second.toLower →
      (!isHopByHop first && isHeaderName first) = (!isHopByHop second && isHeaderName second) := by
    intro first second hsame
    rw [isHopByHop_congr hsame, isHeaderName_congr hsame]
  rw [forwarded_eq, valuesOf_passOn hkeep toLower_toLower, ← List.filterMap_eq_filter]

end OfflineAgent.Http
