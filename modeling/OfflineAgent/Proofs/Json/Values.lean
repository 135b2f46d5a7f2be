import OfflineAgent.Proofs.Json.RoundTrip
import OfflineAgent.Proofs.Json.Written

/-!
# Reading back printed values

A value without numbers is read as it was printed, as long as no more containers are open at once
than the reader takes.
-/

namespace OfflineAgent.Json

open Utf8 (bytes bytes_cons bytes_append)

/-- The value holds no number, and at most so many containers are open in it at once. -/
inductive Value.Fits : Nat → Value → Prop
  | null {depth : Nat} : Fits depth .null
  | bool {depth : Nat} (b : Bool) : Fits depth (.bool b)
  | string {depth : Nat} (text : String) : Fits depth (.string text)
  | array {depth : Nat} {items : List Value} (hitems : ∀ item ∈ items, Fits depth item) :
      Fits (depth + 1) (.array items)
  | object {depth : Nat} {members : List (String × Value)}
      (hmembers : ∀ member ∈ members, Fits depth member.2) : Fits (depth + 1) (.object members)

/-- Whatever follows, the value is read from what is printed of it, with two steps for each byte. -/
structure Value.ReadsBack (depth : Nat) (value : Value) : Prop where
  starts : ∃ b tail, bytes value.chars = b :: tail ∧ isSpace b = false ∧ b ≠ 0x5D
  reads : ∀ {fuel : Nat} (rest : List UInt8), 2 * (bytes value.chars).length ≤ fuel →
    valueFrom fuel depth (bytes value.chars ++ rest) = .ok (value, rest)

section

variable {depth : Nat} {value : Value}

/-! ### Printed values are written values -/

/-- A value as it is printed, with nothing around it. -/
def Piece.printed (value : Value) : Piece :=
  ⟨[], value, Utf8.bytes value.chars, []⟩

def Member.printed (member : String × Value) : Member :=
  ⟨[], member.1, Utf8.bytes (quote member.1), [], .printed member.2⟩

theorem Piece.bytes_printed (value : Value) :
    (Piece.printed value).bytes = Utf8.bytes value.chars :=
  List.append_nil _

theorem Piece.following_printed (items : List Value) :
    Piece.following (items.map .printed) = Utf8.bytes (Value.itemChars items) := by
  induction items with
  | nil => rfl
  | cons item items ih =>
      rw [List.map_cons, Piece.following, ih, Piece.bytes_printed, ← bytes_append]
      rfl

theorem Member.bytes_printed (member : String × Value) : (Member.printed member).bytes =
    Utf8.bytes (quote member.1 ++ ':' :: member.2.chars) := by
  rw [bytes_append, bytes_cons, Member.bytes, Member.printed, Piece.bytes_printed]
  rfl

theorem Member.following_printed (members : List (String × Value)) :
    Member.following (members.map .printed) = Utf8.bytes (Value.memberChars members) := by
  induction members with
  | nil => rfl
  | cons member members ih =>
      rw [List.map_cons, Member.following, ih, Member.bytes_printed, ← bytes_append]
      rfl

theorem written_array {items : List Value}
    (hitems : ∀ item ∈ items, Written depth item (bytes item.chars)) :
    Written (depth + 1) (.array items) (bytes (Value.array items).chars) := by
  cases items with
  | nil => exact .emptyArray isBlank_nil
  | cons item items =>
      have hblanks : ∀ piece ∈ (item :: items).map Piece.printed, piece.HasBlanks :=
        List.forall_mem_map.mpr fun _ _ => ⟨isBlank_nil, isBlank_nil⟩
      have hpieces : ∀ piece ∈ (item :: items).map Piece.printed,
          Written depth piece.value piece.text := List.forall_mem_map.mpr hitems
      have hwritten := Written.array hblanks hpieces
      have hvalues : ((item :: items).map Piece.printed).map (·.value) = item :: items := by
        rw [List.map_map]
        exact List.map_id _
      rw [← List.map_cons, hvalues, Piece.bytes_printed, Piece.following_printed,
        ← bytes_append] at hwritten
      exact hwritten

theorem written_object {members : List (String × Value)}
    (hmembers : ∀ member ∈ members, Written depth member.2 (bytes member.2.chars)) :
    Written (depth + 1) (.object members) (bytes (Value.object members).chars) := by
  cases members with
  | nil => exact .emptyObject isBlank_nil
  | cons member members =>
      have hblanks : ∀ printed ∈ (member :: members).map Member.printed, printed.HasBlanks :=
        List.forall_mem_map.mpr fun _ _ =>
          ⟨isBlank_nil, isBlank_nil, isBlank_nil, isBlank_nil⟩
      have hnames : ∀ printed ∈ (member :: members).map Member.printed,
          WrittenString printed.name printed.text :=
        List.forall_mem_map.mpr fun _ _ => writtenString_quote _
      have hpieces : ∀ printed ∈ (member :: members).map Member.printed,
          Written depth printed.piece.value printed.piece.text := List.forall_mem_map.mpr hmembers
      have hwritten := Written.object hblanks hnames hpieces
      have hpairs : ((member :: members).map Member.printed).map (·.pair) = member :: members := by
        rw [List.map_map]
        exact List.map_id _
      rw [← List.map_cons, hpairs, Member.bytes_printed, Member.following_printed,
        ← bytes_append] at hwritten
      exact hwritten

/-- What is printed of a value is a way to write it, by induction on its containers. -/
theorem Value.Fits.written (fits : value.Fits depth) :
    Written depth value (bytes value.chars) := by
  induction fits with
  | null => exact .null
  | bool b =>
      cases b with
      | true => exact .true
      | false => exact .false
  | string text => exact .string (writtenString_quote text)
  | array hitems ih => exact written_array ih
  | object hmembers ih => exact written_object ih

/-! ### Values -/

theorem Value.Fits.readsBack (fits : value.Fits depth) : value.ReadsBack depth where
  starts := fits.written.readsAs.starts
  reads rest hfuel := fits.written.readsAs.reads (by rintro ⟨n, rfl⟩; cases fits) hfuel

/-- **A printed value is read as the value.** -/
theorem Value.Fits.parse_compact (fits : value.Fits maxDepth) :
    Value.parse value.compact.toUTF8.toList = .ok value := by
  have hread : Json.value (bytes value.chars) = .ok (value, []) := by
    have hreads : Json.value (bytes value.chars ++ []) = .ok (value, []) :=
      fits.readsBack.reads [] (by simp)
    rwa [List.append_nil] at hreads
  rw [Utf8.toList_toUTF8, Value.compact, String.toList_ofList, Value.parse, hread]
  rfl

theorem fits_stringPairs (pairs : List (String × String)) :
    (stringPairs pairs).Fits (depth + 2) := by
  refine .array fun pair hpair => ?_
  obtain ⟨⟨a, b⟩, -, rfl⟩ := List.mem_map.mp hpair
  refine .array fun text htext => ?_
  obtain ⟨s, -, rfl⟩ := List.mem_map.mp htext
  exact .string s

end

end OfflineAgent.Json
