import OfflineAgent.Proofs.Json.Scanning

/-!
# Written JSON

The reader takes a text that is written by the grammar for the value it is written for, whatever
follows the text, as long as no more containers are open at once than the reader admits.
-/

namespace OfflineAgent.Json

section

variable {text rest tail s blank : List UInt8} {fuel depth : Nat} {value : Value}

/-! ### Numbers -/

/-- What follows a number, if anything does, does not go on with it. -/
def EndsNumber (rest : List UInt8) : Prop :=
  ∀ b more, rest = b :: more → isDigit b = false ∧ b ≠ 0x2E ∧ isExponentMark b = false

namespace WrittenNat

variable {n : Nat}

theorem toNat_digit {d : Nat} (hd : d < 10) : (UInt8.ofNat (0x30 + d)).toNat = 0x30 + d :=
  UInt8.toNat_ofNat_of_lt' (show 0x30 + d < 256 by omega)

theorem isDigit_digit {d : Nat} (hd : d < 10) : isDigit (.ofNat (0x30 + d)) = true := by
  interval_cases d <;> rfl

theorem ne_nil (written : WrittenNat n s) : s ≠ [] := by
  cases written <;> simp

theorem isDigit (written : WrittenNat n s) : ∀ b ∈ s, Json.isDigit b = true := by
  induction written with
  | digit hd => simpa using isDigit_digit hd
  | more hfront hn hd ih =>
      intro b hmem
      obtain hmem | hlast := List.mem_append.mp hmem
      · exact ih b hmem
      · exact List.mem_singleton.mp hlast ▸ isDigit_digit hd

theorem digitsValue (written : WrittenNat n s) : digitsValue s = n := by
  induction written with
  | digit hd =>
      unfold Json.digitsValue
      rw [List.foldl_cons, List.foldl_nil, toNat_digit hd]
      omega
  | more hfront hn hd ih =>
      unfold Json.digitsValue at ih ⊢
      rw [List.foldl_append, ih, List.foldl_cons, List.foldl_nil, toNat_digit hd]
      omega

theorem head?_ne (written : WrittenNat n s) (hn : 0 < n) : s.head? ≠ some 0x30 := by
  induction written with
  | @digit d hd => interval_cases d <;> simp
  | more hfront hpos hd ih =>
      obtain ⟨b, front, rfl⟩ := List.exists_cons_of_ne_nil hfront.ne_nil
      exact ih hpos

/-- There is no zero in front of another digit. -/
theorem no_leading_zero (written : WrittenNat n s) : ¬(s.head? = some 0x30 ∧ 1 < s.length) := by
  rintro ⟨hzero, hlength⟩
  cases written with
  | digit hd => simp at hlength
  | more hfront hn hd => exact (more hfront hn hd).head?_ne (by omega) hzero

theorem number (written : WrittenNat n s) (hends : EndsNumber rest) (negative : Bool) :
    number negative (s ++ rest) = integer negative n rest := by
  have hstop : rest.takeWhile Json.isDigit = [] ∧ rest.dropWhile Json.isDigit = rest := by
    cases rest with
    | nil => exact ⟨rfl, rfl⟩
    | cons b more => simp [(hends b more rfl).1]
  have hspan : (s ++ rest).span Json.isDigit = (s, rest) := by
    rw [List.span_eq_takeWhile_dropWhile, List.takeWhile_append_of_pos written.isDigit,
      List.dropWhile_append_of_pos written.isDigit, hstop.1, hstop.2, List.append_nil]
  have hvalue := written.digitsValue
  have hzero := written.no_leading_zero
  obtain ⟨first, more, rfl⟩ := List.exists_cons_of_ne_nil written.ne_nil
  rw [Json.number, hspan]
  dsimp only
  rw [if_neg hzero, hvalue]
  cases rest with
  | nil => rfl
  | cons b after =>
      obtain ⟨-, hpoint, hmark⟩ := hends b after rfl
      split
      · rename_i heq
        exact absurd (List.cons.inj heq).1 hpoint
      · rename_i heq
        obtain ⟨rfl, rfl⟩ := List.cons.inj heq
        rw [hmark]
        rfl
      · rename_i heq
        cases heq

end WrittenNat

/-! ### Values -/

/-- The reader takes the text for the value, with two steps for each byte and whatever follows, if
it does not go on with a number. -/
structure ReadsAs (depth : Nat) (value : Value) (text : List UInt8) : Prop where
  starts : ∃ b tail, text = b :: tail ∧ isSpace b = false ∧ b ≠ 0x5D
  reads : ∀ {fuel : Nat} {rest : List UInt8}, ((∃ n, value = .number n) → EndsNumber rest) →
    2 * text.length ≤ fuel → valueFrom fuel depth (text ++ rest) = .ok (value, rest)

theorem valueFrom_blank (hblank : IsBlank blank) :
    valueFrom (fuel + 1) depth (blank ++ s) = valueFrom (fuel + 1) depth s := by
  rw [valueFrom, valueFrom, skipSpace_blank hblank]

/-- A value without parts is read in one step. -/
theorem readsAs_leaf {b : UInt8} {more : List UInt8} (hspace : isSpace b = false)
    (hclose : b ≠ 0x5D)
    (hreads : ∀ fuel rest, ((∃ n, value = .number n) → EndsNumber rest) →
      valueFrom (fuel + 1) depth (b :: (more ++ rest)) = .ok (value, rest)) :
    ReadsAs depth value (b :: more) := by
  refine ⟨⟨b, more, rfl, hspace, hclose⟩, fun {fuel rest} hends hfuel => ?_⟩
  rw [List.length_cons] at hfuel
  obtain ⟨fuel, rfl⟩ : ∃ n, fuel = n + 1 := Nat.exists_eq_add_of_le' (by omega)
  exact hreads fuel rest hends

theorem ne_of_isDigit {b other : UInt8} (hdigit : isDigit b = true)
    (hother : isDigit other = false) : b ≠ other := by
  rintro rfl
  rw [hdigit] at hother
  cases hother

theorem isSpace_of_isDigit {b : UInt8} (hdigit : isDigit b = true) : isSpace b = false := by
  have hne (other : UInt8) : isDigit other = false → b ≠ other := ne_of_isDigit hdigit
  simp [isSpace, hne 0x20 rfl, hne 0x0A rfl, hne 0x09 rfl, hne 0x0D rfl]

theorem valueFrom_digit {b : UInt8} (hdigit : isDigit b = true) :
    valueFrom (fuel + 1) depth (b :: rest) = (do
      let (n, rest) ← number false (b :: rest)
      return (.number n, rest)) := by
  have hother {other : UInt8} : isDigit other = false → b ≠ other := ne_of_isDigit hdigit
  rw [valueFrom, skipSpace_cons (isSpace_of_isDigit hdigit)]
  dsimp only
  rw [if_neg (hother rfl), if_neg (hother rfl), if_neg (hother rfl), if_neg (hother rfl),
    if_pos hdigit]

theorem valueFrom_minus :
    valueFrom (fuel + 1) depth (0x2D :: rest) = (do
      let (n, rest) ← number true rest
      return (.number n, rest)) := by
  rw [valueFrom, skipSpace_cons rfl]
  rfl

theorem WrittenNumber.readsAs {number : Number} (written : WrittenNumber number s) :
    ReadsAs depth (.number number) s := by
  cases written with
  | @natural n s hn hdigits =>
      obtain ⟨b, more, rfl⟩ := List.exists_cons_of_ne_nil hdigits.ne_nil
      have hdigit := hdigits.isDigit b List.mem_cons_self
      refine readsAs_leaf (isSpace_of_isDigit hdigit) (ne_of_isDigit hdigit rfl)
        fun fuel rest hends => ?_
      have hnumber := hdigits.number (hends ⟨_, rfl⟩) false
      rw [List.cons_append] at hnumber
      have hsize : n < UInt64.size := hn
      rw [valueFrom_digit hdigit, hnumber, integer, if_neg Bool.false_ne_true, if_pos hsize]
      rfl
  | @negative n s hpos hn hdigits =>
      refine readsAs_leaf rfl (by decide) fun fuel rest hends => ?_
      have hsmallest : Int64.minValue.toInt = -2 ^ 63 := by decide
      rw [valueFrom_minus, hdigits.number (hends ⟨_, rfl⟩), integer, if_pos rfl,
        if_neg (by rw [hsmallest]; omega)]
      rfl
  | negativeZero =>
      refine readsAs_leaf rfl (by decide) fun fuel rest hends => ?_
      have hzero : WrittenNat 0 [0x30] := .digit (by decide)
      rw [valueFrom_minus, hzero.number (hends ⟨_, rfl⟩)]
      rfl

theorem readsAs_string {string : String} (written : WrittenString string s) :
    ReadsAs depth (.string string) s := by
  cases written with
  | quoted hinner =>
      refine readsAs_leaf rfl (by decide) fun fuel rest _ => ?_
      rw [valueFrom, skipSpace_cons rfl, List.append_assoc, List.singleton_append]
      simp only [hinner.stringFrom_quoted]
      rfl

/-! ### Arrays -/

section

variable {piece : Piece} {pieces : List Piece} {read : List Value}

theorem endsNumber_blank {b : UInt8} (hblank : IsBlank blank)
    (hb : isDigit b = false ∧ b ≠ 0x2E ∧ isExponentMark b = false) :
    EndsNumber (blank ++ b :: rest) := by
  intro first more hfirst
  cases blank with
  | nil =>
      obtain ⟨rfl, -⟩ := List.cons.inj hfirst
      exact hb
  | cons c blank =>
      obtain ⟨rfl, -⟩ := List.cons.inj hfirst
      obtain rfl | rfl | rfl | rfl := hblank c List.mem_cons_self <;> decide

theorem ReadsAs.nextItem_first (reads : ReadsAs depth value text) (hblank : IsBlank blank) :
    nextItem true (blank ++ (text ++ tail)) = .ok (true, text ++ tail) := by
  obtain ⟨b, more, rfl, hspace, hclose⟩ := reads.starts
  exact Json.nextItem_first hblank hspace hclose

theorem ReadsAs.nextItem_next {after : List UInt8} (reads : ReadsAs depth value text)
    (hafter : IsBlank after) (hblank : IsBlank blank) :
    nextItem false (after ++ 0x2C :: (blank ++ (text ++ tail))) = .ok (true, text ++ tail) := by
  obtain ⟨b, more, rfl, hspace, hclose⟩ := reads.starts
  exact Json.nextItem_next hafter hblank hspace hclose

theorem valueFrom_array :
    valueFrom (fuel + 1) (depth + 1) (0x5B :: s) = itemsFrom fuel depth [] s := by
  rw [valueFrom, skipSpace_cons rfl]
  rfl

/-- What comes before the closing bracket is no part of a number. -/
theorem Piece.endsNumber_following (hblank : IsBlank blank) (pieces : List Piece) :
    EndsNumber (blank ++ (Piece.following pieces ++ rest)) := by
  cases pieces with
  | nil => exact endsNumber_blank hblank (by decide)
  | cons piece pieces => exact endsNumber_blank hblank (by decide)

/-- The items after the first, each of which the reader takes for its value. -/
theorem itemsFrom_following (hblanks : ∀ piece ∈ pieces, piece.HasBlanks)
    (hpieces : ∀ piece ∈ pieces, ReadsAs depth piece.value piece.text) (hread : read ≠ [])
    (hblank : IsBlank blank) (hfuel : 2 * (Piece.following pieces).length ≤ fuel) :
    itemsFrom fuel depth read (blank ++ (Piece.following pieces ++ rest)) =
      .ok (.array (read.reverse ++ pieces.map (·.value)), rest) := by
  have hempty : read.isEmpty = false := by simpa using hread
  induction pieces generalizing read fuel blank with
  | nil =>
      obtain ⟨fuel, rfl⟩ : ∃ n, fuel = n + 1 := Nat.exists_eq_add_of_le' (by
        simp [Piece.following] at hfuel
        omega)
      have hclose : closeList (0x5D :: rest) = .ok rest := rfl
      rw [Piece.following, List.singleton_append, itemsFrom, nextItem_close hblank]
      simp [hclose]
  | cons piece pieces ih =>
      obtain ⟨⟨hbefore, hafter⟩, hblanks⟩ := List.forall_mem_cons.mp hblanks
      obtain ⟨hpiece, hpieces⟩ := List.forall_mem_cons.mp hpieces
      simp only [Piece.following, Piece.bytes, List.length_cons, List.length_append] at hfuel
      obtain ⟨fuel, rfl⟩ : ∃ n, fuel = n + 1 := Nat.exists_eq_add_of_le' (by omega)
      simp only [Piece.following, Piece.bytes, List.cons_append, List.append_assoc, itemsFrom,
        hempty]
      rw [hpiece.nextItem_next hblank hbefore]
      dsimp only
      rw [hpiece.reads (fun _ => Piece.endsNumber_following hafter pieces) (by omega)]
      dsimp only
      rw [ih hblanks hpieces (List.cons_ne_nil _ _) hafter (by omega) rfl, List.reverse_cons,
        List.append_assoc, List.singleton_append, List.map_cons]

theorem readsAs_emptyArray (hblank : IsBlank blank) :
    ReadsAs (depth + 1) (.array []) (0x5B :: (blank ++ [0x5D])) := by
  refine ⟨⟨0x5B, _, rfl, rfl, by decide⟩, fun {fuel rest} _ hfuel => ?_⟩
  simp only [List.length_cons, List.length_append] at hfuel
  obtain ⟨fuel, rfl⟩ : ∃ n, fuel = n + 2 := Nat.exists_eq_add_of_le' (by omega)
  rw [List.cons_append, List.append_assoc, List.singleton_append, valueFrom_array, itemsFrom,
    nextItem_close hblank]
  rfl

theorem readsAs_array {first : Piece} (hblanks : ∀ piece ∈ first :: pieces, piece.HasBlanks)
    (hpieces : ∀ piece ∈ first :: pieces, ReadsAs depth piece.value piece.text) :
    ReadsAs (depth + 1) (.array ((first :: pieces).map (·.value)))
      (0x5B :: (first.bytes ++ Piece.following pieces)) := by
  obtain ⟨⟨hbefore, hafter⟩, hblanks⟩ := List.forall_mem_cons.mp hblanks
  obtain ⟨hfirst, hpieces⟩ := List.forall_mem_cons.mp hpieces
  refine ⟨⟨0x5B, _, rfl, rfl, by decide⟩, fun {fuel rest} _ hfuel => ?_⟩
  simp only [Piece.bytes, List.length_cons, List.length_append] at hfuel
  -- One step is for the array, and one for each item.
  obtain ⟨fuel, rfl⟩ : ∃ n, fuel = n + 2 := Nat.exists_eq_add_of_le' (by omega)
  simp only [Piece.bytes, List.cons_append, List.append_assoc, valueFrom_array, itemsFrom,
    List.isEmpty_nil]
  rw [hfirst.nextItem_first hbefore]
  dsimp only
  rw [hfirst.reads (fun _ => Piece.endsNumber_following hafter pieces) (by omega)]
  dsimp only
  rw [itemsFrom_following hblanks hpieces (List.cons_ne_nil _ _) hafter (by omega)]
  rfl

end

/-! ### Objects -/

section

variable {member : Member} {members : List Member} {read : List (String × Value)}

theorem Member.endsNumber_following (hblank : IsBlank blank) (members : List Member) :
    EndsNumber (blank ++ (Member.following members ++ rest)) := by
  cases members with
  | nil => exact endsNumber_blank hblank (by decide)
  | cons member members => exact endsNumber_blank hblank (by decide)

theorem valueFrom_object :
    valueFrom (fuel + 1) (depth + 1) (0x7B :: s) = membersFrom fuel depth [] s := by
  rw [valueFrom, skipSpace_cons rfl]
  rfl

/-- A member whose name comes next, up to what follows its value. -/
theorem membersFrom_member (hblanks : member.HasBlanks)
    (hname : WrittenString member.name member.text)
    (hpiece : ReadsAs depth member.piece.value member.piece.text)
    (hends : EndsNumber (member.piece.after ++ rest)) (hfuel : 2 * member.bytes.length ≤ fuel)
    (hnext : nextMember read.isEmpty s = .ok (true, member.text ++ (member.after ++ 0x3A ::
      (member.piece.before ++ (member.piece.text ++ (member.piece.after ++ rest)))))) :
    membersFrom (fuel + 1) depth read s =
      membersFrom fuel depth (member.pair :: read) (member.piece.after ++ rest) := by
  obtain ⟨-, hafter, hbefore, -⟩ := hblanks
  simp only [Member.bytes, Piece.bytes, List.length_cons, List.length_append] at hfuel
  have hreads : valueFrom fuel depth (member.piece.text ++ (member.piece.after ++ rest)) =
      .ok (member.piece.value, member.piece.after ++ rest) :=
    hpiece.reads (fun _ => hends) (by omega)
  -- A value may stand behind blanks once there is a step to read it with.
  obtain ⟨fuel, rfl⟩ : ∃ n, fuel = n + 1 := Nat.exists_eq_add_of_le' (by omega)
  rw [membersFrom, hnext]
  simp only [hname.stringFrom, colon_blank hafter, valueFrom_blank hbefore, hreads, Member.pair]

/-- The members after the first, each of which the reader takes for its name and value. -/
theorem membersFrom_following (hblanks : ∀ member ∈ members, member.HasBlanks)
    (hnames : ∀ member ∈ members, WrittenString member.name member.text)
    (hpieces : ∀ member ∈ members, ReadsAs depth member.piece.value member.piece.text)
    (hread : read ≠ []) (hblank : IsBlank blank)
    (hfuel : 2 * (Member.following members).length ≤ fuel) :
    membersFrom fuel depth read (blank ++ (Member.following members ++ rest)) =
      .ok (.object (read.reverse ++ members.map (·.pair)), rest) := by
  have hempty : read.isEmpty = false := by simpa using hread
  induction members generalizing read fuel blank with
  | nil =>
      obtain ⟨fuel, rfl⟩ : ∃ n, fuel = n + 1 := Nat.exists_eq_add_of_le' (by
        simp [Member.following] at hfuel
        omega)
      have hclose : closeObject (0x7D :: rest) = .ok rest := rfl
      rw [Member.following, List.singleton_append, membersFrom, nextMember_close hblank]
      simp [hclose]
  | cons member members ih =>
      obtain ⟨hmember, hblanks⟩ := List.forall_mem_cons.mp hblanks
      obtain ⟨hname, hnames⟩ := List.forall_mem_cons.mp hnames
      obtain ⟨hpiece, hpieces⟩ := List.forall_mem_cons.mp hpieces
      simp only [Member.following, List.length_cons, List.length_append] at hfuel
      obtain ⟨fuel, rfl⟩ : ∃ n, fuel = n + 1 := Nat.exists_eq_add_of_le' (by omega)
      simp only [Member.following, Member.bytes, Piece.bytes, List.cons_append, List.append_assoc]
      rw [membersFrom_member hmember hname hpiece
        (Member.endsNumber_following hmember.2.2.2 members) (by omega)
        (by rw [hempty]; exact hname.nextMember_next hblank hmember.1),
        ih hblanks hnames hpieces (List.cons_ne_nil _ _) hmember.2.2.2 (by omega) rfl,
        List.reverse_cons, List.append_assoc, List.singleton_append, List.map_cons]

theorem readsAs_emptyObject (hblank : IsBlank blank) :
    ReadsAs (depth + 1) (.object []) (0x7B :: (blank ++ [0x7D])) := by
  refine ⟨⟨0x7B, _, rfl, rfl, by decide⟩, fun {fuel rest} _ hfuel => ?_⟩
  simp only [List.length_cons, List.length_append] at hfuel
  obtain ⟨fuel, rfl⟩ : ∃ n, fuel = n + 2 := Nat.exists_eq_add_of_le' (by omega)
  rw [List.cons_append, List.append_assoc, List.singleton_append, valueFrom_object, membersFrom,
    nextMember_close hblank]
  rfl

theorem readsAs_object {first : Member}
    (hblanks : ∀ member ∈ first :: members, member.HasBlanks)
    (hnames : ∀ member ∈ first :: members, WrittenString member.name member.text)
    (hpieces : ∀ member ∈ first :: members,
      ReadsAs depth member.piece.value member.piece.text) :
    ReadsAs (depth + 1) (.object ((first :: members).map (·.pair)))
      (0x7B :: (first.bytes ++ Member.following members)) := by
  obtain ⟨hfirst, hblanks⟩ := List.forall_mem_cons.mp hblanks
  obtain ⟨hname, hnames⟩ := List.forall_mem_cons.mp hnames
  obtain ⟨hpiece, hpieces⟩ := List.forall_mem_cons.mp hpieces
  refine ⟨⟨0x7B, _, rfl, rfl, by decide⟩, fun {fuel rest} _ hfuel => ?_⟩
  simp only [List.length_cons, List.length_append] at hfuel
  -- One step is for the object, and one for each member.
  obtain ⟨fuel, rfl⟩ : ∃ n, fuel = n + 2 := Nat.exists_eq_add_of_le' (by omega)
  simp only [Member.bytes, Piece.bytes, List.cons_append, List.append_assoc]
  rw [valueFrom_object, membersFrom_member hfirst hname hpiece
    (Member.endsNumber_following hfirst.2.2.2 members) (by omega)
    (by exact hname.nextMember_first hfirst.1),
    membersFrom_following hblanks hnames hpieces (List.cons_ne_nil _ _) hfirst.2.2.2 (by omega)]
  rfl

end

/-! ### Whole texts -/

/-- By induction on the containers of the value. -/
theorem Written.readsAs (written : Written depth value text) : ReadsAs depth value text := by
  induction written with
  | null => exact readsAs_leaf rfl (by decide) fun _ _ _ => rfl
  | true => exact readsAs_leaf rfl (by decide) fun _ _ _ => rfl
  | false => exact readsAs_leaf rfl (by decide) fun _ _ _ => rfl
  | number hnumber => exact hnumber.readsAs
  | string hstring => exact readsAs_string hstring
  | emptyArray hblank => exact readsAs_emptyArray hblank
  | array hblanks _ ih => exact readsAs_array hblanks ih
  | emptyObject hblank => exact readsAs_emptyObject hblank
  | object hblanks hnames _ ih => exact readsAs_object hblanks hnames ih

/-- **A written value is read as the value**, whatever the white space before and after it. -/
theorem Written.parse {before after : List UInt8} (written : Written maxDepth value text)
    (hbefore : IsBlank before) (hafter : IsBlank after) :
    Value.parse (before ++ (text ++ after)) = .ok value := by
  have hends : EndsNumber after := by
    rintro b more rfl
    obtain rfl | rfl | rfl | rfl := hafter b List.mem_cons_self <;> decide
  have hfinish : finish after = .ok () := by
    rw [finish, ← List.append_nil after, skipSpace_blank hafter]
    rfl
  rw [Value.parse, Json.value, valueFrom_blank hbefore,
    written.readsAs.reads (fun _ => hends) (by simp only [List.length_append]; omega)]
  change (do finish after; return value) = _
  rw [hfinish]
  rfl

end

end OfflineAgent.Json
