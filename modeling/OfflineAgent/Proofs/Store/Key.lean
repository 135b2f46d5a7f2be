import OfflineAgent.Proofs.Store.Lookup
import OfflineAgent.Proofs.Text.Hex
import OfflineAgent.Proofs.Url.Text

/-!
# Which requests share a key

The line that identifies a key is a method in capital letters, a blank and the text of a URL.
Methods may hold blanks, and so may URLs without host, but no method has a small letter and every
URL starts with one: so a line is parted in one way only. Requests share a key exactly if their
methods differ at most in the case of ASCII letters and their URLs at most in the fragment.
-/

namespace OfflineAgent

/-! ### Lines -/

/-- A line is parted at the blank before the first character of a kind that the front has not. -/
theorem append_blank_inj {isMark : Char → Bool} {front front' back back' : List Char}
    (hfront : ∀ c ∈ front, isMark c = false) (hfront' : ∀ c ∈ front', isMark c = false)
    (hback : ∃ c rest, back = c :: rest ∧ isMark c = true)
    (hback' : ∃ c rest, back' = c :: rest ∧ isMark c = true) (hblank : isMark ' ' = false)
    (hsame : front ++ ' ' :: back = front' ++ ' ' :: back') : front = front' ∧ back = back' := by
  -- If one front were longer, the mark that starts the back of the other would stand in it.
  have hnone {front back back' more : List Char} (hfront : ∀ c ∈ front ++ more, isMark c = false)
      (hback : ∃ c rest, back = c :: rest ∧ isMark c = true)
      (hsame : ' ' :: back = more ++ ' ' :: back') : more = [] := by
    obtain ⟨c, rest, rfl, hc⟩ := hback
    cases more with
    | nil => rfl
    | cons d more =>
        have hafter := (List.cons.inj hsame).2
        cases more with
        | nil =>
            obtain ⟨rfl, -⟩ := List.cons.inj hafter
            rw [hblank] at hc
            cases hc
        | cons e more =>
            obtain ⟨rfl, -⟩ := List.cons.inj hafter
            rw [hfront c (by simp)] at hc
            cases hc
  obtain ⟨more, rfl, hmore⟩ | ⟨more, rfl, hmore⟩ := List.append_eq_append_iff.mp hsame
  · obtain rfl := hnone hfront' hback hmore
    exact ⟨(List.append_nil front).symm, (List.cons.inj hmore).2⟩
  · obtain rfl := hnone hfront hback' hmore
    exact ⟨List.append_nil front', (List.cons.inj hmore).2.symm⟩

theorem isLower_of_mem_toUpper {text : String} : ∀ c ∈ text.toUpper.toList, c.isLower = false := by
  intro c hmem
  rw [String.toUpper, String.toList_map] at hmem
  obtain ⟨letter, -, rfl⟩ := List.mem_map.mp hmem
  exact Char.isLower_toUpper_eq_false letter

/-- Texts that are the same in capital letters are the same in small ones. -/
theorem toUpper_eq_iff {text text' : String} :
    text.toUpper = text'.toUpper ↔ text.toLower = text'.toLower := by
  have hlower (text : String) : text.toLower = text.toUpper.toLower := by
    apply String.toList_inj.mp
    simp [String.toLower, String.toUpper, String.toList_map, Function.comp_def]
  have hupper (text : String) : text.toUpper = text.toLower.toUpper := by
    apply String.toList_inj.mp
    simp [String.toLower, String.toUpper, String.toList_map, Function.comp_def]
  constructor
  · intro hsame
    rw [hlower text, hsame, ← hlower]
  · intro hsame
    rw [hupper text, hsame, ← hupper]

theorem Url.Orderly.startsSmall_text {url : Url} (orderly : url.Orderly) : StartsSmall url.text :=
  ((((orderly.scheme.small.append _).append _).append _).append _).append _

namespace Store.Key

variable {method method' : String} {url url' : Url}

/-- One request has the method of another, up to the case of ASCII letters, and its URL, up to the
fragment. -/
def SameRequest (method : String) (url : Url) (method' : String) (url' : Url) : Prop :=
  method.toLower = method'.toLower ∧ url.withoutFragment = url'.withoutFragment

instance : Decidable (SameRequest method url method' url') :=
  inferInstanceAs (Decidable (_ ∧ _))

/-- The digests of two keys are the same only if what they are taken of is. -/
def NoCollision (key other : Key) : Prop :=
  Sha256.digest key.identity = Sha256.digest other.identity → key.identity = other.identity

theorem new_eq_iff (parsed : url.IsParsed) (parsed' : url'.IsParsed) :
    new method url = new method' url' ↔ SameRequest method url method' url' := by
  rw [new, new, Key.mk.injEq]
  exact and_congr toUpper_eq_iff (parsed.text_inj parsed').2

/-- **A line is parted in one way only.** -/
theorem identity_new_eq_iff (parsed : url.IsParsed) (parsed' : url'.IsParsed) :
    (new method url).identity = (new method' url').identity ↔
      new method url = new method' url' := by
  have hsmall {url : Url} (parsed : url.IsParsed) : StartsSmall url.withoutFragment.text :=
    parsed.orderly.withoutFragment.startsSmall_text
  constructor
  · intro hsame
    have hline := congrArg String.toList (String.toByteArray_inj.mp hsame)
    simp only [String.toList_append, List.append_assoc] at hline
    obtain ⟨hmethod, hurl⟩ := append_blank_inj isLower_of_mem_toUpper isLower_of_mem_toUpper
      (hsmall parsed) (hsmall parsed') (by decide) hline
    rw [new, new, String.toList_inj.mp hmethod, String.toList_inj.mp hurl]
  · intro hsame
    rw [hsame]

theorem hash_new_eq_iff (parsed : url.IsParsed) (parsed' : url'.IsParsed)
    (unique : (new method url).NoCollision (new method' url')) :
    (new method url).hash = (new method' url').hash ↔ SameRequest method url method' url' := by
  rw [← new_eq_iff parsed parsed', ← identity_new_eq_iff parsed parsed']
  constructor
  · intro hsame
    exact unique (Hex.encode_injective hsame)
  · intro hsame
    rw [hash, hash, hsame]

/-! ### Lookups -/

section

variable {tables : Tables} {store : String} {response : Response} {now : Moment}

theorem get_put (parsed : url.IsParsed) (parsed' : url'.IsParsed)
    (unique : (new method url).NoCollision (new method' url')) (hclock : now.IsClock) :
    (tables.put store (new method url) response now).get store (new method' url') =
      if SameRequest method url method' url' then .ok (some ⟨new method' url', response, now⟩)
      else tables.get store (new method' url') := by
  split
  · rename_i hsame
    rw [(new_eq_iff parsed parsed').mpr hsame]
    exact Tables.get_of_find? hclock Tables.find?_put_self
  · rename_i hother
    have hne : ¬(store = store ∧ (new method url).hash = (new method' url').hash) :=
      fun hhash => hother ((hash_new_eq_iff parsed parsed' unique).mp hhash.2)
    simp only [Tables.get, Tables.find?_put_of_ne hne]

theorem matchAny_put (parsed : url.IsParsed) (parsed' : url'.IsParsed)
    (unique : (new method url).NoCollision (new method' url')) (intact : tables.Intact)
    (hclock : now.IsClock) :
    (tables.put store (new method url) response now).matchAny (new method' url') =
      if SameRequest method url method' url' then
        .ok (some ((tables.olderCopy? store (new method' url')).getD
          ⟨new method' url', response, now⟩))
      else tables.matchAny (new method' url') := by
  split
  · rename_i hsame
    rw [(new_eq_iff parsed parsed').mpr hsame]
    exact intact.matchAny_put hclock
  · rename_i hother
    exact intact.matchAny_put_other hclock fun hhash =>
      hother ((hash_new_eq_iff parsed parsed' unique).mp hhash)

end

/-- **The same requests share a key, and no others.** What is put under one request is found by
exactly those that are the same, where the digests of the two are no collision; what others find
does not change. -/
theorem shared_by_same_requests (method method' : String) (parsed : url.IsParsed)
    (parsed' : url'.IsParsed) :
    ((new method url).identity = (new method' url').identity ↔
        new method url = new method' url') ∧
      (new method url = new method' url' ↔ SameRequest method url method' url') ∧
      ((new method url).NoCollision (new method' url') →
        ∀ (tables : Tables) (store : String) (response : Response) (now : Moment), now.IsClock →
          (tables.put store (new method url) response now).get store (new method' url') =
              (if SameRequest method url method' url' then
                .ok (some ⟨new method' url', response, now⟩)
              else tables.get store (new method' url')) ∧
            (tables.Intact →
              (tables.put store (new method url) response now).matchAny (new method' url') =
                if SameRequest method url method' url' then
                  .ok (some ((tables.olderCopy? store (new method' url')).getD
                    ⟨new method' url', response, now⟩))
                else tables.matchAny (new method' url'))) := by
  refine ⟨identity_new_eq_iff parsed parsed', new_eq_iff parsed parsed', ?_⟩
  intro unique tables store response now hclock
  constructor
  · exact get_put parsed parsed' unique hclock
  · intro intact
    exact matchAny_put parsed parsed' unique intact hclock

/-! ### Blanks in methods and URLs -/

namespace Blanks

open Moment (noon isClock_noon)

def short : Url where
  scheme := "data"
  username := ""
  password := none
  host := none
  port := none
  path := .rootless "b c"
  query := none
  fragment := some "d"

def long : Url :=
  { short with path := .rootless "a data:b c", fragment := none }

theorem parse_short : Url.parse "data:b c#d" = .ok short := rfl

theorem parse_bare : Url.parse "data:b c" = .ok short.withoutFragment := rfl

theorem parse_long : Url.parse "data:a data:b c" = .ok long := rfl

def page : Response := ⟨200, [], "page".toUTF8⟩

/-- The lines differ in the case of three letters only. -/
theorem apart : (new "get data:a" short).NoCollision (new "GET" long) := by
  have hhash : (new "get data:a" short).hash ≠ (new "GET" long).hash := by decide +kernel
  exact fun hsame => absurd (congrArg Hex.encode hsame) hhash

def stored : Tables :=
  Tables.empty.put "pages" (new "get data:a" short) page noon

theorem same_short :
    SameRequest "get data:a" short "Get DATA:a" short.withoutFragment := by
  refine ⟨String.toList_inj.mp ?_, rfl⟩
  rw [String.toLower, String.toLower, String.toList_map, String.toList_map]
  decide

theorem other_long : ¬SameRequest "get data:a" short "GET" long := by
  rintro ⟨-, hurl⟩
  exact absurd hurl (by decide)

theorem found_in_other_case_only :
    (Url.parse "data:b c#d" = .ok short ∧ Url.parse "data:a data:b c" = .ok long) ∧
      (new "get data:a" short).NoCollision (new "GET" long) ∧ noon.IsClock ∧
      stored.get "pages" (new "GET" long) = .ok none ∧
      stored.get "pages" (new "Get DATA:a" short.withoutFragment) =
        .ok (some ⟨new "Get DATA:a" short.withoutFragment, page, noon⟩) := by
  refine ⟨⟨parse_short, parse_long⟩, apart, isClock_noon, ?_, ?_⟩
  · obtain ⟨-, -, hfound⟩ :=
      shared_by_same_requests "get data:a" "GET" (.parse parse_short) (.parse parse_long)
    obtain ⟨hget, -⟩ := hfound apart Tables.empty "pages" page noon isClock_noon
    exact hget.trans (if_neg other_long)
  · obtain ⟨-, hkeys, hfound⟩ :=
      shared_by_same_requests "get data:a" "Get DATA:a" (.parse parse_short) (.parse parse_bare)
    have hone := congrArg identity (hkeys.mpr same_short)
    obtain ⟨hget, -⟩ := hfound (fun _ => hone) Tables.empty "pages" page noon isClock_noon
    exact hget.trans (if_pos same_short)

end Blanks

end Store.Key

end OfflineAgent
