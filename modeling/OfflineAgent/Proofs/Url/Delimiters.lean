import OfflineAgent.Proofs.Url.Plain

/-!
# The signs between the parts of a URL

Scheme, user name, password, host name and port hold none of the signs that stand between parts, so
they can be told apart. Of an IPv6 address, which holds colons, the brackets tell where it ends.
-/

namespace OfflineAgent

/-- A sign that stands between the parts of a URL. -/
def Url.isDelimiter (c : Char) : Bool :=
  [':', '/', '?', '#', '@', '[', ']'].contains c

open Url (isDelimiter)

/-- The text holds no such sign. -/
def Unmarked (text : List Char) : Prop :=
  ∀ c ∈ text, isDelimiter c = false

instance (text : List Char) : Decidable (Unmarked text) :=
  List.decidableBAll (fun c => isDelimiter c = false) text

@[simp]
theorem unmarked_nil : Unmarked [] := nofun

@[simp]
theorem unmarked_cons {c : Char} {text : List Char} :
    Unmarked (c :: text) ↔ isDelimiter c = false ∧ Unmarked text :=
  List.forall_mem_cons

theorem Unmarked.not_mem {text : List Char} (unmarked : Unmarked text) {c : Char}
    (hc : isDelimiter c = true) : c ∉ text := by
  intro hmem
  rw [unmarked c hmem] at hc
  cases hc

theorem isDelimiter_iff {c : Char} : isDelimiter c = true ↔
    c = ':' ∨ c = '/' ∨ c = '?' ∨ c = '#' ∨ c = '@' ∨ c = '[' ∨ c = ']' := by
  simp [isDelimiter]

/-! ### Numbers and percent-encoding -/

theorem unmarked_toDigits {base : Nat} (hbase : 1 < base) (hle : base ≤ 16) (n : Nat) :
    Unmarked (Nat.toDigits base n) := by
  have hdigits : ∀ n < 16, isDelimiter (Nat.digitChar n) = false := by decide
  exact forall_mem_toDigits hbase (fun n hn => hdigits n (hn.trans_le hle)) n

theorem unmarked_toString (n : Nat) : Unmarked (toString n).toList := by
  change Unmarked n.repr.toList
  rw [Nat.toList_repr]
  exact unmarked_toDigits (by decide) (by decide) n

namespace Percent

theorem unmarked_encodeByte (b : UInt8) : Unmarked (encodeByte b) :=
  forall_mem_encodeByte (by decide) (by decide) b

theorem unmarked_encode {set : Set} {text : List Char}
    (h : ∀ c ∈ text, isDelimiter c → isEncoded set c) : Unmarked (encode set text).toList := by
  intro c hmem
  obtain ⟨htext, hkept⟩ | ⟨b, hb⟩ := mem_encode hmem
  · refine Bool.eq_false_iff.mpr fun hmark => ?_
    rw [h c htext hmark] at hkept
    cases hkept
  · exact unmarked_encodeByte b c hb

theorem unmarked_userinfo (text : List Char) : Unmarked (encode userinfo text).toList := by
  refine unmarked_encode fun c _ hmark => ?_
  obtain rfl | rfl | rfl | rfl | rfl | rfl | rfl := isDelimiter_iff.mp hmark <;> decide

/-- A sign that is encoded does not come up in the encoded text, nor does one that was not there. -/
theorem not_mem_encode {set : Set} {text : List Char} {c : Char} (hmark : isDelimiter c = true)
    (h : c ∈ set ∨ c ∉ text) : c ∉ (encode set text).toList := by
  intro hmem
  obtain ⟨htext, hkept⟩ | ⟨b, hb⟩ := mem_encode hmem
  · obtain hset | hnone := h
    · simp [isEncoded, hset] at hkept
    · exact hnone htext
  · exact (unmarked_encodeByte b).not_mem hmark hb

end Percent

/-! ### Schemes and hosts -/

theorem Domain.Allowed.unmarked {text : List Char} (allowed : Domain.Allowed text) :
    Unmarked text := by
  intro c hmem
  refine Bool.eq_false_iff.mpr fun hmark => ?_
  have hallowed := allowed c hmem
  obtain rfl | rfl | rfl | rfl | rfl | rfl | rfl := isDelimiter_iff.mp hmark <;> cases hallowed

namespace Host

theorem unmarked_ipv4Text (address : Nat) : Unmarked (ipv4Text address).toList := by
  refine forall_mem_intercalate (show Unmarked ".".toList by decide) fun text hmem => ?_
  obtain ⟨shift, -, rfl⟩ := List.mem_map.mp hmem
  exact unmarked_toString _

end Host

end OfflineAgent
