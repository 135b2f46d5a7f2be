import OfflineAgent.Proofs.Store.Tables
import OfflineAgent.Proofs.Work.Alone

/-!
# Clearing away stale stores

Whatever the stores hold and whichever deletions fail, clearing away takes out the stale stores
that can be deleted, whole and in the order of their creation, and leaves the rest as it is.
-/

namespace OfflineAgent

namespace Store

/-! ### Tables without some of their stores -/

namespace Tables

/-- The tables without stores of these names and without what they hold. -/
def without (tables : Tables) (names : List String) : Tables where
  stores := tables.stores.filter (·.name ∉ names)
  entries := tables.entries.filter (·.store ∉ names)

variable {tables : Tables} {names : List String} {store hash : String}

@[simp]
theorem without_nil : tables.without [] = tables := by
  simp [without]

theorem without_cons (name : String) :
    tables.without (name :: names) = (tables.delete name).without names := by
  simp only [without, delete, List.filter_filter, List.mem_cons, not_or, Bool.decide_and]
  congr 1 <;>
    exact List.filter_congr fun _ _ => by rw [Bool.and_comm]

theorem ordered_without :
    (tables.without names).ordered = tables.ordered.filter (·.name ∉ names) := by
  refine List.mergeSort_filter ?_ ?_ _ _
  · intro a b c hab hbc
    exact decide_eq_true ((of_decide_eq_true hab).trans (of_decide_eq_true hbc))
  · intro a b
    rcases Nat.le_total a.number b.number with hle | hle <;> simp [hle]

/-- The stores that stay keep their order. -/
theorem names_without : (tables.without names).names = tables.names.filter (· ∉ names) := by
  rw [Tables.names, ordered_without, Tables.names, List.filter_map]
  rfl

theorem find?_without_of_mem (hmem : store ∈ names) :
    (tables.without names).find? store hash = none := by
  rw [find?, List.find?_eq_none]
  intro row hrow
  have hother : row.store ∉ names := by simpa using (List.mem_filter.mp hrow).2
  have hne : row.store ≠ store := fun hsame => hother (hsame ▸ hmem)
  simp [hne]

theorem find?_without_of_notMem (hkept : store ∉ names) :
    (tables.without names).find? store hash = tables.find? store hash := by
  refine List.find?_filter_of_imp fun row hfound => ?_
  obtain ⟨rfl, -⟩ : row.store = store ∧ row.hash = hash := by simpa using hfound
  simpa using hkept

theorem findAny?_without : (tables.without names).findAny? hash =
    (tables.names.filter (· ∉ names)).findSome? (tables.find? · hash) := by
  rw [findAny?, names_without, ← List.head?_filterMap, ← List.head?_filterMap]
  refine congrArg List.head? (List.filterMap_congr fun name hname => ?_)
  exact find?_without_of_notMem (by simpa using (List.mem_filter.mp hname).2)

/-- Stores before and after some of them were removed: those that stay keep their order and all that
they hold, and nothing that was removed is read any more, from its store or from any. -/
structure Swept (before after : Tables) (removed : List String) : Prop where
  names : after.names = before.names.filter (· ∉ removed)
  entries : after.entries = before.entries.filter (·.store ∉ removed)
  kept : ∀ store, store ∉ removed → ∀ key, after.get store key = before.get store key
  gone : ∀ store ∈ removed, ∀ key, after.get store key = .ok none
  anywhere : ∀ hash,
    after.findAny? hash = (before.names.filter (· ∉ removed)).findSome? (before.find? · hash)
  unmatched : ∀ hash row, after.findAny? hash = some row → row.store ∉ removed

theorem swept_without (tables : Tables) (removed : List String) :
    tables.Swept (tables.without removed) removed where
  names := names_without
  entries := rfl
  kept store hkept key := by rw [get, find?_without_of_notMem hkept, get]
  gone store hgone key := by rw [get, find?_without_of_mem hgone]
  anywhere hash := findAny?_without
  unmatched hash row hfound hgone := by
    obtain ⟨name, -, hrow⟩ := List.exists_of_findSome?_eq_some hfound
    obtain ⟨rfl, -⟩ : row.store = name ∧ row.hash = hash := by simpa using List.find?_some hrow
    rw [find?_without_of_mem hgone] at hrow
    cases hrow

end Tables

end Store

/-! ### Deleting one after the other -/

namespace Stores

open Store (Tables Failure)

variable {whitelist : List String} {faults : Store.Call → Option Failure} {now : Moment}
  {tables : Tables}

/-- The store is stale, and nothing keeps it from being deleted. -/
def IsRemovable (whitelist : List String) (faults : Store.Call → Option Failure)
    (name : String) : Prop :=
  name ∉ whitelist ∧ (faults (.delete name)).isNone

instance (name : String) : Decidable (IsRemovable whitelist faults name) :=
  inferInstanceAs (Decidable (_ ∧ _))

/-- One deletion after the other takes out all that can be taken out, whatever fails in between. -/
theorem alone_deleteStale (found : List String) :
    (deleteStale whitelist found).alone faults now tables =
      some (found.filter (IsRemovable whitelist faults ·),
        tables.without (found.filter (IsRemovable whitelist faults ·))) := by
  -- On the names still to come; the tables are those that the deletions so far have left.
  induction found generalizing tables with
  | nil => simp [deleteStale]
  | cons name rest ih =>
      unfold deleteStale
      by_cases hlisted : name ∈ whitelist
      · have hstays : ¬IsRemovable whitelist faults name := fun hremovable => hremovable.1 hlisted
        rw [if_pos (List.contains_iff_mem.mpr hlisted), ih,
          List.filter_cons_of_neg (by simpa using hstays)]
      · rw [if_neg (by simpa using hlisted)]
        cases hfault : faults (.delete name) with
        | some failure =>
            have hstays : ¬IsRemovable whitelist faults name := by
              simp [IsRemovable, hfault]
            rw [List.filter_cons_of_neg (by simpa using hstays)]
            simpa [delete, Work.storage, Work.alone_storage, Store.Call.attempt, hfault] using ih
        | none =>
            have hgoes : IsRemovable whitelist faults name := ⟨hlisted, by rw [hfault]; rfl⟩
            rw [List.filter_cons_of_pos (by simpa using hgoes), Tables.without_cons]
            simp [delete, Work.storage, Work.alone_storage, Work.alone_bind, Store.Call.attempt,
              hfault, Store.Call.run, ih]

theorem alone_reconcile :
    (reconcile whitelist).alone faults now tables =
      match faults .names with
      | some failure => some (.error failure, tables)
      | none =>
        some (.ok (tables.names.filter (IsRemovable whitelist faults ·)),
          tables.without (tables.names.filter (IsRemovable whitelist faults ·))) := by
  unfold reconcile names
  cases hfault : faults .names with
  | some failure => simp [Work.storage, Work.alone_storage, Store.Call.attempt, hfault]
  | none =>
      simp [Work.storage, Work.alone_storage, Work.alone_bind, Store.Call.attempt, hfault,
        Store.Call.run, alone_deleteStale]

/-- With nothing in the way all stale stores go. -/
theorem alone_reconcile_of_calm (whitelist : List String) (now : Moment) (tables : Tables) :
    (reconcile whitelist).alone (fun _ => none) now tables =
      some (.ok (tables.names.filter (· ∉ whitelist)),
        tables.without (tables.names.filter (· ∉ whitelist))) := by
  rw [alone_reconcile]
  simp only [IsRemovable, Option.isNone_none, and_true]

/-- What a first clearing could not delete is what a second one finds. -/
theorem stale_names_without :
    (tables.without (tables.names.filter (IsRemovable whitelist faults ·))).names.filter
        (· ∉ whitelist) =
      tables.names.filter fun name => name ∉ whitelist ∧ (faults (.delete name)).isSome := by
  rw [Tables.names_without, List.filter_filter]
  refine List.filter_congr fun name hname => ?_
  by_cases hlisted : name ∈ whitelist
  · simp [hlisted]
  · simp [hlisted, hname, IsRemovable, Option.isSome_iff_ne_none]

theorem stale_names_without_stale :
    (tables.without (tables.names.filter (· ∉ whitelist))).names.filter (· ∉ whitelist) = [] := by
  rw [Tables.names_without, List.filter_filter, List.filter_eq_nil_iff]
  intro name hname
  simp [hname]

/-- **Clearing away deletes what it can and nothing else.** It fails only if the stores cannot be
listed, and then it changes nothing. Otherwise the stale stores that can be deleted go, in the order
of their creation, and those on the whitelist stay with those whose deletion failed, as they were.
If nothing fails a second time those left over go, and after that there is nothing to delete. -/
theorem reconcile_sweeps (whitelist : List String) (faults : Store.Call → Option Failure)
    (now : Moment) (tables : Tables) :
    ∃ answer after, (reconcile whitelist).alone faults now tables = some (answer, after) ∧
      (∀ failure, answer = .error failure ↔ faults .names = some failure) ∧
      (∀ failure, answer = .error failure → after = tables) ∧
      ∀ removed, answer = .ok removed →
        removed = tables.names.filter
          (fun name => name ∉ whitelist ∧ (faults (.delete name)).isNone) ∧
        after.names = tables.names.filter
          (fun name => name ∈ whitelist ∨ (faults (.delete name)).isSome) ∧
        tables.Swept after removed ∧
        ∀ later last, ∃ left rest,
          (reconcile whitelist).alone (fun _ => none) later after = some (.ok left, rest) ∧
          left = tables.names.filter
            (fun name => name ∉ whitelist ∧ (faults (.delete name)).isSome) ∧
          after.Swept rest left ∧
          (reconcile whitelist).alone (fun _ => none) last rest = some (.ok [], rest) := by
  cases hfault : faults .names with
  | some failure =>
      refine ⟨.error failure, tables, by rw [alone_reconcile, hfault], by simp, fun _ _ => rfl, ?_⟩
      rintro removed ⟨⟩
  | none =>
      refine ⟨_, _, by rw [alone_reconcile, hfault], by simp, by simp, ?_⟩
      rintro removed ⟨⟩
      refine ⟨rfl, ?_, tables.swept_without _, fun later last =>
        ⟨_, _, alone_reconcile_of_calm _ _ _, stale_names_without, Tables.swept_without _ _, ?_⟩⟩
      · rw [Tables.names_without]
        refine List.filter_congr fun name hname => ?_
        by_cases hlisted : name ∈ whitelist
        · simp [hlisted, IsRemovable]
        · simp [hlisted, hname, IsRemovable, Option.isSome_iff_ne_none]
      · rw [alone_reconcile_of_calm, stale_names_without_stale, Tables.without_nil]

end Stores

end OfflineAgent
