import Mathlib
import OfflineAgent.Proofs.Calendar
import OfflineAgent.Proofs.Json.RoundTrip
import OfflineAgent.Proofs.List.Filter
import OfflineAgent.Store.Call

/-!
# Tables that only calls write to

Tables that start empty and are written by calls alone stay intact: the numbers of the stores rise
in the order of their creation, every row belongs to a listed store, there is one row for each store
and hash, and each reads back as what was put.
-/

namespace OfflineAgent

namespace Store

@[simp]
theorem Row.encode_store (store : String) (key : Key) (response : Response) (now : Moment) :
    (Row.encode store key response now).store = store := rfl

@[simp]
theorem Row.encode_hash (store : String) (key : Key) (response : Response) (now : Moment) :
    (Row.encode store key response now).hash = key.hash := rfl

/-- **A written row is read as what was written.** -/
theorem Row.read_encode {store : String} {key : Key} {response : Response} {now : Moment}
    {badStatus : Int → Failure} (hclock : now.IsClock) :
    (Row.encode store key response now).read badStatus = .ok ⟨key, response, now⟩ := by
  have hrange : 0 ≤ (Row.encode store key response now).status ∧
      (Row.encode store key response now).status < 65536 :=
    ⟨Int.natCast_nonneg _, Int.ofNat_lt.mpr response.status.toNat_lt⟩
  have hstatus : (Row.encode store key response now).status? = some response.status := by
    rw [Row.status?, if_pos hrange]
    exact congrArg some UInt16.ofNat_toNat
  have hheaders : Json.parseStringPairs (Row.encode store key response now).headers.toUTF8.toList =
      .ok response.headers := Json.parseStringPairs_compact _
  have htime : Moment.parse (Row.encode store key response now).cachedAt = .ok now :=
    Moment.parse_stored hclock
  rw [Row.read, hstatus]
  simp only [Row.decode, hheaders, htime]
  rfl

namespace Tables

structure Intact (tables : Tables) : Prop where
  ascending : tables.stores.Pairwise (·.number < ·.number)
  distinct : (tables.stores.map (·.name)).Nodup
  listed : ∀ row ∈ tables.entries, row.store ∈ tables.stores.map (·.name)
  single : tables.entries.Pairwise fun a b => ¬(a.store = b.store ∧ a.hash = b.hash)
  readable : ∀ row ∈ tables.entries, ∃ store key response now,
    now.IsClock ∧ row = .encode store key response now

theorem intact_empty : empty.Intact where
  ascending := .nil
  distinct := .nil
  listed _ hmem := absurd hmem List.not_mem_nil
  single := .nil
  readable _ hmem := absurd hmem List.not_mem_nil

section

variable {tables : Tables} {name hash : String} {row : Row}

/-! ### Names -/

theorem isListed_iff : tables.isListed name = true ↔ name ∈ tables.stores.map (·.name) := by
  simp [isListed]

theorem le_foldl_max (numbers : List Nat) (start : Nat) :
    start ≤ numbers.foldl max start ∧ ∀ n ∈ numbers, n ≤ numbers.foldl max start := by
  induction numbers generalizing start with
  | nil => exact ⟨le_rfl, fun _ hmem => absurd hmem List.not_mem_nil⟩
  | cons first rest ih =>
      obtain ⟨hstart, hrest⟩ := ih (max start first)
      refine ⟨(le_max_left _ _).trans hstart, fun n hmem => ?_⟩
      obtain rfl | hmem := List.mem_cons.mp hmem
      · exact (le_max_right _ _).trans hstart
      · exact hrest n hmem

theorem number_lt_nextNumber {listing : Listing} (hmem : listing ∈ tables.stores) :
    listing.number < tables.nextNumber :=
  Nat.lt_succ_of_le ((le_foldl_max _ 0).2 _ (List.mem_map_of_mem hmem))

theorem Intact.names_eq (intact : tables.Intact) :
    tables.names = tables.stores.map (·.name) := by
  have hordered : tables.ordered = tables.stores := by
    refine List.mergeSort_of_pairwise ?_
    exact intact.ascending.imp fun hlt => by simpa using hlt.le
  rw [names, hordered]

@[simp]
theorem names_empty : empty.names = [] := intact_empty.names_eq

theorem names_single (listing : Listing) (entries : List Row) :
    (⟨[listing], entries⟩ : Tables).names = [listing.name] := by
  simp [names, ordered]

theorem names_empty_openStore (name : String) : (empty.openStore name).names = [name] :=
  names_single _ _

theorem Intact.isListed_iff_mem (intact : tables.Intact) :
    tables.isListed name = true ↔ name ∈ tables.names := by
  rw [intact.names_eq, isListed_iff]

theorem Intact.find?_eq_none (intact : tables.Intact) (hname : name ∉ tables.names) :
    tables.find? name hash = none := by
  rw [find?, List.find?_eq_none]
  intro row hmem
  have hstore : row.store ≠ name := by
    rintro rfl
    exact hname (intact.names_eq ▸ intact.listed row hmem)
  simp [hstore]

/-! ### Opening -/

theorem Intact.openStore (intact : tables.Intact) (name : String) :
    (tables.openStore name).Intact := by
  unfold Tables.openStore
  split
  · exact intact
  · rename_i hfresh
    rw [isListed_iff] at hfresh
    refine ⟨?_, ?_, ?_, intact.single, intact.readable⟩
    · rw [List.pairwise_append]
      refine ⟨intact.ascending, List.pairwise_singleton _ _, fun listing hmem last hlast => ?_⟩
      obtain rfl := List.mem_singleton.mp hlast
      exact number_lt_nextNumber hmem
    · rw [List.map_append, List.nodup_append]
      refine ⟨intact.distinct, List.nodup_singleton _, fun found hmem last hlast => ?_⟩
      obtain rfl := List.mem_singleton.mp hlast
      exact fun hsame => hfresh (hsame ▸ hmem)
    · intro row hmem
      rw [List.map_append]
      exact List.mem_append_left _ (intact.listed row hmem)

theorem Intact.names_openStore (intact : tables.Intact) (name : String) :
    (tables.openStore name).names =
      if name ∈ tables.names then tables.names else tables.names ++ [name] := by
  rw [(intact.openStore name).names_eq, intact.names_eq, Tables.openStore]
  simp only [isListed_iff]
  split <;> simp

@[simp]
theorem find?_openStore (store : String) :
    (tables.openStore name).find? store hash = tables.find? store hash := by
  unfold openStore
  split <;> rfl

/-! ### Writing -/

theorem Intact.writeRow (intact : tables.Intact) (hlisted : row.store ∈ tables.names)
    (hreadable : ∃ store key response now, now.IsClock ∧ row = .encode store key response now) :
    (tables.writeRow row).Intact := by
  rw [intact.names_eq] at hlisted
  refine ⟨intact.ascending, intact.distinct, ?_, ?_, ?_⟩
  · intro other hmem
    obtain hold | hnew := List.mem_append.mp hmem
    · exact intact.listed other (List.mem_of_mem_filter hold)
    · obtain rfl := List.mem_singleton.mp hnew
      exact hlisted
  · refine List.pairwise_append.mpr
      ⟨intact.single.filter _, List.pairwise_singleton _ _, fun other hmem last hlast => ?_⟩
    obtain rfl := List.mem_singleton.mp hlast
    simpa [or_iff_not_imp_left] using (List.mem_filter.mp hmem).2
  · intro other hmem
    obtain hold | hnew := List.mem_append.mp hmem
    · exact intact.readable other (List.mem_of_mem_filter hold)
    · obtain rfl := List.mem_singleton.mp hnew
      exact hreadable

@[simp]
theorem names_writeRow : (tables.writeRow row).names = tables.names := rfl

theorem find?_writeRow_self : (tables.writeRow row).find? row.store row.hash = some row := by
  have hrest : (tables.entries.filter fun r => !(r.store = row.store ∧ r.hash = row.hash)).find?
      (fun r => r.store = row.store ∧ r.hash = row.hash) = none := by
    rw [List.find?_eq_none]
    intro other hmem
    simpa [or_iff_not_imp_left] using (List.mem_filter.mp hmem).2
  simp only [find?, writeRow, List.find?_append, hrest]
  simp

theorem find?_writeRow_of_ne {store : String} (hne : ¬(row.store = store ∧ row.hash = hash)) :
    (tables.writeRow row).find? store hash = tables.find? store hash := by
  have hlast : [row].find? (fun r => r.store = store ∧ r.hash = hash) = none := by
    simpa using hne
  simp only [find?, writeRow, List.find?_append, hlast, Option.or_none]
  refine List.find?_filter_of_imp fun r hfound => ?_
  obtain ⟨rfl, rfl⟩ : r.store = store ∧ r.hash = hash := by simpa using hfound
  have hother : ¬(r.store = row.store ∧ r.hash = row.hash) :=
    fun ⟨hstore, hhash⟩ => hne ⟨hstore.symm, hhash.symm⟩
  rw [decide_eq_false hother]
  rfl

/-! ### Deleting -/

theorem Intact.delete (intact : tables.Intact) (name : String) : (tables.delete name).Intact := by
  refine ⟨intact.ascending.filter _, ?_, ?_, intact.single.filter _, ?_⟩
  · exact intact.distinct.sublist (List.filter_sublist.map _)
  · intro row hmem
    obtain ⟨hold, hstore⟩ := List.mem_filter.mp hmem
    obtain ⟨listing, hlisting, hname⟩ := List.mem_map.mp (intact.listed row hold)
    refine List.mem_map.mpr ⟨listing, List.mem_filter.mpr ⟨hlisting, ?_⟩, hname⟩
    rwa [hname]
  · exact fun row hmem => intact.readable row (List.mem_of_mem_filter hmem)

theorem Intact.names_delete (intact : tables.Intact) (name : String) :
    (tables.delete name).names = tables.names.filter (· ≠ name) := by
  rw [(intact.delete name).names_eq, intact.names_eq, Tables.delete, List.filter_map]
  rfl

theorem find?_delete_of_ne {store : String} (hne : store ≠ name) :
    (tables.delete name).find? store hash = tables.find? store hash := by
  refine List.find?_filter_of_imp fun r hfound => ?_
  obtain ⟨rfl, rfl⟩ : r.store = store ∧ r.hash = hash := by simpa using hfound
  simpa using hne

/-! ### Calls -/

theorem Intact.put (intact : tables.Intact) (store : String) (key : Key) (response : Response)
    {now : Moment} (hclock : now.IsClock) : (tables.put store key response now).Intact := by
  refine (intact.openStore store).writeRow ?_ ⟨store, key, response, now, hclock, rfl⟩
  change store ∈ (tables.openStore store).names
  rw [intact.names_openStore]
  split
  · assumption
  · simp

/-- Every call leaves intact tables intact. -/
theorem Intact.run (intact : tables.Intact) {now : Moment} (hclock : now.IsClock) (call : Call) :
    (call.run now tables).2.Intact := by
  cases call with
  | openStore name => exact intact.openStore name
  | put store key response => exact intact.put store key response hclock
  | delete name => exact intact.delete name
  | get | matchAny | names => exact intact

end

end Tables

end Store

end OfflineAgent
