import OfflineAgent.Proofs.Store.Tables

/-!
# The tables as a catalog of stores

What the tables stand for: a list of distinct names in the order of creation, each with a map from
keys to entries. Every call answers as it does on the catalog, as long as the keys in use have
distinct hashes.
-/

namespace OfflineAgent.Store

/-- A store with what it holds under each key. -/
structure Shelf where
  name : String
  held : Key → Option Entry

/-- Stores in the order of their creation. -/
structure Catalog where
  shelves : List Shelf
  distinct : (shelves.map (·.name)).Nodup

namespace Shelf

def empty (name : String) : Shelf :=
  ⟨name, fun _ => none⟩

def put (shelf : Shelf) (entry : Entry) : Shelf :=
  { shelf with held := fun key => if key = entry.key then some entry else shelf.held key }

end Shelf

namespace Catalog

def empty : Catalog := ⟨[], .nil⟩

def names (catalog : Catalog) : List String :=
  catalog.shelves.map (·.name)

def openStore (catalog : Catalog) (name : String) : Catalog :=
  if hmem : name ∈ catalog.names then catalog
  else
    { shelves := catalog.shelves ++ [.empty name]
      distinct := by
        rw [List.map_append, List.nodup_append]
        refine ⟨catalog.distinct, List.nodup_singleton _, fun found hfound last hlast => ?_⟩
        obtain rfl := List.mem_singleton.mp hlast
        exact fun hsame => hmem (hsame ▸ hfound) }

theorem names_replace (shelves : List Shelf) (name : String) (entry : Entry) :
    (shelves.map fun shelf => if shelf.name = name then shelf.put entry else shelf).map (·.name) =
      shelves.map (·.name) := by
  rw [List.map_map]
  refine List.map_congr_left fun shelf _ => ?_
  dsimp only [Function.comp_apply]
  split <;> rfl

/-- A whole entry takes the place of the one under its key, in a store that is added if it is
missing. -/
def put (catalog : Catalog) (name : String) (entry : Entry) : Catalog where
  shelves := (catalog.openStore name).shelves.map fun shelf =>
    if shelf.name = name then shelf.put entry else shelf
  distinct := by
    rw [names_replace]
    exact (catalog.openStore name).distinct

theorem names_openStore (catalog : Catalog) (name : String) :
    (catalog.openStore name).names =
      if name ∈ catalog.names then catalog.names else catalog.names ++ [name] := by
  unfold openStore
  split
  · rfl
  · exact List.map_append

theorem mem_openStore {catalog : Catalog} {name : String} {shelf : Shelf}
    (hmem : shelf ∈ (catalog.openStore name).shelves) :
    shelf ∈ catalog.shelves ∨ (name ∉ catalog.names ∧ shelf = .empty name) := by
  unfold openStore at hmem
  split at hmem
  · exact .inl hmem
  · rename_i hfresh
    obtain hold | hnew := List.mem_append.mp hmem
    · exact .inl hold
    · exact .inr ⟨hfresh, List.mem_singleton.mp hnew⟩

theorem names_put (catalog : Catalog) (name : String) (entry : Entry) :
    (catalog.put name entry).names = (catalog.openStore name).names :=
  names_replace _ _ _

def get (catalog : Catalog) (name : String) (key : Key) : Option Entry :=
  (catalog.shelves.find? (·.name = name)).bind (·.held key)

/-- The entry of the first store that holds the key. -/
def matchAny (catalog : Catalog) (key : Key) : Option Entry :=
  catalog.shelves.findSome? (·.held key)

def delete (catalog : Catalog) (name : String) : Catalog where
  shelves := catalog.shelves.filter (·.name ≠ name)
  distinct := catalog.distinct.sublist (List.filter_sublist.map _)

def run (now : Moment) (catalog : Catalog) : (call : Call) → call.Answer × Catalog
  | .openStore name => ((), catalog.openStore name)
  | .get store key => (catalog.get store key, catalog)
  | .put store key response => ((), catalog.put store ⟨key, response, now⟩)
  | .matchAny key => (catalog.matchAny key, catalog)
  | .names => (catalog.names, catalog)
  | .delete name => (decide (name ∈ catalog.names), catalog.delete name)

end Catalog

/-- The key that a call is about. -/
def Call.key? : Call → Option Key
  | .get _ key | .put _ key _ | .matchAny key => some key
  | .openStore _ | .names | .delete _ => none

/-- The tables are intact and hold what the catalog holds, as far as keys in use are concerned. -/
structure Represents (used : Key → Prop) (tables : Tables) (catalog : Catalog) : Prop where
  intact : tables.Intact
  names : tables.names = catalog.names
  rows : ∀ shelf ∈ catalog.shelves, ∀ key, used key →
    tables.find? shelf.name key.hash =
      (shelf.held key).map fun entry => .encode shelf.name key entry.response entry.cachedAt
  entries : ∀ shelf ∈ catalog.shelves, ∀ key entry, shelf.held key = some entry →
    entry.key = key ∧ entry.cachedAt.IsClock

section

variable {used : Key → Prop} {tables : Tables} {catalog : Catalog} {name : String} {key : Key}

theorem represents_empty : Represents used .empty .empty where
  intact := Tables.intact_empty
  names := Tables.intact_empty.names_eq
  rows _ hmem := absurd hmem List.not_mem_nil
  entries _ hmem := absurd hmem List.not_mem_nil

namespace Represents

/-! ### Reading -/

theorem read (represents : Represents used tables catalog) {shelf : Shelf}
    (hshelf : shelf ∈ catalog.shelves) (hused : used key) (badStatus : Int → Failure) :
    (match tables.find? shelf.name key.hash with
      | none => .ok none
      | some row => (row.read badStatus).map some) = Except.ok (shelf.held key) := by
  rw [represents.rows shelf hshelf key hused]
  cases hheld : shelf.held key with
  | none => rfl
  | some entry =>
      obtain ⟨hkey, hclock⟩ := represents.entries shelf hshelf key entry hheld
      subst hkey
      simp only [Option.map_some, Row.read_encode hclock]
      rfl

theorem get (represents : Represents used tables catalog) (hused : used key) :
    tables.get name key = .ok (catalog.get name key) := by
  unfold Tables.get Catalog.get
  cases hfind : catalog.shelves.find? (·.name = name) with
  | none =>
      have hname : name ∉ tables.names := by
        rw [represents.names]
        intro hmem
        obtain ⟨shelf, hshelf, hsame⟩ := List.mem_map.mp hmem
        exact List.find?_eq_none.mp hfind shelf hshelf (by simpa using hsame)
      rw [represents.intact.find?_eq_none hname]
      rfl
  | some shelf =>
      have hname : shelf.name = name := by simpa using List.find?_some hfind
      subst hname
      exact represents.read (List.mem_of_find?_eq_some hfind) hused _

theorem matchAny (represents : Represents used tables catalog) (hused : used key) :
    tables.matchAny key = .ok (catalog.matchAny key) := by
  have hall : ∀ shelves : List Shelf, (∀ shelf ∈ shelves, shelf ∈ catalog.shelves) →
      (match (shelves.map (·.name)).findSome? fun name => tables.find? name key.hash with
        | none => .ok none
        | some row => (row.read (.statusInAny key.url)).map some) =
          Except.ok (shelves.findSome? (·.held key)) := by
    intro shelves hsub
    induction shelves with
    | nil => rfl
    | cons shelf rest ih =>
        have hread := represents.read (hsub shelf List.mem_cons_self) hused (.statusInAny key.url)
        rw [List.map_cons, List.findSome?_cons, List.findSome?_cons]
        cases hrow : tables.find? shelf.name key.hash with
        | none =>
            rw [hrow] at hread
            rw [← Except.ok.inj hread]
            exact ih fun other hmem => hsub other (List.mem_cons_of_mem _ hmem)
        | some row =>
            rw [hrow] at hread
            cases hheld : shelf.held key with
            | none =>
                rw [represents.rows shelf (hsub shelf List.mem_cons_self) key hused, hheld] at hrow
                cases hrow
            | some entry => rwa [hheld] at hread
  unfold Tables.matchAny Tables.findAny?
  rw [represents.names]
  exact hall catalog.shelves fun shelf hmem => hmem

/-! ### Writing -/

theorem openStore (represents : Represents used tables catalog) (name : String) :
    Represents used (tables.openStore name) (catalog.openStore name) where
  intact := represents.intact.openStore name
  names := by
    rw [represents.intact.names_openStore, Catalog.names_openStore, represents.names]
  rows shelf hshelf key hused := by
    rw [Tables.find?_openStore]
    obtain hold | ⟨hfresh, rfl⟩ := Catalog.mem_openStore hshelf
    · exact represents.rows shelf hold key hused
    · exact represents.intact.find?_eq_none (represents.names ▸ hfresh)
  entries shelf hshelf key entry hheld := by
    obtain hold | ⟨-, rfl⟩ := Catalog.mem_openStore hshelf
    · exact represents.entries shelf hold key entry hheld
    · cases hheld

theorem put (represents : Represents used tables catalog) (name : String) (response : Response)
    {now : Moment} (hclock : now.IsClock) (hused : used key)
    (hhash : ∀ other, used other → other.hash = key.hash → other = key) :
    Represents used (tables.put name key response now)
      (catalog.put name ⟨key, response, now⟩) where
  intact := represents.intact.put name key response hclock
  names := by
    rw [Catalog.names_put, ← (represents.openStore name).names]
    rfl
  rows shelf hshelf other hother := by
    obtain ⟨before, hbefore, rfl⟩ := List.mem_map.mp hshelf
    have hrows := (represents.openStore name).rows before hbefore other hother
    unfold Tables.put
    by_cases hname : before.name = name
    · subst hname
      rw [if_pos rfl]
      by_cases hkey : other = key
      · subst hkey
        have hself : ((tables.openStore before.name).writeRow
            (.encode before.name other response now)).find? before.name other.hash =
              some (.encode before.name other response now) := Tables.find?_writeRow_self
        simp only [Shelf.put, hself]
        simp
      · have hne : key.hash ≠ other.hash := fun hsame => hkey (hhash other hother hsame.symm)
        rw [Tables.find?_writeRow_of_ne (by
          simpa only [Row.encode_hash, not_and] using fun _ => hne)]
        simpa only [Shelf.put, if_neg hkey] using hrows
    · have hne : ¬((Row.encode name key response now).store = before.name ∧
          (Row.encode name key response now).hash = other.hash) :=
        fun ⟨hsame, _⟩ => hname hsame.symm
      rw [if_neg hname, Tables.find?_writeRow_of_ne hne]
      exact hrows
  entries shelf hshelf other entry hheld := by
    obtain ⟨before, hbefore, rfl⟩ := List.mem_map.mp hshelf
    have hold := (represents.openStore name).entries before hbefore other entry
    split at hheld
    · simp only [Shelf.put] at hheld
      split at hheld
      · rename_i hkey
        obtain rfl := Option.some.inj hheld
        exact ⟨hkey.symm, hclock⟩
      · exact hold hheld
    · exact hold hheld

theorem delete (represents : Represents used tables catalog) (name : String) :
    Represents used (tables.delete name) (catalog.delete name) where
  intact := represents.intact.delete name
  names := by
    rw [represents.intact.names_delete, represents.names]
    simp only [Catalog.names, Catalog.delete, List.filter_map]
    rfl
  rows shelf hshelf key hused := by
    obtain ⟨hold, hname⟩ := List.mem_filter.mp hshelf
    rw [Tables.find?_delete_of_ne (by simpa using hname)]
    exact represents.rows shelf hold key hused
  entries shelf hshelf := represents.entries shelf (List.mem_of_mem_filter hshelf)

/-- Every call answers as it does on the catalog, and never fails. -/
theorem run (represents : Represents used tables catalog) {now : Moment} (hclock : now.IsClock)
    (call : Call) (hused : ∀ key, call.key? = some key → used key)
    (hhash : ∀ a b, used a → used b → a.hash = b.hash → a = b) :
    (call.run now tables).1 = .ok (catalog.run now call).1 ∧
      Represents used (call.run now tables).2 (catalog.run now call).2 := by
  cases call with
  | openStore name => exact ⟨rfl, represents.openStore name⟩
  | get store key => exact ⟨represents.get (hused key rfl), represents⟩
  | put store key response =>
      have hkey := hused key rfl
      exact ⟨rfl, represents.put store response hclock hkey fun other hother =>
        hhash other key hother hkey⟩
  | matchAny key => exact ⟨represents.matchAny (hused key rfl), represents⟩
  | names => exact ⟨congrArg Except.ok represents.names, represents⟩
  | delete name =>
      refine ⟨congrArg Except.ok ?_, represents.delete name⟩
      rw [Bool.eq_iff_iff, represents.intact.isListed_iff_mem, represents.names]
      exact decide_eq_true_iff.symm

end Represents

end

end OfflineAgent.Store
