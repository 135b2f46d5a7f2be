import OfflineAgent.Proofs.Store.Tables

/-!
# What a lookup in all stores finds

In intact tables no lookup fails. A written entry is found from then on, unless a store that was
created earlier holds the key too: then the entry of the earliest of those is found, until somebody
writes under the key or deletes a store. What one store holds is its own, and stays until somebody
writes to that store under the key or deletes it.
-/

namespace OfflineAgent.Store

/-- The row is read as the entry. -/
def Row.Holds (row : Row) (entry : Entry) : Prop :=
  ∃ status, row.status? = some status ∧ row.decode status = .ok entry

theorem Row.holds_of_read {row : Row} {entry : Entry} {badStatus : Int → Failure}
    (hread : (row.read badStatus).map some = .ok (some entry)) : row.Holds entry := by
  unfold read at hread
  split at hread
  · rename_i status hstatus
    cases hdecode : row.decode status with
    | error failure =>
        rw [hdecode] at hread
        cases hread
    | ok found =>
        rw [hdecode] at hread
        obtain rfl := Option.some.inj (Except.ok.inj hread)
        exact ⟨status, hstatus, hdecode⟩
  · cases hread

namespace Tables

/-- What a store holds under a key. -/
def held? (tables : Tables) (key : Key) (name : String) : Option Entry :=
  (tables.get name key).toOption.join

/-- What the earliest of the stores that are older than `store` holds under a key. -/
def olderCopy? (tables : Tables) (store : String) (key : Key) : Option Entry :=
  (tables.names.takeWhile (· ≠ store)).findSome? (tables.held? key)

section

variable {tables : Tables} {key : Key} {name store : String} {response : Response} {now : Moment}
  {entry : Entry}

theorem held?_of_find?_eq_none (hrow : tables.find? name key.hash = none) :
    tables.held? key name = none := by
  simp [held?, get, hrow, Except.toOption]

theorem Intact.held?_of_find? (intact : tables.Intact) {row : Row}
    (hrow : tables.find? name key.hash = some row) :
    ∃ entry, tables.held? key name = some entry ∧
      ∀ badStatus, row.read badStatus = .ok entry := by
  obtain ⟨store, written, response, now, hclock, rfl⟩ :=
    intact.readable row (List.mem_of_find?_eq_some hrow)
  refine ⟨⟨written, response, now⟩, ?_, fun badStatus => Row.read_encode hclock⟩
  unfold held? get
  rw [hrow]
  simp only [Row.read_encode hclock]
  rfl

theorem Intact.get_eq (intact : tables.Intact) :
    tables.get name key = .ok (tables.held? key name) := by
  cases hrow : tables.find? name key.hash with
  | none => simp [get, hrow, held?_of_find?_eq_none hrow]
  | some row =>
      obtain ⟨entry, hheld, hread⟩ := intact.held?_of_find? hrow
      simp [get, hrow, hheld, hread, Except.map]

/-- Looking in all stores does not fail, and finds the entry of the earliest one that has any. -/
theorem Intact.matchAny_eq (intact : tables.Intact) :
    tables.matchAny key = .ok (tables.names.findSome? (tables.held? key)) := by
  unfold matchAny findAny?
  induction tables.names with
  | nil => rfl
  | cons name rest ih =>
      rw [List.findSome?_cons, List.findSome?_cons]
      cases hrow : tables.find? name key.hash with
      | none =>
          rw [held?_of_find?_eq_none hrow]
          exact ih
      | some row =>
          obtain ⟨entry, hheld, hread⟩ := intact.held?_of_find? hrow
          simp [hheld, hread, Except.map]

/-! ### Where an entry comes from -/

theorem holds_of_get (hget : tables.get store key = .ok (some entry)) :
    ∃ row ∈ tables.entries, row.store = store ∧ row.Holds entry := by
  unfold get at hget
  split at hget
  · cases hget
  · rename_i row hrow
    have hstore : row.store = store ∧ row.hash = key.hash := by
      simpa using List.find?_some hrow
    exact ⟨row, List.mem_of_find?_eq_some hrow, hstore.1, Row.holds_of_read hget⟩

theorem holds_of_matchAny (hmatch : tables.matchAny key = .ok (some entry)) :
    ∃ row ∈ tables.entries, row.store ∈ tables.names ∧ row.Holds entry := by
  unfold matchAny at hmatch
  split at hmatch
  · cases hmatch
  · rename_i row hrow
    obtain ⟨name, hlisted, hfind⟩ := List.exists_of_findSome?_eq_some hrow
    have hstore : row.store = name ∧ row.hash = key.hash := by
      simpa using List.find?_some hfind
    refine ⟨row, List.mem_of_find?_eq_some hfind, ?_, Row.holds_of_read hmatch⟩
    rw [hstore.1]
    exact hlisted

/-! ### What calls do to it -/

@[simp]
theorem held?_openStore : (tables.openStore store).held? key name = tables.held? key name := by
  simp only [held?, get, find?_openStore]

theorem held?_delete_of_ne {other : String} (hne : name ≠ other) :
    (tables.delete other).held? key name = tables.held? key name := by
  simp only [held?, get, find?_delete_of_ne hne]

/-- A row that was written is read as what was written. -/
theorem get_of_find? {written : Key} (hclock : now.IsClock)
    (hrow : tables.find? store key.hash = some (.encode store written response now)) :
    tables.get store key = .ok (some ⟨written, response, now⟩) := by
  rw [get, hrow]
  simp only [Row.read_encode hclock]
  rfl

theorem find?_put_self : (tables.put store key response now).find? store key.hash =
    some (.encode store key response now) :=
  find?_writeRow_self

theorem held?_put_self (hclock : now.IsClock) :
    (tables.put store key response now).held? key store = some ⟨key, response, now⟩ := by
  rw [held?, get_of_find? hclock find?_put_self]
  rfl

theorem find?_put_of_ne {other : Key} {hash : String} (hne : ¬(store = name ∧ other.hash = hash)) :
    (tables.put store other response now).find? name hash = tables.find? name hash := by
  rw [put, find?_writeRow_of_ne hne, find?_openStore]

theorem held?_put_of_ne {other : Key} (hne : ¬(store = name ∧ other.hash = key.hash)) :
    (tables.put store other response now).held? key name = tables.held? key name := by
  simp only [held?, get, find?_put_of_ne hne]

theorem Intact.names_put (intact : tables.Intact) :
    (tables.put store key response now).names =
      if store ∈ tables.names then tables.names else tables.names ++ [store] :=
  intact.names_openStore store

/-- A store that is opened keeps its place, or goes to the end. -/
theorem Intact.exists_names_openStore (intact : tables.Intact) (name : String) :
    ∃ rest, (tables.openStore name).names =
      tables.names.takeWhile (· ≠ name) ++ name :: rest := by
  rw [intact.names_openStore]
  split
  · rename_i hmem
    have hdrop : tables.names.dropWhile (· ≠ name) ≠ [] := by
      intro hnil
      simpa using List.dropWhile_eq_nil_iff.mp hnil name hmem
    obtain ⟨first, rest, hfirst⟩ := List.exists_cons_of_ne_nil hdrop
    have hname : first = name := by
      have hhead := List.head_dropWhile_not (· ≠ name) hdrop
      simp only [hfirst, List.head_cons] at hhead
      simpa using hhead
    refine ⟨rest, ?_⟩
    rw [← hname, ← hfirst, hname, List.takeWhile_append_dropWhile]
  · rename_i hfresh
    refine ⟨[], ?_⟩
    rw [List.takeWhile_eq_self_iff.mpr]
    intro other hother
    simp only [decide_eq_true_eq]
    rintro rfl
    exact hfresh hother

/-- **What is found after a write**: an older copy if there is one, and else what was written. -/
theorem Intact.matchAny_put (intact : tables.Intact) (hclock : now.IsClock) :
    (tables.put store key response now).matchAny key =
      .ok (some ((tables.olderCopy? store key).getD ⟨key, response, now⟩)) := by
  rw [(intact.put store key response hclock).matchAny_eq]
  obtain ⟨rest, hnames⟩ := intact.exists_names_openStore store
  have holder : (tables.names.takeWhile (· ≠ store)).findSome?
      ((tables.put store key response now).held? key) = tables.olderCopy? store key := by
    rw [olderCopy?, ← List.head?_filterMap, ← List.head?_filterMap]
    refine congrArg List.head? (List.filterMap_congr fun name hname => ?_)
    refine held?_put_of_ne fun ⟨hsame, _⟩ => ?_
    simpa [hsame] using List.mem_takeWhile_imp hname
  rw [show (tables.put store key response now).names = _ from hnames, List.findSome?_append, holder,
    List.findSome?_cons, held?_put_self hclock]
  cases tables.olderCopy? store key <;> rfl

/-- A write under another hash does not change what is found. -/
theorem Intact.matchAny_put_other {other : Key} (intact : tables.Intact) (hclock : now.IsClock)
    (hne : other.hash ≠ key.hash) :
    (tables.put store other response now).matchAny key = tables.matchAny key := by
  have hheld : (tables.put store other response now).held? key = tables.held? key :=
    funext fun name => held?_put_of_ne fun hsame => hne hsame.2
  rw [(intact.put store other response hclock).matchAny_eq, intact.matchAny_eq, hheld,
    intact.names_put]
  split
  · rfl
  · rename_i hfresh
    rw [List.findSome?_append, List.findSome?_cons,
      held?_of_find?_eq_none (intact.find?_eq_none hfresh), List.findSome?_nil, Option.or_none]

/-- What is not found is not found either after a write under another hash. -/
theorem Intact.matchAny_put_of_ne {other : Key} (intact : tables.Intact) (hclock : now.IsClock)
    (hne : other.hash ≠ key.hash) (hnone : tables.matchAny key = .ok none) :
    (tables.put store other response now).matchAny key = .ok none := by
  rw [intact.matchAny_put_other hclock hne, hnone]

/-- What a store holds is found, unless an older one holds the key too. -/
theorem Intact.matchAny_of_held? (intact : tables.Intact)
    (hheld : tables.held? key store = some entry) :
    tables.matchAny key = .ok (some ((tables.olderCopy? store key).getD entry)) := by
  have hlisted : store ∈ tables.names := by
    by_contra hmissing
    rw [held?_of_find?_eq_none (intact.find?_eq_none hmissing)] at hheld
    cases hheld
  obtain ⟨rest, hnames⟩ := intact.exists_names_openStore store
  rw [intact.names_openStore, if_pos hlisted] at hnames
  rw [intact.matchAny_eq, hnames, List.findSome?_append, ← olderCopy?, List.findSome?_cons, hheld]
  cases tables.olderCopy? store key <;> rfl

end

end Tables

/-- The call may change what is found under a hash. -/
def Call.Disturbs (hash : String) : Call → Prop
  | .put _ key _ => key.hash = hash
  | .delete _ => True
  | .openStore _ | .get _ _ | .matchAny _ | .names => False

/-- The call writes, and so it cannot fail on what it reads. -/
def Call.Writes : Call → Prop
  | .openStore _ | .put _ _ _ | .delete _ => True
  | .get _ _ | .matchAny _ | .names => False

theorem Call.Writes.answers {call : Call} (writes : call.Writes) (now : Moment) (tables : Tables) :
    ∃ value, (call.run now tables).1 = .ok value := by
  cases call with
  | openStore | put | delete => exact ⟨_, rfl⟩
  | get | matchAny | names => cases writes

theorem Call.Disturbs.writes {hash : String} {call : Call} (disturbs : call.Disturbs hash) :
    call.Writes := by
  cases call with
  | openStore | put | delete => exact trivial
  | get | matchAny | names => cases disturbs

/-- What is found stays so under calls that do not disturb it. -/
theorem Tables.Intact.matchAny_run {tables : Tables} {key : Key} {entry : Entry} {now : Moment}
    {call : Call} (intact : tables.Intact) (hclock : now.IsClock)
    (hfound : tables.matchAny key = .ok (some entry)) (hcall : ¬call.Disturbs key.hash) :
    (call.run now tables).2.matchAny key = .ok (some entry) := by
  have hkept {after : Tables} (hafter : after.Intact)
      (hnames : ∃ more, after.names = tables.names ++ more)
      (hheld : ∀ name, after.held? key name = tables.held? key name) :
      after.matchAny key = .ok (some entry) := by
    rw [intact.matchAny_eq] at hfound
    rw [hafter.matchAny_eq, funext hheld]
    obtain ⟨more, hlonger⟩ := hnames
    rw [hlonger, List.findSome?_append, Except.ok.inj hfound]
    rfl
  have hopen (name : String) : ∃ more, (tables.openStore name).names = tables.names ++ more := by
    rw [intact.names_openStore]
    split
    · exact ⟨[], (List.append_nil _).symm⟩
    · exact ⟨[name], rfl⟩
  have hintact := intact.run hclock call
  cases call with
  | openStore name => exact hkept hintact (hopen name) fun other => held?_openStore
  | put store other response =>
      exact hkept hintact (hopen store) fun name => held?_put_of_ne fun ⟨_, hhash⟩ => hcall hhash
  | delete name => exact absurd trivial hcall
  | get | matchAny | names => exact hfound

/-- The call may change what a store holds under a hash. -/
def Call.Rewrites (store hash : String) : Call → Prop
  | .put written key _ => written = store ∧ key.hash = hash
  | .delete name => name = store
  | .openStore _ | .get _ _ | .matchAny _ | .names => False

theorem Call.Rewrites.writes {store hash : String} {call : Call}
    (rewrites : call.Rewrites store hash) : call.Writes := by
  cases call with
  | openStore | put | delete => exact trivial
  | get | matchAny | names => cases rewrites

/-- The row of one store stays so under calls that do not rewrite it. -/
theorem Tables.find?_run {tables : Tables} {store hash : String} {now : Moment} {call : Call}
    (hcall : ¬call.Rewrites store hash) :
    (call.run now tables).2.find? store hash = tables.find? store hash := by
  cases call with
  | openStore name => exact find?_openStore store
  | put written other response => exact find?_put_of_ne hcall
  | delete name => exact find?_delete_of_ne fun hsame => hcall hsame.symm
  | get | matchAny | names => rfl

/-- What one store holds stays so under calls that do not rewrite it. -/
theorem Tables.held?_run {tables : Tables} {store : String} {key : Key} {now : Moment} {call : Call}
    (hcall : ¬call.Rewrites store key.hash) :
    (call.run now tables).2.held? key store = tables.held? key store := by
  simp only [held?, get, find?_run hcall]

end OfflineAgent.Store
