import OfflineAgent.Proofs.Interleaving.Listing

/-!
# Who took a store away

Any number of clearings and deletions may go on at once over the same stores, and each clearing
looks which stores there are before it deletes the first of them. As long as nobody opens a store
again, one call takes it away, and all that delete it later are told that there was no such store. A
clearing does not look at what it is told: it gives every store whose deletion did not fail. So the
stores that it gives were there when it looked and are gone, but another call may have taken them.
-/

namespace OfflineAgent

/-- The store that was deleted without a failure, whether it was there or not. -/
def Exchange.deleted? : Exchange → Option String
  | ⟨.storage (.delete name), .ok _⟩ => some name
  | _ => none

theorem Exchange.deleted?_eq_some {exchange : Exchange} {name : String} :
    exchange.deleted? = some name ↔ ∃ gone, exchange = ⟨.storage (.delete name), .ok gone⟩ := by
  constructor
  · intro hdeleted
    unfold deleted? at hdeleted
    split at hdeleted
    · obtain rfl := Option.some.inj hdeleted
      exact ⟨_, rfl⟩
    · cases hdeleted
  · rintro ⟨gone, rfl⟩
    rfl

/-! ### What a clearing asks and gives -/

namespace Stores

variable {whitelist found reported : List String} {history : List Exchange}

/-- Each stale name is deleted, in order, and those are given whose deletion did not fail. -/
theorem of_leads_deleteStale
    (leads : Work.Leads (deleteStale whitelist found) history (.done reported)) :
    history.map (·.op) =
        (found.filter (· ∉ whitelist)).map (fun name => .storage (.delete name)) ∧
      reported = history.filterMap Exchange.deleted? := by
  induction found generalizing history reported with
  | nil =>
      obtain ⟨rfl, hreported⟩ := Work.leads_done_iff.mp leads
      exact ⟨rfl, Work.done.inj hreported⟩
  | cons name rest ih =>
      by_cases hkept : name ∈ whitelist
      · rw [deleteStale_of_kept (List.contains_iff_mem.mpr hkept)] at leads
        rw [List.filter_cons_of_neg (by simpa using hkept)]
        exact ih leads
      · rw [List.filter_cons_of_pos (by simpa using hkept), List.map_cons]
        rw [deleteStale, if_neg (by simpa using hkept)] at leads
        obtain ⟨-, hdone⟩ | ⟨answer, later, rfl, hlater⟩ := Work.leads_ask_iff.mp leads
        · cases hdone
        · rw [List.map_cons]
          cases answer with
          | error failure =>
              obtain ⟨hops, hreported⟩ := ih hlater
              exact ⟨congrArg _ hops, hreported⟩
          | ok gone =>
              obtain ⟨others, hrest, hreported⟩ := Work.exists_of_leads_bind_done hlater
              obtain ⟨hops, hothers⟩ := ih hrest
              rw [hreported, hothers]
              exact ⟨congrArg _ hops, rfl⟩

/-- A clearing that does not fail has looked which stores there are, and then deleted those that
are stale. -/
theorem of_leads_reconcile
    (leads : Work.Leads (reconcile whitelist) history (.done (.ok reported))) :
    ∃ found deletions, history = ⟨.storage .names, .ok found⟩ :: deletions ∧
      Work.Leads (deleteStale whitelist found) deletions (.done reported) := by
  obtain ⟨-, hdone⟩ | ⟨answer, later, rfl, hlater⟩ := Work.leads_ask_iff.mp leads
  · cases hdone
  · cases answer with
    | error failure =>
        obtain ⟨-, hdone⟩ := Work.leads_done_iff.mp hlater
        cases hdone
    | ok found =>
        obtain ⟨others, hdeletions, hreported⟩ := Work.exists_of_leads_bind_done hlater
        obtain rfl : reported = others := Except.ok.inj hreported
        exact ⟨found, later, rfl, hdeletions⟩

theorem mem_iff_of_leads_deleteStale
    (leads : Work.Leads (deleteStale whitelist found) history (.done reported)) (name : String) :
    name ∈ reported ↔ ∃ gone, ⟨.storage (.delete name), .ok gone⟩ ∈ history := by
  rw [(of_leads_deleteStale leads).2, List.mem_filterMap]
  constructor
  · rintro ⟨exchange, hmem, hdeleted⟩
    obtain ⟨gone, rfl⟩ := Exchange.deleted?_eq_some.mp hdeleted
    exact ⟨gone, hmem⟩
  · rintro ⟨gone, hmem⟩
    exact ⟨_, hmem, rfl⟩

/-- If the names that were found differ, no store is deleted twice. -/
theorem nodup_of_leads_deleteStale (distinct : found.Nodup)
    (leads : Work.Leads (deleteStale whitelist found) history (.done reported)) :
    (history.map (·.op)).Nodup := by
  rw [(of_leads_deleteStale leads).1]
  refine (distinct.filter _).map fun one other hsame => ?_
  exact Store.Call.delete.inj (Op.storage.inj hsame)

theorem nodup_reported (distinct : found.Nodup)
    (leads : Work.Leads (deleteStale whitelist found) history (.done reported)) :
    reported.Nodup := by
  rw [(of_leads_deleteStale leads).2, List.Nodup, List.pairwise_filterMap]
  have hops := List.pairwise_map.mp (nodup_of_leads_deleteStale distinct leads)
  refine hops.imp fun hne name hone other hother hsame => hne ?_
  obtain ⟨-, rfl⟩ := Exchange.deleted?_eq_some.mp hone
  obtain ⟨-, rfl⟩ := Exchange.deleted?_eq_some.mp hother
  exact congrArg (fun name => Op.storage (.delete name)) hsame

end Stores

/-! ### Names that do not repeat -/

namespace Store.Tables

variable {tables : Tables} {name : String}

theorem nodup_names_iff : tables.names.Nodup ↔ (tables.stores.map (·.name)).Nodup :=
  ((List.mergeSort_perm _ _).map _).nodup_iff

theorem nodup_names_openStore (distinct : tables.names.Nodup) (name : String) :
    (tables.openStore name).names.Nodup := by
  rw [nodup_names_iff] at distinct ⊢
  unfold openStore
  split
  · exact distinct
  · rename_i hfresh
    rw [isListed_iff] at hfresh
    rw [List.map_append, List.map_singleton]
    refine List.nodup_append.mpr ⟨distinct, List.nodup_singleton _, ?_⟩
    rintro other hmem last hlast rfl
    obtain rfl := List.mem_singleton.mp hlast
    exact hfresh hmem

theorem nodup_names_run (distinct : tables.names.Nodup) (now : Moment) (call : Call) :
    (call.run now tables).2.names.Nodup := by
  cases call with
  | openStore name => exact nodup_names_openStore distinct name
  | put store key response => exact nodup_names_openStore distinct store
  | delete name =>
      rw [nodup_names_iff] at distinct ⊢
      exact distinct.sublist (List.filter_sublist.map _)
  | get | matchAny | names => exact distinct

theorem mem_names_run_of_ne {now : Moment} {call : Call} (hlisted : name ∈ tables.names)
    (hother : call ≠ .delete name) : name ∈ (call.run now tables).2.names := by
  cases call with
  | openStore opened => exact Interleaving.mem_names_openStore.mpr (.inl hlisted)
  | put store key response => exact Interleaving.mem_names_openStore.mpr (.inl hlisted)
  | delete gone =>
      rw [mem_names, isListed_iff] at hlisted ⊢
      obtain ⟨listing, hmem, rfl⟩ := List.mem_map.mp hlisted
      have hstays : listing.name ≠ gone := fun hsame => hother (hsame ▸ rfl)
      exact List.mem_map.mpr ⟨listing, List.mem_filter.mpr ⟨hmem, by simpa using hstays⟩, rfl⟩
  | get | matchAny | names => exact hlisted

end Store.Tables

namespace Interleaving

open Simulation (Activity)

variable {calls : Activity → Prop} {s t : System} {events : List Event} {name : String}
  {number acting : Nat} {answer : Except Store.Failure Bool}

theorem Run.nodup_names (run : Run calls s events t) (distinct : s.tables.names.Nodup) :
    t.tables.names.Nodup := by
  refine run.induction (motive := fun _ t => t.tables.names.Nodup) distinct ?_
  intro events mid event t _ ih step
  obtain hsame | ⟨-, call, -, now, -, -, -, hafter⟩ := step.tables
  · rwa [hsame]
  · rw [hafter]
    exact Store.Tables.nodup_names_run ih now call

/-! ### One call takes a store away -/

/-- Only a call that deletes a store takes it away; it is told so, or it is cut off. -/
theorem Step.removed {event : Event} (step : Step calls s event t)
    (hlisted : name ∈ s.tables.names) (hgone : name ∉ t.tables.names) :
    ∃ acting answer, event = .act acting ⟨.storage (.delete name), answer⟩ ∧
      (answer = .ok true ∨ answer = .error .abandoned) := by
  obtain hsame | ⟨acting, call, answer, now, rfl, -, hanswer, hafter⟩ := step.tables
  · exact absurd (hsame ▸ hlisted) hgone
  · by_cases hdelete : call = .delete name
    · subst hdelete
      have hthere : s.tables.isListed name = true := Store.Tables.mem_names.mp hlisted
      refine ⟨acting, answer, rfl, hanswer.imp_left fun hrun => ?_⟩
      rw [hrun, ← hthere]
      rfl
    · rw [hafter] at hgone
      exact absurd (Store.Tables.mem_names_run_of_ne hlisted hdelete) hgone

theorem Step.told {gone : Bool}
    (step : Step calls s (.act number ⟨.storage (.delete name), .ok gone⟩) t) :
    gone = true ↔ name ∈ s.tables.names := by
  obtain ⟨now, -, hanswer, -⟩ := step.answered
  have hgone : s.tables.isListed name = gone := Except.ok.inj hanswer
  rw [← hgone]
  exact Store.Tables.mem_names.symm

def Closed (name : String) (events : List Event) : Prop :=
  ∀ acting exchange, .act acting exchange ∈ events → ¬exchange.op.Opens name

theorem Closed.of_append {first second : List Event} (closed : Closed name (first ++ second)) :
    Closed name first ∧ Closed name second :=
  ⟨fun acting exchange hmem => closed acting exchange (List.mem_append_left _ hmem),
    fun acting exchange hmem => closed acting exchange (List.mem_append_right _ hmem)⟩

theorem Closed.tail {event : Event} (closed : Closed name (event :: events)) :
    Closed name events :=
  fun acting exchange hmem => closed acting exchange (List.mem_cons_of_mem _ hmem)

theorem Run.not_mem_names (run : Run calls s events t) (closed : Closed name events)
    (hgone : name ∉ s.tables.names) : name ∉ t.tables.names := by
  intro hlisted
  obtain hthere | ⟨acting, exchange, hmem, hopens⟩ := run.listed hlisted
  · exact hgone hthere
  · exact closed acting exchange hmem hopens

/-- What was deleted is gone for good, unless somebody lists it again. -/
theorem Run.gone_of_deleted (run : Run calls s events t) (closed : Closed name events) {gone : Bool}
    (hmem : .act acting ⟨.storage (.delete name), .ok gone⟩ ∈ events) :
    name ∉ t.tables.names := by
  obtain ⟨before, after, rfl⟩ := List.append_of_mem hmem
  obtain ⟨mid, -, next, step, rest⟩ := run_append.mp run
  exact Run.not_mem_names rest closed.of_append.2.tail step.deleted

/-- In the run this call took the store away: it was told so, or it was cut off. Nobody deleted the
store before without failing, and whoever deleted it afterwards was told that there was none. -/
def RemovedBy (name : String) (events : List Event) (acting : Nat)
    (answer : Except Store.Failure Bool) : Prop :=
  (answer = .ok true ∨ answer = .error .abandoned) ∧
    ∃ before after, events = before ++ .act acting ⟨.storage (.delete name), answer⟩ :: after ∧
      (∀ other gone, .act other ⟨.storage (.delete name), .ok gone⟩ ∉ before) ∧
      ∀ other gone, .act other ⟨.storage (.delete name), .ok gone⟩ ∈ after → gone = false

theorem RemovedBy.mem (removed : RemovedBy name events acting answer) :
    .act acting ⟨.storage (.delete name), answer⟩ ∈ events := by
  obtain ⟨-, before, after, rfl, -⟩ := removed
  exact List.mem_append_right _ List.mem_cons_self

/-- Whoever is told that it took the store away is the one that did. -/
theorem RemovedBy.of_told (removed : RemovedBy name events acting answer)
    (hmem : .act number ⟨.storage (.delete name), .ok true⟩ ∈ events) :
    number = acting ∧ answer = .ok true := by
  obtain ⟨-, before, after, rfl, hbefore, hafter⟩ := removed
  obtain hearly | hrest := List.mem_append.mp hmem
  · exact absurd hearly (hbefore number true)
  obtain hthis | hlate := List.mem_cons.mp hrest
  · simpa [eq_comm] using hthis
  · exact absurd (hafter number true hlate) (by decide)

/-- A call that deletes a name only once took the store away itself if it was told so, and otherwise
another one did. -/
theorem RemovedBy.own_or_other {exchanges : List Exchange} {gone : Bool}
    (removed : RemovedBy name events acting answer) (asked : history number events = exchanges)
    (once : (exchanges.map (·.op)).Nodup)
    (hown : ⟨.storage (.delete name), .ok gone⟩ ∈ exchanges) :
    (acting = number ∧ gone = true) ∨ (acting ≠ number ∧ gone = false) := by
  by_cases hacting : acting = number
  · subst hacting
    have hremoval := removed.mem
    rw [← mem_history, asked] at hremoval
    have honly := List.inj_on_of_nodup_map once hremoval hown rfl
    obtain rfl : answer = .ok gone := by simpa using honly
    exact .inl ⟨rfl, by simpa using removed.1⟩
  · refine .inr ⟨hacting, Bool.eq_false_iff.mpr fun htold => ?_⟩
    subst htold
    rw [← asked, mem_history] at hown
    exact hacting (removed.of_told hown).1.symm

/-- **Every store that is taken away is taken away by exactly one call.** -/
theorem Run.removedBy (run : Run calls s events t) (closed : Closed name events)
    (hlisted : name ∈ s.tables.names) (hgone : name ∉ t.tables.names) :
    ∃ acting answer, RemovedBy name events acting answer := by
  refine run.induction (motive := fun events t => Closed name events → name ∉ t.tables.names →
    ∃ acting answer, RemovedBy name events acting answer)
    (fun _ hgone => absurd hlisted hgone) ?_ closed hgone
  intro events mid event t before ih step closed hgone
  by_cases hthere : name ∈ mid.tables.names
  · obtain ⟨acting, answer, rfl, htook⟩ := step.removed hthere hgone
    refine ⟨acting, answer, htook, events, [], rfl, ?_, fun _ _ hmem => ?_⟩
    · intro other gone hmem
      exact before.gone_of_deleted closed.of_append.1 hmem hthere
    · exact absurd hmem List.not_mem_nil
  · obtain ⟨acting, answer, htook, first, last, rfl, hfirst, hlast⟩ :=
      ih closed.of_append.1 hthere
    refine ⟨acting, answer, htook, first, last ++ [event], by simp, hfirst, ?_⟩
    intro other gone hmem
    obtain hold | hnew := List.mem_append.mp hmem
    · exact hlast other gone hold
    · obtain rfl := List.mem_singleton.mp hnew
      exact Bool.eq_false_iff.mpr fun htrue => hthere (step.told.mp htrue)

/-! ### What a clearing gives -/

/-- **A clearing gives the stale stores whose deletion did not fail, and each of them is gone, taken
away by exactly one call.** It is this one, which then was told so; or it is another that came
between its look at the list and its deletion, and then this call was told that there was no such
store and gives it all the same. -/
theorem deletions_reported (run : Run calls s events t) (distinct : s.tables.names.Nodup)
    {whitelist reported : List String} {first second : List Exchange}
    (asked : history number events = first ++ second)
    (cleared : Work.Leads (Stores.reconcile whitelist) first (.done (.ok reported)))
    (closed : ∀ name, Closed name events) :
    (∀ name ∈ s.tables.names, name ∉ t.tables.names →
        ∃ acting answer, RemovedBy name events acting answer) ∧
      reported.Nodup ∧
      (∀ name, name ∈ reported ↔ ∃ gone, ⟨.storage (.delete name), .ok gone⟩ ∈ first) ∧
      ∀ name ∈ reported, name ∉ whitelist ∧ name ∉ t.tables.names ∧
        ∃ before found during after,
          events = before ++ .act number ⟨.storage .names, .ok found⟩ :: (during ++ after) ∧
            history number after = second ∧ name ∈ found ∧
            ∃ acting answer, RemovedBy name during acting answer ∧
              ((acting = number ∧ ⟨.storage (.delete name), .ok true⟩ ∈ first) ∨
                (acting ≠ number ∧ ⟨.storage (.delete name), .ok false⟩ ∈ first)) := by
  obtain ⟨found, deletions, rfl, hdeletions⟩ := Stores.of_leads_reconcile cleared
  obtain ⟨hops, hreported⟩ := Stores.of_leads_deleteStale hdeletions
  obtain ⟨before, rest, rfl, -, hrest⟩ := history_eq_cons asked
  obtain ⟨during, after, rfl, hduring, hafter⟩ := history_eq_append hrest
  obtain ⟨mid, lead, next, look, past⟩ := run_append.mp run
  obtain ⟨rfl, hsame⟩ := look.enumerated
  obtain ⟨cleared, window, -⟩ := run_append.mp past
  have hdistinct := lead.nodup_names distinct
  have hclosed (name : String) : Closed name (during ++ after) := (closed name).of_append.2.tail
  refine ⟨fun name => run.removedBy (closed name), Stores.nodup_reported hdistinct hdeletions,
    fun name => ?_, fun name hname => ?_⟩
  · rw [Stores.mem_iff_of_leads_deleteStale hdeletions]
    simp
  · obtain ⟨gone, hown⟩ := (Stores.mem_iff_of_leads_deleteStale hdeletions name).mp hname
    have hstale : name ∈ mid.tables.names ∧ name ∉ whitelist := by
      have hop := List.mem_map_of_mem (f := (·.op)) hown
      rw [(Stores.of_leads_deleteStale hdeletions).1] at hop
      simpa using hop
    have hevent : .act number ⟨.storage (.delete name), .ok gone⟩ ∈ during := by
      rwa [← mem_history, hduring]
    have hlisted : name ∈ next.tables.names := hsame ▸ hstale.1
    obtain ⟨acting, answer, removed⟩ := window.removedBy (hclosed name).of_append.1 hlisted
      (window.gone_of_deleted (hclosed name).of_append.1 hevent)
    refine ⟨hstale.2, past.gone_of_deleted (hclosed name) (List.mem_append_left _ hevent),
      before, _, during, after, rfl, hafter, hstale.1, acting, answer, removed, ?_⟩
    -- The names that were found differ, so this call deletes each of them once.
    have honce := Stores.nodup_of_leads_deleteStale hdistinct hdeletions
    obtain ⟨hacting, rfl⟩ | ⟨hacting, rfl⟩ := removed.own_or_other hduring honce hown
    · exact .inl ⟨hacting, List.mem_cons_of_mem _ hown⟩
    · exact .inr ⟨hacting, List.mem_cons_of_mem _ hown⟩

namespace Depot

open Moment (isClock_noon)

def shelves : Store.Tables := Store.Tables.empty.openStore "old"

/-- Two clearings have begun on a single store. -/
def pair : System :=
  ((System.new [] shelves).begin (.reconcile [])).begin (.reconcile [])

def clearing (gone : Bool) : List Exchange :=
  [⟨.storage .names, .ok ["old"]⟩, ⟨.storage (.delete "old"), .ok gone⟩]

/-- Both look at the list before one of them deletes anything. -/
def race : List Event :=
  [.act 0 ⟨.storage .names, .ok ["old"]⟩, .act 1 ⟨.storage .names, .ok ["old"]⟩,
    .act 0 ⟨.storage (.delete "old"), .ok true⟩, .act 1 ⟨.storage (.delete "old"), .ok false⟩]

theorem names_shelves : shelves.names = ["old"] :=
  Store.Tables.names_empty_openStore "old"

theorem leads_clearing (gone : Bool) :
    Work.Leads (Stores.reconcile []) (clearing gone) (.done (.ok ["old"])) :=
  .step (.step (.refl _))

theorem closed_race (name : String) : Closed name race := by
  intro acting exchange hmem hopens
  simp only [race, List.mem_cons, List.not_mem_nil, or_false, Event.act.injEq] at hmem
  obtain ⟨-, rfl⟩ | ⟨-, rfl⟩ | ⟨-, rfl⟩ | ⟨-, rfl⟩ := hmem <;> exact hopens

theorem run_race : ∃ t, Run (fun _ => True) pair race t ∧
    t.tasks.map (·.work) = [.done (.names ["old"]), .done (.names ["old"])] :=
  ⟨_, ⟨_, .act rfl (.enumerated names_shelves), _, .act rfl (.enumerated names_shelves),
    _, .act rfl (.performed isClock_noon rfl), _, .act rfl (.performed isClock_noon rfl), rfl⟩, rfl⟩

/-- Both clearings give the store, and it was the first that took it away. -/
theorem deletions_reported_race : ∃ t, Run (fun _ => True) pair race t ∧
    t.tasks.map (·.work) = [.done (.names ["old"]), .done (.names ["old"])] ∧
    ∃ during acting answer, RemovedBy "old" during acting answer ∧ acting ≠ 1 := by
  obtain ⟨t, run, hgiven⟩ := run_race
  have distinct : pair.tables.names.Nodup := by
    change shelves.names.Nodup
    rw [names_shelves]
    exact List.nodup_singleton _
  have asked : history 1 race = clearing false ++ [] := rfl
  obtain ⟨-, -, -, hall⟩ :=
    deletions_reported run distinct asked (leads_clearing false) closed_race
  obtain ⟨-, -, -, -, during, -, -, -, -, acting, answer, removed, hown | hother⟩ :=
    hall "old" List.mem_cons_self
  · simp [clearing] at hown
  · exact ⟨t, run, hgiven, during, acting, answer, removed, hother.1⟩

end Depot

end Interleaving

end OfflineAgent
