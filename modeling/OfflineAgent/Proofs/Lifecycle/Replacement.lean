import OfflineAgent.Proofs.Lifecycle.OwnStores

/-!
# When another version takes over

An activation deletes the stores of all other versions, but nothing stops the work that a superseded
agent still has under way, and some of it writes. So a store of the superseded agent can come back.
Only such work can bring it back, and the loading of the manifest, which does not look at the state:
a superseded agent stays superseded, and handles no request and begins no installation any more.
-/

namespace OfflineAgent

/-- The operation brings no superseded agent back. -/
def Op.Lasting : Op → Prop
  | .lifecycle _ (.advance source _) => source ≠ .redundant
  | _ => True

namespace Lifecycle

open Simulation Interleaving

def OnEither (one other : Agent) (activity : Activity) : Prop :=
  agentOf? activity = some one ∨ agentOf? activity = some other

/-- The call loads the manifest into the store, or hands the agent a request; an installation found
the agent installing, and a request found it active, among the events `before`. -/
def Straggles (agent : Agent) (before : List Event) (name : String) (caller : Nat)
    (activity : Activity) : Prop :=
  (activity.Loads ∧ name = agent.stores.static ∧ (activity = .install agent →
      .act caller ⟨.lifecycle agent.number .read, .installing⟩ ∈ before)) ∨
    (∃ request, activity.request? = some request) ∧
      .act caller ⟨.lifecycle agent.number .read, .active⟩ ∈ before

/-- Among the events `later`, work for a call on the agent that straggles has listed the store. -/
def Relisted (agent : Agent) (before events later : List Event) (t : System) (name : String) :
    Prop :=
  ∃ acting exchange caller activity work,
    .act acting exchange ∈ later ∧ exchange.op.Opens name ∧ WorksFor events t caller acting ∧
      t.tasks[caller]? = some ⟨.call activity, work⟩ ∧ agentOf? activity = some agent ∧
      Straggles agent before name caller activity

/-- Once the first agent is superseded, and then the other has gone through an activation that could
enumerate the stores and delete each that it had to, no store of the first is listed again. -/
def StaysGone (one other : Agent) : Prop :=
  ∀ {tables : Store.Tables} {before after : List Event} {t : System} {superseding number : Nat}
    {found : List String} {deleted : List (String × Except Store.Failure Bool)} {name : String},
    Run (OnEither one other) (.new [one, other] tables)
      (before ++ .act superseding ⟨.lifecycle one.number .supersede, ()⟩ :: after) t →
    activation other (.ok found) deleted <:+: history number after →
    (∀ deletion ∈ deleted, ∃ gone, deletion.2 = .ok gone) →
    name ∈ one.settings.whitelist → name ∉ t.tables.names

/-! ### The stores of two versions -/

theorem not_mem_whitelist_of_ne {one other : Settings}
    (hcache : one.cachePrefix = other.cachePrefix) (hversion : one.version ≠ other.version)
    {name : String} (hname : name ∈ one.whitelist) : name ∉ other.whitelist := by
  intro hother
  have hlists : ∀ settings : Settings, name ∈ settings.whitelist →
      (∃ rest, name.toList = settings.cachePrefix.toList ++ rest ∧
        (rest = "-static-".toList ++ settings.version.toList ∨
          rest = "-dynamic-".toList ++ settings.version.toList)) := by
    intro settings hmem
    obtain rfl | hmem := List.mem_cons.mp hmem
    · exact ⟨_, by simp [Settings.staticStore], .inl rfl⟩
    · obtain rfl := List.mem_singleton.mp hmem
      exact ⟨_, by simp [Settings.dynamicStore], .inr rfl⟩
  obtain ⟨rest, hone, hrest⟩ := hlists one hname
  obtain ⟨rest', hother, hrest'⟩ := hlists other hother
  obtain rfl : rest = rest' := by
    rw [hone, hcache] at hother
    exact List.append_cancel_left hother
  have hsame (start : List Char) (h : rest = start ++ one.version.toList)
      (h' : rest = start ++ other.version.toList) : False := by
    rw [h] at h'
    exact hversion (String.toList_inj.mp (List.append_cancel_left h'))
  obtain hrest | hrest := hrest <;> obtain hrest' | hrest' := hrest'
  · exact hsame _ hrest hrest'
  · rw [hrest] at hrest'
    simp at hrest'
  · rw [hrest] at hrest'
    simp at hrest'
  · exact hsame _ hrest hrest'

/-! ### Superseded for good -/

section

variable {one other agent : Agent} {calls : Activity → Prop} {s t : System}
  {before after events : List Event} {number : Nat}

theorem lasting_of_discipline {retires : Bool} {phase next : Phase} {op : Op} {answer : op.Answer}
    (hallowed : discipline agent retires phase op answer = some next) : op.Lasting := by
  cases op with
  | lifecycle number step =>
      cases step with
      | advance source target =>
          rintro rfl
          obtain ⟨-, hstep⟩ := Option.ite_none_right_eq_some.mp hallowed
          cases phase <;> simp [Phase.afterStep] at hstep
      | _ => exact trivial
  | _ => exact trivial

theorem lasting_of_run (run : Run (OnEither one other) s events t) (fresh : s.tasks = [])
    {exchange : Exchange} (hmem : .act number exchange ∈ events) : exchange.op.Lasting := by
  refine run.asks fresh (fun activity hcalls => ?_) (fun job ticket _ => ?_) hmem
  · obtain hagent | hagent := hcalls <;>
      exact (follows_activity hagent fun _ => rfl).asks fun _ _ _ _ => lasting_of_discipline
  · exact job.asks_work trivial (fun _ _ => trivial) fun _ _ _ => trivial

theorem redundant_of_run (run : Run calls s events t)
    (hlasting : ∀ number exchange, .act number exchange ∈ events → exchange.op.Lasting)
    (hstate : (s.cells agent.number).state = .redundant) :
    (t.cells agent.number).state = .redundant := by
  refine run.induction (motive := fun events t =>
    (∀ number exchange, .act number exchange ∈ events → exchange.op.Lasting) →
      (t.cells agent.number).state = .redundant) (fun _ => hstate) ?_ hlasting
  intro events mid event t _ ih step hlasting
  have hmid := ih fun number exchange hmem => hlasting number exchange (List.mem_append_left _ hmem)
  cases step with
  | call admitted => exact hmid
  | @act next number purpose op rest answer here answers =>
      have hop : op.Lasting := hlasting number ⟨op, answer⟩ (by simp)
      change (next.cells agent.number).state = .redundant
      obtain hsame | ⟨owner, step, rfl, hcells⟩ := answers.cells
      · rw [hsame]
        exact hmid
      · rw [hcells]
        by_cases howner : agent.number = owner
        · subst howner
          rw [Function.update_self]
          cases step with
          | advance source target =>
              have hsource : (mid.cells agent.number).state ≠ source := by
                rw [hmid]
                exact Ne.symm hop
              rw [Step.run_advance_of_ne hsource]
              exact hmid
          | supersede => rfl
          | read | claimInstall | requestSkip | skipRequested => exact hmid
        · rw [Function.update_of_ne howner]
          exact hmid

/-- Whoever found the agent in another state looked before it was superseded. -/
theorem mem_before_of_read {superseding reader : Nat} {state : State}
    (run : Run (OnEither one other) s
      (before ++ .act superseding ⟨.lifecycle agent.number .supersede, ()⟩ :: after) t)
    (fresh : s.tasks = []) (hstate : state ≠ .redundant)
    (hmem : .act reader ⟨.lifecycle agent.number .read, state⟩ ∈
      before ++ .act superseding ⟨.lifecycle agent.number .supersede, ()⟩ :: after) :
    .act reader ⟨.lifecycle agent.number .read, state⟩ ∈ before := by
  have hlasting : ∀ number exchange, .act number exchange ∈
      before ++ .act superseding ⟨.lifecycle agent.number .supersede, ()⟩ :: after →
      exchange.op.Lasting := fun _ _ hexchange => lasting_of_run run fresh hexchange
  obtain hbefore | hlater := List.mem_append.mp hmem
  · exact hbefore
  obtain hsame | hafter := List.mem_cons.mp hlater
  · cases hsame
  obtain ⟨mid, -, retired, step, rest⟩ := run_append.mp run
  have hretired : (retired.cells agent.number).state = .redundant := by
    cases step with
    | act here answers =>
        obtain ⟨-, rfl⟩ := answers
        simp [System.setTask, Step.run]
  obtain ⟨first, last, rfl⟩ := List.append_of_mem hafter
  obtain ⟨reading, lead, _, look, -⟩ := run_append.mp rest
  have hreading : (reading.cells agent.number).state = .redundant := by
    refine redundant_of_run lead (fun number exchange hfirst => ?_) hretired
    exact hlasting number exchange (by simp [hfirst])
  cases look with
  | act here answers =>
      obtain ⟨hread, -⟩ := answers
      exact absurd (hread.trans hreading) hstate

/-! ### Who adds to the stores -/

/-- Only calls that load the manifest or hand the agent a request add anything, and the former add
to the static store alone. -/
theorem loads_or_request_of_adds {activity : Activity} (hagent : agentOf? activity = some agent)
    {history : List Exchange} {left : Work Reply}
    (leads : Work.Leads activity.work history left) {exchange : Exchange}
    (hmem : exchange ∈ history) {name : String} (hadds : exchange.op.store? = some name) :
    (activity.Loads ∧ name = agent.stores.static) ∨
      ∃ request, activity.request? = some request := by
  cases hrequest : activity.request? with
  | some request => exact .inr ⟨request, rfl⟩
  | none =>
      have admits : agent.Admits activity.Loads (fun _ => False) fun op =>
          ∀ name, op.store? = some name → activity.Loads ∧ name = agent.stores.static :=
        { quiet := fun op quiet name hstore => by
            rw [quiet.store?_eq] at hstore
            cases hstore
          opens := fun loads name hstore => ⟨loads, (Option.some.inj hstore).symm⟩
          loads := fun loads _ _ _ name hstore => ⟨loads, (Option.some.inj hstore).symm⟩
          keeps := fun _ _ _ hhandled => hhandled.elim
          revalidates := fun _ hhandled => hhandled.elim }
      have hnone : ∀ request, activity.request? = some request → False := by
        simp [hrequest]
      exact .inl (leads.asks (admits.activity hagent id hnone) exchange hmem name hadds)

theorem installing_of_adds {history : List Exchange} {left : Work Reply}
    (leads : Work.Leads (Activity.install agent).work history left) {exchange : Exchange}
    (hmem : exchange ∈ history) (hadds : ¬exchange.op.IsQuiet) :
    ⟨.lifecycle agent.number .read, .installing⟩ ∈ history := by
  obtain ⟨rfl, -⟩ | ⟨claimed, rest, rfl, hrest⟩ := Work.leads_ask_iff.mp leads
  · cases hmem
  have hlater := (List.mem_cons.mp hmem).resolve_left (by rintro rfl; exact hadds trivial)
  cases claimed with
  | true =>
      obtain ⟨rfl, -⟩ := Work.leads_done_iff.mp (show Work.Leads (.done _) rest left from hrest)
      cases hlater
  | false =>
      obtain ⟨rfl, -⟩ | ⟨state, later, rfl, hnext⟩ := Work.leads_ask_iff.mp hrest
      · cases hlater
      by_cases hstate : state = .installing
      · subst hstate
        exact List.mem_cons_of_mem _ List.mem_cons_self
      · change Work.Leads (Work.bind (if state ≠ .installing then _ else _) _) later left at hnext
        rw [if_pos hstate] at hnext
        obtain ⟨rfl, -⟩ := Work.leads_done_iff.mp hnext
        obtain rfl := List.mem_singleton.mp hlater
        exact absurd trivial hadds

theorem active_of_handle {request : Request} {history : List Exchange} {left : Work Verdict}
    (leads : Work.Leads (agent.handle request) history left) {exchange : Exchange}
    (hmem : exchange ∈ history) (hadds : ¬exchange.op.IsQuiet) :
    ⟨.lifecycle agent.number .read, .active⟩ ∈ history := by
  obtain ⟨rfl, -⟩ | ⟨state, rest, rfl, ⟨rfl, -⟩ | ⟨kind, rfl, -⟩⟩ := leads_handle leads
  · cases hmem
  · obtain rfl := List.mem_singleton.mp hmem
    exact absurd trivial hadds
  · exact List.mem_cons_self

theorem active_of_adds {activity : Activity} (hagent : agentOf? activity = some agent)
    {request : Request} (hrequest : activity.request? = some request) {history : List Exchange}
    {left : Work Reply} (leads : Work.Leads activity.work history left) {exchange : Exchange}
    (hmem : exchange ∈ history) (hadds : ¬exchange.op.IsQuiet) :
    ⟨.lifecycle agent.number .read, .active⟩ ∈ history := by
  cases activity with
  | fetch handler handled =>
      obtain rfl := Option.some.inj hagent
      obtain rfl := Option.some.inj hrequest
      rw [fetch_work_eq] at leads
      obtain ⟨rest, hrest, -⟩ := Work.leads_bind_done leads
      exact active_of_handle hrest hmem hadds
  | serve handler incoming =>
      obtain rfl := Option.some.inj hagent
      rw [serve_work_eq hrequest] at leads
      obtain ⟨rest, hrest, -⟩ := Work.leads_bind_done leads
      obtain ⟨rest, hhandle, -⟩ | ⟨first, second, verdict, rfl, hhandle, hrelay⟩ :=
        Work.leads_bind hrest
      · exact active_of_handle hhandle hmem hadds
      · have hquiet : (Server.relay request verdict).Asks Op.IsQuiet := by
          cases verdict with
          | respond served => exact trivial
          | passThrough =>
              refine ⟨trivial, fun answer => ?_⟩
              cases answer <;> exact trivial
        have hfirst : exchange ∈ first := (List.mem_append.mp hmem).resolve_right fun hsecond =>
          hadds (hrelay.asks hquiet exchange hsecond)
        exact List.mem_append_left _ (active_of_handle hhandle hfirst hadds)
  | _ => cases hrequest

end

/-! ### Whose work it is -/

section

variable {one other : Agent} {s t : System} {before after events : List Event}
  {acting caller number : Nat} {activity : Activity} {work : Work Reply} {exchange : Exchange}
  {name : String}

theorem straggles_of_adds {superseding : Nat}
    (run : Run (OnEither one other) s
      (before ++ .act superseding ⟨.lifecycle one.number .supersede, ()⟩ :: after) t)
    (fresh : s.tasks = []) (here : t.tasks[caller]? = some ⟨.call activity, work⟩)
    (hagent : agentOf? activity = some one)
    (hmem : .act caller exchange ∈
      before ++ .act superseding ⟨.lifecycle one.number .supersede, ()⟩ :: after)
    (hadds : exchange.op.store? = some name) : Straggles one before name caller activity := by
  obtain ⟨leads, -⟩ := run.leads fresh caller _ here
  have hexchange := mem_history.mpr hmem
  have hnot : ¬exchange.op.IsQuiet := by
    intro quiet
    rw [quiet.store?_eq] at hadds
    cases hadds
  obtain ⟨hloads, hstatic⟩ | ⟨request, hrequest⟩ :=
    loads_or_request_of_adds hagent leads hexchange hadds
  · refine .inl ⟨hloads, hstatic, ?_⟩
    rintro rfl
    have hread := mem_history.mp (installing_of_adds leads hexchange hnot)
    exact mem_before_of_read run fresh nofun hread
  · have hread := mem_history.mp (active_of_adds hagent hrequest leads hexchange hnot)
    exact .inr ⟨⟨request, hrequest⟩, mem_before_of_read run fresh nofun hread⟩

/-- What adds to no store of one agent is done by a call on the other. -/
theorem agentOf?_of_adds (run : Run (OnEither one other) s events t) (fresh : s.tasks = [])
    (here : t.tasks[caller]? = some ⟨.call activity, work⟩) (hmem : .act caller exchange ∈ events)
    (hadds : exchange.op.store? = some name) (hforeign : name ∉ other.settings.whitelist) :
    agentOf? activity = some one := by
  obtain ⟨leads, hadmitted⟩ := run.leads fresh caller _ here
  refine Or.resolve_right hadmitted fun hagent => hforeign ?_
  have hkeeps : activity.work.Asks (Op.KeepsTo other.settings.whitelist) :=
    other.admits_keepsTo.activity hagent (fun _ => trivial) fun _ _ => trivial
  exact leads.asks hkeeps exchange (mem_history.mpr hmem) name hadds

/-- Whatever lists a store of the superseded agent is done for a call on it that straggles. -/
theorem straggler_of_opens {superseding : Nat}
    (run : Run (OnEither one other) s
      (before ++ .act superseding ⟨.lifecycle one.number .supersede, ()⟩ :: after) t)
    (fresh : s.tasks = []) (hforeign : name ∉ other.settings.whitelist)
    (hmem : .act acting exchange ∈
      before ++ .act superseding ⟨.lifecycle one.number .supersede, ()⟩ :: after)
    (hopens : exchange.op.Opens name) :
    ∃ caller activity work,
      WorksFor (before ++ .act superseding ⟨.lifecycle one.number .supersede, ()⟩ :: after) t caller
        acting ∧
      t.tasks[caller]? = some ⟨.call activity, work⟩ ∧ agentOf? activity = some one ∧
      Straggles one before name caller activity := by
  obtain ⟨⟨purpose, work⟩, here⟩ := run.exists_task hmem
  cases purpose with
  | call activity =>
      have hagent := agentOf?_of_adds run fresh here hmem hopens.store?_eq hforeign
      have hstraggles := straggles_of_adds run fresh here hagent hmem hopens.store?_eq
      exact ⟨acting, activity, work, .inl rfl, here, hagent, hstraggles⟩
  | background job ticket =>
      obtain ⟨leads, -⟩ := run.leads fresh acting _ here
      have hkeeps : (Purpose.background job ticket).work.Asks (Op.KeepsTo [job.store]) :=
        (Job.keepsTo List.mem_cons_self).bind fun _ => trivial
      have hstore : name ∈ [job.store] :=
        leads.asks hkeeps _ (mem_history.mpr hmem) name hopens.store?_eq
      obtain rfl := List.mem_singleton.mp hstore
      obtain ⟨caller, hstart⟩ := run.started fresh here
      obtain ⟨activity, left, hcaller⟩ := run.call_of_started fresh hstart
      have hagent := agentOf?_of_adds run fresh hcaller hstart rfl hforeign
      have hstraggles := straggles_of_adds run fresh hcaller hagent hstart rfl
      exact ⟨caller, activity, left, .inr ⟨job, ticket, work, hstart, here⟩, hcaller, hagent,
        hstraggles⟩

/-! ### What an activation has deleted -/

theorem after_deletions {agent : Agent} {retires : Bool} {todo : List String}
    {deleted : List (String × Except Store.Failure Bool)} {last : Phase}
    (hafter : (discipline agent retires).after (.clearing (some todo)) (deletions deleted) =
      some last) :
    ∃ rest, todo = deleted.map Prod.fst ++ rest ∧ last = .clearing (some rest) := by
  induction deleted generalizing todo with
  | nil => exact ⟨todo, rfl, (Option.some.inj hafter).symm⟩
  | cons deletion deleted ih =>
      obtain ⟨next, hnext, hrest⟩ := Option.bind_eq_some_iff.mp hafter
      cases todo with
      | nil => simp [discipline, Phase.afterCall, Phase.isFree] at hnext
      | cons name todo =>
          obtain ⟨rfl, hclearing⟩ := Option.ite_none_right_eq_some.mp hnext
          obtain rfl := Option.some.inj hclearing
          obtain ⟨rest, rfl, rfl⟩ := ih hrest
          exact ⟨rest, rfl, rfl⟩

/-- An activation that has come to its end has an answer for every stale store. -/
theorem stale_of_after {agent : Agent} {retires : Bool} {phase last : Phase}
    {found : Except Store.Failure (List String)}
    {deleted : List (String × Except Store.Failure Bool)}
    (hafter : (discipline agent retires).after phase (activation agent found deleted) =
      some last) :
    deleted.map Prod.fst = stale agent found := by
  rw [activation, Discipline.after_cons] at hafter
  obtain ⟨begun, hbegun, hrest⟩ := Option.bind_eq_some_iff.mp hafter
  have hclearing : .clearing none = begun := by
    have hstep := (Option.ite_none_right_eq_some.mp hbegun).2
    cases phase with
    | idle | wanting => exact Option.some.inj hstep
    | clearing todo => cases todo with
      | none => cases hstep
      | some names => cases names <;> cases hstep
    | _ => cases hstep
  subst hclearing
  rw [Discipline.after_cons] at hrest
  obtain ⟨listed, hlisted, hdeletions⟩ := Option.bind_eq_some_iff.mp hrest
  obtain rfl : .clearing (some (stale agent found)) = listed := Option.some.inj hlisted
  rw [Discipline.after_concat] at hdeletions
  obtain ⟨cleared, hcleared, hfinish⟩ := Option.bind_eq_some_iff.mp hdeletions
  obtain ⟨rest, hstale, rfl⟩ := after_deletions hcleared
  obtain ⟨-, hstep⟩ := Option.ite_none_right_eq_some.mp hfinish
  cases rest with
  | nil => rw [hstale, List.append_nil]
  | cons name rest => cases hstep

/-- Only a call on an agent activates it, and then it has an answer for every stale store. -/
theorem stale_of_activation (run : Run (OnEither one other) s events t) (fresh : s.tasks = [])
    (hnumber : one.number ≠ other.number) {found : Except Store.Failure (List String)}
    {deleted : List (String × Except Store.Failure Bool)}
    (hactivation : activation other found deleted <:+: history number events) :
    deleted.map Prod.fst = stale other found := by
  have hbegins : beginning other ∈ history number events :=
    hactivation.subset List.mem_cons_self
  obtain ⟨⟨purpose, work⟩, here⟩ := run.exists_task (mem_history.mp hbegins)
  obtain ⟨leads, hadmitted⟩ := run.leads fresh number _ here
  cases purpose with
  | background job ticket =>
      have hneutral : (Purpose.background job ticket).work.Asks Neutral :=
        (neutral_job job ticket).bind fun _ => trivial
      exact (leads.asks hneutral _ hbegins).elim
  | call activity =>
      obtain hagent | hagent := hadmitted
      · obtain ⟨last, hafter, -⟩ := leads.follows (follows_activity hagent fun _ => rfl)
        obtain ⟨_, _, phase, next, -, -, hallowed⟩ := Discipline.before_of_mem hafter hbegins
        obtain ⟨hsame, -⟩ := Option.ite_none_right_eq_some.mp hallowed
        exact absurd hsame.symm hnumber
      · obtain ⟨last, hafter, -⟩ := leads.follows (follows_activity hagent fun _ => rfl)
        obtain ⟨lead, tail, hhistory⟩ := hactivation
        rw [← hhistory, Discipline.after_append] at hafter
        obtain ⟨_, hlead, -⟩ := Option.bind_eq_some_iff.mp hafter
        rw [Discipline.after_append] at hlead
        obtain ⟨phase, -, hwhole⟩ := Option.bind_eq_some_iff.mp hlead
        exact stale_of_after hwhole

/-- **Only stragglers bring a superseded version back.** In every run of any calls on two agents of
one prefix and different versions, on stores that hold anything at first, with any faults and in any
order, in which one of them is superseded and the other goes through an activation that could
enumerate the stores and delete each that it had to: if a store of the superseded agent is listed,
it was listed after that enumeration, and for a call on the superseded agent that straggles. Either
the call hands it a request and had found it active before it was superseded, or the call loads the
manifest into the static store; and an installation had found it installing before. -/
theorem relisted_by_straggler {tables : Store.Tables} {superseding : Nat}
    {deleted : List (String × Except Store.Failure Bool)} {found : List String}
    (run : Run (OnEither one other) (.new [one, other] tables)
      (before ++ .act superseding ⟨.lifecycle one.number .supersede, ()⟩ :: after) t)
    (hnumber : one.number ≠ other.number)
    (hcache : one.settings.cachePrefix = other.settings.cachePrefix)
    (hversion : one.settings.version ≠ other.settings.version)
    (hactivation : activation other (.ok found) deleted <:+: history number
      (before ++ .act superseding ⟨.lifecycle one.number .supersede, ()⟩ :: after))
    (hdeleted : ∀ deletion ∈ deleted, ∃ gone, deletion.2 = .ok gone)
    (hname : name ∈ one.settings.whitelist) (hlisted : name ∈ t.tables.names) :
    ∃ first later,
      before ++ .act superseding ⟨.lifecycle one.number .supersede, ()⟩ :: after =
        first ++ .act number ⟨.storage .names, .ok found⟩ :: later ∧
      Relisted one before
        (before ++ .act superseding ⟨.lifecycle one.number .supersede, ()⟩ :: after) later t
        name := by
  have hforeign := not_mem_whitelist_of_ne hcache hversion hname
  have hstale := stale_of_activation run rfl hnumber hactivation
  obtain ⟨first, later, hevents, acting, exchange, hlater, hopens⟩ :=
    opened_after_activation run hactivation hstale hdeleted hforeign hlisted
  refine ⟨first, later, hevents, ?_⟩
  have hmem : .act acting exchange ∈
      before ++ .act superseding ⟨.lifecycle one.number .supersede, ()⟩ :: after := by
    rw [hevents]
    exact List.mem_append_right _ (List.mem_cons_of_mem _ hlater)
  obtain ⟨caller, activity, work, hworks, here, hagent, hstraggles⟩ :=
    straggler_of_opens run rfl hforeign hmem hopens
  exact ⟨acting, exchange, caller, activity, work, hlater, hopens, hworks, here, hagent,
    hstraggles⟩

end

/-! ### A takeover while a revalidation is under way -/

namespace Takeover

open Kiosk (kiosk frontPage page looking exists_leads_looking installing leads_installing
  isStorable_frontPage)
open Moment (noon isClock_noon)

def successor : Agent where
  number := 1
  settings := { kiosk.settings with version := "v2" }
  origin := kiosk.origin

/-- The successor cannot open its store, and finds one of the kiosk. -/
def succeeding : List Exchange :=
  installation successor [⟨.storage (.openStore successor.stores.static), .error .unavailable⟩]
    true ++ activation successor (.ok [kiosk.stores.static]) [(kiosk.stores.static, .ok true)]

/-- The network takes its time. -/
def revalidating : List Exchange :=
  Job.refreshing kiosk.stores.dynamic frontPage 0 (.ok page) (.ok ())

def syncing : List Exchange := [⟨.storage (.openStore kiosk.stores.static), .ok ()⟩]

/-- The kiosk has listed its static store, and waits for the network. -/
def before : List Event :=
  [Event.call (.install kiosk)] ++ (installing (.ok ())).map (.act 0) ++
    [.call (.fetch kiosk frontPage)] ++ (looking frontPage (.error .unavailable)).map (.act 1) ++
    [.call (.supersede kiosk)]

def after : List Event :=
  [Event.call (.install successor)] ++ succeeding.map (.act 4) ++ revalidating.map (.act 2) ++
    [.call (.sync kiosk kiosk.settings.syncTag)] ++ syncing.map (.act 5)

theorem leads_succeeding :
    Work.Leads (Activity.install successor).work succeeding (.done (.report (some ⟨[], []⟩))) :=
  (leads_install_of_asked (leads_precache_of_nil (by rfl) _)
    (leads_activate (by decide))).bind_of_done _

theorem leads_syncing :
    Work.Leads (Activity.sync kiosk kiosk.settings.syncTag).work syncing
      (.done (.report (some ⟨[], []⟩))) := by
  have hloading : Work.Leads kiosk.precache syncing (.done .empty) := leads_precache_of_nil rfl _
  have hsync : Work.Leads (kiosk.sync kiosk.settings.syncTag) syncing (.done (some .empty)) := by
    rw [Agent.sync, if_pos rfl]
    exact hloading.bind_of_done _
  exact hsync.bind_of_done _

def listed : Store.Tables := Store.Tables.empty.openStore kiosk.stores.static

/-- What the late revalidation writes, and the sync lists. -/
def relisted : Store.Tables :=
  ((listed.delete kiosk.stores.static).put kiosk.stores.dynamic (.ofRequest frontPage) page
    noon).openStore kiosk.stores.static

theorem names_listed : listed.names = [kiosk.stores.static] :=
  Store.Tables.names_empty_openStore _

theorem mem_names_relisted {name : String} (hname : name ∈ kiosk.settings.whitelist) :
    name ∈ relisted.names := by
  have hput : ((listed.delete kiosk.stores.static).put kiosk.stores.dynamic (.ofRequest frontPage)
      page noon).names =
      ((listed.delete kiosk.stores.static).openStore kiosk.stores.dynamic).names := rfl
  rw [relisted, mem_names_openStore, hput, mem_names_openStore]
  obtain rfl | hname := List.mem_cons.mp hname
  · exact .inr rfl
  · obtain rfl := List.mem_singleton.mp hname
    exact .inl (.inr rfl)

theorem takeover_runs :
    ∃ t, Run (OnEither kiosk successor) (.new [kiosk, successor] .empty)
        (before ++ .act 3 ⟨.lifecycle kiosk.number .supersede, ()⟩ :: after) t ∧
      t.tables = relisted := by
  obtain ⟨asked, hlooking⟩ := exists_leads_looking (.error .unavailable) nofun
  have hdeleted : listed.isListed kiosk.stores.static = true := by
    rw [← Store.Tables.mem_names, names_listed]
    exact List.mem_cons_self
  have lead : Run (OnEither kiosk successor) (.new [kiosk, successor] .empty) before _ :=
    .append (.append (.append (.append (.call (.inl rfl))
      (.of_leads (leads_installing _) rfl ⟨_, .moved rfl, _, .moved rfl,
        _, .performed isClock_noon rfl, _, .moved rfl, _, .moved rfl, _, .moved rfl,
        _, .failed _, _, .moved rfl, rfl⟩))
      (.call (.inl rfl)))
      (.of_leads hlooking rfl ⟨_, .moved rfl, _, .failed _, _, .begun rfl, rfl⟩))
      (.call (.inl rfl))
  refine ⟨_, lead.append ⟨_, .act rfl (.moved rfl), .append (.append (.append (.append
    (.call (.inr rfl))
    (.of_leads leads_succeeding rfl ⟨_, .moved rfl, _, .moved rfl, _, .failed _,
      _, .moved rfl, _, .moved rfl, _, .moved rfl, _, .enumerated names_listed,
      _, .performed isClock_noon (congrArg Except.ok hdeleted.symm), _, .moved rfl, rfl⟩))
    (.of_leads (Purpose.leads_revalidate isStorable_frontPage (.ok page) (.ok ())) rfl
      ⟨_, .fetched _, _, .reported, _, .performed isClock_noon rfl, rfl⟩))
    (.call (.inl rfl)))
    (.of_leads leads_syncing rfl ⟨_, .performed isClock_noon rfl, rfl⟩)⟩, rfl⟩

theorem activation_after : activation successor (.ok [kiosk.stores.static])
    [(kiosk.stores.static, .ok true)] <:+: history 4 after :=
  ⟨installation successor
    [⟨.storage (.openStore successor.stores.static), .error .unavailable⟩] true, [], rfl⟩

theorem deleted_after : ∀ deletion ∈
    [(kiosk.stores.static, (.ok true : Except Store.Failure Bool))],
    ∃ gone, deletion.2 = .ok gone := by
  rintro deletion hmem
  obtain rfl := List.mem_singleton.mp hmem
  exact ⟨true, rfl⟩

theorem version_ne : kiosk.settings.version ≠ successor.settings.version := by decide

/-- The stores of a superseded agent do come back: a late revalidation and a sync list them. -/
theorem not_staysGone : kiosk.number ≠ successor.number ∧
    kiosk.settings.cachePrefix = successor.settings.cachePrefix ∧
    kiosk.settings.version ≠ successor.settings.version ∧ ¬StaysGone kiosk successor := by
  refine ⟨by decide, rfl, version_ne, fun staysGone => ?_⟩
  obtain ⟨t, run, htables⟩ := takeover_runs
  refine staysGone run activation_after deleted_after Agent.dynamic_mem_whitelist ?_
  rw [htables]
  exact mem_names_relisted Agent.dynamic_mem_whitelist

theorem relisted_by_revalidation :
    ∃ t first later, Run (OnEither kiosk successor) (.new [kiosk, successor] .empty)
        (before ++ .act 3 ⟨.lifecycle kiosk.number .supersede, ()⟩ :: after) t ∧
      before ++ .act 3 ⟨.lifecycle kiosk.number .supersede, ()⟩ :: after =
        first ++ .act 4 ⟨.storage .names, .ok [kiosk.stores.static]⟩ :: later ∧
      Relisted kiosk before (before ++ .act 3 ⟨.lifecycle kiosk.number .supersede, ()⟩ :: after)
        later t kiosk.stores.dynamic := by
  obtain ⟨t, run, htables⟩ := takeover_runs
  have hactivation : activation successor (.ok [kiosk.stores.static])
      [(kiosk.stores.static, .ok true)] <:+: history 4
        (before ++ .act 3 ⟨.lifecycle kiosk.number .supersede, ()⟩ :: after) := activation_after
  have hlisted : kiosk.stores.dynamic ∈ t.tables.names := by
    rw [htables]
    exact mem_names_relisted Agent.dynamic_mem_whitelist
  obtain ⟨first, later, hevents, relisted⟩ := relisted_by_straggler run (by decide) rfl version_ne
    hactivation deleted_after Agent.dynamic_mem_whitelist hlisted
  exact ⟨t, first, later, run, hevents, relisted⟩

end Takeover

end Lifecycle

end OfflineAgent
