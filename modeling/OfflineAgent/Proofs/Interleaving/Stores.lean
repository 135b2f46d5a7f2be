import OfflineAgent.Proofs.Interleaving.System
import OfflineAgent.Proofs.Store.Lookup

/-!
# The stores in a run

Only the calls of a run change the stores, so what every call keeps holds at the end of the run if
it held at its start.
-/

namespace OfflineAgent.Interleaving

open Store (Key Entry)

variable {calls : Simulation.Activity → Prop} {s t : System} {events : List Event}

/-- A step leaves the stores alone, or is a call on them that was not refused. -/
theorem Step.tables {event : Event} (step : Step calls s event t) :
    t.tables = s.tables ∨
      ∃ number call answer now, event = .act number ⟨.storage call, answer⟩ ∧ now.IsClock ∧
        (answer = (call.run now s.tables).1 ∨ answer = .error .abandoned) ∧
        t.tables = (call.run now s.tables).2 := by
  cases step with
  | call admitted => exact .inl rfl
  | @act mid number purpose op next answer here answers =>
      cases op with
      | storage call =>
          obtain ⟨failure, -, rfl⟩ | ⟨now, hclock, hanswer, rfl⟩ := answers
          · exact .inl rfl
          · exact .inr ⟨number, call, answer, now, rfl, hclock, hanswer, rfl⟩
      | fetch request =>
          obtain rfl := answers
          exact .inl rfl
      | lifecycle agent step =>
          obtain ⟨-, rfl⟩ := answers
          exact .inl rfl
      | start job =>
          obtain ⟨-, rfl⟩ := answers
          exact .inl rfl
      | report channel ticket outcome =>
          obtain rfl := answers
          exact .inl rfl
      | await channel ticket =>
          obtain ⟨-, rfl⟩ := answers
          exact .inl rfl

theorem Step.intact {event : Event} (step : Step calls s event t) (intact : s.tables.Intact) :
    t.tables.Intact := by
  obtain hsame | ⟨-, call, -, now, -, hclock, -, hafter⟩ := step.tables
  · rwa [hsame]
  · rw [hafter]
    exact intact.run hclock call

theorem Run.intact (run : Run calls s events t) (intact : s.tables.Intact) : t.tables.Intact :=
  run.induction (motive := fun _ t => t.tables.Intact) intact
    fun _ _ _ _ _ before step => step.intact before

/-- The event may have changed what is found under a hash. A call that was cut off may have. -/
def Event.Disturbs (hash : String) : Event → Prop
  | .act _ ⟨.storage asked, answer⟩ =>
    asked.Disturbs hash ∧ ∀ failure, answer = .error failure → failure = .abandoned
  | _ => False

/-- A call that writes is done and answered, or cut off, or it leaves no trace. -/
theorem Step.performed {event : Event} (step : Step calls s event t) :
    t.tables = s.tables ∨
      ∃ number call answer now, event = .act number ⟨.storage call, answer⟩ ∧ now.IsClock ∧
        (call.Writes → ∀ failure, answer = .error failure → failure = .abandoned) ∧
        t.tables = (call.run now s.tables).2 := by
  obtain hsame | ⟨number, call, answer, now, rfl, hclock, hanswer, hafter⟩ := step.tables
  · exact .inl hsame
  · refine .inr ⟨number, call, answer, now, rfl, hclock, ?_, hafter⟩
    rintro writes failure rfl
    obtain hrun | hcut := hanswer
    · obtain ⟨value, hvalue⟩ := writes.answers now s.tables
      rw [hvalue] at hrun
      cases hrun
    · exact Except.error.inj hcut

theorem Step.answered {number : Nat} {call : Store.Call} {value : call.Answer}
    (step : Step calls s (.act number ⟨.storage call, .ok value⟩) t) :
    ∃ now, now.IsClock ∧ (call.run now s.tables).1 = .ok value ∧
      t.tables = (call.run now s.tables).2 := by
  cases step with
  | act here answers =>
      obtain ⟨failure, hfailed, -⟩ | ⟨now, hclock, hanswer | hcut, rfl⟩ := answers
      · cases hfailed
      · exact ⟨now, hclock, hanswer.symm, rfl⟩
      · cases hcut

theorem Step.matchAny {event : Event} (step : Step calls s event t) {key : Key} {entry : Entry}
    (intact : s.tables.Intact) (hquiet : ¬event.Disturbs key.hash)
    (hfound : s.tables.matchAny key = .ok (some entry)) :
    t.tables.matchAny key = .ok (some entry) := by
  obtain hsame | ⟨number, call, answer, now, rfl, hclock, hcut, hafter⟩ := step.performed
  · rwa [hsame]
  · rw [hafter]
    exact intact.matchAny_run hclock hfound fun hdisturbs =>
      hquiet ⟨hdisturbs, hcut hdisturbs.writes⟩

theorem Run.matchAny (run : Run calls s events t) {key : Key} {entry : Entry}
    (intact : s.tables.Intact) (hquiet : ∀ event ∈ events, ¬event.Disturbs key.hash)
    (hfound : s.tables.matchAny key = .ok (some entry)) :
    t.tables.matchAny key = .ok (some entry) := by
  refine run.induction (motive := fun events t => (∀ event ∈ events, ¬event.Disturbs key.hash) →
    t.tables.matchAny key = .ok (some entry)) (fun _ => hfound) ?_ hquiet
  intro events mid event t before ih step hquiet
  refine step.matchAny (before.intact intact) (hquiet event (by simp)) ?_
  exact ih fun event hmem => hquiet event (List.mem_append_left _ hmem)

theorem Run.answer_matchAny (run : Run calls s events t) {key : Key} {entry : Entry}
    (intact : s.tables.Intact) (hquiet : ∀ event ∈ events, ¬event.Disturbs key.hash)
    (hfound : s.tables.matchAny key = .ok (some entry)) {number : Nat}
    {answer : Except Store.Failure (Option Entry)}
    (hmem : Event.act number ⟨.storage (.matchAny key), answer⟩ ∈ events) :
    answer = .ok (some entry) ∨ ∃ failure, answer = .error failure := by
  obtain ⟨before, after, rfl⟩ := List.append_of_mem hmem
  obtain ⟨mid, lead, next, step, -⟩ := run_append.mp run
  have hmid := lead.matchAny intact
    (fun event hmem => hquiet event (List.mem_append_left _ hmem)) hfound
  cases step with
  | act here answers =>
      obtain ⟨failure, rfl, -⟩ | ⟨now, -, rfl | rfl, -⟩ := answers
      · exact .inr ⟨failure, rfl⟩
      · exact .inl hmid
      · exact .inr ⟨_, rfl⟩

/-- A write that succeeds leaves an older copy to be found, or else what it wrote. -/
theorem Step.matchAny_put {number : Nat} {store : String} {key : Key} {response : Response}
    (step : Step calls s (.act number ⟨.storage (.put store key response), .ok ()⟩) t)
    (intact : s.tables.Intact) :
    ∃ now, now.IsClock ∧ t.tables.matchAny key =
      .ok (some ((s.tables.olderCopy? store key).getD ⟨key, response, now⟩)) := by
  obtain ⟨now, hclock, -, hafter⟩ := step.answered
  rw [hafter]
  exact ⟨now, hclock, intact.matchAny_put hclock⟩

/-! ### What one store holds -/

/-- The event may have changed what a store holds under a hash. A call that was cut off may have. -/
def Event.Rewrites (store hash : String) : Event → Prop
  | .act _ ⟨.storage asked, answer⟩ =>
    asked.Rewrites store hash ∧ ∀ failure, answer = .error failure → failure = .abandoned
  | _ => False

theorem Step.held? {event : Event} (step : Step calls s event t) {store : String} {key : Key}
    (hquiet : ¬event.Rewrites store key.hash) :
    t.tables.held? key store = s.tables.held? key store := by
  obtain hsame | ⟨number, call, answer, now, rfl, -, hcut, hafter⟩ := step.performed
  · rw [hsame]
  · rw [hafter]
    exact Store.Tables.held?_run fun hrewrites => hquiet ⟨hrewrites, hcut hrewrites.writes⟩

theorem Run.held? (run : Run calls s events t) {store : String} {key : Key}
    (hquiet : ∀ event ∈ events, ¬event.Rewrites store key.hash) :
    t.tables.held? key store = s.tables.held? key store := by
  refine run.induction (motive := fun events t => (∀ event ∈ events,
    ¬event.Rewrites store key.hash) → t.tables.held? key store = s.tables.held? key store)
    (fun _ => rfl) ?_ hquiet
  intro events mid event t _ ih step hquiet
  calc t.tables.held? key store
      = mid.tables.held? key store := step.held? (hquiet event (by simp))
    _ = s.tables.held? key store := ih fun event hmem => hquiet event (List.mem_append_left _ hmem)

theorem Step.held?_put {number : Nat} {store : String} {key : Key} {response : Response}
    (step : Step calls s (.act number ⟨.storage (.put store key response), .ok ()⟩) t) :
    ∃ now, now.IsClock ∧ t.tables.held? key store = some ⟨key, response, now⟩ := by
  obtain ⟨now, hclock, -, hafter⟩ := step.answered
  rw [hafter]
  exact ⟨now, hclock, Store.Tables.held?_put_self hclock⟩

/-! ### What was written last -/

/-- A failed call on the stores leaves them as they are, unless `cut` says that it may have been
done all the same. -/
def FailsCleanly (cut : Store.Failure → Prop) (s : System) (event : Event) (t : System) : Prop :=
  ∀ number call failure, event = .act number ⟨.storage call, .error failure⟩ →
    t.tables = s.tables ∨ cut failure

/-- What a store has under a hash is what it had at first, or what was written there last. -/
def Stands (cut : Store.Failure → Prop) (s : System) (events : List Event) (t : System)
    (store hash : String) : Prop :=
  (t.tables.find? store hash = s.tables.find? store hash ∧
      ∀ number key response,
        .act number ⟨.storage (.put store key response), .ok ()⟩ ∈ events → key.hash ≠ hash) ∨
    ∃ number key response answer now,
      .act number ⟨.storage (.put store key response), answer⟩ ∈ events ∧ key.hash = hash ∧
        (∀ failure, answer = .error failure → cut failure) ∧ now.IsClock ∧
        t.tables.find? store hash = some (.encode store key response now)

section

variable {cut : Store.Failure → Prop} {mid : System} {event : Event} {store hash : String}

theorem Step.failsCleanly (step : Step calls s event t) :
    FailsCleanly (· = .abandoned) s event t := by
  rintro number call failure rfl
  cases step with
  | act here answers =>
      obtain ⟨_, -, rfl⟩ | ⟨now, -, hrun | hcut, rfl⟩ := answers
      · exact .inl rfl
      · cases call with
        | openStore | put | delete => cases hrun
        | get | matchAny | names => exact .inl rfl
      · exact .inr (Except.error.inj hcut)

theorem Stands.of_quiet (stands : Stands cut s events mid store hash)
    (hfind : t.tables.find? store hash = mid.tables.find? store hash)
    (hquiet : ∀ number key response,
      event = .act number ⟨.storage (.put store key response), .ok ()⟩ → key.hash ≠ hash) :
    Stands cut s (events ++ [event]) t store hash := by
  obtain ⟨hsame, hnone⟩ | ⟨number, key, response, answer, now, hmem, hwritten⟩ := stands
  · refine .inl ⟨hfind.trans hsame, fun number key response hmem => ?_⟩
    obtain hbefore | hlast := List.mem_append.mp hmem
    · exact hnone number key response hbefore
    · exact hquiet number key response (List.mem_singleton.mp hlast).symm
  · obtain ⟨hhash, hcut, hclock, hrow⟩ := hwritten
    exact .inr ⟨number, key, response, answer, now, List.mem_append_left _ hmem, hhash, hcut,
      hclock, hfind.trans hrow⟩

theorem Stands.step (stands : Stands cut s events mid store hash) (step : Step calls mid event t)
    (hcut : FailsCleanly cut mid event t)
    (hkept : ∀ number answer, event ≠ .act number ⟨.storage (.delete store), answer⟩) :
    Stands cut s (events ++ [event]) t store hash := by
  obtain hsame | ⟨number, call, answer, now, rfl, hclock, hanswer, hafter⟩ := step.tables
  · by_cases hput : ∃ number key response,
        event = .act number ⟨.storage (.put store key response), .ok ()⟩ ∧ key.hash = hash
    · -- The write has changed nothing, so what it wrote stood there already.
      obtain ⟨number, key, response, rfl, rfl⟩ := hput
      obtain ⟨now, hclock, -, hafter⟩ := step.answered
      refine .inr ⟨number, key, response, .ok (), now, by simp, rfl, nofun, hclock, ?_⟩
      rw [hafter]
      exact Store.Tables.find?_put_self
    · exact stands.of_quiet (by rw [hsame]) fun number key response hevent hhash =>
        hput ⟨number, key, response, hevent, hhash⟩
  · by_cases hrewrites : call.Rewrites store hash
    · cases call with
      | put written key response =>
          obtain ⟨rfl, rfl⟩ := hrewrites
          have hwritten : t.tables.find? written key.hash =
              some (.encode written key response now) := by
            rw [hafter]
            exact Store.Tables.find?_put_self
          cases answer with
          | ok done => exact .inr ⟨number, key, response, .ok (), now, by simp, rfl, nofun, hclock,
              hwritten⟩
          | error failure =>
              obtain hsame | hfailed := hcut number _ failure rfl
              · exact stands.of_quiet (by rw [hsame]) (by simp)
              · exact .inr ⟨number, key, response, .error failure, now, by simp, rfl,
                  fun told htold => Except.error.inj htold ▸ hfailed, hclock, hwritten⟩
      | delete name =>
          obtain rfl : name = store := hrewrites
          exact absurd rfl (hkept number answer)
      | openStore | get | matchAny | names => exact hrewrites.elim
    · refine stands.of_quiet (by rw [hafter, Store.Tables.find?_run hrewrites]) ?_
      rintro other key response hevent rfl
      cases hevent
      exact hrewrites ⟨rfl, rfl⟩

/-- If nobody deletes a store, what it has under a hash is what was written last, if anything. -/
theorem RunOf.stands (run : RunOf calls (FailsCleanly cut) s events t)
    (hkept : ∀ number answer, .act number ⟨.storage (.delete store), answer⟩ ∉ events)
    (hash : String) : Stands cut s events t store hash := by
  refine run.induction (motive := fun events t =>
    (∀ number answer, .act number ⟨.storage (.delete store), answer⟩ ∉ events) →
      Stands cut s events t store hash)
    (fun _ => .inl ⟨rfl, fun _ _ _ hmem => absurd hmem List.not_mem_nil⟩) ?_ hkept
  intro events mid event t _ ih step hcut hkept
  refine (ih fun number answer hmem => ?_).step step hcut fun number answer hevent => ?_
  · exact hkept number answer (List.mem_append_left _ hmem)
  · exact hkept number answer (by simp [hevent])

end

end OfflineAgent.Interleaving
