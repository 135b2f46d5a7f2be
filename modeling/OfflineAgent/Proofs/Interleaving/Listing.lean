import OfflineAgent.Proofs.Interleaving.Jobs
import OfflineAgent.Proofs.Interleaving.Stores

/-!
# Which stores are listed in a run

A store comes to be listed only by a call that opens it or writes to it, and one that was deleted
stays away until there is such a call. Whatever else a call is answered is what the tables say at
its moment.
-/

namespace OfflineAgent

theorem Store.Tables.mem_names {tables : Store.Tables} {name : String} :
    name ∈ tables.names ↔ tables.isListed name = true := by
  simp [Store.Tables.names, Store.Tables.ordered, Store.Tables.isListed]

/-- The operation lists a store that is missing. -/
def Op.Opens (name : String) : Op → Prop
  | .storage (.openStore opened) => opened = name
  | .storage (.put store _ _) => store = name
  | _ => False

namespace Interleaving

open Store (Tables)

variable {calls : Simulation.Activity → Prop} {s t : System} {events : List Event}
  {name : String} {number : Nat}

theorem mem_names_openStore {tables : Tables} {opened : String} :
    name ∈ (tables.openStore opened).names ↔ name ∈ tables.names ∨ opened = name := by
  rw [Tables.mem_names, Tables.mem_names, Tables.isListed_iff, Tables.isListed_iff]
  unfold Tables.openStore
  split
  · rename_i hlisted
    rw [Tables.isListed_iff] at hlisted
    refine ⟨.inl, fun hname => hname.elim id ?_⟩
    rintro rfl
    exact hlisted
  · simp [eq_comm]

theorem not_mem_names_delete (tables : Tables) (name : String) :
    name ∉ (tables.delete name).names := by
  rw [Tables.mem_names, Tables.isListed_iff]
  simp [Tables.delete]

theorem mem_names_run {tables : Tables} {now : Moment} {call : Store.Call}
    (hlisted : name ∈ (call.run now tables).2.names) :
    name ∈ tables.names ∨ Op.Opens name (.storage call) := by
  cases call with
  | openStore opened => exact mem_names_openStore.mp hlisted
  | put store key response => exact mem_names_openStore.mp hlisted
  | delete gone =>
      refine .inl ?_
      rw [Tables.mem_names, Tables.isListed_iff] at hlisted ⊢
      exact (List.filter_sublist.map _).subset hlisted
  | get | matchAny | names => exact .inl hlisted

theorem Step.listed {event : Event} (step : Step calls s event t)
    (hlisted : name ∈ t.tables.names) :
    name ∈ s.tables.names ∨
      ∃ number exchange, event = .act number exchange ∧ exchange.op.Opens name := by
  obtain hsame | ⟨number, call, answer, now, rfl, -, -, hafter⟩ := step.tables
  · exact .inl (hsame ▸ hlisted)
  · rw [hafter] at hlisted
    exact (mem_names_run hlisted).imp_right fun hopens => ⟨number, _, rfl, hopens⟩

theorem Run.listed (run : Run calls s events t) (hlisted : name ∈ t.tables.names) :
    name ∈ s.tables.names ∨
      ∃ number exchange, .act number exchange ∈ events ∧ exchange.op.Opens name := by
  refine run.induction (motive := fun events t => name ∈ t.tables.names →
    name ∈ s.tables.names ∨
      ∃ number exchange, .act number exchange ∈ events ∧ exchange.op.Opens name) .inl ?_ hlisted
  intro events mid event t _ ih step hlisted
  obtain hbefore | ⟨number, exchange, rfl, hopens⟩ := step.listed hlisted
  · refine (ih hbefore).imp_right fun ⟨number, exchange, hmem, hopens⟩ => ?_
    exact ⟨number, exchange, List.mem_append_left _ hmem, hopens⟩
  · exact .inr ⟨number, exchange, by simp, hopens⟩

theorem Step.enumerated {found : List String}
    (step : Step calls s (.act number ⟨.storage .names, .ok found⟩) t) :
    found = s.tables.names ∧ t.tables = s.tables := by
  obtain ⟨now, -, hfound, hafter⟩ := step.answered
  exact ⟨(Except.ok.inj hfound).symm, hafter⟩

theorem Step.deleted {gone : Bool}
    (step : Step calls s (.act number ⟨.storage (.delete name), .ok gone⟩) t) :
    name ∉ t.tables.names := by
  obtain ⟨now, -, -, hafter⟩ := step.answered
  rw [hafter]
  exact not_mem_names_delete _ _

/-- A store that was found and deleted afterwards, or was not found, is listed again only if
somebody listed it after it was looked for. -/
theorem Run.opened_of_cleared {found : List String} {before after : List Event}
    (run : Run calls s (before ++ .act number ⟨.storage .names, .ok found⟩ :: after) t)
    (hcleared : name ∈ found →
      ∃ acting gone, .act acting ⟨.storage (.delete name), .ok gone⟩ ∈ after)
    (hlisted : name ∈ t.tables.names) :
    ∃ acting exchange, .act acting exchange ∈ after ∧ exchange.op.Opens name := by
  obtain ⟨mid, -, next, step, rest⟩ := run_append.mp run
  obtain ⟨rfl, hsame⟩ := step.enumerated
  obtain hbefore | hopened := rest.listed hlisted
  · rw [hsame] at hbefore
    obtain ⟨acting, gone, hmem⟩ := hcleared hbefore
    obtain ⟨first, last, rfl⟩ := List.append_of_mem hmem
    obtain ⟨deleting, -, _, deletion, later⟩ := run_append.mp rest
    obtain hkept | ⟨opener, exchange, hopener, hopens⟩ := later.listed hlisted
    · exact absurd hkept deletion.deleted
    · exact ⟨opener, exchange, List.mem_append_right _ (List.mem_cons_of_mem _ hopener), hopens⟩
  · exact hopened

end Interleaving

end OfflineAgent
