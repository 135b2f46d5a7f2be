import Mathlib
import OfflineAgent.Proofs.Interleaving.System

/-!
# Work with the stores to itself

Work that asks for nothing but calls on the stores can be carried out on its own, with nobody else
at the stores. Faults say which calls fail; a call that fails leaves no trace, whether it was
refused or broke down halfway.
-/

namespace OfflineAgent

open Store (Tables Failure)

/-- Does a call, or leaves everything as it is when a fault is in the way. -/
def Store.Call.attempt (fault : Option Failure) (now : Moment) (tables : Tables)
    (call : Store.Call) : Except Failure call.Answer × Tables :=
  match fault with
  | some failure => (.error failure, tables)
  | none => call.run now tables

/-- The disks of a script fail in this way. -/
theorem Simulation.World.perform_eq_attempt {ρ : Type} (world : Simulation.World ρ)
    (call : Store.Call) :
    ((world.perform call).1, (world.perform call).2.tables) =
      call.attempt (Simulation.failureOf? world.faults call) world.now world.tables := by
  unfold Simulation.World.perform Store.Call.attempt
  cases Simulation.failureOf? world.faults call <;> rfl

namespace Work

variable {α β : Type} {faults : Store.Call → Option Failure} {now : Moment} {tables : Tables}

/-- Carries out work at some moment; none if it asks for more than the stores can give. -/
def alone (faults : Store.Call → Option Failure) (now : Moment) :
    Work α → Tables → Option (α × Tables)
  | .done value, tables => some (value, tables)
  | .ask (.storage call) next, tables =>
    let (answer, after) := call.attempt (faults call) now tables
    (next answer).alone faults now after
  | .ask _ _, _ => none

@[simp]
theorem alone_done (value : α) : (Work.done value).alone faults now tables = some (value, tables) :=
  rfl

theorem alone_storage (call : Store.Call)
    (next : Except Failure call.Answer → Work α) :
    (Work.ask (.storage call) next).alone faults now tables =
      (next (call.attempt (faults call) now tables).1).alone faults now
        (call.attempt (faults call) now tables).2 := rfl

theorem alone_bind (work : Work α) (f : α → Work β) :
    (work >>= f).alone faults now tables =
      (work.alone faults now tables).bind
        fun (value, after) => (f value).alone faults now after := by
  induction work generalizing tables with
  | done value => rfl
  | ask op next ih =>
      cases op with
      | storage call => exact ih _
      | fetch | lifecycle | start | report | await => rfl

end Work

namespace Interleaving

/-- **Work that has the stores to itself is a run**: one in which all others hold still. -/
theorem exists_run_of_alone {α : Type} {calls : Simulation.Activity → Prop}
    {faults : Store.Call → Option Failure} {now : Moment} (hclock : now.IsClock) {work : Work α}
    {value : α} {after : Tables} (f : α → Work Simulation.Reply) {s : System} {number : Nat}
    {purpose : Purpose} (here : s.tasks[number]? = some ⟨purpose, work >>= f⟩)
    (halone : work.alone faults now s.tables = some (value, after)) :
    ∃ events t, Run calls s events t ∧
      (∀ event ∈ events, ∃ exchange, event = .act number exchange) ∧
      t.tables = after ∧ t.tasks[number]? = some ⟨purpose, f value⟩ := by
  induction work generalizing s with
  | done result =>
      obtain ⟨rfl, rfl⟩ : result = value ∧ s.tables = after := by simpa using halone
      exact ⟨[], s, rfl, fun _ hmem => absurd hmem List.not_mem_nil, rfl, here⟩
  | ask op next ih =>
      cases op with
      | fetch | lifecycle | start | report | await => cases halone
      | storage call =>
          rw [Work.alone_storage] at halone
          -- A fault is an answer that any call may get, so either way the call is a step.
          have hstep : ∃ mid, s.Answers (.storage call)
              (call.attempt (faults call) now s.tables).1 mid ∧ mid.tasks = s.tasks ∧
                mid.tables = (call.attempt (faults call) now s.tables).2 := by
            unfold Store.Call.attempt
            cases faults call with
            | some failure => exact ⟨s, .inl ⟨failure, rfl, rfl⟩, rfl, rfl⟩
            | none => exact ⟨s.store call now, .performed hclock rfl, rfl, rfl⟩
          obtain ⟨mid, answers, htasks, htables⟩ := hstep
          have hlength : number < mid.tasks.length := by
            rw [htasks]
            exact (List.getElem?_eq_some_iff.mp here).1
          obtain ⟨events, t, run, hown, hafter, hleft⟩ := ih
            (call.attempt (faults call) now s.tables).1
            (s := mid.setTask number ⟨purpose,
              next (call.attempt (faults call) now s.tables).1 >>= f⟩)
            (by simp [System.setTask, List.getElem?_set_self hlength])
            (by rw [← htables] at halone; exact halone)
          refine ⟨.act number ⟨.storage call, _⟩ :: events, t, ⟨_, .act here answers, run⟩, ?_,
            hafter, hleft⟩
          intro event hmem
          obtain rfl | hrest := List.mem_cons.mp hmem
          · exact ⟨_, rfl⟩
          · exact hown event hrest

end Interleaving

end OfflineAgent
