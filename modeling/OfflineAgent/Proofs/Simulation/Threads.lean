import OfflineAgent.Proofs.Lifecycle.Phases

/-!
# Threads and tasks

A world has threads, which end with a result for the session, where a system of interleaved work has
tasks. The threads of a world do what is left of different tasks, and go on as these do.
-/

namespace OfflineAgent.Simulation

open Interleaving (Task)
open Lifecycle (agentOf?)

/-- An operation on the state of an agent is on one of the first so many. -/
def Within (count : Nat) : Op → Prop
  | .lifecycle number _ => number < count
  | _ => True

theorem within_of_neutral {count : Nat} {op : Op} (neutral : Lifecycle.Neutral op) :
    Within count op := by
  cases op with
  | lifecycle number step => exact neutral.elim
  | _ => trivial

theorem asks_activity {activity : Activity} {count : Nat}
    (known : ∀ agent, agentOf? activity = some agent → agent.number < count) :
    activity.work.Asks (Within count) := by
  cases hagent : agentOf? activity with
  | some agent =>
      refine (Lifecycle.follows_activity hagent fun _ => (rfl : true = true)).asks ?_
      intro phase op answer after hafter
      cases op with
      | lifecycle number step =>
          obtain ⟨rfl, -⟩ := Option.ite_none_right_eq_some.mp hafter
          exact known agent hagent
      | _ => trivial
  | none =>
      cases activity <;> simp only [agentOf?, reduceCtorEq] at hagent
      case openStore => exact ⟨trivial, fun _ => trivial⟩
      case get => exact ⟨trivial, fun _ => trivial⟩
      case matchAny => exact ⟨trivial, fun _ => trivial⟩
      case put => exact (Stores.asks_put fun _ _ => trivial).bind fun _ => trivial
      case keep => exact (Stores.asks_keep fun _ _ => trivial).bind fun _ => trivial
      case names => exact ⟨trivial, fun _ => trivial⟩
      case delete => exact ⟨trivial, fun _ => trivial⟩
      case reconcile =>
        exact (Stores.asks_reconcile trivial fun _ => trivial).bind fun _ => trivial
      case strategy =>
        refine .bind ((Lifecycle.neutral_strategy _ _ _).mono fun _ => within_of_neutral)
          fun outcome => ?_
        cases outcome <;> exact trivial
      case fallback =>
        exact .bind ((Lifecycle.neutral_fallback _ _ _).mono fun _ => within_of_neutral)
          fun _ => trivial

/-- The thread does what is left of a task, and then says what came of it or nothing. -/
def Does (thread : Thread Reply) (work : Work Reply) : Prop :=
  ∃ wrap : Reply → Option (Nat × Reply), thread = work >>= fun reply => .done (wrap reply)

theorem Does.done {result : Option (Nat × Reply)} {work : Work Reply}
    (does : Does (.done result) work) : ∃ reply, work = .done reply := by
  obtain ⟨wrap, hthread⟩ := does
  cases work with
  | done reply => exact ⟨reply, rfl⟩
  | ask op next => cases hthread

theorem Does.ask {op : Op} {next : op.Answer → Thread Reply} {work : Work Reply}
    (does : Does (.ask op next) work) :
    ∃ rest, work = .ask op rest ∧ ∀ answer, Does (next answer) (rest answer) := by
  obtain ⟨wrap, hthread⟩ := does
  cases work with
  | done reply => cases hthread
  | ask op rest =>
      cases hthread
      exact ⟨rest, rfl, fun answer => ⟨wrap, rfl⟩⟩

/-- Each thread does what is left of the task of its number, and all other tasks are done. -/
structure Owns (allowed : Op → Prop) (tasks : List Task) (owners : List (Nat × Thread Reply)) :
    Prop where
  distinct : (owners.map (·.1)).Nodup
  does : ∀ owner ∈ owners, ∃ task, tasks[owner.1]? = some task ∧ Does owner.2 task.work ∧
    task.work.Asks allowed
  covers : ∀ number task, tasks[number]? = some task →
    number ∈ owners.map (·.1) ∨ ∃ reply, task.work = .done reply

namespace Owns

variable {allowed : Op → Prop} {tasks : List Task} {number : Nat} {thread : Thread Reply}
  {owners others : List (Nat × Thread Reply)}

theorem perm (owns : Owns allowed tasks owners) (hperm : owners.Perm others) :
    Owns allowed tasks others where
  distinct := (hperm.map _).nodup_iff.mp owns.distinct
  does owner howner := owns.does owner (hperm.mem_iff.mpr howner)
  covers number task here := (owns.covers number task here).imp_left (hperm.map _).mem_iff.mp

theorem fresh (owns : Owns allowed tasks ((number, thread) :: owners)) :
    number ∉ owners.map (·.1) :=
  (List.nodup_cons.mp owns.distinct).1

theorem of_done {result : Option (Nat × Reply)}
    (owns : Owns allowed tasks ((number, .done result) :: owners)) :
    Owns allowed tasks owners where
  distinct := (List.nodup_cons.mp owns.distinct).2
  does owner howner := owns.does owner (List.mem_cons_of_mem _ howner)
  covers other task hother := by
    obtain howner | hdone := owns.covers other task hother
    · obtain rfl | howner := List.mem_cons.mp howner
      · obtain ⟨found, here, hdoes, -⟩ := owns.does _ List.mem_cons_self
        obtain rfl := Option.some.inj (here.symm.trans hother)
        exact .inr hdoes.done
      · exact .inl howner
    · exact .inr hdone

/-- A thread that gets its answer goes on with its task. -/
theorem of_ask {op : Op} {next : op.Answer → Thread Reply}
    (owns : Owns allowed tasks ((number, .ask op next) :: owners)) :
    ∃ purpose rest, tasks[number]? = some ⟨purpose, .ask op rest⟩ ∧ allowed op ∧
      ∀ answer, Owns allowed (tasks.set number ⟨purpose, rest answer⟩)
        ((number, next answer) :: owners) := by
  obtain ⟨⟨purpose, work⟩, here, hdoes, hasks⟩ := owns.does _ List.mem_cons_self
  obtain ⟨rest, rfl, hrest⟩ := hdoes.ask
  have hlt := (List.getElem?_eq_some_iff.mp here).1
  refine ⟨purpose, rest, here, hasks.1, fun answer => ⟨owns.distinct, ?_, ?_⟩⟩
  · intro owner howner
    obtain rfl | howner := List.mem_cons.mp howner
    · exact ⟨_, List.getElem?_set_self hlt, hrest answer, hasks.2 answer⟩
    · have hne : owner.1 ≠ number :=
        ne_of_mem_of_not_mem (List.mem_map_of_mem howner) owns.fresh
      rw [List.getElem?_set_ne hne.symm]
      exact owns.does owner (List.mem_cons_of_mem _ howner)
  · intro other task hother
    by_cases hsame : number = other
    · exact .inl (hsame ▸ List.mem_cons_self)
    · rw [List.getElem?_set_ne hsame] at hother
      exact owns.covers other task hother

theorem begin {task : Task} (owns : Owns allowed tasks owners) (hdoes : Does thread task.work)
    (hasks : task.work.Asks allowed) :
    Owns allowed (tasks ++ [task]) ((tasks.length, thread) :: owners) := by
  have hlt {owner : Nat × Thread Reply} (howner : owner ∈ owners) : owner.1 < tasks.length := by
    obtain ⟨task, here, -⟩ := owns.does owner howner
    exact (List.getElem?_eq_some_iff.mp here).1
  refine ⟨List.nodup_cons.mpr ⟨?_, owns.distinct⟩, fun owner howner => ?_,
    fun other found hother => ?_⟩
  · rintro hmem
    obtain ⟨owner, howner, hlength⟩ := List.mem_map.mp hmem
    exact (hlt howner).ne hlength
  · obtain rfl | howner := List.mem_cons.mp howner
    · exact ⟨task, List.getElem?_concat_length, hdoes, hasks⟩
    · rw [List.getElem?_append_left (hlt howner)]
      exact owns.does owner howner
  · obtain hbefore | rfl := Nat.lt_or_eq_of_le (Nat.le_of_lt_succ
      (by simpa using (List.getElem?_eq_some_iff.mp hother).1))
    · rw [List.getElem?_append_left hbefore] at hother
      exact (owns.covers other found hother).imp_left (List.mem_cons_of_mem _)
    · exact .inl List.mem_cons_self

end Owns

/-- Each thread does what is left of a task of its own, and all other tasks are done. -/
def Carries (allowed : Op → Prop) (tasks : List Task) (threads : List (Thread Reply)) : Prop :=
  ∃ owners, (owners.map (·.2)).Perm threads ∧ Owns allowed tasks owners

namespace Carries

variable {allowed : Op → Prop} {tasks : List Task} {thread : Thread Reply}
  {threads others : List (Thread Reply)}

theorem perm (carries : Carries allowed tasks threads) (hperm : threads.Perm others) :
    Carries allowed tasks others := by
  obtain ⟨owners, howners, owns⟩ := carries
  exact ⟨owners, howners.trans hperm, owns⟩

theorem uncons (carries : Carries allowed tasks (thread :: threads)) :
    ∃ number owners, (owners.map (·.2)).Perm threads ∧
      Owns allowed tasks ((number, thread) :: owners) := by
  obtain ⟨owners, hperm, owns⟩ := carries
  obtain ⟨⟨number, held⟩, hmem, rfl⟩ := List.mem_map.mp (hperm.mem_iff.mpr List.mem_cons_self)
  obtain ⟨first, last, rfl⟩ := List.append_of_mem hmem
  have hmiddle : (first ++ (number, held) :: last).Perm ((number, held) :: (first ++ last)) :=
    List.perm_middle
  exact ⟨number, first ++ last, ((hmiddle.map (·.2)).symm.trans hperm).cons_inv, owns.perm hmiddle⟩

theorem of_done {result : Option (Nat × Reply)}
    (carries : Carries allowed tasks (.done result :: threads)) :
    Carries allowed tasks threads := by
  obtain ⟨number, owners, hperm, owns⟩ := carries.uncons
  exact ⟨owners, hperm, owns.of_done⟩

theorem of_ask {op : Op} {next : op.Answer → Thread Reply}
    (carries : Carries allowed tasks (.ask op next :: threads)) :
    ∃ number purpose rest, tasks[number]? = some ⟨purpose, .ask op rest⟩ ∧ allowed op ∧
      ∀ answer, Carries allowed (tasks.set number ⟨purpose, rest answer⟩)
        (next answer :: threads) := by
  obtain ⟨number, owners, hperm, owns⟩ := carries.uncons
  obtain ⟨purpose, rest, here, hallowed, hrest⟩ := owns.of_ask
  exact ⟨number, purpose, rest, here, hallowed, fun answer =>
    ⟨(number, next answer) :: owners, hperm.cons _, hrest answer⟩⟩

theorem begin {task : Task} (carries : Carries allowed tasks threads)
    (hdoes : Does thread task.work) (hasks : task.work.Asks allowed) :
    Carries allowed (tasks ++ [task]) (thread :: threads) := by
  obtain ⟨owners, hperm, owns⟩ := carries
  exact ⟨(tasks.length, thread) :: owners, hperm.cons _, owns.begin hdoes hasks⟩

end Carries

end OfflineAgent.Simulation
