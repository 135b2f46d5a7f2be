import OfflineAgent.Agent.Work

/-!
# Disciplines of work

Work is a tree: it is done, or it asks for one operation and goes on with whatever it is answered.
What holds on every path through the tree holds however other work comes in between, since other
work can only choose the answers. A discipline says which operations may be asked in which phase;
`Follows` says that a piece of work keeps to it on every path, and `Leads` names one path.
-/

namespace OfflineAgent

/-- An operation with its answer. -/
structure Exchange where
  op : Op
  answer : op.Answer

/-- The phase after an operation and its answer; none if it may not be asked in the phase before. -/
abbrev Discipline (σ : Type) := σ → (op : Op) → op.Answer → Option σ

/-- The phase after exchanges, if all of them are allowed. -/
def Discipline.after {σ : Type} (discipline : Discipline σ) (phase : σ)
    (history : List Exchange) : Option σ :=
  history.foldlM (fun phase exchange => discipline phase exchange.op exchange.answer) phase

namespace Discipline

variable {σ : Type} {discipline : Discipline σ} {phase : σ}

@[simp]
theorem after_nil : discipline.after phase [] = some phase := rfl

@[simp]
theorem after_cons (exchange : Exchange) (history : List Exchange) :
    discipline.after phase (exchange :: history) =
      (discipline phase exchange.op exchange.answer).bind fun next =>
        discipline.after next history := rfl

theorem after_append (first second : List Exchange) :
    discipline.after phase (first ++ second) =
      (discipline.after phase first).bind fun next => discipline.after next second := by
  simp only [after, List.foldlM_append]
  rfl

theorem after_concat (history : List Exchange) (exchange : Exchange) :
    discipline.after phase (history ++ [exchange]) =
      (discipline.after phase history).bind fun next =>
        discipline next exchange.op exchange.answer := by
  rw [after_append]
  congr 1
  funext next
  simp

/-- What every allowed operation keeps holds of the phase in the end. -/
theorem invariant_of_after {motive : σ → Prop} {last : σ} {history : List Exchange}
    (hafter : discipline.after phase history = some last) (start : motive phase)
    (step : ∀ phase op answer next, motive phase → discipline phase op answer = some next →
      motive next) : motive last := by
  induction history generalizing phase with
  | nil =>
      rw [after_nil] at hafter
      exact Option.some.inj hafter ▸ start
  | cons exchange history ih =>
      rw [after_cons] at hafter
      obtain ⟨next, hnext, hrest⟩ := Option.bind_eq_some_iff.mp hafter
      exact ih hrest (step phase _ _ next start hnext)

theorem before_of_mem {last : σ} {history : List Exchange} {exchange : Exchange}
    (hafter : discipline.after phase history = some last) (hmem : exchange ∈ history) :
    ∃ first second before next, history = first ++ exchange :: second ∧
      discipline.after phase first = some before ∧
      discipline before exchange.op exchange.answer = some next := by
  obtain ⟨first, second, rfl⟩ := List.append_of_mem hmem
  rw [after_append] at hafter
  obtain ⟨before, hbefore, hrest⟩ := Option.bind_eq_some_iff.mp hafter
  obtain ⟨next, hnext, -⟩ := Option.bind_eq_some_iff.mp hrest
  exact ⟨first, second, before, next, rfl, hbefore, hnext⟩

end Discipline

namespace Work

variable {α β σ : Type}

/-! ### The monad -/

@[simp]
theorem pure_eq_done (value : α) : (pure value : Work α) = .done value := rfl

@[simp]
theorem done_bind (value : α) (f : α → Work β) : (Work.done value >>= f) = f value := rfl

@[simp]
theorem ask_bind (op : Op) (next : op.Answer → Work α) (f : α → Work β) :
    (Work.ask op next >>= f) = .ask op fun answer => next answer >>= f := rfl

@[simp]
theorem op_eq_ask (op : Op) : Work.op op = .ask op .done := rfl

theorem bind_assoc {γ : Type} (work : Work α) (f : α → Work β) (g : β → Work γ) :
    (work >>= f) >>= g = work >>= fun value => f value >>= g := by
  induction work with
  | done value => rfl
  | ask op next ih => exact congrArg (Work.ask op) (funext ih)

/-! ### Keeping to a discipline -/

/-- Whatever it is answered, the work keeps to the discipline from a phase on and ends as `ends`
says. -/
def Follows (discipline : Discipline σ) (ends : σ → α → Prop) : Work α → σ → Prop
  | .done value, phase => ends phase value
  | .ask op next, phase =>
    ∀ answer, ∃ after, discipline phase op answer = some after ∧
      (next answer).Follows discipline ends after

variable {discipline : Discipline σ} {ends : σ → α → Prop} {phase : σ} {work : Work α}

@[simp]
theorem follows_done {value : α} :
    (Work.done value).Follows discipline ends phase ↔ ends phase value :=
  Iff.rfl

theorem Follows.mono {weaker : σ → α → Prop} (follows : work.Follows discipline ends phase)
    (himp : ∀ phase value, ends phase value → weaker phase value) :
    work.Follows discipline weaker phase := by
  induction work generalizing phase with
  | done value => exact himp phase value follows
  | ask op next ih =>
      intro answer
      obtain ⟨after, hafter, hnext⟩ := follows answer
      exact ⟨after, hafter, ih answer hnext⟩

theorem Follows.bind {mid : σ → α → Prop} {last : σ → β → Prop} {f : α → Work β}
    (first : work.Follows discipline mid phase)
    (rest : ∀ after value, mid after value → (f value).Follows discipline last after) :
    (work >>= f).Follows discipline last phase := by
  induction work generalizing phase with
  | done value => exact rest phase value first
  | ask op next ih =>
      intro answer
      obtain ⟨after, hafter, hnext⟩ := first answer
      exact ⟨after, hafter, ih answer hnext⟩

/-- The first part of work that keeps to a discipline keeps to it. -/
theorem Follows.of_bind {last : σ → β → Prop} {f : α → Work β}
    (follows : (work >>= f).Follows discipline last phase) :
    work.Follows discipline (fun _ _ => True) phase := by
  induction work generalizing phase with
  | done value => trivial
  | ask op next ih =>
      intro answer
      obtain ⟨after, hafter, hnext⟩ := follows answer
      exact ⟨after, hafter, ih answer hnext⟩

/-! ### Asking only for some operations -/

/-- Whatever it is answered, the work asks only for operations that `allowed` admits. -/
def Asks (allowed : Op → Prop) : Work α → Prop
  | .done _ => True
  | .ask op next => allowed op ∧ ∀ answer, (next answer).Asks allowed

@[simp]
theorem asks_done {allowed : Op → Prop} {value : α} : (Work.done value).Asks allowed := trivial

@[simp]
theorem asks_ask {allowed : Op → Prop} {op : Op} {next : op.Answer → Work α} :
    (Work.ask op next).Asks allowed ↔ allowed op ∧ ∀ answer, (next answer).Asks allowed :=
  Iff.rfl

theorem Asks.bind {allowed : Op → Prop} {f : α → Work β} (first : work.Asks allowed)
    (rest : ∀ value, (f value).Asks allowed) : (work >>= f).Asks allowed := by
  induction work with
  | done value => exact rest value
  | ask op next ih => exact ⟨first.1, fun answer => ih answer (first.2 answer)⟩

theorem Asks.mono {allowed more : Op → Prop} (asks : work.Asks allowed)
    (himp : ∀ op, allowed op → more op) : work.Asks more := by
  induction work with
  | done value => trivial
  | ask op next ih => exact ⟨himp op asks.1, fun answer => ih answer (asks.2 answer)⟩

theorem nonempty_answer (op : Op) : Nonempty op.Answer := by
  cases op with
  | storage call => exact ⟨.error .unavailable⟩
  | fetch request => exact ⟨.error (.noResponse request.url "")⟩
  | lifecycle agent step => cases step <;> first | exact ⟨.installing⟩ | exact ⟨true⟩ | exact ⟨()⟩
  | start job => exact ⟨0⟩
  | report channel ticket outcome => exact ⟨()⟩
  | await channel ticket =>
      cases channel with
      | revalidation => exact ⟨.ok (.new 200 "")⟩
      | precache => exact ⟨.ok ()⟩

/-- Work that keeps to a discipline asks only for operations that some phase of it allows. -/
theorem Follows.asks {allowed : Op → Prop} (follows : work.Follows discipline ends phase)
    (hallowed : ∀ phase op answer after, discipline phase op answer = some after → allowed op) :
    work.Asks allowed := by
  induction work generalizing phase with
  | done value => trivial
  | ask op next ih =>
      obtain ⟨answer⟩ := nonempty_answer op
      obtain ⟨after, hafter, -⟩ := follows answer
      refine ⟨hallowed _ _ _ _ hafter, fun answer => ?_⟩
      obtain ⟨after, -, hnext⟩ := follows answer
      exact ih answer hnext

/-- Work that asks only for operations that leave a phase alone stays in it. -/
theorem Asks.follows {allowed : Op → Prop} (asks : work.Asks allowed)
    (stays : ∀ op answer, allowed op → discipline phase op answer = some phase) :
    work.Follows discipline (fun after _ => after = phase) phase := by
  induction work with
  | done value => rfl
  | ask op next ih =>
      intro answer
      exact ⟨phase, stays op answer asks.1, ih answer (asks.2 answer)⟩

/-! ### One path -/

/-- The exchanges lead from one piece of work to what is left of it. -/
inductive Leads : Work α → List Exchange → Work α → Prop
  | refl (work : Work α) : Leads work [] work
  | step {op : Op} {next : op.Answer → Work α} {answer : op.Answer} {history : List Exchange}
      {left : Work α} (rest : Leads (next answer) history left) :
      Leads (.ask op next) (⟨op, answer⟩ :: history) left

theorem Leads.concat {op : Op} {next : op.Answer → Work α} {history : List Exchange}
    (leads : Leads work history (.ask op next)) (answer : op.Answer) :
    Leads work (history ++ [⟨op, answer⟩]) (next answer) := by
  generalize hleft : Work.ask op next = left at leads
  induction leads with
  | refl work =>
      subst hleft
      exact .step (.refl _)
  | step rest ih => exact .step (ih hleft)

theorem leads_append_iff {first second : List Exchange} {left : Work α} :
    Leads work (first ++ second) left ↔ ∃ mid, Leads work first mid ∧ Leads mid second left := by
  constructor
  · intro leads
    induction first generalizing work with
    | nil => exact ⟨work, .refl _, leads⟩
    | cons exchange first ih =>
        cases leads with
        | step rest =>
            obtain ⟨mid, hfirst, hsecond⟩ := ih rest
            exact ⟨mid, .step hfirst, hsecond⟩
  · rintro ⟨mid, hfirst, hsecond⟩
    induction hfirst with
    | refl work => exact hsecond
    | step rest ih => exact .step (ih hsecond)

theorem Leads.bind {first second : List Exchange} {value : α} {f : α → Work β} {left : Work β}
    (leads : Leads work first (.done value)) (rest : Leads (f value) second left) :
    Leads (work >>= f) (first ++ second) left := by
  generalize hdone : Work.done value = done at leads
  induction leads with
  | refl work =>
      subst hdone
      exact rest
  | step _ ih => exact .step (ih hdone)

theorem Leads.bind_of_done {history : List Exchange} {value : α}
    (leads : Leads work history (.done value)) (f : α → Work β) :
    Leads (work >>= f) history (f value) := by
  rw [← List.append_nil history]
  exact leads.bind (.refl _)

/-- Whoever goes past the first part goes on with its result. -/
theorem Leads.past {first second : List Exchange} {value : α} {f : α → Work β} {left : Work β}
    (leads : Leads work first (.done value)) (whole : Leads (work >>= f) (first ++ second) left) :
    Leads (f value) second left := by
  generalize hdone : Work.done value = done at leads
  induction leads with
  | refl work =>
      subst hdone
      exact whole
  | step rest ih =>
      cases whole with
      | step later => exact ih later hdone

theorem Leads.follows {history : List Exchange} {left : Work α}
    (leads : Leads work history left) (follows : work.Follows discipline ends phase) :
    ∃ after, discipline.after phase history = some after ∧
      left.Follows discipline ends after := by
  induction leads generalizing phase with
  | refl work => exact ⟨phase, rfl, follows⟩
  | @step op next answer history left rest ih =>
      obtain ⟨next, hnext, hrest⟩ := follows answer
      obtain ⟨after, hafter, hleft⟩ := ih hrest
      exact ⟨after, by simp [hnext, hafter], hleft⟩

theorem Leads.asks {allowed : Op → Prop} {history : List Exchange} {left : Work α}
    (leads : Leads work history left) (asks : work.Asks allowed) :
    ∀ exchange ∈ history, allowed exchange.op := by
  induction leads with
  | refl work => simp
  | step rest ih =>
      intro exchange hmem
      obtain rfl | hrest := List.mem_cons.mp hmem
      · exact asks.1
      · exact ih (asks.2 _) exchange hrest

theorem Leads.asks_next {allowed : Op → Prop} {op : Op} {next : op.Answer → Work α}
    {history : List Exchange} (leads : Leads work history (.ask op next))
    (asks : work.Asks allowed) : allowed op := by
  obtain ⟨answer⟩ := nonempty_answer op
  exact (leads.concat answer).asks asks ⟨op, answer⟩ (by simp)

@[simp]
theorem leads_done_iff {value : α} {history : List Exchange} {left : Work α} :
    Leads (.done value) history left ↔ history = [] ∧ left = .done value := by
  constructor
  · intro leads
    cases leads
    exact ⟨rfl, rfl⟩
  · rintro ⟨rfl, rfl⟩
    exact .refl _

theorem leads_ask_iff {op : Op} {next : op.Answer → Work α} {history : List Exchange}
    {left : Work α} :
    Leads (.ask op next) history left ↔
      (history = [] ∧ left = .ask op next) ∨
        ∃ answer rest, history = ⟨op, answer⟩ :: rest ∧ Leads (next answer) rest left := by
  constructor
  · intro leads
    cases leads with
    | refl => exact .inl ⟨rfl, rfl⟩
    | @step _ _ answer rest _ leads => exact .inr ⟨answer, rest, rfl, leads⟩
  · rintro (⟨rfl, rfl⟩ | ⟨answer, rest, rfl, leads⟩)
    · exact .refl _
    · exact .step leads

/-- A path through work that goes on with its result is still in the first part, or past it. -/
theorem leads_bind {f : α → Work β} {history : List Exchange} {left : Work β}
    (leads : Leads (work >>= f) history left) :
    (∃ rest, Leads work history rest ∧ left = rest >>= f) ∨
      ∃ first second value, history = first ++ second ∧ Leads work first (.done value) ∧
        Leads (f value) second left := by
  induction work generalizing history with
  | done value => exact .inr ⟨[], history, value, rfl, .refl _, leads⟩
  | ask op next ih =>
      obtain ⟨rfl, rfl⟩ | ⟨answer, later, rfl, hlater⟩ := leads_ask_iff.mp leads
      · exact .inl ⟨_, .refl _, rfl⟩
      · obtain ⟨rest, hrest, rfl⟩ | ⟨first, second, value, rfl, hfirst, hsecond⟩ := ih answer hlater
        · exact .inl ⟨rest, .step hrest, rfl⟩
        · exact .inr ⟨_ :: first, second, value, rfl, .step hfirst, hsecond⟩

theorem leads_bind_done {f : α → β} {history : List Exchange} {left : Work β}
    (leads : Leads (work >>= fun value => .done (f value)) history left) :
    ∃ rest, Leads work history rest ∧ left = rest >>= fun value => .done (f value) := by
  obtain ⟨rest, hrest, rfl⟩ | ⟨first, second, value, rfl, hfirst, hsecond⟩ := leads_bind leads
  · exact ⟨rest, hrest, rfl⟩
  · obtain ⟨rfl, rfl⟩ := leads_done_iff.mp hsecond
    rw [List.append_nil]
    exact ⟨.done value, hfirst, rfl⟩

/-- A path to the end of work whose result is only put in another form is one to its end. -/
theorem exists_of_leads_bind_done {f : α → β} {history : List Exchange} {result : β}
    (leads : Leads (work >>= fun value => .done (f value)) history (.done result)) :
    ∃ value, Leads work history (.done value) ∧ result = f value := by
  obtain ⟨rest, hrest, hdone⟩ := leads_bind_done leads
  cases rest with
  | ask op next => cases hdone
  | done value => exact ⟨value, hrest, done.inj hdone⟩

/-- A path to the end of work that goes on with a result is past the first part. -/
theorem exists_of_leads_bind {f : α → Work β} {history : List Exchange} {result : β}
    (leads : Leads (work >>= f) history (.done result)) :
    ∃ first second value, history = first ++ second ∧ Leads work first (.done value) ∧
      Leads (f value) second (.done result) := by
  obtain ⟨rest, hrest, hleft⟩ | hpast := leads_bind leads
  · cases rest with
    | ask op next => cases hleft
    | done value => exact ⟨history, [], value, (List.append_nil _).symm, hrest, hleft ▸ .refl _⟩
  · exact hpast

/-! ### Coming to an end -/

/-- Whatever it is answered, the work is done after at most so many operations. -/
def EndsWithin : Nat → Work α → Prop
  | _, .done _ => True
  | 0, .ask _ _ => False
  | limit + 1, .ask _ next => ∀ answer, (next answer).EndsWithin limit

@[simp]
theorem endsWithin_done {limit : Nat} {value : α} : (Work.done value).EndsWithin limit := by
  cases limit <;> exact trivial

theorem EndsWithin.mono {limit more : Nat} (ends : work.EndsWithin limit) (hle : limit ≤ more) :
    work.EndsWithin more := by
  induction work generalizing limit more with
  | done value => exact endsWithin_done
  | ask op next ih =>
      cases limit with
      | zero => exact ends.elim
      | succ limit =>
          obtain ⟨more, rfl⟩ := Nat.exists_eq_add_of_le' (Nat.le_of_add_left_le hle)
          exact fun answer => ih answer (ends answer) (by omega)

theorem EndsWithin.bind {limit more : Nat} {f : α → Work β} (first : work.EndsWithin limit)
    (rest : ∀ value, (f value).EndsWithin more) : (work >>= f).EndsWithin (limit + more) := by
  induction work generalizing limit with
  | done value => exact (rest value).mono (Nat.le_add_left _ _)
  | ask op next ih =>
      cases limit with
      | zero => exact first.elim
      | succ limit =>
          rw [Nat.succ_add]
          exact fun answer => ih answer (first answer)

theorem Leads.length_le {limit : Nat} {history : List Exchange} {left : Work α}
    (leads : Leads work history left) (ends : work.EndsWithin limit) :
    history.length ≤ limit := by
  induction leads generalizing limit with
  | refl work => exact Nat.zero_le _
  | step rest ih =>
      cases limit with
      | zero => exact ends.elim
      | succ limit => exact Nat.succ_le_succ (ih (ends _))

end Work

end OfflineAgent
