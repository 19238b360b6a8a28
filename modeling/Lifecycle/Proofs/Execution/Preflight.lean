import Lifecycle.Preflight
import Lifecycle.Proofs.Execution.Outcome
import Lifecycle.Proofs.Machine.Building

/-!
# Checks foresee what executions do

Before anything runs, the transition check asks whether an edge of a name starts from the state of a
record. An execution asks for more, namely that the edge leads to the requested target. Both ask the
same machine, which takes a name from a state to one target at most, and so the check allows exactly
what some execution lets pass.

- `Machine.prepares_iff_target?`: a transition can be prepared to where the machine leads;
- `Check.run_allM_ask`: checks are asked one after the other, up to the first that denies;
- `Check.foresees_executions`: the transition check, alone or among others, and executions agree.
-/

namespace Lifecycle

open Time (Instant)

namespace Machine

variable {machine : Machine} {record : Record} {name : String} {target other : State}
  {time : Instant}

/-! ### What can be prepared -/

/-- The pending record of a transition to the target can be made. -/
def Prepares (machine : Machine) (record : Record) (name : String) (target : State)
    (time : Instant) : Prop :=
  ∃ pending, machine.prepare record name target time = .ok pending

/-- A transition can be prepared to where the machine leads, and to nowhere else. -/
theorem prepares_iff_target? :
    machine.Prepares record name target time ↔
      machine.target? record.state name = some target := by
  constructor
  · rintro ⟨pending, hpending⟩
    exact (prepare_eq_ok hpending).1
  · intro hedge
    exact ⟨_, move_of_target false hedge⟩

theorem Prepares.unique (h : machine.Prepares record name target time)
    (hother : machine.Prepares record name other time) : target = other := by
  rw [prepares_iff_target?] at h hother
  exact Option.some.inj (h.symm.trans hother)

theorem isReachable_iff_exists_prepares (time : Instant) :
    machine.isReachable record.state name = true ↔
      ∃ target, machine.Prepares record name target time := by
  simp only [prepares_iff_target?, ← Option.isSome_iff_exists, target?, Option.isSome_map]
  rfl

/-! ### What executions let pass -/

/-- No execution of the transition to the target is refused, whatever its operation, its context and
its host are. -/
def Passes.{u, v} (machine : Machine) (record : Record) (name : String) (target : State) : Prop :=
  ∀ (σ : Type u) (ε : Type v) [Host σ] [OperationFault ε] (context : Context)
    (operation : Operation σ ε) (world : World σ) (rejected : InvalidTransition),
    (machine.executeIn context record name target operation world).1 ≠
      .error (.invalidTransition rejected)

/-- Every execution of the transition to the target is refused. Its ending has nothing of the
operation: all that happens is that the refusal is logged. -/
def Refuses.{u, v} (machine : Machine) (record : Record) (name : String) (target : State) : Prop :=
  ∀ (σ : Type u) (ε : Type v) [Host σ] [OperationFault ε] (context : Context)
    (operation : Operation σ ε) (world : World σ),
    machine.executeIn context record name target operation world =
      (.error (.invalidTransition
          { origin := record.state, attempted := target, transition := name }),
        world.emit (.rejected record.id name record.state target))

theorem Prepares.passes (h : machine.Prepares record name target time) :
    machine.Passes record name target := by
  intro σ ε _ _ context operation world rejected hends
  have hexecutes := executes_executeIn machine context record name target operation world
  generalize machine.executeIn context record name target operation world = ending
    at hexecutes hends
  cases hexecutes with
  | refused hedge => exact hedge (prepares_iff_target?.1 h)
  | committed => exact nomatch hends
  | failed => exact nomatch hends

theorem refuses_of_not_prepares (h : ¬ machine.Prepares record name target time) :
    machine.Refuses record name target := by
  intro σ ε _ _ context operation world
  rw [prepares_iff_target?] at h
  have hexecutes := executes_executeIn machine context record name target operation world
  generalize machine.executeIn context record name target operation world = ending at hexecutes ⊢
  cases hexecutes with
  | refused => rfl
  | committed hedge => exact absurd hedge h
  | failed hedge => exact absurd hedge h

end Machine

namespace Check

variable {machine : Machine} {record : Record} {action : Action} {name : String} {time : Instant}

/-! ### One check after the other -/

/-- Ask a check, and note that it was asked. -/
def ask (record : Record) (action : Action) (check : Check) : StateM (List Check) Bool := do
  modify (· ++ [check])
  return check.allows record action

/-- Asking one check after the other, up to the first that denies, finds out whether all of them
allow, and notes the checks that are asked. -/
theorem run_allM_ask (checks noted : List Check) :
    (checks.allM (ask record action)).run noted =
      (allAllow checks record action, noted ++ asked record action checks) := by
  induction checks generalizing noted with
  | nil =>
    rw [asked, List.append_nil]
    rfl
  | cons check checks ih =>
    -- the first check is noted, and the others are asked only if it allows
    have hfirst : ((check :: checks).allM (ask record action)).run noted =
        if check.allows record action then (checks.allM (ask record action)).run (noted ++ [check])
        else (false, noted ++ [check]) := by
      change (match check.allows record action with
        | true => checks.allM (ask record action)
        | false => pure false : StateM (List Check) Bool).run (noted ++ [check]) = _
      cases check.allows record action <;> rfl
    rw [hfirst, asked, allAllow, List.all_cons]
    cases hallows : check.allows record action with
    | true => simp [ih, allAllow]
    | false => simp

/-- The checks that are asked are those before the first that denies, and that one. -/
theorem asked_eq (checks : List Check) :
    asked record action checks =
      checks.takeWhile (fun check => check.allows record action) ++
        (checks.find? fun check => !check.allows record action).toList := by
  induction checks with
  | nil => rfl
  | cons check checks ih =>
    rw [asked, ih]
    cases hallows : check.allows record action <;> simp [hallows]

theorem allAllow_iff {checks : List Check} :
    allAllow checks record action = true ↔ ∀ check ∈ checks, check.allows record action = true :=
  List.all_eq_true

/-! ### The transition check -/

theorem allows_transition_of_none (h : action.transition = none) :
    (transition machine).allows record action = true := by
  rw [allows, h]

theorem allows_transition_of_some (h : action.transition = some name) :
    (transition machine).allows record action = machine.isReachable record.state name := by
  rw [allows, h]

/-- The answer to whether a transition may be attempted is the one that executions give. -/
structure Foresees.{u, v} (machine : Machine) (record : Record) (name : String) (time : Instant)
    (allowed : Bool) : Prop where
  /-- Allowed is what can be prepared to some target. -/
  allowed_iff : allowed = true ↔ ∃ target, machine.Prepares record name target time
  /-- There is at most one such target. -/
  unique : ∀ target other, machine.Prepares record name target time →
    machine.Prepares record name other time → target = other
  /-- What is allowed passes every execution that asks for the target to which the edge leads. -/
  passes : allowed = true → ∃ target, machine.target? record.state name = some target ∧
    Machine.Passes.{u, v} machine record name target
  /-- What is denied is refused, whatever target is asked for. -/
  refuses : allowed = false → ∀ target, Machine.Refuses.{u, v} machine record name target

theorem foresees_isReachable (machine : Machine) (record : Record) (name : String)
    (time : Instant) : Foresees machine record name time (machine.isReachable record.state name) where
  allowed_iff := Machine.isReachable_iff_exists_prepares time
  unique _ _ htarget hother := htarget.unique hother
  passes hallowed := by
    obtain ⟨target, htarget⟩ := (Machine.isReachable_iff_exists_prepares time).1 hallowed
    exact ⟨target, Machine.prepares_iff_target?.1 htarget, htarget.passes⟩
  refuses hdenied target := by
    have hunprepared : ¬ machine.Prepares record name target time := by
      intro htarget
      rw [(Machine.isReachable_iff_exists_prepares time).2 ⟨target, htarget⟩] at hdenied
      exact Bool.false_ne_true hdenied.symm
    exact Machine.refuses_of_not_prepares hunprepared

/-- Pre-flight and execution agree, on every record, even in a state that nobody declared. The
transition check is not concerned with other actions, and its answer is that of every execution. A
list of checks allows what each of them allows, and is asked up to the first that denies. So if the
transition check is one of them and all of them allow, no execution is refused that asks for the
target to which the edge leads. -/
theorem foresees_executions.{u, v} (machine : Machine) (record : Record) (action : Action)
    (time : Instant) :
    (action.transition = none → (transition machine).allows record action = true) ∧
    (∀ name, action.transition = some name →
      Foresees.{u, v} machine record name time ((transition machine).allows record action)) ∧
    ∀ checks : List Check,
      (allAllow checks record action = true ↔
        ∀ check ∈ checks, check.allows record action = true) ∧
      (checks.allM (ask record action)).run [] =
        (allAllow checks record action, asked record action checks) ∧
      asked record action checks =
        checks.takeWhile (fun check => check.allows record action) ++
          (checks.find? fun check => !check.allows record action).toList ∧
      (allAllow checks record action = true → transition machine ∈ checks →
        ∀ name, action.transition = some name →
          ∃ target, machine.target? record.state name = some target ∧
            Machine.Passes.{u, v} machine record name target) := by
  have hforesees (name : String) (haction : action.transition = some name) :
      Foresees.{u, v} machine record name time ((transition machine).allows record action) := by
    rw [allows_transition_of_some haction]
    exact foresees_isReachable machine record name time
  refine ⟨allows_transition_of_none, hforesees, fun checks => ?_⟩
  refine ⟨allAllow_iff, run_allM_ask checks [], asked_eq checks, ?_⟩
  intro hall hmem name haction
  exact (hforesees name haction).passes (allAllow_iff.1 hall _ hmem)

/-- A pending delivery may be confirmed, also by a host that asks for a courier first. It may not
begin, and so no execution lets it begin. -/
theorem foresees_executions_delivery :
    let record := (Record.create .delivery (.ofNat 1)).setAttribute "courier" "anna"
    let courier : Check := .predicate "has a courier" fun record _ =>
      (record.attribute? "courier").isSome
    let checks := [courier, transition .delivery]
    allAllow checks record (.drives "confirm") = true ∧
      (∃ target, Machine.Passes.{0, 0} .delivery record "confirm" target) ∧
      (transition .delivery).allows record (.drives "begin_delivery") = false ∧
      Machine.Refuses.{0, 0} .delivery record "begin_delivery" ⟨"on_its_way"⟩ := by
  intro record courier checks
  obtain ⟨-, -, hchecks⟩ := foresees_executions.{0, 0} .delivery record (.drives "confirm") .epoch
  obtain ⟨-, hforesees, -⟩ :=
    foresees_executions.{0, 0} .delivery record (.drives "begin_delivery") .epoch
  have hall : allAllow checks record (.drives "confirm") = true := by decide
  have hmem : transition .delivery ∈ checks := List.mem_cons_of_mem _ List.mem_cons_self
  have hdenied : (transition .delivery).allows record (.drives "begin_delivery") = false := by
    decide
  obtain ⟨target, -, hpasses⟩ := (hchecks checks).2.2.2 hall hmem "confirm" rfl
  exact ⟨hall, ⟨target, hpasses⟩, hdenied, (hforesees _ rfl).refuses hdenied ⟨"on_its_way"⟩⟩

end Check

end Lifecycle
