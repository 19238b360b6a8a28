import Lifecycle.Proofs.Execution.Outcome
import Lifecycle.Proofs.Machine.Soundness
import Lifecycle.Store.Outage

/-!
# Recovery never masks an error

Between a failure and the return of an execution, a hook deals with the failure: it has a guard and
a save of its own, and it may fail itself. None of this shows in the result.

`Machine.executeHooked` is the execution with any hook whatsoever in the place of
`Machine.onFailure`. With it, "the hook did not run" becomes a statement: all hooks leave the same
world.

- `Machine.unmasked_executeIn`: the result of one execution, for every hook;
- `Machine.result_eq_of_agree`: two executions whose guard, operation and commit answer alike have
  the same result, in whatever contexts, machines and worlds they run.
-/

namespace Lifecycle

/-- What an operation answers, and where it returns a record, what the store answers to that. -/
def Operation.answer {σ : Type u} {ε : Type v} [Host σ] (operation : Operation σ ε)
    (pending : Record) (world : World σ) : Except ε (Except StoreError Record) :=
  match operation pending world with
  | (.ok changed, after) => .ok (after.save changed).1
  | (.error error, _) => .error error

namespace Machine

/-- Anything that may be done about a failure. -/
abbrev Hook (σ : Type u) (ε : Type v) :=
  Context → Record → State → ε → World σ → RecoveryOutcome × World σ

section Execution

variable {σ : Type u} {ε : Type v} [Host σ] [OperationFault ε] (machine : Machine)
  (context : Context) (record : Record) (transition : String) (target : State)
  (operation : Operation σ ε) (world : World σ)

/-- Execute a transition, with some hook for failures. -/
def executeHooked (hook : Hook σ ε) : Except (ExecutionError ε) Record × World σ :=
  match machine.attempt record transition target operation world with
  | (.ok stored, world) =>
    (.ok stored, world.emit (.applied stored.id transition record.state target))
  | (.error (.invalidTransition rejected), world) =>
    (.error (.invalidTransition rejected),
      world.emit (.rejected record.id transition rejected.origin rejected.attempted))
  | (.error (.operationFailure transition error), world) =>
    let world := world.emit
      (.failed record.id transition record.state target (Fault.message error))
    let (_, world) := hook context record target error world
    (.error (.operationFailure transition error), world)

/-- Executions have the hook that lets the record recover. -/
theorem executeHooked_onFailure :
    machine.executeHooked context record transition target operation world machine.onFailure =
      machine.executeIn context record transition target operation world := rfl

/-- The result is what guard, operation and commit made of the record. -/
theorem result_executeHooked (hook : Hook σ ε) :
    (machine.executeHooked context record transition target operation world hook).1 =
      (machine.attempt record transition target operation world).1 := by
  unfold executeHooked
  rcases machine.attempt record transition target operation world with
    ⟨(rejected | ⟨name, error⟩) | stored, after⟩ <;> rfl

/-- Behind the guard, the result repeats what the operation and the store answered. -/
theorem result_attempt_of_target (hedge : machine.target? record.state transition = some target) :
    (machine.attempt record transition target operation world).1 =
      match operation.answer (record.apply transition target false world.now) world with
      | .error error => .error (.operationFailure transition error)
      | .ok (.error storeError) =>
        .error (.operationFailure transition (OperationFault.ofStore storeError))
      | .ok (.ok stored) => .ok stored := by
  simp only [attempt, prepare, move_of_target false hedge, Operation.answer]
  rcases operation (record.apply transition target false world.now) world with
    ⟨error | changed, inner⟩
  · rfl
  · rcases hsave : inner.save changed with ⟨storeError | stored, after⟩ <;> simp only [hsave]

theorem result_attempt_of_ne (hedge : machine.target? record.state transition ≠ some target) :
    (machine.attempt record transition target operation world).1 =
      .error (.invalidTransition { origin := record.state, attempted := target, transition }) := by
  simp only [attempt, prepare, move_of_ne false hedge]

/-- A failed operation or commit is exactly what the operation and the store answered. -/
theorem exists_fails_iff {pending : Record} {error : ε} :
    (∃ after, Fails operation pending world error after) ↔
      operation.answer pending world = .error error ∨
        ∃ storeError, operation.answer pending world = .ok (.error storeError) ∧
          error = OperationFault.ofStore storeError := by
  unfold Operation.answer
  constructor
  · rintro ⟨after, hoperation | ⟨hoperation, hsave⟩⟩
    · simp [hoperation]
    · simp [hoperation, hsave]
  · rcases hoperation : operation pending world with ⟨failure | changed, inner⟩
    · rintro (hanswer | ⟨storeError, hanswer, -⟩)
      · rw [Except.error.inj hanswer] at hoperation
        exact ⟨inner, .operation hoperation⟩
      · exact nomatch hanswer
    · rintro (hanswer | ⟨storeError, hanswer, rfl⟩)
      · exact nomatch hanswer
      · rcases hsave : inner.save changed with ⟨answer, after⟩
        simp only [hsave, Except.ok.injEq] at hanswer
        rw [hanswer] at hsave
        exact ⟨after, .commit hoperation hsave⟩

/-- The result of an execution says what happened up to the commit, and nothing else. -/
structure Unmasked (result : Except (ExecutionError ε) Record) : Prop where
  /-- A failure carries the name of the transition and the error of the operation, or that for
  which a failed commit stands. -/
  failure_iff : ∀ name error, result = .error (.operationFailure name error) ↔
    machine.target? record.state transition = some target ∧ name = transition ∧
      ∃ after, Fails operation (record.apply transition target false world.now) world error after
  /-- No hook has an influence on the result. -/
  hooked : ∀ hook : Hook σ ε,
    (machine.executeHooked context record transition target operation world hook).1 = result
  /-- Where the transition is refused, no hook runs: the world is the same for every hook. -/
  refused : ∀ rejected, result = .error (.invalidTransition rejected) → ∀ hook : Hook σ ε,
    machine.executeHooked context record transition target operation world hook =
      (result, world.emit (.rejected record.id transition record.state target))

theorem unmasked_executeIn :
    Unmasked machine context record transition target operation world
      (machine.executeIn context record transition target operation world).1 := by
  rw [← executeHooked_onFailure, result_executeHooked]
  by_cases hedge : machine.target? record.state transition = some target
  · have hresult :=
      result_attempt_of_target machine record transition target operation world hedge
    refine ⟨fun name error => ?_, fun hook => result_executeHooked .., fun rejected hrefused => ?_⟩
    · rw [exists_fails_iff, hresult]
      -- the answers say which of the two failures it was, if any
      generalize operation.answer _ world = answer
      rcases answer with failure | (storeError | stored) <;> simp [hedge, eq_comm]
    · rw [hresult] at hrefused
      generalize operation.answer _ world = answer at hrefused
      rcases answer with failure | (storeError | stored) <;> exact nomatch hrefused
  · have hresult := result_attempt_of_ne machine record transition target operation world hedge
    refine ⟨fun name error => ?_, fun hook => result_executeHooked .., fun rejected _ hook => ?_⟩
    · simp [hresult, hedge]
    · rw [hresult]
      simp only [executeHooked, attempt, prepare, move_of_ne false hedge]

end Execution

section Agreement

variable {σ : Type u} {τ : Type w} {ε : Type v} [Host σ] [Host τ] [OperationFault ε]

/-- An error is never masked by recovery. Two executions have the same result if their guards, their
operations and their commits answer alike, whatever else is different: the contexts, the machines
and their error states, the hosts, and how the stores answer afterwards. And what the result says is
what happened up to the commit. -/
theorem result_eq_of_agree (first second : Machine) (context context' : Context) (record : Record)
    (transition : String) (target : State) (operation : Operation σ ε)
    (operation' : Operation τ ε) (world : World σ) (world' : World τ)
    (hguard : first.target? record.state transition = second.target? record.state transition)
    (hanswer : first.target? record.state transition = some target →
      operation.answer (record.apply transition target false world.now) world =
        operation'.answer (record.apply transition target false world'.now) world') :
    (first.executeIn context record transition target operation world).1 =
        (second.executeIn context' record transition target operation' world').1 ∧
      Unmasked first context record transition target operation world
        (first.executeIn context record transition target operation world).1 := by
  refine ⟨?_, unmasked_executeIn ..⟩
  simp only [← executeHooked_onFailure, result_executeHooked]
  by_cases hedge : first.target? record.state transition = some target
  · have hedge' : second.target? record.state transition = some target := hguard ▸ hedge
    rw [result_attempt_of_target _ _ _ _ _ _ hedge, result_attempt_of_target _ _ _ _ _ _ hedge',
      hanswer hedge]
  · have hedge' : second.target? record.state transition ≠ some target := hguard ▸ hedge
    rw [result_attempt_of_ne _ _ _ _ _ _ hedge, result_attempt_of_ne _ _ _ _ _ _ hedge']

/-- A commit fails. One store then accepts the recovery and the other one does not, and the caller
cannot tell them apart. -/
theorem result_eq_of_agree_delivery :
    let record := { Record.create delivery (.ofNat 1) with version := 1 }
    let accepting : World UnreliableStore :=
      { host := { memory := Store.empty.put record, saves := .next 1 "disk full" } }
    let refusing : World UnreliableStore :=
      { host := { memory := Store.empty.put record, saves := .next 2 "disk full" } }
    let operation : Operation UnreliableStore StoreError := .unchanged
    let pending := record.apply "confirm" ⟨"confirmed"⟩ false .epoch
    let recovered := delivery.executeIn .root record "confirm" ⟨"confirmed"⟩ operation accepting
    let stuck := delivery.executeIn .root record "confirm" ⟨"confirmed"⟩ operation refusing
    operation.answer pending accepting = operation.answer pending refusing ∧
      recovered.2.host.memory ≠ stuck.2.host.memory ∧ recovered.1 = stuck.1 ∧
      stuck.1 = .error (.operationFailure "confirm" (.unavailable "disk full")) := by
  intro record accepting refusing operation pending recovered stuck
  have hanswer : operation.answer pending accepting = operation.answer pending refusing := rfl
  have hagree := result_eq_of_agree delivery delivery .root .root record "confirm" ⟨"confirmed"⟩
    operation operation accepting refusing rfl fun _ => hanswer
  exact ⟨hanswer, by decide, hagree.1, rfl⟩

end Agreement

end Machine

end Lifecycle
