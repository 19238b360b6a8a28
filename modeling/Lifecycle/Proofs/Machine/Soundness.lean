import Lifecycle.Proofs.Machine.Rules

/-!
# What every machine upholds

A machine is made of parts without a violation. Here each rule that was checked becomes a fact
about machines: the default is an initial state, whatever an edge or the machine itself names is
declared, and every recovery leads to the error state.
-/

namespace Lifecycle

namespace Machine

variable {machine : Machine} {current state target errorState : State} {transition : Transition}
  {name : String}

/-- The parts of a machine are sound. -/
theorem parts_sound (machine : Machine) : machine.parts.Sound :=
  Parts.violations_eq_nil_iff_sound.1 machine.sound

theorem mem_states_of_mem_initialStates (h : state ∈ machine.initialStates) :
    state ∈ machine.states :=
  machine.parts_sound.initial_declared state h

theorem defaultInitialState_mem (machine : Machine) :
    machine.defaultInitialState ∈ machine.initialStates := by
  obtain ⟨state, hstate, hdefault⟩ := machine.parts_sound.default_initial
  rw [machine.default_eq, Option.some.injEq] at hdefault
  rw [hdefault]
  exact hstate

/-- The states that a machine accepts for creation are its initial states. -/
theorem isInitialState_iff :
    machine.isInitialState state = true ↔ state ∈ machine.initialStates := by
  simp [isInitialState]

theorem target_mem_states (h : transition ∈ machine.transitions) :
    transition.target ∈ machine.states :=
  (machine.parts_sound.wellFormed transition h).target_mem

/-- The edge that is found is one of the machine, has the name, and starts from the state. -/
theorem mem_of_resolve? (h : machine.resolve? current name = some transition) :
    transition ∈ machine.transitions ∧ transition.applies current name = true := by
  rw [resolve?] at h
  have happlies := List.find?_some (p := fun edge : Transition => edge.applies current name) h
  exact ⟨List.mem_of_find?_eq_some h, happlies⟩

/-- A named edge that leads somewhere is an edge of the machine. -/
theorem exists_of_target? (h : machine.target? current name = some target) :
    ∃ transition ∈ machine.transitions, transition.applies current name = true ∧
      transition.target = target := by
  obtain ⟨transition, hresolve, htarget⟩ := Option.map_eq_some_iff.1 h
  obtain ⟨hmem, happlies⟩ := mem_of_resolve? hresolve
  exact ⟨transition, hmem, happlies, htarget⟩

theorem mem_states_of_target? (h : machine.target? current name = some target) :
    target ∈ machine.states := by
  obtain ⟨transition, hmem, -, rfl⟩ := exists_of_target? h
  exact target_mem_states hmem

/-- Where a recovery starts, it leads to the error state. -/
theorem target?_recoveryName (herror : machine.errorState = some errorState) :
    machine.target? current Transition.recoveryName =
      if machine.isReachable current Transition.recoveryName = true then some errorState
      else none := by
  rw [target?, isReachable]
  cases hresolve : machine.resolve? current Transition.recoveryName with
  | none => rfl
  | some transition =>
    obtain ⟨hmem, happlies⟩ := mem_of_resolve? hresolve
    have hname := (Transition.applies_iff.1 happlies).1
    have htarget := machine.parts_sound.recovers errorState herror transition hmem hname
    simp [htarget]

/-! ### A machine to illustrate general statements -/

/-- Deliveries: a pending delivery is confirmed and then leaves, and any failure takes it to the
error state. -/
def delivery : Machine where
  parts :=
    { states := [⟨"pending"⟩, ⟨"confirmed"⟩, ⟨"on_its_way"⟩, ⟨"error"⟩]
      initialStates := [⟨"pending"⟩]
      defaultInitialState := some ⟨"pending"⟩
      errorState := some ⟨"error"⟩
      transitions :=
        [{ name := "confirm", source := .states [⟨"pending"⟩], target := ⟨"confirmed"⟩ },
         { name := "begin_delivery", source := .states [⟨"confirmed"⟩], target := ⟨"on_its_way"⟩ },
         { name := "error", source := .any, target := ⟨"error"⟩ }] }
  defaultInitialState := ⟨"pending"⟩
  default_eq := rfl
  sound := by decide

end Machine

end Lifecycle
