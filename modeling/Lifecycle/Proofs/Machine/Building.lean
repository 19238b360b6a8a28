import Lifecycle.Machine.Draft
import Lifecycle.Proofs.Machine.Soundness

/-!
# Which drafts make a machine

A draft is completed before it is checked: repeats are dropped, states may be inferred, a single
initial state becomes the default, and an error state brings a recovery transition along, which is
checked like any other edge. `Machine.Draft.WellFormed` speaks about the draft as it was given.

- `Machine.Draft.wellFormed_iff_sound`: a draft is well formed exactly when its completed parts are
  sound;
- `Machine.Draft.build_ok_iff_wellFormed`: a machine is made of exactly the well-formed drafts, and
  it is closed.
-/

namespace Lifecycle

namespace Machine

/-- The default is an initial state, everything that the machine names is declared, and no two edges
conflict. -/
structure Closed (machine : Machine) : Prop where
  default_mem : machine.defaultInitialState ∈ machine.initialStates
  initial_subset : machine.initialStates ⊆ machine.states
  error_mem : ∀ state, machine.errorState = some state → state ∈ machine.states
  wellFormed : ∀ transition ∈ machine.transitions, transition.WellFormed machine.states
  unambiguous : machine.transitions.Pairwise fun left right => ¬ left.Conflicts right
  recovers : ∀ errorState, machine.errorState = some errorState →
    ∀ transition ∈ machine.transitions, transition.name = Transition.recoveryName →
      transition.target = errorState

theorem closed (machine : Machine) : machine.Closed where
  default_mem := machine.defaultInitialState_mem
  initial_subset _ hstate := mem_states_of_mem_initialStates hstate
  error_mem := machine.parts_sound.error_declared
  wellFormed := machine.parts_sound.wellFormed
  unambiguous := machine.parts_sound.unambiguous
  recovers := machine.parts_sound.recovers

namespace Draft

variable {draft : Draft} {state errorState : State} {transition : Transition}

/-- The states that were declared, repeats included, or without a declaration the inferred ones. -/
def stateList (draft : Draft) : List State :=
  draft.states.getD draft.inferredStates

/-- What a draft has to be like for a machine to be made of it. -/
structure WellFormed (draft : Draft) : Prop where
  initial_ne : draft.initialStates ≠ []
  initial_declared : ∀ state ∈ draft.initialStates, state ∈ draft.stateList
  /-- A default was chosen among the initial states, or there is exactly one entry to choose. -/
  default_initial : ∃ state ∈ draft.initialStates, draft.defaultInitialState = some state ∨
    draft.defaultInitialState = none ∧ draft.initialStates = [state]
  error_declared : ∀ state, draft.errorState = some state → state ∈ draft.stateList
  wellFormed : ∀ transition ∈ draft.transitions, transition.WellFormed draft.stateList
  unambiguous : draft.transitions.Pairwise fun left right => ¬ left.Conflicts right
  recovers : ∀ errorState, draft.errorState = some errorState →
    ∀ transition ∈ draft.transitions, transition.name = Transition.recoveryName →
      transition.target = errorState
  /-- A recovery transition that nobody declared has a state to start from. -/
  recoverable : ¬ (draft.errorSelfLoop = false ∧
    (∀ transition ∈ draft.transitions, transition.name ≠ Transition.recoveryName) ∧
    ∀ state ∈ draft.stateList, draft.errorState = some state)

/-- Dropping repeats keeps the states. -/
theorem mem_allStates : state ∈ draft.allStates ↔ state ∈ draft.stateList := by
  rw [allStates, stateList]
  cases draft.states with
  | none => rfl
  | some declared => exact State.mem_distinct

/-- Whether an edge is well formed depends on which states there are, not on how they are listed. -/
theorem wellFormed_allStates :
    transition.WellFormed draft.allStates ↔ transition.WellFormed draft.stateList := by
  have hsource : transition.source.Declared draft.allStates ↔
      transition.source.Declared draft.stateList := by
    cases transition.source with
    | any => rfl
    | states listed => simp only [Source.Declared, mem_allStates]
  constructor
  · rintro ⟨hname, hdeclared, htarget⟩
    exact ⟨hname, hsource.1 hdeclared, mem_allStates.1 htarget⟩
  · rintro ⟨hname, hdeclared, htarget⟩
    exact ⟨hname, hsource.2 hdeclared, mem_allStates.2 htarget⟩

theorem resolvedDefault_eq_some_iff :
    draft.resolvedDefault = some state ↔ draft.defaultInitialState = some state ∨
      draft.defaultInitialState = none ∧ draft.initialStates = [state] := by
  rw [resolvedDefault]
  cases draft.defaultInitialState with
  | some chosen => simp
  | none =>
    -- only a list of one entry says which entry is meant
    rcases draft.initialStates with _ | ⟨first, _ | ⟨second, rest⟩⟩ <;> simp

/-! ### The implicit recovery transition -/

theorem declaresRecovery_eq_false_iff :
    draft.declaresRecovery = false ↔
      ∀ transition ∈ draft.transitions, transition.name ≠ Transition.recoveryName := by
  simp [declaresRecovery]

/-- A recovery transition is added for an error state to which no recovery was declared. -/
theorem mem_implicitRecovery :
    transition ∈ draft.implicitRecovery ↔ ∃ errorState, draft.errorState = some errorState ∧
      (∀ declared ∈ draft.transitions, declared.name ≠ Transition.recoveryName) ∧
      transition = draft.recoveryTransition errorState := by
  rw [implicitRecovery, ← declaresRecovery_eq_false_iff]
  cases draft.errorState with
  | none => simp
  | some errorState => cases draft.declaresRecovery <;> simp

/-- There is at most one implicit recovery transition. -/
theorem pairwise_implicitRecovery (related : Transition → Transition → Prop) :
    draft.implicitRecovery.Pairwise related := by
  rw [implicitRecovery]
  cases draft.errorState with
  | none => exact .nil
  | some errorState => cases draft.declaresRecovery <;> simp

/-- The recovery starts from every state with the self loop, and without it from every declared
state but the error state. -/
theorem contains_recoveryTransition {current : State} :
    (draft.recoveryTransition errorState).source.contains current = true ↔
      draft.errorSelfLoop = true ∨ current ∈ draft.stateList ∧ current ≠ errorState := by
  rw [recoveryTransition]
  cases draft.errorSelfLoop with
  | true => simp
  | false => simp [mem_allStates]

/-- Without the self loop, there has to be another state than the error state. -/
theorem recoveryTransition_wellFormed_iff (herror : errorState ∈ draft.stateList) :
    (draft.recoveryTransition errorState).WellFormed draft.stateList ↔
      ¬ (draft.errorSelfLoop = false ∧ ∀ state ∈ draft.stateList, errorState = state) := by
  have hsource : (draft.recoveryTransition errorState).source.Declared draft.stateList ↔
      ¬ (draft.errorSelfLoop = false ∧ ∀ state ∈ draft.stateList, errorState = state) := by
    rw [recoveryTransition]
    cases draft.errorSelfLoop with
    | true => simp [Source.Declared]
    | false =>
      simp only [Bool.false_eq_true, ↓reduceIte, Source.Declared, ne_eq, List.filter_eq_nil_iff,
        bne_iff_ne, Classical.not_not, mem_allStates, List.mem_filter, true_and]
      constructor
      · rintro ⟨hsome, -⟩ hall
        exact hsome fun state hstate => (hall state hstate).symm
      · intro hsome
        refine ⟨fun hall => hsome fun state hstate => (hall state hstate).symm, ?_⟩
        rintro state ⟨hstate, -⟩
        exact hstate
  constructor
  · rintro ⟨-, hdeclared, -⟩
    exact hsource.1 hdeclared
  · intro hsome
    exact ⟨by simp [recoveryTransition, Transition.recoveryName], hsource.2 hsome, herror⟩

/-! ### Completed parts -/

/-- The edges of a well-formed draft stay unambiguous when the recovery transition is added: no
other edge has its name. -/
theorem pairwise_transitions
    (hunambiguous : draft.transitions.Pairwise fun left right => ¬ left.Conflicts right) :
    draft.parts.transitions.Pairwise fun left right => ¬ left.Conflicts right := by
  refine List.pairwise_append.2 ⟨hunambiguous, pairwise_implicitRecovery _, ?_⟩
  rintro declared hdeclared implicit himplicit ⟨hname, -⟩
  obtain ⟨errorState, -, hnone, rfl⟩ := mem_implicitRecovery.1 himplicit
  exact hnone declared hdeclared hname

theorem WellFormed.sound (h : draft.WellFormed) : draft.parts.Sound where
  initial_ne := by
    obtain ⟨state, hstate, -⟩ := h.default_initial
    exact List.ne_nil_of_mem (State.mem_distinct.2 hstate)
  initial_declared state hstate :=
    mem_allStates.2 (h.initial_declared state (State.mem_distinct.1 hstate))
  default_initial := by
    obtain ⟨state, hstate, hdefault⟩ := h.default_initial
    exact ⟨state, State.mem_distinct.2 hstate, resolvedDefault_eq_some_iff.2 hdefault⟩
  error_declared state herror := mem_allStates.2 (h.error_declared state herror)
  wellFormed := by
    intro transition htransition
    refine wellFormed_allStates.2 ?_
    rcases List.mem_append.1 htransition with hdeclared | himplicit
    · exact h.wellFormed transition hdeclared
    · obtain ⟨errorState, herror, hnone, rfl⟩ := mem_implicitRecovery.1 himplicit
      rw [recoveryTransition_wellFormed_iff (h.error_declared errorState herror)]
      rintro ⟨hloop, hall⟩
      exact h.recoverable ⟨hloop, hnone, fun state hstate => by rw [herror, hall state hstate]⟩
  unambiguous := pairwise_transitions h.unambiguous
  recovers := by
    intro errorState herror transition htransition hname
    rcases List.mem_append.1 htransition with hdeclared | himplicit
    · exact h.recovers errorState herror transition hdeclared hname
    · obtain ⟨implied, himplied, -, rfl⟩ := mem_implicitRecovery.1 himplicit
      exact Option.some.inj (himplied.symm.trans herror)

theorem wellFormed_of_sound (h : draft.parts.Sound) : draft.WellFormed := by
  have hdeclared (transition : Transition) (htransition : transition ∈ draft.transitions) :
      transition ∈ draft.parts.transitions :=
    List.mem_append_left _ htransition
  obtain ⟨default, hdefault, hresolved⟩ := h.default_initial
  have hinitial : default ∈ draft.initialStates := State.mem_distinct.1 hdefault
  have herror (state : State) (hstate : draft.errorState = some state) : state ∈ draft.stateList :=
    mem_allStates.1 (h.error_declared state hstate)
  exact
    { initial_ne := List.ne_nil_of_mem hinitial
      initial_declared := fun state hstate =>
        mem_allStates.1 (h.initial_declared state (State.mem_distinct.2 hstate))
      default_initial := ⟨default, hinitial, resolvedDefault_eq_some_iff.1 hresolved⟩
      error_declared := herror
      wellFormed := fun transition htransition =>
        wellFormed_allStates.1 (h.wellFormed transition (hdeclared transition htransition))
      unambiguous := (List.pairwise_append.1 h.unambiguous).1
      recovers := fun errorState hstate transition htransition =>
        h.recovers errorState hstate transition (hdeclared transition htransition)
      recoverable := by
        rintro ⟨hloop, hnone, hall⟩
        -- the default is the error state, for which a recovery was added that starts nowhere
        have hstate : draft.errorState = some default :=
          hall default (mem_allStates.1 (h.initial_declared default hdefault))
        have himplicit : draft.recoveryTransition default ∈ draft.parts.transitions :=
          List.mem_append_right _ (mem_implicitRecovery.2 ⟨default, hstate, hnone, rfl⟩)
        have hwellFormed := wellFormed_allStates.1 (h.wellFormed _ himplicit)
        rw [recoveryTransition_wellFormed_iff (herror default hstate)] at hwellFormed
        refine hwellFormed ⟨hloop, fun state hmem => ?_⟩
        exact Option.some.inj (hstate.symm.trans (hall state hmem)) }

/-- The conditions on a draft are those that its completed parts are checked for. -/
theorem wellFormed_iff_sound : draft.WellFormed ↔ draft.parts.Sound :=
  ⟨WellFormed.sound, wellFormed_of_sound⟩

/-! ### Building -/

/-- A machine is made of the completed parts. -/
theorem parts_of_build {machine : Machine} (h : draft.build = .ok machine) :
    machine.parts = draft.parts := by
  unfold build at h
  split at h
  · split at h
    · rw [← Except.ok.inj h]
    · exact nomatch h
  · exact nomatch h

/-- What is reported is every violation of the completed parts. -/
theorem error_of_build {error : BuildError} (h : draft.build = .error error) :
    error = .invalid draft.parts.violations := by
  unfold build at h
  split at h
  · split at h
    · exact nomatch h
    · exact (Except.error.inj h).symm
  · exact (Except.error.inj h).symm

theorem build_of_sound (h : draft.parts.Sound) : ∃ machine, draft.build = .ok machine := by
  unfold build
  split
  · have hviolations := Parts.violations_eq_nil_iff_sound.2 h
    simp only [hviolations, ↓reduceDIte]
    exact ⟨_, rfl⟩
  · next hnone =>
    obtain ⟨state, -, hdefault⟩ := h.default_initial
    rw [hdefault] at hnone
    exact nomatch hnone

theorem exists_build_iff_sound :
    (∃ machine, draft.build = .ok machine) ↔ draft.parts.Sound := by
  constructor
  · rintro ⟨machine, hbuild⟩
    rw [← parts_of_build hbuild]
    exact machine.parts_sound
  · exact build_of_sound

/-- A machine is made of exactly the well-formed drafts. It has the completed parts of its draft,
and whatever these name is declared. -/
theorem build_ok_iff_wellFormed (draft : Draft) :
    ((∃ machine, draft.build = .ok machine) ↔ draft.WellFormed) ∧
      ∀ machine, draft.build = .ok machine → machine.parts = draft.parts ∧ machine.Closed := by
  refine ⟨?_, fun machine hbuild => ⟨parts_of_build hbuild, machine.closed⟩⟩
  constructor
  · rintro ⟨machine, hbuild⟩
    have hsound := machine.parts_sound
    rw [parts_of_build hbuild] at hsound
    exact wellFormed_of_sound hsound
  · intro hwellFormed
    exact build_of_sound hwellFormed.sound

/-- Deliveries without a self loop: the states are inferred, the one initial state is the default,
and the recovery that is added starts from every state but the error state. -/
theorem build_ok_iff_wellFormed_delivery :
    let draft : Draft :=
      { initialStates := [⟨"pending"⟩]
        errorState := some ⟨"error"⟩
        errorSelfLoop := false
        transitions :=
          [{ name := "confirm", source := .states [⟨"pending"⟩], target := ⟨"confirmed"⟩ }] }
    draft.WellFormed ∧ ∃ machine, draft.build = .ok machine ∧ machine.Closed ∧
      machine.transitions = draft.transitions ++
        [{ name := "error"
           source := .states [⟨"pending"⟩, ⟨"confirmed"⟩]
           target := ⟨"error"⟩ }] := by
  intro draft
  obtain ⟨hiff, hclosed⟩ := build_ok_iff_wellFormed draft
  obtain ⟨machine, hbuild⟩ : ∃ machine, draft.build = .ok machine := ⟨_, rfl⟩
  obtain ⟨hparts, hmachine⟩ := hclosed machine hbuild
  refine ⟨hiff.1 ⟨machine, hbuild⟩, machine, hbuild, hmachine, ?_⟩
  rw [Machine.transitions, hparts]
  rfl

/-- Where the error state is the only state, a recovery without a self loop starts nowhere. -/
example :
    let draft : Draft :=
      { initialStates := [⟨"error"⟩], errorState := some ⟨"error"⟩, errorSelfLoop := false }
    draft.build = .error (.invalid [.emptySource "error"]) := rfl

end Draft

end Machine

end Lifecycle
