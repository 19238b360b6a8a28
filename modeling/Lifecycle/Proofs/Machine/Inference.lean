import Lifecycle.Proofs.Machine.Building
import Lifecycle.Proofs.Machine.Defects
import Lifecycle.Proofs.State.Mentions

/-!
# States that are inferred

A draft that does not declare its states has those that it mentions anywhere, in the order of first
mention. Inference looks at the draft before the recovery transition is added, but this transition
leads to the error state and starts from states that were inferred, so that nothing in the completed
parts is undeclared: `Machine.Draft.infers_of_undeclared`.
-/

namespace Lifecycle

namespace Violation

/-- Whether a violation is about a state that is not declared. -/
def isUndeclared : Violation → Bool
  | undeclaredInitialState _ | undeclaredErrorState _ | undeclaredState _ _ => true
  | noInitialStates | missingDefaultInitialState | defaultNotInitial _ | emptyTransitionName
  | emptySource _ | ambiguousTransition _ _ | recoveryTargetMismatch _ _ _ => false

end Violation

namespace Parts

variable {parts : Parts} {violation : Violation}

/-- Every state that the parts name is declared. -/
structure NamesDeclared (parts : Parts) : Prop where
  initial : ∀ state ∈ parts.initialStates, state ∈ parts.states
  error : ∀ state, parts.errorState = some state → state ∈ parts.states
  mentioned : ∀ transition ∈ parts.transitions, ∀ state ∈ transition.mentioned, state ∈ parts.states

/-- Where every state is declared, no violation is about an undeclared one. -/
theorem NamesDeclared.isUndeclared_eq_false (h : parts.NamesDeclared)
    (hviolation : violation ∈ parts.violations) : violation.isUndeclared = false := by
  obtain ⟨place, hdefect⟩ := exists_defectAt_of_mem hviolation
  cases hdefect with
  | undeclaredInitialState hentry hundeclared =>
    exact absurd (h.initial _ (List.mem_of_getElem? hentry)) hundeclared
  | undeclaredErrorState herror hundeclared => exact absurd (h.error _ herror) hundeclared
  | undeclaredState htransition hmention hundeclared =>
    -- the source states and the target are checked alike
    have hdeclared := h.mentioned _ (List.mem_of_getElem? htransition) _
      (List.mem_of_getElem? hmention)
    exact absurd hdeclared hundeclared
  | _ => rfl

end Parts

namespace Machine

namespace Draft

variable {draft : Draft} {state : State}

/-- Something in a draft mentions the state. -/
inductive Mentions (draft : Draft) (state : State) : Prop where
  /-- It is an initial state. -/
  | initial (hstate : state ∈ draft.initialStates)
  /-- It is one of the extra states. -/
  | extra (hstate : state ∈ draft.extraStates)
  /-- It is the error state. -/
  | error (hstate : draft.errorState = some state)
  /-- A transition lists it as a source. -/
  | source {transition : Transition} {listed : List State}
    (htransition : transition ∈ draft.transitions) (hsource : transition.source = .states listed)
    (hstate : state ∈ listed)
  /-- A transition leads to it. -/
  | target {transition : Transition} (htransition : transition ∈ draft.transitions)
    (hstate : transition.target = state)

/-- The states that a draft mentions, with repeats and in the order in which inference goes through
them: initial states, extra states, the error state, and of each transition first the states that it
lists as its source and then its target. -/
def mentioned (draft : Draft) : List State :=
  draft.initialStates ++ draft.extraStates ++ draft.errorState.toList ++
    draft.transitions.flatMap fun transition =>
      match transition.source with
      | .any => [transition.target]
      | .states listed => listed ++ [transition.target]

theorem mem_mentioned_iff : state ∈ draft.mentioned ↔ draft.Mentions state := by
  simp only [mentioned, List.mem_append, Option.mem_toList, List.mem_flatMap]
  constructor
  · rintro (((hstate | hstate) | hstate) | ⟨transition, htransition, hstate⟩)
    · exact .initial hstate
    · exact .extra hstate
    · exact .error hstate
    · cases hsource : transition.source with
      | any =>
        rw [hsource, List.mem_singleton] at hstate
        exact .target htransition hstate.symm
      | states listed =>
        simp only [hsource, List.mem_append, List.mem_singleton] at hstate
        rcases hstate with hlisted | htarget
        · exact .source htransition hsource hlisted
        · exact .target htransition htarget.symm
  · rintro (hstate | hstate | hstate | ⟨htransition, hsource, hstate⟩ | ⟨htransition, rfl⟩)
    · exact .inl (.inl (.inl hstate))
    · exact .inl (.inl (.inr hstate))
    · exact .inl (.inr hstate)
    · exact .inr ⟨_, htransition, by simp [hsource, hstate]⟩
    · refine .inr ⟨_, htransition, ?_⟩
      split <;> simp

theorem inferredStates_eq (draft : Draft) : draft.inferredStates = State.distinct draft.mentioned := by
  have hmentioned : Transition.mentioned = fun transition =>
      match transition.source with
      | .any => [transition.target]
      | .states listed => listed ++ [transition.target] := by
    funext transition
    rw [Transition.mentioned]
    cases transition.source <;> rfl
  rw [inferredStates, mentioned, hmentioned]

theorem mem_inferredStates_iff : state ∈ draft.inferredStates ↔ draft.Mentions state := by
  rw [inferredStates_eq, State.mem_distinct, mem_mentioned_iff]

/-- A transition of the draft mentions states that the draft mentions. -/
theorem Mentions.of_transition {transition : Transition} (htransition : transition ∈ draft.transitions)
    (hstate : state ∈ transition.mentioned) : draft.Mentions state := by
  rw [← mem_inferredStates_iff, inferredStates, State.mem_distinct]
  exact List.mem_append_right _ (List.mem_flatMap.2 ⟨transition, htransition, hstate⟩)

theorem allStates_of_undeclared (hundeclared : draft.states = none) :
    draft.allStates = draft.inferredStates := by
  rw [allStates, hundeclared]

/-- The implicit recovery transition mentions the error state and states of the machine. -/
theorem mem_allStates_of_mem_implicitRecovery {transition : Transition}
    (herror : ∀ errorState, draft.errorState = some errorState → errorState ∈ draft.allStates)
    (htransition : transition ∈ draft.implicitRecovery) (hstate : state ∈ transition.mentioned) :
    state ∈ draft.allStates := by
  obtain ⟨errorState, hgiven, -, rfl⟩ := mem_implicitRecovery.1 htransition
  rcases List.mem_append.1 hstate with hsource | htarget
  · -- without loops at the error state, the sources are listed, and all of them are states already
    rw [recoveryTransition] at hsource
    split at hsource
    · exact absurd hsource List.not_mem_nil
    · exact (List.mem_filter.1 hsource).1
  · rw [List.mem_singleton.1 htarget]
    exact herror errorState hgiven

/-- Whatever the completed parts name was inferred, also by the recovery transition that is added
afterwards. -/
theorem namesDeclared_parts (hundeclared : draft.states = none) : draft.parts.NamesDeclared := by
  have hmentions (state : State) (hstate : draft.Mentions state) : state ∈ draft.allStates := by
    rw [allStates_of_undeclared hundeclared]
    exact mem_inferredStates_iff.2 hstate
  have herror (errorState : State) (hgiven : draft.errorState = some errorState) :
      errorState ∈ draft.allStates :=
    hmentions errorState (.error hgiven)
  exact
    { initial := fun state hstate => hmentions state (.initial (State.mem_distinct.1 hstate))
      error := herror
      mentioned := by
        intro transition htransition state hstate
        rcases List.mem_append.1 htransition with hdeclared | himplicit
        · exact hmentions state (.of_transition hdeclared hstate)
        · exact mem_allStates_of_mem_implicitRecovery herror himplicit hstate }

/-- What a draft without a declaration of its states makes of those that it mentions. -/
structure Infers (draft : Draft) : Prop where
  first_mentions : State.FirstMentions draft.inferredStates draft.mentioned
  mem_iff : ∀ state, state ∈ draft.inferredStates ↔ draft.Mentions state
  states_of_build : ∀ machine, draft.build = .ok machine → machine.states = draft.inferredStates
  /-- What is checked has the inferred states, -/
  parts_states : draft.parts.states = draft.inferredStates
  /-- and whatever it names is among them, also what the implicit recovery transition names. -/
  parts_declared : draft.parts.NamesDeclared
  /-- So a violation that is reported is never about an undeclared state. -/
  never_undeclared : ∀ error, draft.build = .error error →
    ∀ violation ∈ error.violations, violation.isUndeclared = false

/-- States that are not declared are inferred: each state that is mentioned is one of them, once and in
the order of first mention, and no undeclared state is ever reported. -/
theorem infers_of_undeclared (hundeclared : draft.states = none) : draft.Infers where
  first_mentions := by
    rw [inferredStates_eq]
    exact State.firstMentions_distinct _
  mem_iff _ := mem_inferredStates_iff
  states_of_build machine hbuild := by
    rw [Machine.states, parts_of_build hbuild]
    exact allStates_of_undeclared hundeclared
  parts_states := allStates_of_undeclared hundeclared
  parts_declared := namesDeclared_parts hundeclared
  never_undeclared error hbuild violation hviolation := by
    rw [error_of_build hbuild] at hviolation
    exact (namesDeclared_parts hundeclared).isUndeclared_eq_false hviolation

/-- States are inferred in the order of first mention. The default is missed, and nothing else: the
recovery that is added starts from all states but the error state. -/
theorem infers_of_undeclared_delivery :
    let draft : Draft :=
      { extraStates := [⟨"archived"⟩, ⟨"pending"⟩]
        initialStates := [⟨"pending"⟩, ⟨"pending"⟩]
        errorState := some ⟨"error"⟩
        errorSelfLoop := false
        transitions :=
          [{ name := "cancel", source := .any, target := ⟨"cancelled"⟩ },
           { name := "confirm", source := .states [⟨"late"⟩, ⟨"pending"⟩], target := ⟨"confirmed"⟩ }] }
    draft.states = none ∧
      draft.inferredStates =
        [⟨"pending"⟩, ⟨"archived"⟩, ⟨"error"⟩, ⟨"cancelled"⟩, ⟨"late"⟩, ⟨"confirmed"⟩] ∧
      draft.build = .error (.invalid [.missingDefaultInitialState]) ∧
      ∀ violation ∈ [Violation.missingDefaultInitialState], violation.isUndeclared = false := by
  intro draft
  have hinfers : draft.Infers := infers_of_undeclared rfl
  have hbuild : draft.build = .error (.invalid [.missingDefaultInitialState]) := by decide +kernel
  exact ⟨rfl, rfl, hbuild, hinfers.never_undeclared _ hbuild⟩

end Draft

end Machine

end Lifecycle
