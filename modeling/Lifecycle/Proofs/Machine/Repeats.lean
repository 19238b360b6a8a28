import Lifecycle.Proofs.Machine.Building
import Lifecycle.Proofs.State.Mentions

/-!
# Declarations that are repeated

A draft may mention a state more than once. The states of the machine, its initial states and the
recovery that is added are made of what is mentioned, each state once, so that a further occurrence
makes no difference to them. The default is an exception: unless one was chosen, it is the only
entry of the list of initial states, and this list is looked at with its repeats.

- `Machine.Draft.parts_of_mentions`: apart from the default, the completed parts depend on what is
  mentioned, and in which order, only;
- `Machine.Draft.build_repeated`: a further occurrence changes the outcome exactly if it makes two
  entries of the only initial state, which was the default for want of another.
-/

namespace Lifecycle

/-- Of all rules, only the one on defaults looks at the default. -/
theorem Parts.defaultViolations_of_violations_eq {parts : Parts} {default : Option State}
    (h : { parts with defaultInitialState := default }.violations = parts.violations) :
    { parts with defaultInitialState := default }.defaultViolations = parts.defaultViolations := by
  have hrules : parts.initialViolations ++
      { parts with defaultInitialState := default }.defaultViolations ++ parts.errorViolations ++
      parts.transitions.flatMap parts.transitionViolations ++ ambiguities parts.transitions ++
      parts.recoveryViolations = parts.violations := h
  rw [violations] at hrules
  simpa only [List.append_cancel_right_eq, List.append_cancel_left_eq] using hrules

namespace Machine

namespace Draft

open State (Repeats)

variable {draft other : Draft} {listed repeated : List State} {state : State}

/-- The draft with other extra states. -/
def withExtraStates (draft : Draft) (extraStates : List State) : Draft :=
  { draft with extraStates }

/-- The draft with other initial states. -/
def withInitialStates (draft : Draft) (initialStates : List State) : Draft :=
  { draft with initialStates }

/-! ### Completed parts -/

/-- Apart from the default, the completed parts depend on the distinct states that are mentioned,
and on the edges. -/
theorem parts_of_mentions (hstates : other.allStates = draft.allStates)
    (hinitial : State.distinct other.initialStates = State.distinct draft.initialStates)
    (herror : other.errorState = draft.errorState)
    (hloop : other.errorSelfLoop = draft.errorSelfLoop)
    (htransitions : other.transitions = draft.transitions) :
    other.parts = { draft.parts with defaultInitialState := other.resolvedDefault } := by
  have hdeclares : other.declaresRecovery = draft.declaresRecovery := by
    rw [declaresRecovery, htransitions, declaresRecovery]
  have hrecovery : other.recoveryTransition = draft.recoveryTransition := by
    funext errorState
    rw [recoveryTransition, hstates, hloop, recoveryTransition]
  have himplicit : other.implicitRecovery = draft.implicitRecovery := by
    rw [implicitRecovery, herror, hdeclares, hrecovery, implicitRecovery]
  simp only [parts, hstates, hinitial, herror, htransitions, himplicit]

theorem parts_declareStates (hstates : draft.states = some listed) (h : Repeats listed repeated) :
    (draft.declareStates repeated).parts = draft.parts := by
  have hall : (draft.declareStates repeated).allStates = draft.allStates := by
    simp only [allStates, declareStates, hstates]
    exact h.distinct_eq
  exact parts_of_mentions hall rfl rfl rfl rfl

theorem parts_withExtraStates (h : Repeats draft.extraStates repeated) :
    (draft.withExtraStates repeated).parts = draft.parts := by
  have hall : (draft.withExtraStates repeated).allStates = draft.allStates := by
    simp only [allStates, withExtraStates, inferredStates]
    cases draft.states with
    | some declared => rfl
    | none => exact (((h.append_left _).append_right _).append_right _).distinct_eq
  exact parts_of_mentions hall rfl rfl rfl rfl

/-- A repeated initial state can make a difference to the default only. -/
theorem parts_withInitialStates (h : Repeats draft.initialStates repeated) :
    (draft.withInitialStates repeated).parts =
      { draft.parts with
        defaultInitialState := (draft.withInitialStates repeated).resolvedDefault } := by
  have hall : (draft.withInitialStates repeated).allStates = draft.allStates := by
    simp only [allStates, withInitialStates, inferredStates]
    cases draft.states with
    | some declared => rfl
    | none => exact (((h.append_right _).append_right _).append_right _).distinct_eq
  exact parts_of_mentions hall h.distinct_eq rfl rfl rfl

/-! ### The default -/

/-- Without a chosen default, anything but a single entry leaves the default open. -/
theorem resolvedDefault_eq_none (hchosen : draft.defaultInitialState = none)
    (hlength : draft.initialStates.length ≠ 1) : draft.resolvedDefault = none := by
  rw [resolvedDefault, hchosen]
  rcases hentries : draft.initialStates with _ | ⟨first, _ | ⟨second, rest⟩⟩
  · rfl
  · rw [hentries] at hlength
    exact absurd rfl hlength
  · rfl

/-- A repeat leaves the default as it is, if one was chosen or there was no single entry. -/
theorem resolvedDefault_withInitialStates (h : Repeats draft.initialStates repeated)
    (hdefault : ¬ (draft.defaultInitialState = none ∧ draft.initialStates.length = 1)) :
    (draft.withInitialStates repeated).resolvedDefault = draft.resolvedDefault := by
  cases hchosen : draft.defaultInitialState with
  | some chosen => simp [resolvedDefault, withInitialStates, hchosen]
  | none =>
    have hseveral : draft.initialStates.length ≠ 1 := fun hsingle => hdefault ⟨hchosen, hsingle⟩
    have hmore : repeated.length ≠ 1 := by
      have hentries := List.length_pos_iff.2 h.ne_nil
      rw [h.length_eq]
      omega
    have hopen : (draft.withInitialStates repeated).resolvedDefault = none :=
      resolvedDefault_eq_none hchosen hmore
    rw [resolvedDefault_eq_none hchosen hseveral, hopen]

/-! ### Building -/

/-- The outcome depends on the completed parts only. -/
theorem build_of_parts (h : other.parts = draft.parts) : other.build = draft.build := by
  unfold build
  rw [h]

theorem build_of_resolvedDefault_eq_none (h : draft.resolvedDefault = none) :
    draft.build = .error (.invalid draft.parts.violations) := by
  unfold build
  split
  · next hdefault =>
    change draft.resolvedDefault = some _ at hdefault
    rw [h] at hdefault
    exact nomatch hdefault
  · rfl

/-- Where the only entry is repeated, the default that it was is missed. -/
theorem build_ne_of_single (hchosen : draft.defaultInitialState = none)
    (hentries : draft.initialStates = [state]) (h : Repeats draft.initialStates repeated) :
    (draft.withInitialStates repeated).build ≠ draft.build := by
  have hparts := parts_withInitialStates h
  rw [hentries] at h
  obtain rfl := h.of_singleton
  have hmissing : (draft.withInitialStates [state, state]).resolvedDefault = none :=
    resolvedDefault_eq_none hchosen (by simp [withInitialStates])
  intro hbuild
  rw [build_of_resolvedDefault_eq_none hmissing] at hbuild
  have hviolations := (BuildError.invalid.inj (error_of_build hbuild.symm)).symm
  rw [hparts, hmissing] at hviolations
  have hrule := Parts.defaultViolations_of_violations_eq hviolations.symm
  have hdefault : draft.parts.defaultInitialState = some state :=
    resolvedDefault_eq_some_iff.2 (.inr ⟨hchosen, hentries⟩)
  have hinitial : draft.parts.initialStates = [state] := by
    change State.distinct draft.initialStates = [state]
    rw [hentries]
    rfl
  -- the rule on defaults reports the missing default in one case only
  simp [Parts.defaultViolations, Parts.require, hdefault, hinitial] at hrule

/-- A further occurrence of a state that is declared, added, or initial already leaves the outcome as
it is: the same machine, or the same violations. There is one exception. Without a chosen default, a
single entry of the initial states is the default, and repeating this entry takes it away. -/
theorem build_repeated (draft : Draft) :
    (∀ listed repeated, draft.states = some listed → Repeats listed repeated →
      (draft.declareStates repeated).build = draft.build) ∧
    (∀ repeated, Repeats draft.extraStates repeated →
      (draft.withExtraStates repeated).build = draft.build) ∧
    ∀ repeated, Repeats draft.initialStates repeated →
      ((draft.withInitialStates repeated).build = draft.build ↔
        ¬ (draft.defaultInitialState = none ∧ draft.initialStates.length = 1)) := by
  refine ⟨?_, ?_, ?_⟩
  · intro listed repeated hstates hrepeats
    exact build_of_parts (parts_declareStates hstates hrepeats)
  · intro repeated hrepeats
    exact build_of_parts (parts_withExtraStates hrepeats)
  · intro repeated hrepeats
    constructor
    · rintro hbuild ⟨hchosen, hlength⟩
      obtain ⟨state, hentries⟩ := List.length_eq_one_iff.1 hlength
      exact build_ne_of_single hchosen hentries hrepeats hbuild
    · intro hdefault
      have hparts := parts_withInitialStates hrepeats
      rw [resolvedDefault_withInitialStates hrepeats hdefault] at hparts
      exact build_of_parts hparts

/-- The one initial state is mentioned twice. There still is one initial state only, but a default
is demanded as if there were several. -/
theorem build_error_of_single_repeated :
    let once : Draft := { initialStates := [⟨"pending"⟩] }
    let twice : Draft := { initialStates := [⟨"pending"⟩, ⟨"pending"⟩] }
    Repeats once.initialStates twice.initialStates ∧
      twice.parts.initialStates = once.parts.initialStates ∧
      (∃ machine, once.build = .ok machine ∧ machine.defaultInitialState = ⟨"pending"⟩) ∧
      twice.build = .error (.invalid [.missingDefaultInitialState]) := by
  intro once twice
  have hrepeats : Repeats ([⟨"pending"⟩] ++ []) ([⟨"pending"⟩] ++ [⟨"pending"⟩]) :=
    .intro List.mem_cons_self
  exact ⟨hrepeats, rfl, ⟨_, rfl, rfl⟩, rfl⟩

end Draft

end Machine

end Lifecycle
