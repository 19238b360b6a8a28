import Lifecycle.Machine

/-!
# What the rules demand

`Parts.violations` runs one rule after the other over the parts of a machine and lists what each of
them finds. This module says what each rule demands, in terms of states and edges alone:

- `Source.overlap?_eq_none_iff`: two sources do not overlap when no state whatsoever is in both;
- `Parts.ambiguities_eq_nil_iff`: no two edges conflict, at whatever positions they stand;
- `Parts.violations_eq_nil_iff_sound`: parts without a violation are exactly the sound ones.

`Parts.Sound` is what the rest of the theory uses; the lists of violations are not opened again.
-/

namespace Lifecycle

namespace Source

/-- Some state is in both sources. The wildcard has every state, declared or not. -/
def Meets (left right : Source) : Prop :=
  ∃ state, left.contains state = true ∧ right.contains state = true

/-- The source is the wildcard, or it lists at least one state and only some of these. -/
def Declared (all : List State) : Source → Prop
  | any => True
  | states listed => listed ≠ [] ∧ ∀ state ∈ listed, state ∈ all

theorem ofNonempty?_eq_none_iff {listed : List State} :
    ofNonempty? listed = none ↔ listed = [] := by
  cases listed <;> simp [ofNonempty?]

theorem Meets.symm {left right : Source} (h : left.Meets right) : right.Meets left := by
  obtain ⟨state, hleft, hright⟩ := h
  exact ⟨state, hright, hleft⟩

/-- The wildcard meets a list that is not empty. -/
theorem any_meets_states_iff {listed : List State} : any.Meets (states listed) ↔ listed ≠ [] := by
  constructor
  · rintro ⟨state, -, hlisted⟩ rfl
    exact absurd (contains_states.1 hlisted) List.not_mem_nil
  · intro hne
    obtain ⟨state, hstate⟩ := List.exists_mem_of_ne_nil listed hne
    exact ⟨state, rfl, contains_states.2 hstate⟩

theorem overlap?_eq_none_iff {left right : Source} :
    left.overlap? right = none ↔ ¬ left.Meets right := by
  cases left with
  | any =>
    cases right with
    | any =>
      -- two wildcards share every state, so that any state will do
      have hmeets : any.Meets any := ⟨default, rfl, rfl⟩
      simp [overlap?, hmeets]
    | states listed =>
      rw [overlap?, ofNonempty?_eq_none_iff, any_meets_states_iff, Classical.not_not]
  | states listed =>
    cases right with
    | any =>
      have hcomm : (states listed).Meets any ↔ any.Meets (states listed) := ⟨.symm, .symm⟩
      rw [overlap?, ofNonempty?_eq_none_iff, hcomm, any_meets_states_iff, Classical.not_not]
    | states other =>
      rw [overlap?, ofNonempty?_eq_none_iff, List.filter_eq_nil_iff]
      constructor
      · rintro hnone ⟨state, hleft, hright⟩
        apply hnone state (contains_states.1 hleft)
        rw [List.contains_iff_mem]
        exact contains_states.1 hright
      · intro hdisjoint state hstate hother
        rw [List.contains_iff_mem] at hother
        exact hdisjoint ⟨state, contains_states.2 hstate, contains_states.2 hother⟩

end Source

namespace Transition

/-- Two edges share their name and a state to start from. -/
def Conflicts (left right : Transition) : Prop :=
  left.name = right.name ∧ left.source.Meets right.source

/-- The edge has a name, starts somewhere, and names only declared states. -/
structure WellFormed (all : List State) (transition : Transition) : Prop where
  name_ne : transition.name ≠ ""
  source_declared : transition.source.Declared all
  target_mem : transition.target ∈ all

theorem overlap?_eq_none_iff {left right : Transition} :
    left.overlap? right = none ↔ ¬ left.Conflicts right := by
  rw [overlap?, Conflicts]
  split
  · next hname => simp [hname, Source.overlap?_eq_none_iff]
  · next hname => simp [hname]

end Transition

namespace Parts

variable {parts : Parts}

/-- Parts of which a machine can be made. -/
structure Sound (parts : Parts) : Prop where
  initial_ne : parts.initialStates ≠ []
  initial_declared : ∀ state ∈ parts.initialStates, state ∈ parts.states
  default_initial : ∃ state ∈ parts.initialStates, parts.defaultInitialState = some state
  error_declared : ∀ state, parts.errorState = some state → state ∈ parts.states
  wellFormed : ∀ transition ∈ parts.transitions, transition.WellFormed parts.states
  unambiguous : parts.transitions.Pairwise fun left right => ¬ left.Conflicts right
  /-- Every edge with the name of the recovery transition leads to the error state. -/
  recovers : ∀ errorState, parts.errorState = some errorState →
    ∀ transition ∈ parts.transitions, transition.name = Transition.recoveryName →
      transition.target = errorState

/-- Parts have no violation exactly when no rule finds one. -/
theorem violations_eq_nil_iff :
    parts.violations = [] ↔
      parts.initialViolations = [] ∧ parts.defaultViolations = [] ∧ parts.errorViolations = [] ∧
        (∀ transition ∈ parts.transitions, parts.transitionViolations transition = []) ∧
        ambiguities parts.transitions = [] ∧ parts.recoveryViolations = [] := by
  simp only [violations, List.append_eq_nil_iff, List.flatMap_eq_nil_iff, and_assoc]

theorem initialViolations_eq_nil_iff :
    parts.initialViolations = [] ↔
      parts.initialStates ≠ [] ∧ ∀ state ∈ parts.initialStates, state ∈ parts.states := by
  simp [initialViolations]

/-- Once there is an initial state, the rule on defaults demands one of them. -/
theorem defaultViolations_eq_nil_iff (hinitial : parts.initialStates ≠ []) :
    parts.defaultViolations = [] ↔
      ∃ state ∈ parts.initialStates, parts.defaultInitialState = some state := by
  rw [defaultViolations]
  cases hdefault : parts.defaultInitialState with
  | none => simp [hinitial]
  | some state => simp [Option.some.injEq, @eq_comm _ state]

theorem errorViolations_eq_nil_iff :
    parts.errorViolations = [] ↔
      ∀ state, parts.errorState = some state → state ∈ parts.states := by
  rw [errorViolations]
  cases herror : parts.errorState with
  | none => simp
  | some state => simp

theorem transitionViolations_eq_nil_iff {transition : Transition} :
    parts.transitionViolations transition = [] ↔ transition.WellFormed parts.states := by
  have hsource : sourceViolations transition = [] ∧
      (∀ state ∈ transition.source.listed, state ∈ parts.states) ↔
        transition.source.Declared parts.states := by
    rw [sourceViolations]
    cases transition.source with
    | any => simp [Source.listed, Source.Declared]
    | states listed => simp [Source.listed, Source.Declared]
  simp only [transitionViolations, Transition.mentioned, List.append_eq_nil_iff,
    List.flatMap_eq_nil_iff, require_eq_nil, bne_iff_ne, List.contains_iff_mem, List.mem_append,
    List.mem_singleton, or_imp, forall_and, forall_eq]
  constructor
  · rintro ⟨⟨hname, hnonempty⟩, hlisted, htarget⟩
    exact ⟨hname, hsource.1 ⟨hnonempty, hlisted⟩, htarget⟩
  · rintro ⟨hname, hdeclared, htarget⟩
    obtain ⟨hnonempty, hlisted⟩ := hsource.2 hdeclared
    exact ⟨⟨hname, hnonempty⟩, hlisted, htarget⟩

/-- The rule on ambiguity looks at every pair of positions. -/
theorem ambiguities_eq_nil_iff {transitions : List Transition} :
    ambiguities transitions = [] ↔
      transitions.Pairwise fun left right => ¬ left.Conflicts right := by
  induction transitions with
  | nil => simp [ambiguities]
  | cons left rest ih =>
    rw [ambiguities, List.append_eq_nil_iff, List.pairwise_cons, ih, List.filterMap_eq_nil_iff]
    simp only [Option.map_eq_none_iff, Transition.overlap?_eq_none_iff]

theorem recoveryViolations_eq_nil_iff :
    parts.recoveryViolations = [] ↔
      ∀ errorState, parts.errorState = some errorState →
        ∀ transition ∈ parts.transitions, transition.name = Transition.recoveryName →
          transition.target = errorState := by
  rw [recoveryViolations]
  cases herror : parts.errorState with
  | none => simp
  | some errorState => simp

/-- Parts have no violation exactly when they are sound. -/
theorem violations_eq_nil_iff_sound : parts.violations = [] ↔ parts.Sound := by
  rw [violations_eq_nil_iff]
  simp only [initialViolations_eq_nil_iff, errorViolations_eq_nil_iff,
    transitionViolations_eq_nil_iff, ambiguities_eq_nil_iff, recoveryViolations_eq_nil_iff]
  constructor
  · rintro ⟨⟨hne, hinitial⟩, hdefault, herror, hwellFormed, hunambiguous, hrecovers⟩
    rw [defaultViolations_eq_nil_iff hne] at hdefault
    exact ⟨hne, hinitial, hdefault, herror, hwellFormed, hunambiguous, hrecovers⟩
  · rintro ⟨hne, hinitial, hdefault, herror, hwellFormed, hunambiguous, hrecovers⟩
    rw [← defaultViolations_eq_nil_iff hne] at hdefault
    exact ⟨⟨hne, hinitial⟩, hdefault, herror, hwellFormed, hunambiguous, hrecovers⟩

end Parts

end Lifecycle
