import Lifecycle.Proofs.Machine.Ambiguity
import Lifecycle.Proofs.Machine.Building

/-!
# The order of edges does not matter

A machine takes the first edge that applies, infers its states in the order of their mention, and
lists the states from which a recovery starts in that order too. Still, edges may be declared in any
order. `Machine.moves` is what can be done in a state, and everything that a machine answers follows
from it:

- `Machine.target?_eq_some_iff`: an edge leads where the moves say, whatever their order;
- `Machine.Draft.movesFrom_parts`: permuted edges make the same moves;
- `Machine.Draft.build_reordered`: permuted edges make a machine under the same circumstances, and
  the machines agree.
-/

namespace Lifecycle

namespace Transition

variable {transition : Transition} {all other : List State}

/-- Whether an edge is well formed depends on which states there are only. -/
theorem wellFormed_congr (h : ∀ state, state ∈ all ↔ state ∈ other) :
    transition.WellFormed all ↔ transition.WellFormed other := by
  have hsource : transition.source.Declared all ↔ transition.source.Declared other := by
    cases transition.source with
    | any => rfl
    | states listed => simp only [Source.Declared, h]
  constructor
  · rintro ⟨hname, hdeclared, htarget⟩
    exact ⟨hname, hsource.1 hdeclared, (h _).1 htarget⟩
  · rintro ⟨hname, hdeclared, htarget⟩
    exact ⟨hname, hsource.2 hdeclared, (h _).2 htarget⟩

/-- Conflicts do not depend on which of two edges comes first. -/
theorem Conflicts.symm {left right : Transition} (h : left.Conflicts right) :
    right.Conflicts left :=
  ⟨h.1.symm, h.2.symm⟩

/-- The edges that start from a state, each as its name and target. -/
def movesFrom (transitions : List Transition) (current : State) : List (String × State) :=
  (transitions.filter fun transition => transition.source.contains current).map
    fun transition => (transition.name, transition.target)

theorem movesFrom_append (left right : List Transition) (current : State) :
    movesFrom (left ++ right) current = movesFrom left current ++ movesFrom right current := by
  simp only [movesFrom, List.filter_append, List.map_append]

end Transition

namespace Machine

variable {machine : Machine} {current target : State} {name : String}

/-- What can be done in a state: the names of the edges that start from it, and where they lead. -/
def moves (machine : Machine) (current : State) : List (String × State) :=
  (machine.availableTransitions current).map fun edge => (edge.name, edge.target)

theorem mem_moves :
    (name, target) ∈ machine.moves current ↔
      ∃ edge ∈ machine.transitions, edge.applies current name = true ∧ edge.target = target := by
  simp [moves, availableTransitions, and_assoc, and_comm, and_left_comm]

/-- An edge leads where the moves say. No name has two moves, so that their order does not
matter. -/
theorem target?_eq_some_iff :
    machine.target? current name = some target ↔ (name, target) ∈ machine.moves current := by
  rw [target?, Option.map_eq_some_iff, mem_moves]
  simp only [resolve?_eq_some_iff, and_assoc]

theorem isReachable_eq_isSome :
    machine.isReachable current name = (machine.target? current name).isSome := by
  rw [isReachable, target?, Option.isSome_map]

theorem mem_nextStates :
    target ∈ machine.nextStates current ↔ ∃ name, (name, target) ∈ machine.moves current := by
  simp [nextStates, moves]

/-- Two machines that answer every question alike, up to the order in which they list states and
edges. -/
structure Agrees (left right : Machine) : Prop where
  mem_states : ∀ state, state ∈ left.states ↔ state ∈ right.states
  initialStates_eq : left.initialStates = right.initialStates
  defaultInitialState_eq : left.defaultInitialState = right.defaultInitialState
  errorState_eq : left.errorState = right.errorState
  target?_eq : ∀ current name, left.target? current name = right.target? current name
  isReachable_eq : ∀ current name, left.isReachable current name = right.isReachable current name
  mem_nextStates : ∀ current state, state ∈ left.nextStates current ↔ state ∈ right.nextStates current
  /-- As many edges of each name lead from a state to another. -/
  moves_perm : ∀ current, (left.moves current).Perm (right.moves current)

namespace Draft

variable {draft : Draft} {reordered : List Transition} {state current : State}

/-- The draft with its edges in another order, or with other edges. -/
def withTransitions (draft : Draft) (transitions : List Transition) : Draft :=
  { draft with transitions }

theorem mem_stateList_reordered (h : reordered.Perm draft.transitions) :
    state ∈ (draft.withTransitions reordered).stateList ↔ state ∈ draft.stateList := by
  rw [stateList, stateList, withTransitions]
  cases draft.states with
  | some declared => rfl
  | none => simp [inferredStates, h.mem_iff]

theorem declaresRecovery_reordered (h : reordered.Perm draft.transitions) :
    (draft.withTransitions reordered).declaresRecovery = draft.declaresRecovery :=
  h.any_eq

theorem WellFormed.withTransitions (h : draft.WellFormed)
    (hperm : reordered.Perm draft.transitions) : (draft.withTransitions reordered).WellFormed where
  initial_ne := h.initial_ne
  initial_declared state hstate :=
    (mem_stateList_reordered hperm).2 (h.initial_declared state hstate)
  default_initial := h.default_initial
  error_declared state herror := (mem_stateList_reordered hperm).2 (h.error_declared state herror)
  wellFormed transition htransition :=
    (Transition.wellFormed_congr fun _ => mem_stateList_reordered hperm).2
      (h.wellFormed transition (hperm.mem_iff.1 htransition))
  unambiguous :=
    -- a conflict of two edges is one in either order
    (hperm.pairwise_iff fun hdistinct hconflict => hdistinct hconflict.symm).2 h.unambiguous
  recovers errorState herror transition htransition :=
    h.recovers errorState herror transition (hperm.mem_iff.1 htransition)
  recoverable := by
    rintro ⟨hloop, hnone, hall⟩
    refine h.recoverable ⟨hloop, ?_, ?_⟩
    · intro transition htransition
      exact hnone transition (hperm.mem_iff.2 htransition)
    · intro state hstate
      exact hall state ((mem_stateList_reordered hperm).2 hstate)

theorem wellFormed_reordered_iff (hperm : reordered.Perm draft.transitions) :
    (draft.withTransitions reordered).WellFormed ↔ draft.WellFormed := by
  constructor
  · intro h
    have hback := h.withTransitions hperm.symm
    exact hback
  · intro h
    exact h.withTransitions hperm

/-- The recovery that is added starts from the same states, in whatever order they are listed. -/
theorem movesFrom_implicitRecovery (hperm : reordered.Perm draft.transitions) (current : State) :
    Transition.movesFrom (draft.withTransitions reordered).implicitRecovery current =
      Transition.movesFrom draft.implicitRecovery current := by
  have hsource (errorState : State) :
      ((draft.withTransitions reordered).recoveryTransition errorState).source.contains current =
        (draft.recoveryTransition errorState).source.contains current := by
    rw [Bool.eq_iff_iff, contains_recoveryTransition, contains_recoveryTransition,
      mem_stateList_reordered hperm]
    rfl
  have herror : (draft.withTransitions reordered).errorState = draft.errorState := rfl
  rw [implicitRecovery, implicitRecovery, declaresRecovery_reordered hperm, herror]
  cases draft.errorState with
  | none => rfl
  | some errorState =>
    cases draft.declaresRecovery with
    | true => rfl
    | false =>
      simp only [Bool.false_eq_true, ↓reduceIte, Transition.movesFrom, List.filter_cons, hsource]
      split
      · rfl
      · rfl

/-- Permuted edges make the same moves. -/
theorem movesFrom_parts (hperm : reordered.Perm draft.transitions) (current : State) :
    (Transition.movesFrom (draft.withTransitions reordered).parts.transitions current).Perm
      (Transition.movesFrom draft.parts.transitions current) := by
  have hdeclared : (Transition.movesFrom reordered current).Perm
      (Transition.movesFrom draft.transitions current) :=
    (hperm.filter _).map _
  simp only [parts, Transition.movesFrom_append, movesFrom_implicitRecovery hperm]
  exact hdeclared.append_right _

theorem agrees_of_build {machine other : Machine} (hperm : reordered.Perm draft.transitions)
    (hmachine : draft.build = .ok machine)
    (hother : (draft.withTransitions reordered).build = .ok other) : machine.Agrees other := by
  have hparts := parts_of_build hmachine
  have hotherParts := parts_of_build hother
  have hmoves (current : State) : (machine.moves current).Perm (other.moves current) := by
    have hperm := (movesFrom_parts hperm current).symm
    rwa [← hparts, ← hotherParts] at hperm
  have htarget (current : State) (name : String) :
      machine.target? current name = other.target? current name := by
    ext target
    rw [target?_eq_some_iff, target?_eq_some_iff, (hmoves current).mem_iff]
  exact
    { mem_states := by
        intro state
        rw [Machine.states, Machine.states, hparts, hotherParts]
        exact (mem_allStates.trans (mem_stateList_reordered hperm).symm).trans mem_allStates.symm
      initialStates_eq := by
        rw [Machine.initialStates, Machine.initialStates, hparts, hotherParts]
        rfl
      defaultInitialState_eq := by
        have hdefault := machine.default_eq
        have hotherDefault := other.default_eq
        rw [hparts] at hdefault
        rw [hotherParts] at hotherDefault
        exact Option.some.inj (hdefault.symm.trans hotherDefault)
      errorState_eq := by
        rw [Machine.errorState, Machine.errorState, hparts, hotherParts]
        rfl
      target?_eq := htarget
      isReachable_eq := by
        intro current name
        rw [isReachable_eq_isSome, isReachable_eq_isSome, htarget]
      mem_nextStates := by
        intro current state
        rw [Machine.mem_nextStates, Machine.mem_nextStates]
        simp only [(hmoves current).mem_iff]
      moves_perm := hmoves }

/-- Edges may be declared in any order. A machine is made of a draft exactly when one is made of the
draft with its edges permuted, and both machines give the same answers about every state, declared
or not, and every name. -/
theorem build_reordered (draft : Draft) {reordered : List Transition}
    (hperm : reordered.Perm draft.transitions) :
    ((∃ machine, draft.build = .ok machine) ↔
        ∃ machine, (draft.withTransitions reordered).build = .ok machine) ∧
      ∀ machine other, draft.build = .ok machine →
        (draft.withTransitions reordered).build = .ok other → machine.Agrees other := by
  refine ⟨?_, fun machine other hmachine hother => agrees_of_build hperm hmachine hother⟩
  rw [exists_build_iff_sound, exists_build_iff_sound, ← wellFormed_iff_sound, ← wellFormed_iff_sound,
    wellFormed_reordered_iff hperm]

/-- Deliveries without a self loop, whose states are inferred. When their edges change places, the
recovery that is added lists other states first, and starts from the same ones. -/
theorem build_reordered_delivery :
    let confirm : Transition :=
      { name := "confirm", source := .states [⟨"pending"⟩], target := ⟨"confirmed"⟩ }
    let cancel : Transition :=
      { name := "cancel", source := .any, target := ⟨"cancelled"⟩ }
    let draft : Draft :=
      { initialStates := [⟨"pending"⟩]
        errorState := some ⟨"error"⟩
        errorSelfLoop := false
        transitions := [confirm, cancel] }
    ∃ machine other, draft.build = .ok machine ∧
      (draft.withTransitions [cancel, confirm]).build = .ok other ∧ machine.Agrees other ∧
      machine.transitions[2]?.map Transition.source =
        some (.states [⟨"pending"⟩, ⟨"confirmed"⟩, ⟨"cancelled"⟩]) ∧
      other.transitions[2]?.map Transition.source =
        some (.states [⟨"pending"⟩, ⟨"cancelled"⟩, ⟨"confirmed"⟩]) := by
  intro confirm cancel draft
  obtain ⟨hiff, hagrees⟩ := build_reordered draft (.swap confirm cancel [])
  have hsound : draft.parts.violations = [] := by decide +kernel
  obtain ⟨machine, hmachine⟩ :=
    exists_build_iff_sound.2 (Parts.violations_eq_nil_iff_sound.1 hsound)
  obtain ⟨other, hother⟩ := hiff.1 ⟨machine, hmachine⟩
  refine ⟨machine, other, hmachine, hother, hagrees machine other hmachine hother, ?_, ?_⟩
  · rw [Machine.transitions, parts_of_build hmachine]
    rfl
  · rw [Machine.transitions, parts_of_build hother]
    rfl

end Draft

end Machine

end Lifecycle
