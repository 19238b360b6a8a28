import Lifecycle.Proofs.Machine.Building

/-!
# Where recovery is possible

An error state brings a recovery along, unless somebody declared one. Which states a record can
recover from is therefore decided by three parts of a draft: the declared edges, the self loop, and
the states, which may be inferred.

- `Machine.Draft.transitions_of_declared` and `Machine.Draft.transitions_of_undeclared`: what is
  added to the declared edges;
- `Machine.Draft.recovery_possible`: the states from which a recovery starts, whether they are
  declared or not, and where it leads.
-/

namespace Lifecycle

namespace Machine

variable {machine : Machine} {current errorState : State} {name : String}

/-- A name can be reached from a state where some edge of that name starts. -/
theorem isReachable_iff_exists_applies :
    machine.isReachable current name = true ↔
      ∃ edge ∈ machine.transitions, edge.applies current name = true := by
  rw [isReachable, resolve?, List.find?_isSome]

/-- Resolution finds no recovery from a state, or one that leads to the error state. -/
theorem resolve?_recoveryName (herror : machine.errorState = some errorState) (current : State) :
    machine.resolve? current Transition.recoveryName = none ∨
      ∃ edge, machine.resolve? current Transition.recoveryName = some edge ∧
        edge.target = errorState := by
  rcases hresolve : machine.resolve? current Transition.recoveryName with _ | edge
  · exact .inl rfl
  · right
    obtain ⟨hedge, happlies⟩ := mem_of_resolve? hresolve
    have hname := (Transition.applies_iff.1 happlies).1
    exact ⟨edge, rfl, machine.parts_sound.recovers errorState herror edge hedge hname⟩

namespace Draft

variable {draft : Draft}

/-- Somebody declared an edge with the name of the recovery transition. -/
def HasRecovery (draft : Draft) : Prop :=
  ∃ declared ∈ draft.transitions, declared.name = Transition.recoveryName

theorem declaresRecovery_iff : draft.declaresRecovery = true ↔ draft.HasRecovery := by
  simp [declaresRecovery, HasRecovery]

/-- Nothing is added to a declared recovery. -/
theorem transitions_of_declared (hbuild : draft.build = .ok machine) (hdeclared : draft.HasRecovery) :
    machine.transitions = draft.transitions := by
  have himplicit : draft.implicitRecovery = [] := by
    rw [implicitRecovery]
    rcases draft.errorState with _ | errorState
    · rfl
    · exact if_pos (declaresRecovery_iff.2 hdeclared)
  rw [Machine.transitions, parts_of_build hbuild]
  show draft.transitions ++ draft.implicitRecovery = draft.transitions
  rw [himplicit, List.append_nil]

/-- Where an error state has no declared recovery, one is added behind the declared edges. -/
theorem transitions_of_undeclared (hbuild : draft.build = .ok machine)
    (herror : machine.errorState = some errorState) (hundeclared : ¬ draft.HasRecovery) :
    machine.transitions = draft.transitions ++ [draft.recoveryTransition errorState] := by
  have hparts := parts_of_build hbuild
  rw [Machine.errorState, hparts] at herror
  have himplicit : draft.implicitRecovery = [draft.recoveryTransition errorState] := by
    -- the completed parts have the error state of the draft
    rw [implicitRecovery, show draft.errorState = some errorState from herror]
    exact if_neg fun hdeclares => hundeclared (declaresRecovery_iff.1 hdeclares)
  rw [Machine.transitions, hparts]
  show draft.transitions ++ draft.implicitRecovery = _
  rw [himplicit]

/-- Declared recoveries start from the states that the source of one of them contains. -/
theorem isReachable_of_declared (hbuild : draft.build = .ok machine)
    (hdeclared : draft.HasRecovery) :
    machine.isReachable current Transition.recoveryName = true ↔
      ∃ declared ∈ draft.transitions, declared.name = Transition.recoveryName ∧
        declared.source.contains current = true := by
  rw [isReachable_iff_exists_applies, transitions_of_declared hbuild hdeclared]
  simp only [Transition.applies_iff]

/-- The recovery that is added is the only one, and starts where its source says. -/
theorem isReachable_of_undeclared (hbuild : draft.build = .ok machine)
    (herror : machine.errorState = some errorState) (hundeclared : ¬ draft.HasRecovery) :
    machine.isReachable current Transition.recoveryName = true ↔
      draft.errorSelfLoop = true ∨ current ∈ machine.states ∧ current ≠ errorState := by
  have hstates : current ∈ machine.states ↔ current ∈ draft.stateList := by
    rw [Machine.states, parts_of_build hbuild]
    exact mem_allStates
  rw [hstates, ← contains_recoveryTransition, isReachable_iff_exists_applies,
    transitions_of_undeclared hbuild herror hundeclared]
  constructor
  · rintro ⟨edge, hedge, happlies⟩
    obtain ⟨hname, hstarts⟩ := Transition.applies_iff.1 happlies
    rcases List.mem_append.1 hedge with hdeclared | himplicit
    · exact absurd ⟨edge, hdeclared, hname⟩ hundeclared
    · rwa [← List.mem_singleton.1 himplicit]
  · intro hstarts
    refine ⟨draft.recoveryTransition errorState, ?_, Transition.applies_iff.2 ⟨rfl, hstarts⟩⟩
    exact List.mem_append_right _ List.mem_cons_self

/-- From which states a machine that was made of a draft recovers, and where it takes them. -/
structure RecoversFrom (draft : Draft) (machine : Machine) (errorState current : State) : Prop where
  leads : machine.resolve? current "error" = none ∨
    ∃ edge, machine.resolve? current "error" = some edge ∧ edge.target = errorState
  /-- A recovery that is added starts from any state whatsoever with the self loop, -/
  added_loop : ¬ draft.HasRecovery → draft.errorSelfLoop = true →
    machine.isReachable current "error" = true
  /-- and without it from the declared states other than the error state. -/
  added_others : ¬ draft.HasRecovery → draft.errorSelfLoop = false →
    (machine.isReachable current "error" = true ↔
      current ∈ machine.states ∧ current ≠ errorState)
  /-- Nothing is added to declared recoveries, which start from the states of their sources. -/
  declared : draft.HasRecovery → machine.transitions = draft.transitions ∧
    (machine.isReachable current "error" = true ↔
      ∃ declared ∈ draft.transitions, declared.name = "error" ∧
        declared.source.contains current = true)

/-- In a machine with an error state, a recovery leads there from wherever it starts. It starts from
the sources of the declared recoveries, if there are any. Otherwise it starts from any state, or
without the self loop from every declared state but the error state. -/
theorem recovery_possible (hbuild : draft.build = .ok machine)
    (herror : machine.errorState = some errorState) (current : State) :
    draft.RecoversFrom machine errorState current where
  leads := resolve?_recoveryName herror current
  added_loop hundeclared hloop :=
    (isReachable_of_undeclared hbuild herror hundeclared).2 (.inl hloop)
  added_others := by
    intro hundeclared hloop
    have hreachable : machine.isReachable current "error" = true ↔
        draft.errorSelfLoop = true ∨ current ∈ machine.states ∧ current ≠ errorState :=
      isReachable_of_undeclared hbuild herror hundeclared
    simpa [hloop] using hreachable
  declared hdeclared :=
    ⟨transitions_of_declared hbuild hdeclared, isReachable_of_declared hbuild hdeclared⟩

/-- Two recoveries are declared, from two of the states. A delivery on its way cannot recover then,
although there is an error state and the self loop is enabled. -/
theorem recovery_possible_delivery :
    let draft : Draft :=
      { initialStates := [⟨"pending"⟩]
        errorState := some ⟨"failed"⟩
        transitions :=
          [{ name := "error", source := .states [⟨"pending"⟩], target := ⟨"failed"⟩ },
           { name := "send", source := .states [⟨"pending"⟩], target := ⟨"on_its_way"⟩ },
           { name := "error", source := .states [⟨"failed"⟩], target := ⟨"failed"⟩ }] }
    ∃ machine, draft.build = .ok machine ∧ machine.errorState = some ⟨"failed"⟩ ∧
      machine.transitions = draft.transitions ∧
      machine.isReachable ⟨"failed"⟩ "error" = true ∧
      ¬ machine.isReachable ⟨"on_its_way"⟩ "error" = true := by
  intro draft
  obtain ⟨machine, hbuild⟩ : ∃ machine, draft.build = .ok machine := ⟨_, rfl⟩
  have herror : machine.errorState = some ⟨"failed"⟩ := by
    rw [Machine.errorState, parts_of_build hbuild]
    rfl
  have hdeclared : draft.HasRecovery := ⟨_, List.mem_cons_self, rfl⟩
  obtain ⟨hadded, hfailed⟩ := (recovery_possible hbuild herror ⟨"failed"⟩).declared hdeclared
  obtain ⟨-, hsent⟩ := (recovery_possible hbuild herror ⟨"on_its_way"⟩).declared hdeclared
  refine ⟨machine, hbuild, herror, hadded, hfailed.2 (by decide), ?_⟩
  rw [hsent]
  decide

/-- Without the self loop, and without a declared recovery, an undeclared state cannot recover. -/
example :
    let draft : Draft :=
      { initialStates := [⟨"pending"⟩], errorState := some ⟨"failed"⟩, errorSelfLoop := false }
    (draft.build.toOption.map fun machine =>
      [⟨"pending"⟩, ⟨"failed"⟩, ⟨"lost"⟩].map (machine.isReachable · "error")) =
      some [true, false, false] := by decide

end Draft

end Machine

end Lifecycle
