import Lifecycle.Config
import Lifecycle.Proofs.Machine.Order

/-!
# What a configuration means

A configuration becomes a machine by way of a draft: stars become wildcards, states are inferred, a
recovery is added, and of several edges the first that applies is taken. `Config.Leads` says where a
name leads from a state in the words of the configuration alone, without order and without machines.

- `Config.mem_stateList_draft`: the states of the draft are those that the configuration declares;
- `Config.mem_moves_iff_leads`: the moves of its machine are those that it describes;
- `Config.leads_of_build`: the machine answers what the configuration says.
-/

namespace Lifecycle

open Machine (mem_moves)
open Machine.Draft (contains_recoveryTransition mem_allStates mem_implicitRecovery parts_of_build)

namespace Config

variable {config : Config} {machine : Machine} {state name target : String}

namespace Origin

variable {origin : Origin}

/-- An edge with this origin may start from the state: the state is named, or the star is, which
stands for every state. -/
def Admits (state : String) : Origin → Prop
  | one name => name = state ∨ name = "*"
  | many names => state ∈ names ∨ "*" ∈ names

/-- The origin makes the state known. A star makes no state known, nor do the names beside it. -/
def Mentions (state : String) : Origin → Prop
  | one name => name = state ∧ name ≠ "*"
  | many names => state ∈ names ∧ "*" ∉ names

theorem mem_map_mk {names : List String} : (⟨state⟩ : State) ∈ names.map State.mk ↔ state ∈ names :=
  List.mem_map_of_injective fun _ _ => State.mk.inj

theorem contains_source : origin.source.contains ⟨state⟩ = true ↔ origin.Admits state := by
  cases origin with
  | one name =>
    rw [source, Admits, wildcard]
    split
    · next hstar => simp [hstar]
    · next hstar =>
      simp only [hstar, Source.contains_states, List.mem_singleton, State.mk.injEq, or_false]
      exact eq_comm
  | many names =>
    rw [source, Admits, wildcard]
    split
    · next hstar => simp [hstar]
    · next hstar => simp [hstar]

theorem mem_listed_source : ⟨state⟩ ∈ origin.source.listed ↔ origin.Mentions state := by
  cases origin with
  | one name =>
    rw [source, Mentions, wildcard]
    split
    · next hstar => simp [hstar, Source.listed]
    · next hstar =>
      simp only [hstar, Source.listed, List.mem_singleton, State.mk.injEq, ne_eq,
        not_false_eq_true, and_true]
      exact eq_comm
  | many names =>
    rw [source, Mentions, wildcard]
    split
    · next hstar => simp [hstar, Source.listed]
    · next hstar => simp [hstar, Source.listed]

end Origin

/-! ### States -/

/-- Something in the configuration mentions the state. -/
inductive Mentions (config : Config) (state : String) : Prop where
  /-- It is an initial state. -/
  | initial (hstate : state ∈ config.initialStates)
  /-- It is one of the extra states. -/
  | extra (hstate : state ∈ config.extraStates)
  /-- It is the error state. -/
  | error (hstate : config.errorState = some state)
  /-- An edge starts from it. -/
  | origin (edge : Edge) (hedge : edge ∈ config.transitions) (hstate : edge.origin.Mentions state)
  /-- An edge leads to it. -/
  | target (edge : Edge) (hedge : edge ∈ config.transitions) (hstate : edge.target = state)

/-- The state is declared: by the state set, or without one by whatever mentions it. -/
def Declares (config : Config) (state : String) : Prop :=
  match config.states with
  | some states => state ∈ states
  | none => config.Mentions state

theorem mem_mentioned_transition {edge : Edge} : ⟨state⟩ ∈ edge.transition.mentioned ↔
    edge.origin.Mentions state ∨ edge.target = state := by
  simp [Edge.transition, Transition.mentioned, Origin.mem_listed_source, eq_comm]

theorem mem_inferredStates_draft :
    ⟨state⟩ ∈ config.draft.inferredStates ↔ config.Mentions state := by
  simp only [Machine.Draft.inferredStates, draft, State.mem_distinct, List.mem_append,
    List.mem_flatMap, List.mem_map, exists_exists_and_eq_and, mem_mentioned_transition,
    State.mk.injEq, exists_eq_right, Option.mem_toList, Option.map_eq_some_iff]
  constructor
  · rintro (((hstate | hstate) | hstate) | ⟨edge, hmem, hstate | hstate⟩)
    · exact .initial hstate
    · exact .extra hstate
    · exact .error hstate
    · exact .origin edge hmem hstate
    · exact .target edge hmem hstate
  · rintro (hstate | hstate | hstate | ⟨edge, hmem, hstate⟩ | ⟨edge, hmem, hstate⟩)
    · exact .inl (.inl (.inl hstate))
    · exact .inl (.inl (.inr hstate))
    · exact .inl (.inr hstate)
    · exact .inr ⟨edge, hmem, .inl hstate⟩
    · exact .inr ⟨edge, hmem, .inr hstate⟩

/-- The states of the draft are those that the configuration declares. -/
theorem mem_stateList_draft : ⟨state⟩ ∈ config.draft.stateList ↔ config.Declares state := by
  rw [Machine.Draft.stateList, Declares]
  have hstates : config.draft.states = config.states.map (List.map State.mk) := rfl
  rw [hstates]
  cases config.states with
  | some states => exact Origin.mem_map_mk
  | none => exact mem_inferredStates_draft

/-! ### Edges -/

/-- Where a name leads from a state, by the words of the configuration. -/
inductive Leads (config : Config) (state name target : String) : Prop where
  /-- Along an edge of the configuration. -/
  | edge (edge : Edge) (hedge : edge ∈ config.transitions) (hname : edge.name = name)
      (htarget : edge.target = target) (horigin : edge.origin.Admits state)
  /-- To the error state, where no edge has the name of the recovery. Without the self loop, the
  recovery starts from declared states other than the error state only. -/
  | recovery (hname : name = "error") (herror : config.errorState = some target)
      (hundeclared : ∀ edge ∈ config.transitions, edge.name ≠ "error")
      (hstart : config.errorSelfLoop = true ∨ config.Declares state ∧ state ≠ target)

theorem mem_states_of_build (hbuild : config.build = .ok machine) :
    ⟨state⟩ ∈ machine.states ↔ config.Declares state := by
  rw [Machine.states, parts_of_build hbuild, ← mem_stateList_draft]
  exact mem_allStates

/-- The edges of the draft lead where those of the configuration do. -/
theorem exists_applies_draft_iff :
    (∃ transition ∈ config.draft.transitions, transition.applies ⟨state⟩ name = true ∧
        transition.target = ⟨target⟩) ↔
      ∃ edge ∈ config.transitions, edge.name = name ∧ edge.target = target ∧
        edge.origin.Admits state := by
  simp only [draft, List.mem_map, exists_exists_and_eq_and, Transition.applies_iff, Edge.transition,
    Origin.contains_source, State.mk.injEq, and_assoc, and_comm (a := Origin.Admits _ _)]

/-- The recovery that is added leads from every state with the self loop, and without it from every
other declared state. -/
theorem exists_applies_implicitRecovery_iff :
    (∃ transition ∈ config.draft.implicitRecovery, transition.applies ⟨state⟩ name = true ∧
        transition.target = ⟨target⟩) ↔
      name = "error" ∧ config.errorState = some target ∧
        (∀ edge ∈ config.transitions, edge.name ≠ "error") ∧
          (config.errorSelfLoop = true ∨ config.Declares state ∧ state ≠ target) := by
  have hundeclared : (∀ transition ∈ config.draft.transitions,
      transition.name ≠ Transition.recoveryName) ↔
        ∀ edge ∈ config.transitions, edge.name ≠ "error" :=
    List.forall_mem_map
  have hcontains : (config.draft.recoveryTransition ⟨target⟩).source.contains ⟨state⟩ = true ↔
      config.errorSelfLoop = true ∨ config.Declares state ∧ state ≠ target := by
    rw [contains_recoveryTransition, mem_stateList_draft, ne_eq, State.mk.injEq]
    rfl
  have herror : config.draft.errorState = some ⟨target⟩ ↔ config.errorState = some target := by
    simp [draft]
  rw [← hundeclared, ← hcontains, ← herror]
  constructor
  · rintro ⟨transition, himplicit, happlies, htarget⟩
    obtain ⟨errorState, hstate, hnone, rfl⟩ := mem_implicitRecovery.1 himplicit
    obtain ⟨hname, hstart⟩ := Transition.applies_iff.1 happlies
    -- the recovery leads to the error state that it was added for
    obtain rfl : errorState = ⟨target⟩ := htarget
    exact ⟨hname.symm, hstate, hnone, hstart⟩
  · rintro ⟨rfl, hstate, hnone, hstart⟩
    exact ⟨_, mem_implicitRecovery.2 ⟨_, hstate, hnone, rfl⟩,
      Transition.applies_iff.2 ⟨rfl, hstart⟩, rfl⟩

/-- The moves of the machine are those that the configuration describes. -/
theorem mem_moves_iff_leads (hbuild : config.build = .ok machine) :
    (name, ⟨target⟩) ∈ machine.moves ⟨state⟩ ↔ config.Leads state name target := by
  rw [mem_moves, Machine.transitions, parts_of_build hbuild]
  simp only [Machine.Draft.parts, List.mem_append, or_and_right, exists_or,
    exists_applies_draft_iff, exists_applies_implicitRecovery_iff]
  constructor
  · rintro (⟨edge, hedge, hname, htarget, horigin⟩ | ⟨hname, herror, hundeclared, hstart⟩)
    · exact .edge edge hedge hname htarget horigin
    · exact .recovery hname herror hundeclared hstart
  · rintro (⟨edge, hedge, hname, htarget, horigin⟩ | ⟨hname, herror, hundeclared, hstart⟩)
    · exact .inl ⟨edge, hedge, hname, htarget, horigin⟩
    · exact .inr ⟨hname, herror, hundeclared, hstart⟩

/-- A machine that is made of a configuration means what the configuration says. It has the states
that the configuration declares, and a name leads from a state, declared or not, exactly where the
configuration leads. Where it leads nowhere, no edge is found. -/
theorem leads_of_build (config : Config) (machine : Machine) (hbuild : config.build = .ok machine)
    (state name : String) :
    (machine.hasState ⟨state⟩ = true ↔ config.Declares state) ∧
      (∀ target, machine.target? ⟨state⟩ name = some ⟨target⟩ ↔ config.Leads state name target) ∧
      (machine.resolve? ⟨state⟩ name = none ↔ ∀ target, ¬ config.Leads state name target) := by
  have htarget (target : String) :
      machine.target? ⟨state⟩ name = some ⟨target⟩ ↔ config.Leads state name target :=
    Machine.target?_eq_some_iff.trans (mem_moves_iff_leads hbuild)
  refine ⟨?_, htarget, ?_⟩
  · rw [Machine.hasState, List.contains_iff_mem]
    exact mem_states_of_build hbuild
  · -- an edge is found exactly if it leads somewhere
    have hnone : machine.resolve? ⟨state⟩ name = none ↔ machine.target? ⟨state⟩ name = none :=
      Option.map_eq_none_iff.symm
    rw [hnone, Option.eq_none_iff_forall_ne_some]
    simp only [← htarget]
    constructor
    · exact fun h target => h ⟨target⟩
    · exact fun h target => h target.name

/-- Deliveries without a self loop. The star in the list stands for states that nobody declared, and
leaves the state beside it undeclared. The recovery starts from declared states other than the error
state. -/
theorem leads_of_build_delivery :
    let config : Config :=
      { initialStates := ["pending"]
        errorState := some "error"
        errorSelfLoop := false
        transitions :=
          [{ name := "archive", origin := .many ["open", "*"], target := "archived" }] }
    ∃ machine, config.build = .ok machine ∧
      machine.target? ⟨"legacy"⟩ "archive" = some ⟨"archived"⟩ ∧
      ¬ machine.hasState ⟨"open"⟩ = true ∧
      machine.target? ⟨"archived"⟩ "error" = some ⟨"error"⟩ ∧
      machine.resolve? ⟨"error"⟩ "error" = none := by
  intro config
  have hsound : config.draft.parts.violations = [] := by decide +kernel
  obtain ⟨machine, hbuild⟩ :=
    Machine.Draft.exists_build_iff_sound.2 (Parts.violations_eq_nil_iff_sound.1 hsound)
  have hmeans := leads_of_build config machine hbuild
  have hopen : ¬ config.Declares "open" := by
    rw [← mem_stateList_draft]
    decide
  have harchived : config.Declares "archived" := .target _ List.mem_cons_self rfl
  have hundeclared : ∀ edge ∈ config.transitions, edge.name ≠ "error" := by decide
  refine ⟨machine, hbuild, ?_, ?_, ?_, ?_⟩
  · exact ((hmeans "legacy" "archive").2.1 "archived").2
      (.edge _ List.mem_cons_self rfl rfl (.inr (by decide)))
  · rw [(hmeans "open" "archive").1]
    exact hopen
  · exact ((hmeans "archived" "error").2.1 "error").2
      (.recovery rfl rfl hundeclared (.inr ⟨harchived, by decide⟩))
  · rw [(hmeans "error" "error").2.2]
    rintro target (⟨edge, hedge, hname, -⟩ | ⟨-, herror, -, hstart | ⟨-, hother⟩⟩)
    · exact hundeclared edge hedge hname
    · exact Bool.false_ne_true hstart
    · exact hother (Option.some.inj herror)

end Config

end Lifecycle
