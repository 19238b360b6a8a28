import Lifecycle.Machine.Diagram
import Lifecycle.Proofs.Machine.Order
import Lifecycle.Proofs.State.Mentions

/-!
# All views of the edges agree

There are four ways to look at the edges of a machine. Resolution takes the first edge of a name
that starts from a state, the available transitions are all edges that start from it, the next
states are where these lead, and a diagram draws an edge from every state that a source names, with
wildcards expanded to the declared states.

Taking the first edge loses none, because no two edges of one name start from the same state. Drawing
only declared states loses none that start from a declared state, because sources name declared
states only. So all views show the same edges, which is `Machine.views_agree`.
-/

namespace Lifecycle

namespace Machine

variable {machine : Machine} {current origin : State} {name : String} {edge : Transition}

/-- An edge is available where resolution finds it under its own name. -/
theorem mem_availableTransitions :
    edge ∈ machine.availableTransitions current ↔
      machine.resolve? current edge.name = some edge := by
  simp [availableTransitions, resolve?_eq_some_iff]

/-- The available transitions are the edges that resolution finds under their own names, in the
order of their declaration. -/
theorem availableTransitions_eq_filter :
    machine.availableTransitions current =
      machine.transitions.filter fun edge => machine.resolve? current edge.name = some edge := by
  refine List.filter_congr ?_
  intro edge hedge
  rw [Bool.eq_iff_iff, decide_eq_true_iff, ← mem_availableTransitions]
  exact ⟨fun hstarts => List.mem_filter.2 ⟨hedge, hstarts⟩, fun h => (List.mem_filter.1 h).2⟩

/-- No two available transitions share a name: they would conflict in this very state. -/
theorem nodup_names_availableTransitions :
    ((machine.availableTransitions current).map Transition.name).Nodup := by
  have hunambiguous : (machine.availableTransitions current).Pairwise fun left right =>
      ¬ left.Conflicts right :=
    machine.parts_sound.unambiguous.filter _
  refine List.pairwise_map.2 (hunambiguous.imp_of_mem ?_)
  intro left right hleft hright hdistinct hname
  exact hdistinct ⟨hname, current, (List.mem_filter.1 hleft).2, (List.mem_filter.1 hright).2⟩

/-- The names that can be reached from a state are those of the available transitions. -/
theorem isReachable_iff_mem :
    machine.isReachable current name = true ↔
      name ∈ (machine.availableTransitions current).map Transition.name := by
  rw [isReachable, Option.isSome_iff_exists, List.mem_map]
  constructor
  · rintro ⟨edge, hresolve⟩
    have hname := (Transition.applies_iff.1 (mem_of_resolve? hresolve).2).1
    exact ⟨edge, mem_availableTransitions.2 (hname ▸ hresolve), hname⟩
  · rintro ⟨edge, havailable, rfl⟩
    exact ⟨edge, mem_availableTransitions.1 havailable⟩

theorem nodup_nextStates : (machine.nextStates current).Nodup :=
  State.nodup_distinct _

/-- An edge of a machine is drawn from the declared states from which it starts. -/
theorem mem_drawnSources (hedge : edge ∈ machine.transitions) :
    origin ∈ machine.drawnSources edge ↔
      origin ∈ machine.states ∧ edge.source.contains origin = true := by
  have hdeclared := (machine.parts_sound.wellFormed edge hedge).source_declared
  rw [drawnSources]
  cases hsource : edge.source with
  | any => simp
  | states listed =>
    rw [hsource] at hdeclared
    simp only [Source.contains_states]
    exact ⟨fun hlisted => ⟨hdeclared.2 origin hlisted, hlisted⟩, fun h => h.2⟩

/-- What is drawn are the moves from declared states. -/
theorem mem_edges {drawn : Edge} :
    drawn ∈ machine.edges ↔ drawn.origin ∈ machine.states ∧
      machine.target? drawn.origin drawn.transition = some drawn.target := by
  rw [edges, List.mem_flatMap, target?_eq_some_iff, mem_moves]
  constructor
  · rintro ⟨edge, hedge, hdrawn⟩
    obtain ⟨origin, horigin, rfl⟩ := List.mem_map.1 hdrawn
    obtain ⟨hstate, hstarts⟩ := (mem_drawnSources hedge).1 horigin
    exact ⟨hstate, edge, hedge, Transition.applies_iff.2 ⟨rfl, hstarts⟩, rfl⟩
  · rintro ⟨hstate, edge, hedge, happlies, htarget⟩
    obtain ⟨hname, hstarts⟩ := Transition.applies_iff.1 happlies
    refine ⟨edge, hedge, List.mem_map.2 ⟨drawn.origin, ?_, by rw [hname, htarget]⟩⟩
    exact (mem_drawnSources hedge).2 ⟨hstate, hstarts⟩

/-- What the views of the edges show of a state, in terms of resolution alone. -/
structure ViewsAgree (machine : Machine) (current : State) : Prop where
  /-- The available transitions are listed in the order of their declaration, -/
  available_eq : machine.availableTransitions current =
    machine.transitions.filter fun edge => machine.resolve? current edge.name = some edge
  /-- and whatever resolution finds under its own name is among them. -/
  available_iff : ∀ edge, edge ∈ machine.availableTransitions current ↔
    machine.resolve? current edge.name = some edge
  names_nodup : ((machine.availableTransitions current).map Transition.name).Nodup
  reachable_iff : ∀ name, machine.isReachable current name = true ↔
    name ∈ (machine.availableTransitions current).map Transition.name
  next_iff : ∀ state, state ∈ machine.nextStates current ↔
    ∃ name, machine.target? current name = some state
  next_nodup : (machine.nextStates current).Nodup
  /-- The next states come in the order in which the available transitions first lead to them. -/
  next_order : (machine.nextStates current).Pairwise fun earlier later =>
    ((machine.availableTransitions current).map Transition.target).idxOf earlier <
      ((machine.availableTransitions current).map Transition.target).idxOf later
  edges_iff : ∀ name target, ⟨current, name, target⟩ ∈ machine.edges ↔
    current ∈ machine.states ∧ machine.target? current name = some target

/-- All views of the edges agree, about every state, declared or not. -/
theorem views_agree (machine : Machine) (current : State) : machine.ViewsAgree current where
  available_eq := availableTransitions_eq_filter
  available_iff _ := mem_availableTransitions
  names_nodup := nodup_names_availableTransitions
  reachable_iff _ := isReachable_iff_mem
  next_iff state := by
    rw [mem_nextStates]
    simp only [target?_eq_some_iff]
  next_nodup := nodup_nextStates
  next_order := State.pairwise_distinct _
  edges_iff _ _ := mem_edges

/-- A wildcard is drawn from declared states only, although it applies in every state. -/
example :
    ⟨⟨"lost"⟩, "error", ⟨"error"⟩⟩ ∉ delivery.edges ∧
      delivery.target? ⟨"lost"⟩ "error" = some ⟨"error"⟩ ∧
      delivery.nextStates ⟨"confirmed"⟩ = [⟨"on_its_way"⟩, ⟨"error"⟩] := by decide

end Machine

end Lifecycle
