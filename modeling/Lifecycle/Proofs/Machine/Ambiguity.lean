import Lifecycle.Machine.Draft
import Lifecycle.Proofs.Machine.Soundness
import Mathlib.Data.List.Forall2

/-!
# Ambiguity is the lack of a unique edge

The rule on ambiguity compares the edges of a description two by two, and what it compares is the
texts of their sources. What a machine needs is that from every state whatsoever at most one edge of
each name starts. Both are the same:

- `Transition.pairwise_iff_deterministic`: edges are deterministic when no two of them conflict;
- `Parts.exists_positions_ambiguities`: the rule reports each pair of positions that conflict, once
  and in order, together with exactly the states that the two sources share;
- `Parts.ambiguities_exact`: both, and that the edge which a machine finds is the only one.
-/

namespace Lifecycle

namespace Source

theorem ofNonempty?_eq_some_iff {listed : List State} {source : Source} :
    ofNonempty? listed = some source ↔ listed ≠ [] ∧ source = states listed := by
  cases listed <;> simp [ofNonempty?, eq_comm]

/-- What two sources share contains the states that are in both, and no others. -/
theorem contains_of_overlap? {left right overlap : Source}
    (h : left.overlap? right = some overlap) (state : State) :
    overlap.contains state = true ↔
      left.contains state = true ∧ right.contains state = true := by
  cases left with
  | any =>
    cases right with
    | any =>
      obtain rfl : any = overlap := Option.some.inj h
      simp
    | states listed =>
      obtain ⟨-, rfl⟩ := ofNonempty?_eq_some_iff.1 h
      simp
  | states listed =>
    cases right with
    | any =>
      obtain ⟨-, rfl⟩ := ofNonempty?_eq_some_iff.1 h
      simp
    | states other =>
      obtain ⟨-, rfl⟩ := ofNonempty?_eq_some_iff.1 h
      simp

end Source

namespace Transition

variable {transitions rest : List Transition} {left : Transition}

/-- At a position stands an edge that is called `name` and may start from `current`. -/
def AppliesAt (transitions : List Transition) (current : State) (name : String)
    (position : Nat) : Prop :=
  ∃ transition, transitions[position]? = some transition ∧
    transition.applies current name = true

/-- From every state, declared or not, at most one position has an edge of a given name. -/
def Deterministic (transitions : List Transition) : Prop :=
  ∀ current name first second, AppliesAt transitions current name first →
    AppliesAt transitions current name second → first = second

/-- The edges at two positions, the earlier one first, share their name and a state to start
from. -/
def ConflictAt (transitions : List Transition) (positions : Nat × Nat) : Prop :=
  positions.1 < positions.2 ∧ ∃ left right, transitions[positions.1]? = some left ∧
    transitions[positions.2]? = some right ∧ left.Conflicts right

theorem pairwise_iff_not_conflictAt :
    (transitions.Pairwise fun left right => ¬ left.Conflicts right) ↔
      ∀ positions, ¬ ConflictAt transitions positions := by
  rw [List.pairwise_iff_getElem]
  constructor
  · rintro hpairwise ⟨first, second⟩ ⟨hlt, left, right, hleft, hright, hconflict⟩
    obtain ⟨hfirst, rfl⟩ := List.getElem?_eq_some_iff.1 hleft
    obtain ⟨hsecond, rfl⟩ := List.getElem?_eq_some_iff.1 hright
    exact hpairwise first second hfirst hsecond hlt hconflict
  · intro hnone first second hfirst hsecond hlt hconflict
    exact hnone (first, second) ⟨hlt, _, _, List.getElem?_eq_getElem hfirst,
      List.getElem?_eq_getElem hsecond, hconflict⟩

/-- Edges that apply at two different positions conflict. -/
theorem conflictAt_of_appliesAt {current : State} {name : String} {first second : Nat}
    (hfirst : AppliesAt transitions current name first)
    (hsecond : AppliesAt transitions current name second) (hlt : first < second) :
    ConflictAt transitions (first, second) := by
  obtain ⟨left, hleft, hleftApplies⟩ := hfirst
  obtain ⟨right, hright, hrightApplies⟩ := hsecond
  obtain ⟨hleftName, hleftSource⟩ := applies_iff.1 hleftApplies
  obtain ⟨hrightName, hrightSource⟩ := applies_iff.1 hrightApplies
  exact ⟨hlt, left, right, hleft, hright, hleftName.trans hrightName.symm, current, hleftSource,
    hrightSource⟩

/-- Edges are deterministic when no two of them share their name and a state to start from. -/
theorem pairwise_iff_deterministic :
    (transitions.Pairwise fun left right => ¬ left.Conflicts right) ↔
      Deterministic transitions := by
  rw [pairwise_iff_not_conflictAt]
  constructor
  · intro hnone current name first second hfirst hsecond
    rcases Nat.lt_trichotomy first second with hlt | heq | hgt
    · exact absurd (conflictAt_of_appliesAt hfirst hsecond hlt) (hnone _)
    · exact heq
    · exact absurd (conflictAt_of_appliesAt hsecond hfirst hgt) (hnone _)
  · rintro hdeterministic ⟨first, second⟩ ⟨hlt, left, right, hleft, hright, hconflict⟩
    obtain ⟨hname, state, hleftSource, hrightSource⟩ := hconflict
    -- at a state that both sources have, the two positions would have to be one
    have hfirst : AppliesAt transitions state left.name first :=
      ⟨left, hleft, applies_iff.2 ⟨rfl, hleftSource⟩⟩
    have hsecond : AppliesAt transitions state left.name second :=
      ⟨right, hright, applies_iff.2 ⟨hname.symm, hrightSource⟩⟩
    exact absurd (hdeterministic state left.name first second hfirst hsecond) (Nat.ne_of_lt hlt)

/-- The first edge conflicts with those of the others that share its name and a state. -/
theorem conflictAt_cons_zero {second : Nat} :
    ConflictAt (left :: rest) (0, second + 1) ↔
      ∃ right, rest[second]? = some right ∧ left.Conflicts right := by
  simp [ConflictAt]

/-- Other conflicts are those of the other edges, one position further. -/
theorem conflictAt_cons_succ {first second : Nat} :
    ConflictAt (left :: rest) (first + 1, second + 1) ↔ ConflictAt rest (first, second) := by
  simp [ConflictAt]

end Transition

namespace Machine

variable {machine : Machine} {current : State} {name : String} {edge : Transition}

theorem deterministic (machine : Machine) : Transition.Deterministic machine.transitions :=
  Transition.pairwise_iff_deterministic.1 machine.parts_sound.unambiguous

/-- The edge that is found is the edge that applies. -/
theorem resolve?_eq_some_iff :
    machine.resolve? current name = some edge ↔
      edge ∈ machine.transitions ∧ edge.applies current name = true := by
  constructor
  · exact mem_of_resolve?
  · rintro ⟨hmem, happlies⟩
    have hsome : (machine.resolve? current name).isSome = true :=
      List.find?_isSome.2 ⟨edge, hmem, happlies⟩
    obtain ⟨found, hfound⟩ := Option.isSome_iff_exists.1 hsome
    obtain ⟨hfoundMem, hfoundApplies⟩ := mem_of_resolve? hfound
    -- both edges apply, so that they stand at the same position
    obtain ⟨first, hfirst⟩ := List.mem_iff_getElem?.1 hmem
    obtain ⟨second, hsecond⟩ := List.mem_iff_getElem?.1 hfoundMem
    obtain rfl := machine.deterministic current name first second ⟨edge, hfirst, happlies⟩
      ⟨found, hsecond, hfoundApplies⟩
    rw [hfound, ← hfirst, hsecond]

end Machine

namespace Parts

open Transition (AppliesAt ConflictAt Deterministic)

variable {left : Transition} {rest : List Transition}

/-- The violation that a conflict at two positions is reported as: it carries the name of the edges,
and a source that has exactly the states from which both may start. -/
def ReportedAs (transitions : List Transition) (positions : Nat × Nat) (violation : Violation) :
    Prop :=
  ∃ left right overlap, transitions[positions.1]? = some left ∧
    transitions[positions.2]? = some right ∧ left.name = right.name ∧
    violation = .ambiguousTransition left.name overlap ∧
    ∀ state, overlap.contains state = true ↔
      left.source.contains state = true ∧ right.source.contains state = true

/-- What a selection from a list finds comes from ascending positions, each of them once. -/
theorem exists_positions_filterMap {α β : Type} (select : α → Option β) (items : List α) :
    ∃ positions : List Nat, positions.Pairwise (· < ·) ∧
      (∀ position, position ∈ positions ↔
        ∃ item, items[position]? = some item ∧ select item ≠ none) ∧
      List.Forall₂ (fun position found => ∃ item, items[position]? = some item ∧
        select item = some found) positions (items.filterMap select) := by
  induction items with
  | nil => exact ⟨[], .nil, by simp, .nil⟩
  | cons item items ih =>
    obtain ⟨positions, hascending, hmem, hfound⟩ := ih
    -- a position in the rest of the list is the one before in the list
    have hascendingRest : (positions.map (· + 1)).Pairwise (· < ·) :=
      hascending.map _ fun _ _ hlt => Nat.succ_lt_succ hlt
    have hfoundRest : List.Forall₂ (fun position found => ∃ other,
        (item :: items)[position]? = some other ∧ select other = some found)
        (positions.map (· + 1)) (items.filterMap select) :=
      List.forall₂_map_left_iff.2 hfound
    have hmemRest (position : Nat) : position + 1 ∈ positions.map (· + 1) ↔
        ∃ other, (item :: items)[position + 1]? = some other ∧ select other ≠ none := by
      rw [List.mem_map_of_injective fun _ _ => Nat.succ.inj, hmem, List.getElem?_cons_succ]
    cases hselect : select item with
    | none =>
      refine ⟨positions.map (· + 1), hascendingRest, ?_, ?_⟩
      · rintro (_ | position)
        · simp [hselect]
        · exact hmemRest position
      · rwa [List.filterMap_cons_none hselect]
    | some found =>
      refine ⟨0 :: positions.map (· + 1), List.pairwise_cons.2 ⟨by simp, hascendingRest⟩, ?_, ?_⟩
      · rintro (_ | position)
        · simp [hselect]
        · rw [List.mem_cons, ← hmemRest position]
          simp
      · rw [List.filterMap_cons_some hselect]
        exact .cons ⟨item, rfl, hselect⟩ hfoundRest

/-- An overlap of the first edge with another is reported as a conflict of the two. -/
theorem reportedAs_cons_zero {right : Transition} {second : Nat} {violation : Violation}
    (hright : rest[second]? = some right)
    (hoverlap : (left.overlap? right).map (Violation.ambiguousTransition left.name) =
      some violation) : ReportedAs (left :: rest) (0, second + 1) violation := by
  obtain ⟨overlap, hshared, rfl⟩ := Option.map_eq_some_iff.1 hoverlap
  rw [Transition.overlap?] at hshared
  split at hshared
  · next hname =>
    exact ⟨left, right, overlap, rfl, hright, hname, rfl, Source.contains_of_overlap? hshared⟩
  · cases hshared

/-- The rule on ambiguity reports each pair of positions at which edges conflict: once, and ordered
by the earlier of the two positions and then by the later. -/
theorem exists_positions_ambiguities (transitions : List Transition) :
    ∃ conflicts : List (Nat × Nat), conflicts.Pairwise (Prod.Lex (· < ·) (· < ·)) ∧
      (∀ positions, positions ∈ conflicts ↔ ConflictAt transitions positions) ∧
      List.Forall₂ (ReportedAs transitions) conflicts (ambiguities transitions) := by
  induction transitions with
  | nil => exact ⟨[], .nil, by simp [ConflictAt], .nil⟩
  | cons left rest ih =>
    obtain ⟨later, hlater, hlaterMem, hlaterReported⟩ := ih
    obtain ⟨seconds, hseconds, hsecondsMem, hsecondsReported⟩ := exists_positions_filterMap
      (fun right => (left.overlap? right).map (Violation.ambiguousTransition left.name)) rest
    -- first the conflicts of the first edge, then those among the others, one position further
    refine ⟨seconds.map (fun second => (0, second + 1)) ++
      later.map (fun positions => (positions.1 + 1, positions.2 + 1)), ?_, ?_, ?_⟩
    · rw [List.pairwise_append]
      refine ⟨hseconds.map _ fun _ _ hlt => .right _ (Nat.succ_lt_succ hlt),
        hlater.map _ fun before after hlex => ?_, ?_⟩
      · simp only [Prod.lex_def] at hlex ⊢
        omega
      · intro ahead hahead behind hbehind
        obtain ⟨second, -, rfl⟩ := List.mem_map.1 hahead
        obtain ⟨positions, -, rfl⟩ := List.mem_map.1 hbehind
        exact .left _ _ (Nat.succ_pos _)
    · rintro ⟨_ | first, _ | second⟩
      · simp [ConflictAt]
      · simp [Transition.conflictAt_cons_zero, hsecondsMem, Transition.overlap?_eq_none_iff]
      · simp [ConflictAt]
      · simp [Transition.conflictAt_cons_succ, hlaterMem]
    · rw [ambiguities]
      refine List.rel_append ?_ (List.forall₂_map_left_iff.2 hlaterReported)
      refine List.forall₂_map_left_iff.2 (hsecondsReported.imp fun second violation hfound => ?_)
      obtain ⟨right, hright, hoverlap⟩ := hfound
      exact reportedAs_cons_zero hright hoverlap

/-- The rule on ambiguity is the uniqueness of edges. It finds nothing exactly when from every
state, declared or not, at most one position has an edge of a given name; in general it reports each
pair of positions at which edges conflict, in lexicographic order, with their name and the states
that their sources share. So the edge that a machine finds is the only one of its edges that
applies. -/
theorem ambiguities_exact (transitions : List Transition) :
    (ambiguities transitions = [] ↔ Deterministic transitions) ∧
      (∃ conflicts : List (Nat × Nat), conflicts.Pairwise (Prod.Lex (· < ·) (· < ·)) ∧
        (∀ positions, positions ∈ conflicts ↔ ConflictAt transitions positions) ∧
        List.Forall₂ (ReportedAs transitions) conflicts (ambiguities transitions)) ∧
      ∀ (machine : Machine) (current : State) (name : String) (edge : Transition),
        machine.resolve? current name = some edge →
          ∃ position, machine.transitions[position]? = some edge ∧
            ∀ other, AppliesAt machine.transitions current name other ↔ other = position := by
  refine ⟨?_, exists_positions_ambiguities transitions, ?_⟩
  · rw [ambiguities_eq_nil_iff, Transition.pairwise_iff_deterministic]
  · intro machine current name edge hresolve
    obtain ⟨hmem, happlies⟩ := Machine.mem_of_resolve? hresolve
    obtain ⟨position, hposition⟩ := List.mem_iff_getElem?.1 hmem
    refine ⟨position, hposition, fun other => ⟨fun hother => ?_, ?_⟩⟩
    · exact machine.deterministic current name other position hother ⟨edge, hposition, happlies⟩
    · rintro rfl
      exact ⟨edge, hposition, happlies⟩

/-- Of three edges of one name, the first meets the wildcard in what it lists, repeats included, and
the second meets nothing. A pending delivery has exactly one edge that confirms it. -/
theorem ambiguities_exact_delivery :
    let edges : List Transition :=
      [{ name := "go", source := .states [⟨"a"⟩, ⟨"b"⟩, ⟨"a"⟩], target := ⟨"c"⟩ },
       { name := "go", source := .states [], target := ⟨"c"⟩ },
       { name := "go", source := .any, target := ⟨"a"⟩ }]
    ambiguities edges = [.ambiguousTransition "go" (.states [⟨"a"⟩, ⟨"b"⟩, ⟨"a"⟩])] ∧
      ¬ Deterministic edges ∧
      ∃ edge, Machine.delivery.resolve? ⟨"pending"⟩ "confirm" = some edge ∧
        ∃ position, Machine.delivery.transitions[position]? = some edge ∧
          ∀ other, AppliesAt Machine.delivery.transitions ⟨"pending"⟩ "confirm" other ↔
            other = position := by
  intro edges
  obtain ⟨hunique, -, hfound⟩ := ambiguities_exact edges
  have hreported : ambiguities edges =
      [.ambiguousTransition "go" (.states [⟨"a"⟩, ⟨"b"⟩, ⟨"a"⟩])] := rfl
  refine ⟨hreported, fun hdeterministic => ?_, _, rfl, hfound Machine.delivery _ _ _ rfl⟩
  rw [hunique.2 hdeterministic] at hreported
  exact nomatch hreported

end Parts

end Lifecycle
