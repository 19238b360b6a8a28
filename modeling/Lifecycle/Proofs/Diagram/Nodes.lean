import Lifecycle.Proofs.Diagram.Lines
import Lifecycle.Proofs.Machine.Building
import Lifecycle.Proofs.Machine.Views
import Mathlib.Data.List.Dedup
import Mathlib.Data.List.Forall2

/-!
# Nodes of diagrams

Whoever draws a diagram knows a state by its identifier alone. What is drawn is read off the text:
`Diagram.nodes` are the nodes of a flowchart, and `Diagram.arrows` the identifiers at both ends of
each edge, in either kind of diagram. `Diagram.nodes_flowchart`, `Diagram.arrows_flowchart` and
`Diagram.arrows_stateDiagram` say that nothing else is read than was drawn.

Identifiers keep ASCII letters and digits only, so that states whose names look alike are drawn as one
node, and a state without a name is drawn as none. `Diagram.drawnApart_iff` says that these are the
only machines whose states are not told apart.
-/

namespace Lifecycle

namespace Diagram

open Machine (Edge)

variable {machine : Machine} {state other : State} {edge : Edge} {rest : List Char}

/-! ### Names that look alike -/

/-- Two names are of the same length, and where they differ, neither has an ASCII letter or digit. -/
def LooksAlike (name other : String) : Prop :=
  List.Forall₂ (fun c d => c = d ∨ c.isAlphanum = false ∧ d.isAlphanum = false) name.toList
    other.toList

instance (name other : String) : Decidable (LooksAlike name other) := by
  unfold LooksAlike
  infer_instance

/-- Characters other than ASCII letters and digits are not told apart. -/
theorem kept_eq_iff (c d : Char) :
    (if c.isAlphanum then c else '_') = (if d.isAlphanum then d else '_') ↔
      c = d ∨ c.isAlphanum = false ∧ d.isAlphanum = false := by
  by_cases hc : c.isAlphanum = true
  · by_cases hd : d.isAlphanum = true
    · simp [hc, hd]
    · -- the underscore is not a letter
      have hne : c ≠ '_' := fun h => absurd (h ▸ hc) (by decide)
      have hother : c ≠ d := fun h => hd (h ▸ hc)
      simp [hc, hd, hne, hother]
  · by_cases hd : d.isAlphanum = true
    · have hne : '_' ≠ d := fun h => absurd (h ▸ hd) (by decide)
      have hother : c ≠ d := fun h => hc (h ▸ hd)
      simp [hc, hd, hne, hother]
    · simp [hc, hd]

/-- Names that look alike are those with the same identifier. -/
theorem nodeId_eq_iff : nodeId state = nodeId other ↔ LooksAlike state.name other.name := by
  rw [nodeId, nodeId, String.ofList_inj, ← List.forall₂_eq_eq_eq, List.forall₂_map_left_iff,
    List.forall₂_map_right_iff, LooksAlike]
  simp only [kept_eq_iff]

/-- Only a state without a name has an identifier without characters. -/
theorem nodeId_eq_empty_iff : nodeId state = "" ↔ state.name = "" := by
  rw [nodeId, String.ofList_eq_empty_iff, List.map_eq_nil_iff, String.toList_eq_nil_iff]

/-! ### Reading a diagram -/

/-- The identifier with which a text begins. -/
def leadingId (text : List Char) : String :=
  String.ofList (text.takeWhile isIdentifier)

/-- What comes behind the label of an edge, if it has one, and a space. -/
def behindLabel : List Char → List Char
  | '|' :: text => (text.dropWhile (· != '|')).drop 2
  | text => text.drop 1

/-- Whether a bracket around a label is opened. -/
def isOpening (c : Char) : Bool :=
  c == '[' || c == '(' || c == '\x7b'

/-- The node that a line of a flowchart draws: behind its identifier, a bracket is opened. -/
def node? (text : List Char) : Option String :=
  match text.dropWhile isIdentifier with
  | c :: _ => if isOpening c then some (leadingId text) else none
  | [] => none

/-- The identifiers at the ends of the edge that a line draws. -/
def arrow? (text : List Char) : Option (String × String) :=
  match text.dropWhile isIdentifier with
  | ' ' :: '-' :: '-' :: '>' :: rest => some (leadingId text, leadingId (behindLabel rest))
  | _ => none

/-- The nodes of a flowchart, in the order in which they are drawn. -/
def nodes (text : String) : List String :=
  (body text).filterMap node?

/-- The identifiers at the ends of the edges of a diagram, in the order in which these are drawn. -/
def arrows (text : String) : List (String × String) :=
  (body text).filterMap arrow?

/-- A text that does not go on with an identifier. -/
def EndsId (text : List Char) : Prop :=
  ∀ c ∈ text.head?, isIdentifier c = false

theorem endsId_nil : EndsId [] :=
  fun _ hc => nomatch hc

theorem endsId_cons {c : Char} (h : isIdentifier c = false) : EndsId (c :: rest) := by
  intro first hfirst
  rwa [← Option.some.inj hfirst]

theorem leadingId_append (hrest : EndsId rest) :
    leadingId ((nodeId state).toList ++ rest) = nodeId state := by
  rw [leadingId, Text.takeWhile_append_of_ends (fun _ => isIdentifier_of_mem_nodeId) hrest,
    String.ofList_toList]

theorem dropWhile_append (hrest : EndsId rest) :
    ((nodeId state).toList ++ rest).dropWhile isIdentifier = rest :=
  Text.dropWhile_append_of_ends (fun _ => isIdentifier_of_mem_nodeId) hrest

theorem eq_of_isOpening {c : Char} (h : isOpening c = true) : c = '[' ∨ c = '(' ∨ c = '\x7b' := by
  simpa [isOpening, or_assoc] using h

/-- A bracket behind an identifier draws a node, and no edge. -/
theorem read_bracket {bracket : Char} (hbracket : isOpening bracket = true) :
    node? ((nodeId state).toList ++ bracket :: rest) = some (nodeId state) ∧
      arrow? ((nodeId state).toList ++ bracket :: rest) = none := by
  have hends : EndsId (bracket :: rest) := by
    apply endsId_cons
    rcases eq_of_isOpening hbracket with rfl | rfl | rfl <;> rfl
  rw [node?, arrow?, dropWhile_append hends, leadingId_append hends]
  refine ⟨if_pos hbracket, ?_⟩
  -- the arrow begins with a space
  rcases eq_of_isOpening hbracket with rfl | rfl | rfl <;> rfl

/-- An arrow behind an identifier draws an edge, and no node. -/
theorem read_arrow (state : State) (rest : List Char) :
    node? ((nodeId state).toList ++ (" -->".toList ++ rest)) = none ∧
      arrow? ((nodeId state).toList ++ (" -->".toList ++ rest)) =
        some (nodeId state, leadingId (behindLabel rest)) := by
  have hends : EndsId (" -->".toList ++ rest) := endsId_cons rfl
  rw [node?, arrow?, dropWhile_append hends, leadingId_append hends]
  exact ⟨rfl, rfl⟩

/-! ### What is drawn -/

/-- A line with a label in brackets, of whatever shape. -/
theorem read_shape (state : State) {opening label closing : String} {bracket : Char}
    (hbracket : opening.toList.head? = some bracket) (hopens : isOpening bracket = true)
    (hopening : IsInline opening) (hlabel : IsInline label) (hclosing : IsInline closing) :
    let text := nodeId state ++ opening ++ label ++ closing
    IsInline text ∧ node? text.toList = some (nodeId state) ∧ arrow? text.toList = none := by
  intro text
  obtain ⟨rest, hrest⟩ := List.head?_eq_some_iff.1 hbracket
  have htext : text.toList =
      (nodeId state).toList ++ bracket :: (rest ++ label.toList ++ closing.toList) := by
    simp [text, hrest]
  have hinline : IsInline text :=
    .append (.append (.append (isInline_nodeId state) hopening) hlabel) hclosing
  rw [htext]
  exact ⟨hinline, read_bracket hopens⟩

/-- The line of a state in a flowchart. -/
theorem read_flowchartNode (machine : Machine) (state : State) :
    IsInline (flowchartNode machine state) ∧
      node? (flowchartNode machine state).toList = some (nodeId state) ∧
      arrow? (flowchartNode machine state).toList = none := by
  have hlabel : IsInline ("\"" ++ escapeLabel state.name ++ "\"") :=
    .append (.append (by decide) (isInline_escapeLabel _)) (by decide)
  rw [flowchartNode]
  -- the shape depends on the state, and the line begins with its identifier and a bracket anyway
  split
  · exact read_shape state rfl rfl (by decide) hlabel (by decide)
  · split
    · exact read_shape state rfl rfl (by decide) hlabel (by decide)
    · exact read_shape state rfl rfl (by decide) hlabel (by decide)

/-- A label has no bar, so that it ends before the next one. -/
theorem behindLabel_escapeLabel (text : String) (rest : List Char) :
    behindLabel ('|' :: ((escapeLabel text).toList ++ '|' :: ' ' :: rest)) = rest := by
  have hbar : ∀ c ∈ (escapeLabel text).toList, (c != '|') = true := by
    intro c hc
    rw [bne_iff_ne]
    rintro rfl
    exact absurd (mem_escapeLabel hc) (by decide)
  rw [behindLabel, List.dropWhile_append_of_pos hbar]
  rfl

/-- The line of an edge in a flowchart. -/
theorem read_flowchartEdge (edge : Edge) :
    let text := nodeId edge.origin ++ " -->|" ++ escapeLabel edge.transition ++ "| " ++
      nodeId edge.target
    IsInline text ∧ node? text.toList = none ∧
      arrow? text.toList = some (nodeId edge.origin, nodeId edge.target) := by
  intro text
  have hinline : IsInline text :=
    .append (.append (.append (.append (isInline_nodeId _) (by decide)) (isInline_escapeLabel _))
      (by decide)) (isInline_nodeId _)
  -- the parts in the order in which they are read, with nothing behind the second identifier
  have htext : text.toList = (nodeId edge.origin).toList ++ (" -->".toList ++
      '|' :: ((escapeLabel edge.transition).toList ++ '|' :: ' ' ::
        ((nodeId edge.target).toList ++ []))) := by
    simp [text]
  rw [htext, (read_arrow _ _).1, (read_arrow _ _).2, behindLabel_escapeLabel,
    leadingId_append endsId_nil]
  exact ⟨hinline, rfl, rfl⟩

/-- The line of an edge in a state diagram. -/
theorem read_stateEdge (edge : Edge) :
    let text := nodeId edge.origin ++ " --> " ++ nodeId edge.target ++ ": " ++
      escapeLabel edge.transition
    IsInline text ∧ arrow? text.toList = some (nodeId edge.origin, nodeId edge.target) := by
  intro text
  have hinline : IsInline text :=
    .append (.append (.append (.append (isInline_nodeId _) (by decide)) (isInline_nodeId _))
      (by decide)) (isInline_escapeLabel _)
  have htext : text.toList = (nodeId edge.origin).toList ++ (" -->".toList ++
      ' ' :: ((nodeId edge.target).toList ++ ':' :: ' ' :: (escapeLabel edge.transition).toList)) := by
    simp [text]
  -- the second identifier ends before the colon
  have htarget : leadingId (behindLabel (' ' :: ((nodeId edge.target).toList ++
      ':' :: ' ' :: (escapeLabel edge.transition).toList))) = nodeId edge.target :=
    leadingId_append (endsId_cons rfl)
  rw [htext, (read_arrow _ _).2, htarget]
  exact ⟨hinline, rfl⟩

/-- The line of an initial state in a state diagram. -/
theorem read_entry (state : State) :
    IsInline ("[*] --> " ++ nodeId state) ∧ arrow? ("[*] --> " ++ nodeId state).toList = none := by
  refine ⟨.append (by decide) (isInline_nodeId state), ?_⟩
  rw [String.toList_append]
  rfl

section Reading

variable {α β : Type} {read : List Char → Option β} {line : α → String} {value : α → β}

/-- A reader that finds a value in each line finds all of them. -/
theorem filterMap_lines (entries : List α)
    (hread : ∀ entry, read (line entry).toList = some (value entry)) :
    ((entries.map line).map String.toList).filterMap read = entries.map value := by
  rw [List.map_map, List.filterMap_map, ← List.filterMap_eq_map]
  exact List.filterMap_congr fun entry _ => hread entry

/-- A reader that finds nothing in any line finds nothing. -/
theorem filterMap_lines_eq_nil (entries : List α)
    (hread : ∀ entry, read (line entry).toList = none) :
    ((entries.map line).map String.toList).filterMap read = [] := by
  rw [List.map_map, List.filterMap_map, List.filterMap_eq_nil_iff]
  exact fun entry _ => hread entry

end Reading

/-- The identifiers of the states that an edge joins. -/
def ids (edge : Edge) : String × String :=
  (nodeId edge.origin, nodeId edge.target)

/-- A flowchart draws the states of the machine, in their order. -/
theorem nodes_flowchart (machine : Machine) :
    nodes (flowchart machine) = machine.states.map nodeId := by
  rw [nodes, flowchart, body_kinds (by decide) (fun state => (read_flowchartNode machine state).1)
      fun edge => (read_flowchartEdge edge).1,
    List.filterMap_append, filterMap_lines _ fun state => (read_flowchartNode machine state).2.1,
    filterMap_lines_eq_nil _ fun edge => (read_flowchartEdge edge).2.1, List.append_nil]

/-- A flowchart draws the edges of the machine, in their order. -/
theorem arrows_flowchart (machine : Machine) :
    arrows (flowchart machine) = machine.edges.map ids := by
  rw [arrows, flowchart, body_kinds (by decide) (fun state => (read_flowchartNode machine state).1)
      fun edge => (read_flowchartEdge edge).1,
    List.filterMap_append, filterMap_lines_eq_nil _ fun state => (read_flowchartNode machine state).2.2,
    filterMap_lines _ fun edge => (read_flowchartEdge edge).2.2, List.nil_append]
  rfl

/-- A state diagram draws the edges of the machine, in their order. -/
theorem arrows_stateDiagram (machine : Machine) :
    arrows (stateDiagram machine) = machine.edges.map ids := by
  rw [arrows, stateDiagram, body_kinds (by decide) (fun state => (read_entry state).1)
      fun edge => (read_stateEdge edge).1,
    List.filterMap_append, filterMap_lines_eq_nil _ fun state => (read_entry state).2,
    filterMap_lines _ fun edge => (read_stateEdge edge).2, List.nil_append]
  rfl

/-! ### States that are told apart -/

/-- The states that an edge joins. -/
def ends (edge : Edge) : State × State :=
  (edge.origin, edge.target)

/-- In these diagrams, states are told apart. -/
structure DrawnApart (machine : Machine) : Prop where
  ids_nonempty : ∀ state ∈ machine.states, nodeId state ≠ ""
  ids_injective : ∀ state ∈ machine.states, ∀ other ∈ machine.states,
    nodeId state = nodeId other → state = other
  /-- There are as many nodes as declared states. A node that is drawn twice is one node. -/
  one_node_each : (nodes (flowchart machine)).dedup.length = machine.states.length
  /-- Edges that are drawn between the same nodes of the flowchart join the same states. -/
  flowchart_joins : ∀ left right : Nat,
    (arrows (flowchart machine))[left]? = (arrows (flowchart machine))[right]? →
      (machine.edges.map ends)[left]? = (machine.edges.map ends)[right]?
  /-- Edges that are drawn between the same nodes of the state diagram join the same states. -/
  stateDiagram_joins : ∀ left right : Nat,
    (arrows (stateDiagram machine))[left]? = (arrows (stateDiagram machine))[right]? →
      (machine.edges.map ends)[left]? = (machine.edges.map ends)[right]?

/-- The declared states have names, and no two of these look alike. -/
structure Discernible (machine : Machine) : Prop where
  named : ∀ state ∈ machine.states, state.name ≠ ""
  unlike : ∀ state ∈ machine.states, ∀ other ∈ machine.states,
    LooksAlike state.name other.name → state = other

theorem DrawnApart.discernible (h : DrawnApart machine) : Discernible machine where
  named state hstate hname := h.ids_nonempty state hstate (nodeId_eq_empty_iff.2 hname)
  unlike state hstate other hother halike :=
    h.ids_injective state hstate other hother (nodeId_eq_iff.2 halike)

/-- States that look alike to nobody have their identifiers to themselves. -/
theorem Discernible.ids_injective (h : Discernible machine) (hstate : state ∈ machine.states)
    (hother : other ∈ machine.states) (hids : nodeId state = nodeId other) : state = other :=
  h.unlike state hstate other hother (nodeId_eq_iff.1 hids)

/-- An edge that is drawn joins declared states. -/
theorem ends_mem_states (hedge : edge ∈ machine.edges) :
    edge.origin ∈ machine.states ∧ edge.target ∈ machine.states := by
  obtain ⟨horigin, htarget⟩ := Machine.mem_edges.1 hedge
  exact ⟨horigin, Machine.mem_states_of_target? htarget⟩

theorem Discernible.ends_eq {edge other : Edge} (h : Discernible machine)
    (hedge : edge ∈ machine.edges) (hother : other ∈ machine.edges) (hids : ids edge = ids other) :
    ends edge = ends other := by
  obtain ⟨horigin, htarget⟩ := Prod.mk.inj hids
  obtain ⟨hfrom, hto⟩ := ends_mem_states hedge
  obtain ⟨hfrom', hto'⟩ := ends_mem_states hother
  rw [ends, h.ids_injective hfrom hfrom' horigin, h.ids_injective hto hto' htarget, ends]

/-- Edges that are drawn between the same nodes join the same states. -/
theorem Discernible.joins (h : Discernible machine) (left right : Nat)
    (hids : (machine.edges.map ids)[left]? = (machine.edges.map ids)[right]?) :
    (machine.edges.map ends)[left]? = (machine.edges.map ends)[right]? := by
  simp only [List.getElem?_map] at hids ⊢
  -- either both edges are there or none is, since identifiers are read of both or of none
  rcases hleft : machine.edges[left]? with _ | edge
  · rcases hright : machine.edges[right]? with _ | other
    · rfl
    · simp [hleft, hright] at hids
  · rcases hright : machine.edges[right]? with _ | other
    · simp [hleft, hright] at hids
    · rw [hleft, hright] at hids
      have hsame := h.ends_eq (List.mem_of_getElem? hleft) (List.mem_of_getElem? hright)
        (Option.some.inj hids)
      exact congrArg some hsame

theorem Discernible.drawnApart (h : Discernible machine) (hnodup : machine.states.Nodup) :
    DrawnApart machine where
  ids_nonempty state hstate hid := h.named state hstate (nodeId_eq_empty_iff.1 hid)
  ids_injective _ hstate _ hother := h.ids_injective hstate hother
  one_node_each := by
    -- no identifier is drawn twice, so that no two nodes fall together
    have hids : (machine.states.map nodeId).Nodup :=
      List.Nodup.map_on (fun _ hstate _ hother => h.ids_injective hstate hother) hnodup
    rw [nodes_flowchart, List.dedup_eq_self.2 hids, List.length_map]
  flowchart_joins := by
    rw [arrows_flowchart]
    exact h.joins
  stateDiagram_joins := by
    rw [arrows_stateDiagram]
    exact h.joins

/-- The states of a machine that was built are listed once each. -/
theorem nodup_states_of_build {draft : Machine.Draft} (hbuild : draft.build = .ok machine) :
    machine.states.Nodup := by
  have hparts : machine.states = draft.allStates :=
    congrArg Parts.states (Machine.Draft.parts_of_build hbuild)
  rw [hparts, Machine.Draft.allStates]
  split
  · exact State.nodup_distinct _
  · exact State.nodup_distinct _

/-- A diagram draws the states and the edges of a machine that was built under the identifiers of the
states. These are told apart exactly where all of them have names, no two of which look alike. -/
theorem drawnApart_iff {draft : Machine.Draft} (hbuild : draft.build = .ok machine) :
    nodes (flowchart machine) = machine.states.map nodeId ∧
      arrows (flowchart machine) = machine.edges.map ids ∧
      arrows (stateDiagram machine) = machine.edges.map ids ∧
      (DrawnApart machine ↔ Discernible machine) := by
  have hnodup : machine.states.Nodup := nodup_states_of_build hbuild
  exact ⟨nodes_flowchart machine, arrows_flowchart machine, arrows_stateDiagram machine,
    DrawnApart.discernible, fun h => h.drawnApart hnodup⟩

/-- The states of a delivery are told apart. -/
theorem drawnApart_iff_delivery :
    let draft : Machine.Draft :=
      { initialStates := [⟨"pending"⟩]
        transitions :=
          [{ name := "confirm", source := .states [⟨"pending"⟩], target := ⟨"confirmed"⟩ }] }
    ∃ machine, draft.build = .ok machine ∧ machine.states = [⟨"pending"⟩, ⟨"confirmed"⟩] ∧
      Discernible machine ∧ DrawnApart machine := by
  intro draft
  obtain ⟨machine, hbuild, hstates⟩ : ∃ machine, draft.build = .ok machine ∧
      machine.states = [⟨"pending"⟩, ⟨"confirmed"⟩] := ⟨_, rfl, rfl⟩
  have hdiscernible : Discernible machine := by
    constructor
    · rw [hstates]
      decide
    · rw [hstates]
      decide
  exact ⟨machine, hbuild, hstates, hdiscernible, (drawnApart_iff hbuild).2.2.2.2 hdiscernible⟩

/-- A space and an underscore look alike, so that two states are drawn as one node, and the transition
from the one to the other as a loop. -/
theorem not_drawnApart_of_alike :
    let draft : Machine.Draft :=
      { initialStates := [⟨"on its-way"⟩]
        transitions :=
          [{ name := "move", source := .states [⟨"on its-way"⟩], target := ⟨"on_its_way"⟩ }] }
    ∃ machine, draft.build = .ok machine ∧ machine.states = [⟨"on its-way"⟩, ⟨"on_its_way"⟩] ∧
      nodes (flowchart machine) = ["on_its_way", "on_its_way"] ∧
      arrows (flowchart machine) = [("on_its_way", "on_its_way")] ∧ ¬ DrawnApart machine := by
  intro draft
  refine ⟨_, rfl, rfl, ?_, ?_, ?_⟩
  · rw [nodes_flowchart]
    rfl
  · rw [arrows_flowchart]
    rfl
  · intro h
    have hsame := h.ids_injective ⟨"on its-way"⟩ (by decide) ⟨"on_its_way"⟩ (by decide) (by decide)
    exact absurd hsame (by decide)

end Diagram

end Lifecycle
