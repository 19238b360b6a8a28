import Lifecycle.Proofs.Diagram.Nodes
import Mathlib.Data.List.TakeWhile

/-!
# Labels of diagrams

Names of states and transitions may hold anything: line ends, the marks around labels, or texts that
look like entities. A diagram still has one line for each thing that it draws (`Diagram.ConsistsOf`),
and its labels are found between the marks of these lines. Each is of the form `Diagram.IsLabel`, in
which the characters that mean something to the drawing program are in entities only. The drawing
program resolves these entities: `Diagram.displayed_escapeLabel` says that it then shows the name, with
a space for each control character. `Diagram.containsNames` collects this for a machine.
-/

namespace Lifecycle

namespace Diagram

open Machine (Edge)
open Text (IsDecimal)

variable {c mark : Char} {text front rest : List Char} {name other heading diagram : String}
  {texts written : List String}

/-! ### Lines -/

/-- The line of an initial state in a state diagram. -/
def entryLine (state : State) : String :=
  "[*] --> " ++ nodeId state

/-- The line of an edge in a state diagram. -/
def stateEdgeLine (edge : Edge) : String :=
  nodeId edge.origin ++ " --> " ++ nodeId edge.target ++ ": " ++ escapeLabel edge.transition

/-- The line of an edge in a flowchart. -/
def flowchartEdgeLine (edge : Edge) : String :=
  nodeId edge.origin ++ " -->|" ++ escapeLabel edge.transition ++ "| " ++ nodeId edge.target

theorem isInline_entryLine (state : State) : IsInline (entryLine state) :=
  (read_entry state).1

theorem isInline_stateEdgeLine (edge : Edge) : IsInline (stateEdgeLine edge) :=
  (read_stateEdge edge).1

theorem isInline_flowchartNode (machine : Machine) (state : State) :
    IsInline (flowchartNode machine state) :=
  (read_flowchartNode machine state).1

theorem isInline_flowchartEdgeLine (edge : Edge) : IsInline (flowchartEdgeLine edge) :=
  (read_flowchartEdge edge).1

theorem stateDiagram_eq (machine : Machine) :
    stateDiagram machine = document "stateDiagram-v2"
      (machine.initialStates.map entryLine ++ machine.edges.map stateEdgeLine) :=
  rfl

theorem flowchart_eq (machine : Machine) :
    flowchart machine = document "flowchart LR"
      (machine.states.map (flowchartNode machine) ++ machine.edges.map flowchartEdgeLine) :=
  rfl

/-- A text that consists of lines, each of which is ended. -/
structure ConsistsOf (diagram : String) (written : List String) : Prop where
  eq_join : diagram = String.join (written.map (· ++ "\n"))
  inline : ∀ text ∈ written, IsInline text

/-- Line ends are found nowhere but behind the lines. -/
theorem ConsistsOf.count (h : ConsistsOf diagram written) :
    diagram.toList.count '\n' = written.length := by
  obtain ⟨rfl, hinline⟩ := h
  -- one line end is behind the first line, and the others are in the rest
  induction written with
  | nil => rfl
  | cons text written ih =>
    have htext : text.toList.count '\n' = 0 :=
      List.count_eq_zero.2 (hinline text List.mem_cons_self)
    have hrest := ih fun other hother => hinline other (List.mem_cons_of_mem _ hother)
    rw [List.map_cons, String.join_cons, String.toList_append, String.toList_append,
      List.count_append, List.count_append, htext, hrest, List.length_cons]
    exact Nat.add_comm _ _

/-- A diagram consists of its heading and of the indented lines below it. -/
theorem consistsOf_document (hheading : IsInline heading) (htexts : ∀ text ∈ texts, IsInline text) :
    ConsistsOf (document heading texts) (heading :: texts.map ("    " ++ ·)) where
  eq_join := by
    rw [document, List.map_cons, String.join_cons, List.map_map]
    rfl
  inline text htext := by
    rcases List.mem_cons.1 htext with rfl | hmem
    · exact hheading
    · obtain ⟨below, hbelow, rfl⟩ := List.mem_map.1 hmem
      exact .append (by decide) (htexts below hbelow)

/-- A state diagram has a line for each initial state, then one for each edge. -/
theorem consistsOf_stateDiagram (machine : Machine) :
    ConsistsOf (stateDiagram machine) ("stateDiagram-v2" :: (machine.initialStates.map entryLine ++
      machine.edges.map stateEdgeLine).map ("    " ++ ·)) := by
  rw [stateDiagram_eq]
  exact consistsOf_document (by decide)
    (isInline_kinds isInline_entryLine isInline_stateEdgeLine _ _)

/-- A flowchart has a line for each state, then one for each edge. -/
theorem consistsOf_flowchart (machine : Machine) :
    ConsistsOf (flowchart machine) ("flowchart LR" :: (machine.states.map (flowchartNode machine) ++
      machine.edges.map flowchartEdgeLine).map ("    " ++ ·)) := by
  rw [flowchart_eq]
  exact consistsOf_document (by decide)
    (isInline_kinds (isInline_flowchartNode machine) isInline_flowchartEdgeLine _ _)

/-! ### The form of labels -/

/-- Reserved characters are in entities only, and there are no control characters. -/
inductive IsLabel : List Char → Prop
  | nil : IsLabel []
  | plain {c : Char} {rest : List Char} (hfree : c ∉ reserved) (hvisible : isControl c = false)
    (hrest : IsLabel rest) : IsLabel (c :: rest)
  | entity {rest : List Char} (code : Nat) (hrest : IsLabel rest) :
    IsLabel ('#' :: (Nat.toDigits 10 code ++ ';' :: rest))

theorem entity_eq (c : Char) : entity c = '#' :: (Nat.toDigits 10 c.toNat ++ [';']) := by
  rw [entity, Nat.toString_eq_repr, Nat.toList_repr, List.cons_append]

theorem IsLabel.escapeChar_append (c : Char) (hrest : IsLabel rest) :
    IsLabel (escapeChar c ++ rest) := by
  rw [escapeChar]
  split
  · rw [entity_eq, List.cons_append, List.append_assoc, List.singleton_append]
    exact .entity c.toNat hrest
  · next hfree =>
    split
    · exact .plain (by decide) (by decide) hrest
    · next hvisible => exact .plain (by simpa using hfree) (by simpa using hvisible) hrest

/-- What is written for a name is a label. -/
theorem isLabel_escapeLabel (name : String) : IsLabel (escapeLabel name).toList := by
  rw [escapeLabel, String.toList_ofList]
  induction name.toList with
  | nil => exact .nil
  | cons c text ih => exact ih.escapeChar_append c

theorem isControl_eq_false_of_isDigit (h : c.isDigit = true) : isControl c = false := by
  have hcode : 48 ≤ c.toNat ∧ c.toNat ≤ 57 := by simpa [Char.isDigit, UInt32.le_iff_toNat_le] using h
  simp only [isControl, Bool.or_eq_false_iff, decide_eq_false_iff_not, Bool.and_eq_false_iff]
  omega

theorem IsLabel.isControl_eq_false (h : IsLabel text) : ∀ c ∈ text, isControl c = false := by
  induction h with
  | nil => exact List.forall_mem_nil _
  | plain _ hvisible _ ih => exact List.forall_mem_cons.2 ⟨hvisible, ih⟩
  | entity code _ ih =>
    have hdigits : ∀ c ∈ Nat.toDigits 10 code, isControl c = false :=
      fun c hc => isControl_eq_false_of_isDigit (Text.isDecimal_toDigits code c hc)
    exact List.forall_mem_cons.2 ⟨by decide, List.forall_mem_append.2
      ⟨hdigits, List.forall_mem_cons.2 ⟨by decide, ih⟩⟩⟩

/-! ### What labels show -/

/-- The entity with which a text begins: its code, and how many characters it has behind its mark. -/
def entity? : List Char → Option (Nat × Nat)
  | '#' :: text =>
    let digits := text.takeWhile Char.isDigit
    if digits ≠ [] ∧ (text.dropWhile Char.isDigit).head? = some ';' then
      some (Nat.ofDigitChars 10 digits 0, digits.length + 1)
    else none
  | _ => none

/-- Entities are read again. -/
theorem entity?_toDigits (code : Nat) (rest : List Char) :
    entity? ('#' :: (Nat.toDigits 10 code ++ ';' :: rest)) =
      some (code, (Nat.toDigits 10 code).length + 1) := by
  have hdigits : IsDecimal (Nat.toDigits 10 code) := Text.isDecimal_toDigits code
  -- the mark behind the code is no digit
  have hends : Text.EndsDigits (';' :: rest) := by
    intro first hfirst
    rw [← Option.some.inj hfirst]
    rfl
  simp [entity?, Text.takeWhile_isDigit_append hdigits hends,
    Text.dropWhile_isDigit_append hdigits hends, Nat.toDigits_ne_nil]

/-- Entities begin with a mark. -/
theorem entity?_cons_of_ne (hne : c ≠ '#') (text : List Char) : entity? (c :: text) = none := by
  rw [entity?]
  rintro _ h
  exact absurd (List.cons.inj h).1 hne

/-- What is shown for a text of which some characters belong to an entity that was resolved. -/
def resolveBehind : Nat → List Char → List Char
  | _, [] => []
  | passed + 1, _ :: text => resolveBehind passed text
  | 0, c :: text =>
    match entity? (c :: text) with
    | some (code, passed) => Char.ofNat code :: resolveBehind passed text
    | none => c :: resolveBehind 0 text

/-- The text that the drawing program shows for a label: it resolves entities. -/
def resolve (text : List Char) : List Char :=
  resolveBehind 0 text

theorem resolveBehind_append (front rest : List Char) :
    resolveBehind front.length (front ++ rest) = resolve rest := by
  induction front with
  | nil => rfl
  | cons c front ih => exact ih

/-- An entity is shown as one character, and what comes behind it as it would be without it. -/
theorem resolve_entity (code : Nat) (rest : List Char) :
    resolve ('#' :: (Nat.toDigits 10 code ++ ';' :: rest)) = Char.ofNat code :: resolve rest := by
  have hbehind := resolveBehind_append (Nat.toDigits 10 code ++ [';']) rest
  rw [List.length_append, List.length_singleton, List.append_assoc, List.singleton_append] at hbehind
  rw [resolve, resolveBehind, entity?_toDigits]
  exact congrArg (Char.ofNat code :: ·) hbehind

theorem resolve_cons_of_ne (hne : c ≠ '#') (text : List Char) :
    resolve (c :: text) = c :: resolve text := by
  rw [resolve, resolveBehind, entity?_cons_of_ne hne]
  rfl

/-- A character of a name, as a label shows it: control characters are replaced by spaces. -/
def shownChar (c : Char) : Char :=
  if isControl c then ' ' else c

/-- What is written for a character is shown as this character. -/
theorem resolve_escapeChar_append (c : Char) (rest : List Char) :
    resolve (escapeChar c ++ rest) = shownChar c :: resolve rest := by
  rw [escapeChar]
  split
  · next hreserved =>
    -- nothing is both written as an entity and replaced by a space
    have hvisible : ∀ c ∈ reserved, isControl c = false := by simp [reserved, isControl]
    rw [entity_eq, List.cons_append, List.append_assoc, List.singleton_append,
      resolve_entity, Char.ofNat_toNat, shownChar, hvisible c (by simpa using hreserved)]
    rfl
  · next hfree =>
    split
    · next hcontrol =>
      rw [List.singleton_append, resolve_cons_of_ne (by decide), shownChar, if_pos hcontrol]
    · next hvisible =>
      -- a mark of the name itself would have become an entity
      have hne : c ≠ '#' := by
        rintro rfl
        exact hfree (by decide)
      rw [List.singleton_append, resolve_cons_of_ne hne, shownChar, if_neg hvisible]

/-- The text that is shown for a label. -/
def displayed (label : String) : String :=
  String.ofList (resolve label.toList)

/-- A name with a space for each control character. -/
def shown (name : String) : String :=
  String.ofList (name.toList.map shownChar)

/-- What is written for a name is shown as this name. -/
theorem displayed_escapeLabel (name : String) : displayed (escapeLabel name) = shown name := by
  rw [displayed, escapeLabel, String.toList_ofList, shown]
  congr 1
  induction name.toList with
  | nil => rfl
  | cons c text ih =>
    rw [List.flatMap_cons, resolve_escapeChar_append, ih, List.map_cons]

/-- A name without control characters. -/
def IsVisible (name : String) : Prop :=
  ∀ c ∈ name.toList, isControl c = false

theorem IsVisible.shown_eq (h : IsVisible name) : shown name = name := by
  have hchar : ∀ c ∈ name.toList, shownChar c = c := fun c hc => by
    rw [shownChar, h c hc]
    rfl
  rw [shown, List.map_congr_left hchar, List.map_id', String.ofList_toList]

/-- Names without control characters have labels of their own. -/
theorem IsVisible.eq_of_escapeLabel_eq (hname : IsVisible name) (hother : IsVisible other)
    (h : escapeLabel name = escapeLabel other) : name = other := by
  calc
    name = shown name := hname.shown_eq.symm
    _ = displayed (escapeLabel name) := (displayed_escapeLabel name).symm
    _ = displayed (escapeLabel other) := congrArg displayed h
    _ = shown other := displayed_escapeLabel other
    _ = other := hother.shown_eq

/-! ### Where labels are found -/

/-- The marks around the labels of a flowchart. -/
def isMark (c : Char) : Bool :=
  c == '"' || c == '|'

/-- The label of a line in a flowchart: it begins behind the first mark and ends before the next one
of the same kind. -/
def enclosed? (text : List Char) : Option String :=
  match text.dropWhile fun c => !isMark c with
  | mark :: behind =>
    if mark ∈ behind then some (String.ofList (behind.takeWhile (· != mark))) else none
  | [] => none

/-- The label of a line in a state diagram: it is all that comes behind the first colon. -/
def trailing? (text : List Char) : Option String :=
  match text.dropWhile (· != ':') with
  | ':' :: ' ' :: label => some (String.ofList label)
  | _ => none

/-- The labels of a diagram, in the order of its lines. -/
def labels (read : List Char → Option String) (diagram : String) : List String :=
  (body diagram).filterMap read

theorem eq_of_isMark (h : isMark mark = true) : mark = '"' ∨ mark = '|' := by
  simpa [isMark] using h

theorem mark_not_mem_escapeLabel (hmark : isMark mark = true) (name : String) :
    mark ∉ (escapeLabel name).toList := by
  rcases eq_of_isMark hmark with rfl | rfl
  · exact fun hmem => absurd (mem_escapeLabel hmem) (by decide)
  · exact fun hmem => absurd (mem_escapeLabel hmem) (by decide)

/-- Identifiers have no marks, so that the first mark of a line is the one before the label. -/
theorem isMark_of_mem_nodeId (state : State) : ∀ c ∈ (nodeId state).toList, isMark c = false := by
  intro c hc
  rw [← Bool.not_eq_true]
  intro hmark
  rcases eq_of_isMark hmark with rfl | rfl
  · exact absurd (isIdentifier_of_mem_nodeId hc) (by decide)
  · exact absurd (isIdentifier_of_mem_nodeId hc) (by decide)

/-- Identifiers have no colons either. -/
theorem ne_colon_of_mem_nodeId (state : State) :
    ∀ c ∈ (nodeId state).toList, (c != ':') = true := by
  intro c hc
  rw [bne_iff_ne]
  rintro rfl
  exact absurd (isIdentifier_of_mem_nodeId hc) (by decide)

/-- A label between marks does not end before the second one. -/
theorem enclosed?_escapeLabel (hfront : ∀ c ∈ front, isMark c = false) (hmark : isMark mark = true)
    (name : String) (rest : List Char) :
    enclosed? (front ++ mark :: ((escapeLabel name).toList ++ mark :: rest)) =
      some (escapeLabel name) := by
  have hbefore : ∀ c ∈ front, (!isMark c) = true := by
    intro c hc
    rw [hfront c hc]
    rfl
  have hlabel : ∀ c ∈ (escapeLabel name).toList, (c != mark) = true := by
    intro c hc
    rw [bne_iff_ne]
    rintro rfl
    exact mark_not_mem_escapeLabel hmark name hc
  -- each search stops at a mark: the first at the one before the label, the second behind it
  have hfirst : ∀ c ∈ (mark :: ((escapeLabel name).toList ++ mark :: rest)).head?,
      (!isMark c) = false := by
    intro c hc
    rw [← Option.some.inj hc, hmark]
    rfl
  have hsecond : ∀ c ∈ (mark :: rest).head?, (c != mark) = false := by
    intro c hc
    rw [← Option.some.inj hc, bne_self_eq_false]
  have hmem : mark ∈ (escapeLabel name).toList ++ mark :: rest :=
    List.mem_append_right _ List.mem_cons_self
  rw [enclosed?, Text.dropWhile_append_of_ends hbefore hfirst]
  simp only [hmem, if_true, Text.takeWhile_append_of_ends hlabel hsecond, String.ofList_toList]

/-- The label of a state in a flowchart. -/
theorem enclosed?_flowchartNode (machine : Machine) (state : State) :
    enclosed? (flowchartNode machine state).toList = some (escapeLabel state.name) := by
  have hread (opening closing : String) (hopening : ∀ c ∈ opening.toList, isMark c = false) :
      enclosed? (nodeId state ++ opening ++ ("\"" ++ escapeLabel state.name ++ "\"") ++
        closing).toList = some (escapeLabel state.name) := by
    have hfront : ∀ c ∈ (nodeId state).toList ++ opening.toList, isMark c = false :=
      List.forall_mem_append.2 ⟨isMark_of_mem_nodeId state, hopening⟩
    have hlabel := enclosed?_escapeLabel hfront (by decide : isMark '"' = true) state.name
      closing.toList
    simpa using hlabel
  rw [flowchartNode]
  -- the shape depends on the state, but not what is found inside
  split
  · exact hread "([" "])" (by simp [isMark])
  · split
    · exact hread "\x7b\x7b" "\x7d\x7d" (by simp [isMark])
    · exact hread "[" "]" (by simp [isMark])

/-- The label of an edge in a flowchart. -/
theorem enclosed?_flowchartEdgeLine (edge : Edge) :
    enclosed? (flowchartEdgeLine edge).toList = some (escapeLabel edge.transition) := by
  have hfront : ∀ c ∈ (nodeId edge.origin).toList ++ " -->".toList, isMark c = false :=
    List.forall_mem_append.2 ⟨isMark_of_mem_nodeId edge.origin, by simp [isMark]⟩
  have hlabel := enclosed?_escapeLabel hfront (by decide : isMark '|' = true) edge.transition
    (' ' :: (nodeId edge.target).toList)
  simpa [flowchartEdgeLine] using hlabel

/-- The label of an edge in a state diagram. -/
theorem trailing?_stateEdgeLine (edge : Edge) :
    trailing? (stateEdgeLine edge).toList = some (escapeLabel edge.transition) := by
  have hfront : ∀ c ∈ (nodeId edge.origin).toList ++ " --> ".toList ++ (nodeId edge.target).toList,
      (c != ':') = true :=
    List.forall_mem_append.2
      ⟨List.forall_mem_append.2 ⟨ne_colon_of_mem_nodeId _, by simp⟩, ne_colon_of_mem_nodeId _⟩
  have htext : (stateEdgeLine edge).toList =
      (nodeId edge.origin).toList ++ " --> ".toList ++ (nodeId edge.target).toList ++
        ':' :: ' ' :: (escapeLabel edge.transition).toList := by
    simp [stateEdgeLine]
  rw [trailing?, htext, List.dropWhile_append_of_pos hfront]
  exact congrArg some String.ofList_toList

/-- An initial state has no label in a state diagram. -/
theorem trailing?_entryLine (state : State) : trailing? (entryLine state).toList = none := by
  have hline : ∀ c ∈ (entryLine state).toList, (c != ':') = true := by
    rw [entryLine, String.toList_append]
    exact List.forall_mem_append.2 ⟨by simp, ne_colon_of_mem_nodeId state⟩
  rw [trailing?, List.dropWhile_eq_nil_iff.2 hline]

/-- A state diagram labels its edges. -/
theorem labels_stateDiagram (machine : Machine) :
    labels trailing? (stateDiagram machine) =
      machine.edges.map fun edge => escapeLabel edge.transition := by
  rw [labels, stateDiagram_eq, body_kinds (by decide) isInline_entryLine isInline_stateEdgeLine,
    List.filterMap_append, filterMap_lines_eq_nil _ trailing?_entryLine,
    filterMap_lines _ trailing?_stateEdgeLine, List.nil_append]

/-- A flowchart labels its states and its edges. -/
theorem labels_flowchart (machine : Machine) :
    labels enclosed? (flowchart machine) =
      (machine.states.map fun state => escapeLabel state.name) ++
        machine.edges.map fun edge => escapeLabel edge.transition := by
  rw [labels, flowchart_eq,
    body_kinds (by decide) (isInline_flowchartNode machine) isInline_flowchartEdgeLine,
    List.filterMap_append, filterMap_lines _ (enclosed?_flowchartNode machine),
    filterMap_lines _ enclosed?_flowchartEdgeLine]

/-! ### Names stay in their places -/

/-- The labels that are found show these names, in their order, and nothing can be mistaken for the
marks around them. -/
structure Labelled (found names : List String) : Prop where
  isLabel : ∀ label ∈ found, IsLabel label.toList
  isVisible : ∀ label ∈ found, IsVisible label
  escaped : found = names.map escapeLabel
  displays : found.map displayed = names.map shown

theorem labelled_map (names : List String) : Labelled (names.map escapeLabel) names where
  isLabel := by
    intro label hlabel
    obtain ⟨name, -, rfl⟩ := List.mem_map.1 hlabel
    exact isLabel_escapeLabel name
  isVisible := by
    intro label hlabel
    obtain ⟨name, -, rfl⟩ := List.mem_map.1 hlabel
    exact (isLabel_escapeLabel name).isControl_eq_false
  escaped := rfl
  displays := by
    rw [List.map_map]
    exact List.map_congr_left fun name _ => displayed_escapeLabel name

/-- Names do not break out of the diagrams of a machine. -/
structure ContainsNames (machine : Machine) : Prop where
  stateDiagram_lines : ConsistsOf (stateDiagram machine)
    ("stateDiagram-v2" :: (machine.initialStates.map entryLine ++
      machine.edges.map stateEdgeLine).map ("    " ++ ·))
  stateDiagram_count : (stateDiagram machine).toList.count '\n' =
    1 + machine.initialStates.length + machine.edges.length
  flowchart_lines : ConsistsOf (flowchart machine)
    ("flowchart LR" :: (machine.states.map (flowchartNode machine) ++
      machine.edges.map flowchartEdgeLine).map ("    " ++ ·))
  flowchart_count : (flowchart machine).toList.count '\n' =
    1 + machine.states.length + machine.edges.length
  stateDiagram_labels : Labelled (labels trailing? (stateDiagram machine))
    (machine.edges.map Edge.transition)
  flowchart_labels : Labelled (labels enclosed? (flowchart machine))
    (machine.states.map State.name ++ machine.edges.map Edge.transition)
  /-- Only control characters are lost. -/
  distinct : ∀ name other, IsVisible name → IsVisible other →
    escapeLabel name = escapeLabel other → name = other

/-- Whatever the names of a machine are, they do not break out of its diagrams. -/
theorem containsNames (machine : Machine) : ContainsNames machine where
  stateDiagram_lines := consistsOf_stateDiagram machine
  stateDiagram_count := by
    rw [(consistsOf_stateDiagram machine).count]
    simp only [List.length_cons, List.length_map, List.length_append]
    omega
  flowchart_lines := consistsOf_flowchart machine
  flowchart_count := by
    rw [(consistsOf_flowchart machine).count]
    simp only [List.length_cons, List.length_map, List.length_append]
    omega
  stateDiagram_labels := by
    have hlabelled := labelled_map (machine.edges.map Edge.transition)
    rw [List.map_map] at hlabelled
    rw [labels_stateDiagram]
    exact hlabelled
  flowchart_labels := by
    have hlabelled := labelled_map
      (machine.states.map State.name ++ machine.edges.map Edge.transition)
    rw [List.map_append, List.map_map, List.map_map] at hlabelled
    rw [labels_flowchart]
    exact hlabelled
  distinct _ _ hname hother := hname.eq_of_escapeLabel_eq hother

/-- A text that looks like an entity is shown as it is, and a line end as a space. -/
example : escapeLabel "#58;\n" = "#35;58#59; " ∧ displayed "#35;58#59; " = "#58; " := by
  decide

end Diagram

end Lifecycle
