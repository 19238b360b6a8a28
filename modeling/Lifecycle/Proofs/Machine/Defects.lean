import Lifecycle.Proofs.Machine.Ambiguity
import Mathlib.Data.List.Induction

/-!
# Every defect is reported once

The parts of a machine may be broken at many places at the same time. Whether a place is defective is
a matter of this place alone (`Parts.DefectAt`), and places have an order: rule by rule, and within a
rule by position. The violations of parts are what is wrong at their defective places, each of these
once and in their order, so that no defect hides another one.

- `Parts.Reports`: some violations report the defects of some places;
- `Parts.violations_exact`: all violations report the defects of all places.
-/

namespace Lifecycle

namespace Parts

open Transition (ConflictAt)

/-- What a rule looks at. Transitions and entries of lists are known by their positions. -/
inductive Place where
  /-- The initial states as a whole. -/
  | initialStates
  /-- One of the initial states. -/
  | initialState (position : Nat)
  /-- The default, whether it is given or not. -/
  | defaultInitialState
  /-- The error state, whether it is given or not. -/
  | errorState
  /-- The name of a transition. -/
  | name (transition : Nat)
  /-- The source of a transition as a whole. -/
  | source (transition : Nat)
  /-- A state that a transition mentions. The target stands behind the states of the source. -/
  | mention (transition position : Nat)
  /-- Two transitions, the earlier one first. -/
  | pair (first second : Nat)
  /-- The target of a recovery transition. -/
  | recovery (transition : Nat)
deriving DecidableEq, Repr

namespace Place

/-- The rank of the rule that looks at a place. One rule covers the names, sources and states of all
transitions. -/
def rank : Place → Nat
  | initialStates | initialState _ => 0
  | defaultInitialState => 1
  | errorState => 2
  | name _ | source _ | mention _ _ => 3
  | pair _ _ => 4
  | recovery _ => 5

/-- Where a place lies among those that the same rule looks at, from the outside to the inside. -/
def path : Place → List Nat
  | initialStates | defaultInitialState | errorState => []
  | initialState position => [position]
  | name transition => [transition, 0]
  | source transition => [transition, 1]
  | mention transition position => [transition, 2, position]
  | pair first second => [first, second]
  | recovery transition => [transition]

/-- The order of places: by rule, and within a rule by path. -/
def Before (place later : Place) : Prop :=
  place.rank < later.rank ∨ place.rank = later.rank ∧ place.path < later.path

instance (place later : Place) : Decidable (place.Before later) := by
  unfold Before
  infer_instance

end Place

/-- A place is defective, and the violation says what is wrong there. -/
inductive DefectAt (parts : Parts) : Place → Violation → Prop where
  | noInitialStates (hnone : parts.initialStates = []) :
    DefectAt parts .initialStates .noInitialStates
  | undeclaredInitialState {position : Nat} {state : State}
    (hentry : parts.initialStates[position]? = some state) (hundeclared : state ∉ parts.states) :
    DefectAt parts (.initialState position) (.undeclaredInitialState state)
  | missingDefaultInitialState (hnone : parts.defaultInitialState = none)
    (hinitial : parts.initialStates ≠ []) :
    DefectAt parts .defaultInitialState .missingDefaultInitialState
  | defaultNotInitial {state : State} (hdefault : parts.defaultInitialState = some state)
    (hother : state ∉ parts.initialStates) :
    DefectAt parts .defaultInitialState (.defaultNotInitial state)
  | undeclaredErrorState {state : State} (herror : parts.errorState = some state)
    (hundeclared : state ∉ parts.states) :
    DefectAt parts .errorState (.undeclaredErrorState state)
  | emptyTransitionName {position : Nat} {transition : Transition}
    (htransition : parts.transitions[position]? = some transition) (hname : transition.name = "") :
    DefectAt parts (.name position) .emptyTransitionName
  | emptySource {position : Nat} {transition : Transition}
    (htransition : parts.transitions[position]? = some transition)
    (hsource : transition.source = .states []) :
    DefectAt parts (.source position) (.emptySource transition.name)
  | undeclaredState {position mention : Nat} {transition : Transition} {state : State}
    (htransition : parts.transitions[position]? = some transition)
    (hmention : transition.mentioned[mention]? = some state)
    (hundeclared : state ∉ parts.states) :
    DefectAt parts (.mention position mention) (.undeclaredState transition.name state)
  | ambiguousTransition {first second : Nat} {left right : Transition} {overlap : Source}
    (horder : first < second) (hleft : parts.transitions[first]? = some left)
    (hright : parts.transitions[second]? = some right) (hconflict : left.Conflicts right)
    (hoverlap : ∀ state, overlap.contains state = true ↔
      left.source.contains state = true ∧ right.source.contains state = true) :
    DefectAt parts (.pair first second) (.ambiguousTransition left.name overlap)
  | recoveryTargetMismatch {position : Nat} {transition : Transition} {errorState : State}
    (herror : parts.errorState = some errorState)
    (htransition : parts.transitions[position]? = some transition)
    (hname : transition.name = Transition.recoveryName)
    (htarget : transition.target ≠ errorState) :
    DefectAt parts (.recovery position)
      (.recoveryTargetMismatch transition.name errorState transition.target)

variable {parts : Parts} {region other : Place → Prop} {place : Place} {violation : Violation}
  {found left right : List Violation}

/-! ### Reports -/

/-- Violations report the defects of a region: each defective place once, in the order of places. -/
def Reports (parts : Parts) (region : Place → Prop) (found : List Violation) : Prop :=
  ∃ places : List Place, places.Pairwise Place.Before ∧
    (∀ place, place ∈ places ↔ region place ∧ ∃ violation, parts.DefectAt place violation) ∧
    List.Forall₂ parts.DefectAt places found

/-- Regions with the same defects have the same reports. -/
theorem Reports.congr (h : parts.Reports region found)
    (hregion : ∀ place violation, parts.DefectAt place violation → (region place ↔ other place)) :
    parts.Reports other found := by
  obtain ⟨places, hordered, hmem, hfound⟩ := h
  refine ⟨places, hordered, fun place => (hmem place).trans ?_, hfound⟩
  constructor
  · rintro ⟨hplace, violation, hdefect⟩
    exact ⟨(hregion place violation hdefect).1 hplace, violation, hdefect⟩
  · rintro ⟨hplace, violation, hdefect⟩
    exact ⟨(hregion place violation hdefect).2 hplace, violation, hdefect⟩

theorem reports_nil (hnone : ∀ place, region place → ∀ violation, ¬ parts.DefectAt place violation) :
    parts.Reports region [] := by
  refine ⟨[], .nil, fun place => ?_, .nil⟩
  constructor
  · intro hplace
    exact absurd hplace List.not_mem_nil
  · rintro ⟨hplace, violation, hdefect⟩
    exact absurd hdefect (hnone place hplace violation)

theorem reports_singleton (hdefect : parts.DefectAt place violation) :
    parts.Reports (· = place) [violation] := by
  refine ⟨[place], List.pairwise_singleton .., fun candidate => ?_, .cons hdefect .nil⟩
  rw [List.mem_singleton]
  constructor
  · rintro rfl
    exact ⟨rfl, violation, hdefect⟩
  · exact And.left

/-- Reports of two regions, one behind the other. -/
theorem Reports.append (hleft : parts.Reports region left) (hright : parts.Reports other right)
    (hbefore : ∀ place, region place → ∀ later, other later → place.Before later) :
    parts.Reports (fun place => region place ∨ other place) (left ++ right) := by
  obtain ⟨places, hordered, hmem, hfound⟩ := hleft
  obtain ⟨later, hlaterOrdered, hlaterMem, hlaterFound⟩ := hright
  refine ⟨places ++ later, List.pairwise_append.2 ⟨hordered, hlaterOrdered, ?_⟩, ?_,
    List.rel_append hfound hlaterFound⟩
  · intro place hplace candidate hcandidate
    exact hbefore place ((hmem place).1 hplace).1 candidate ((hlaterMem candidate).1 hcandidate).1
  · intro place
    rw [List.mem_append, hmem, hlaterMem, or_and_right]

/-- Reports of one region for each entry of a list, in the order of the entries. -/
theorem reports_flatMap {α : Type} {region : Nat → Place → Prop} {find : α → List Violation}
    {entries : List α}
    (hentry : ∀ position entry, entries[position]? = some entry →
      parts.Reports (region position) (find entry))
    (hbefore : ∀ position next, position < next → ∀ place, region position place →
      ∀ later, region next later → place.Before later) :
    parts.Reports (fun place => ∃ position < entries.length, region position place)
      (entries.flatMap find) := by
  -- an entry at the end leaves the positions of the others as they are
  induction entries using List.reverseRecOn with
  | nil => exact reports_nil fun place ⟨position, hposition, _⟩ => absurd hposition (Nat.not_lt_zero _)
  | append_singleton entries last ih =>
    have hearlier := ih fun position entry hposition => by
      have hlt := (List.getElem?_eq_some_iff.1 hposition).1
      exact hentry position entry (by rw [List.getElem?_append_left hlt, hposition])
    have hlast : parts.Reports (region entries.length) (find last) :=
      hentry entries.length last List.getElem?_concat_length
    rw [List.flatMap_append, List.flatMap_singleton]
    refine (hearlier.append hlast ?_).congr fun place _ _ => ?_
    · rintro place ⟨position, hposition, hplace⟩ later hlater
      exact hbefore position entries.length hposition place hplace later hlater
    · rw [List.length_append, List.length_singleton]
      constructor
      · rintro (⟨position, hposition, hplace⟩ | hplace)
        · exact ⟨position, Nat.lt_succ_of_lt hposition, hplace⟩
        · exact ⟨entries.length, Nat.lt_succ_self _, hplace⟩
      · rintro ⟨position, hposition, hplace⟩
        rcases Nat.lt_succ_iff_lt_or_eq.1 hposition with hlt | rfl
        · exact .inl ⟨position, hlt, hplace⟩
        · exact .inr hplace

/-- What is required at a place is reported where it is missing. -/
theorem reports_require {condition : Bool}
    (hholds : condition = true → ∀ violation, ¬ parts.DefectAt place violation)
    (hbroken : condition = false → parts.DefectAt place violation) :
    parts.Reports (· = place) (require condition violation) := by
  cases condition with
  | true =>
    refine reports_nil ?_
    rintro place rfl
    exact hholds rfl
  | false => exact reports_singleton (hbroken rfl)

/-! ### Rules -/

/-- The report of one more rule. -/
theorem Reports.append_rule {rank : Nat} (hleft : parts.Reports (fun place => place.rank < rank) left)
    (hright : parts.Reports (fun place => place.rank = rank) right) :
    parts.Reports (fun place => place.rank < rank + 1) (left ++ right) := by
  refine (hleft.append hright ?_).congr fun place _ _ => ?_
  · intro place hplace later hlater
    exact .inl (hlater ▸ hplace)
  · omega

theorem reports_initialViolations (parts : Parts) :
    parts.Reports (fun place => place.rank = 0) parts.initialViolations := by
  have hsome : parts.Reports (· = .initialStates)
      (require (!parts.initialStates.isEmpty) .noInitialStates) := by
    refine reports_require ?_ ?_
    · rintro hsome violation ⟨hnone⟩
      simp [hnone] at hsome
    · intro hnone
      exact .noInitialStates (by simpa using hnone)
  have hdeclared : parts.Reports (fun place => ∃ position < parts.initialStates.length,
      place = .initialState position)
      (parts.initialStates.flatMap fun state =>
        require (parts.states.contains state) (.undeclaredInitialState state)) := by
    refine reports_flatMap (fun position state hentry => reports_require ?_ ?_) ?_
    · intro hdeclared violation hdefect
      cases hdefect with
      | undeclaredInitialState hfound hundeclared =>
        obtain rfl := Option.some.inj (hentry.symm.trans hfound)
        exact hundeclared (by simpa using hdeclared)
    · intro hundeclared
      exact .undeclaredInitialState hentry (by simpa using hundeclared)
    · rintro position next hlt place rfl later rfl
      exact .inr ⟨rfl, List.cons_lt_cons_iff.2 (.inl hlt)⟩
  refine (hsome.append hdeclared ?_).congr ?_
  · rintro place rfl later ⟨position, -, rfl⟩
    exact .inr ⟨rfl, List.nil_lt_cons ..⟩
  · intro place violation hdefect
    cases hdefect with
    | undeclaredInitialState hentry _ =>
      have hposition := (List.getElem?_eq_some_iff.1 hentry).1
      simp [Place.rank, hposition]
    | _ => simp [Place.rank]

theorem reports_defaultViolations (parts : Parts) :
    parts.Reports (fun place => place.rank = 1) parts.defaultViolations := by
  have hdefault : parts.Reports (· = .defaultInitialState) parts.defaultViolations := by
    rw [defaultViolations]
    cases hgiven : parts.defaultInitialState with
    | none =>
      refine reports_require (fun hnone violation hdefect => ?_) fun hsome => ?_
      · cases hdefect with
        | missingDefaultInitialState _ hinitial => exact hinitial (by simpa using hnone)
        | defaultNotInitial hdefault _ => cases hgiven.symm.trans hdefault
      · exact .missingDefaultInitialState hgiven (by simpa using hsome)
    | some state =>
      refine reports_require (fun hinitial violation hdefect => ?_) fun hother => ?_
      · cases hdefect with
        | missingDefaultInitialState hnone _ => cases hgiven.symm.trans hnone
        | defaultNotInitial hdefault hother =>
          obtain rfl := Option.some.inj (hgiven.symm.trans hdefault)
          exact hother (by simpa using hinitial)
      · exact .defaultNotInitial hgiven (by simpa using hother)
  refine hdefault.congr fun place violation hdefect => ?_
  cases hdefect with
  | _ => simp [Place.rank]

theorem reports_errorViolations (parts : Parts) :
    parts.Reports (fun place => place.rank = 2) parts.errorViolations := by
  have herror : parts.Reports (· = .errorState) parts.errorViolations := by
    rw [errorViolations]
    cases hgiven : parts.errorState with
    | none =>
      refine reports_nil ?_
      rintro place rfl violation hdefect
      cases hdefect with
      | undeclaredErrorState hstate _ => cases hgiven.symm.trans hstate
    | some state =>
      refine reports_require (fun hdeclared violation hdefect => ?_) fun hundeclared => ?_
      · cases hdefect with
        | undeclaredErrorState hstate hundeclared =>
          obtain rfl := Option.some.inj (hgiven.symm.trans hstate)
          exact hundeclared (by simpa using hdeclared)
      · exact .undeclaredErrorState hgiven (by simpa using hundeclared)
  refine herror.congr fun place violation hdefect => ?_
  cases hdefect with
  | _ => simp [Place.rank]

/-- Of a transition, the name comes first, then the source, and then the states. -/
theorem reports_transitionViolations {position : Nat} {transition : Transition}
    (htransition : parts.transitions[position]? = some transition) :
    parts.Reports (fun place => place.rank = 3 ∧ place.path.head? = some position)
      (parts.transitionViolations transition) := by
  have hsame {other : Transition} (hother : parts.transitions[position]? = some other) :
      transition = other := Option.some.inj (htransition.symm.trans hother)
  have hname : parts.Reports (· = .name position)
      (require (transition.name != "") .emptyTransitionName) := by
    refine reports_require (fun hnamed violation hdefect => ?_) fun hempty => ?_
    · cases hdefect with
      | emptyTransitionName hother hempty =>
        obtain rfl := hsame hother
        simp [hempty] at hnamed
    · exact .emptyTransitionName htransition (by simpa using hempty)
  have hsource : parts.Reports (· = .source position) (sourceViolations transition) := by
    rw [sourceViolations]
    cases hgiven : transition.source with
    | any =>
      refine reports_nil ?_
      rintro place rfl violation hdefect
      cases hdefect with
      | emptySource hother hempty =>
        obtain rfl := hsame hother
        cases hgiven.symm.trans hempty
    | states listed =>
      refine reports_require (fun hsome violation hdefect => ?_) fun hempty => ?_
      · cases hdefect with
        | emptySource hother hempty =>
          obtain rfl := hsame hother
          obtain rfl := Source.states.inj (hgiven.symm.trans hempty)
          simp at hsome
      · obtain rfl : listed = [] := by simpa using hempty
        exact .emptySource htransition hgiven
  have hmentioned : parts.Reports
      (fun place => ∃ mention < transition.mentioned.length, place = .mention position mention)
      (transition.mentioned.flatMap fun state =>
        require (parts.states.contains state) (.undeclaredState transition.name state)) := by
    refine reports_flatMap (fun mention state hmention =>
      reports_require (fun hdeclared violation hdefect => ?_) fun hundeclared => ?_) ?_
    · cases hdefect with
      | undeclaredState hother hfound hundeclared =>
        obtain rfl := hsame hother
        obtain rfl := Option.some.inj (hmention.symm.trans hfound)
        exact hundeclared (by simpa using hdeclared)
    · exact .undeclaredState htransition hmention (by simpa using hundeclared)
    · rintro mention next hlt place rfl later rfl
      simp [Place.Before, Place.rank, Place.path, List.cons_lt_cons_iff, hlt]
  refine ((hname.append hsource ?_).append hmentioned ?_).congr ?_
  · rintro place rfl later rfl
    simp [Place.Before, Place.rank, Place.path, List.cons_lt_cons_iff]
  · rintro place (rfl | rfl) later ⟨mention, -, rfl⟩
    · simp [Place.Before, Place.rank, Place.path, List.cons_lt_cons_iff]
    · simp [Place.Before, Place.rank, Place.path, List.cons_lt_cons_iff]
  · intro place violation hdefect
    cases hdefect with
    | @undeclaredState index mention other state hother hmention _ =>
      -- what a transition mentions is told by its position
      have hlength : index = position → mention < transition.mentioned.length := by
        rintro rfl
        rw [hsame hother]
        exact (List.getElem?_eq_some_iff.1 hmention).1
      simpa [Place.rank, Place.path] using hlength
    | _ => simp [Place.rank, Place.path]

theorem reports_transitions (parts : Parts) :
    parts.Reports (fun place => place.rank = 3)
      (parts.transitions.flatMap parts.transitionViolations) := by
  have htransitions : parts.Reports
      (fun place => ∃ position < parts.transitions.length,
        place.rank = 3 ∧ place.path.head? = some position)
      (parts.transitions.flatMap parts.transitionViolations) := by
    refine reports_flatMap (fun position transition => reports_transitionViolations) ?_
    -- paths of the places of a transition begin with its position
    rintro position next hlt place ⟨hrank, hpath⟩ later ⟨hlaterRank, hlaterPath⟩
    obtain ⟨rest, hrest⟩ := List.head?_eq_some_iff.1 hpath
    obtain ⟨laterRest, hlaterRest⟩ := List.head?_eq_some_iff.1 hlaterPath
    rw [Place.Before, hrank, hlaterRank, hrest, hlaterRest, List.cons_lt_cons_iff]
    exact .inr ⟨rfl, .inl hlt⟩
  refine htransitions.congr fun place violation hdefect => ?_
  have hposition {position : Nat} {transition : Transition}
      (htransition : parts.transitions[position]? = some transition) :
      position < parts.transitions.length :=
    (List.getElem?_eq_some_iff.1 htransition).1
  cases hdefect with
  | emptyTransitionName htransition _ => simp [Place.rank, Place.path, hposition htransition]
  | emptySource htransition _ => simp [Place.rank, Place.path, hposition htransition]
  | undeclaredState htransition _ _ => simp [Place.rank, Place.path, hposition htransition]
  | _ => simp [Place.rank]

/-- Two transitions are a defective place exactly when they conflict. -/
theorem exists_defectAt_pair_iff {first second : Nat} :
    (∃ violation, parts.DefectAt (.pair first second) violation) ↔
      ConflictAt parts.transitions (first, second) := by
  constructor
  · rintro ⟨violation, hdefect⟩
    cases hdefect with
    | @ambiguousTransition _ _ left right _ horder hleft hright hconflict _ =>
      exact ⟨horder, left, right, hleft, hright, hconflict⟩
  · rintro ⟨horder, left, right, hleft, hright, hconflict⟩
    -- sources that meet have an overlap to report
    have hmeets : left.source.overlap? right.source ≠ none := fun hnone =>
      Source.overlap?_eq_none_iff.1 hnone hconflict.2
    obtain ⟨overlap, hoverlap⟩ := Option.ne_none_iff_exists'.1 hmeets
    exact ⟨_, .ambiguousTransition horder hleft hright hconflict
      (Source.contains_of_overlap? hoverlap)⟩

theorem defectAt_pair {positions : Nat × Nat} (hconflict : ConflictAt parts.transitions positions)
    (hreported : ReportedAs parts.transitions positions violation) :
    parts.DefectAt (.pair positions.1 positions.2) violation := by
  obtain ⟨horder, left, right, hleft, hright, hconflict⟩ := hconflict
  obtain ⟨reportedLeft, reportedRight, overlap, hreportedLeft, hreportedRight, -, rfl, hoverlap⟩ :=
    hreported
  obtain rfl := Option.some.inj (hleft.symm.trans hreportedLeft)
  obtain rfl := Option.some.inj (hright.symm.trans hreportedRight)
  exact .ambiguousTransition horder hleft hright hconflict hoverlap

theorem reports_ambiguities (parts : Parts) :
    parts.Reports (fun place => place.rank = 4) (ambiguities parts.transitions) := by
  obtain ⟨conflicts, hordered, hmem, hreported⟩ := exists_positions_ambiguities parts.transitions
  refine ⟨conflicts.map fun positions => .pair positions.1 positions.2, ?_, ?_, ?_⟩
  · refine hordered.map _ fun before after hlex => .inr ⟨rfl, ?_⟩
    rw [Place.path, Place.path, List.cons_lt_cons_iff, List.cons_lt_cons_iff]
    rcases Prod.lex_def.1 hlex with hfirst | ⟨hfirst, hsecond⟩
    · exact .inl hfirst
    · exact .inr ⟨hfirst, .inl hsecond⟩
  · intro place
    rw [List.mem_map]
    constructor
    · rintro ⟨positions, hpositions, rfl⟩
      exact ⟨rfl, exists_defectAt_pair_iff.2 ((hmem positions).1 hpositions)⟩
    · rintro ⟨hrank, hdefective⟩
      cases place with
      | pair first second =>
        exact ⟨(first, second), (hmem _).2 (exists_defectAt_pair_iff.1 hdefective), rfl⟩
      | _ => simp [Place.rank] at hrank
  · rw [List.forall₂_map_left_iff]
    have hconflicts : ∀ positions ∈ conflicts, ConflictAt parts.transitions positions :=
      fun positions => (hmem positions).1
    exact ((List.forall₂_and_left _ _).2 ⟨hconflicts, hreported⟩).imp fun positions violation h =>
      defectAt_pair h.1 h.2

/-- What is found among selected entries is found among all, with nothing found of the others. -/
theorem flatMap_filter {α β : Type} (select : α → Bool) (find : α → List β) (entries : List α) :
    (entries.filter select).flatMap find =
      entries.flatMap fun entry => if select entry then find entry else [] := by
  induction entries with
  | nil => rfl
  | cons entry entries ih =>
    by_cases hentry : select entry = true
    · rw [List.filter_cons_of_pos hentry, List.flatMap_cons, List.flatMap_cons, if_pos hentry, ih]
    · rw [List.filter_cons_of_neg hentry, List.flatMap_cons, if_neg hentry, ih, List.nil_append]

theorem reports_recoveryViolations (parts : Parts) :
    parts.Reports (fun place => place.rank = 5) parts.recoveryViolations := by
  rw [recoveryViolations]
  cases hgiven : parts.errorState with
  | none =>
    refine reports_nil fun place hrank violation hdefect => ?_
    cases hdefect with
    | recoveryTargetMismatch herror => cases hgiven.symm.trans herror
    | _ => simp [Place.rank] at hrank
  | some errorState =>
    -- positions are counted among all transitions, and not among those that are selected
    simp only [flatMap_filter]
    have hrecoveries : parts.Reports
        (fun place => ∃ position < parts.transitions.length, place = .recovery position)
        (parts.transitions.flatMap fun transition =>
          if transition.name == Transition.recoveryName then
            require (transition.target == errorState)
              (.recoveryTargetMismatch transition.name errorState transition.target)
          else []) := by
      refine reports_flatMap (fun position transition htransition => ?_) ?_
      · split
        · next hname =>
          refine reports_require (fun htarget violation hdefect => ?_) fun hother => ?_
          · cases hdefect with
            | recoveryTargetMismatch herror hfound _ hother =>
              obtain rfl := Option.some.inj (htransition.symm.trans hfound)
              obtain rfl := Option.some.inj (hgiven.symm.trans herror)
              exact hother (by simpa using htarget)
          · exact .recoveryTargetMismatch hgiven htransition (by simpa using hname)
              (by simpa using hother)
        · next hname =>
          refine reports_nil ?_
          rintro place rfl violation hdefect
          cases hdefect with
          | recoveryTargetMismatch _ hfound hrecovery _ =>
            obtain rfl := Option.some.inj (htransition.symm.trans hfound)
            exact hname (by simpa using hrecovery)
      · rintro position next hlt place rfl later rfl
        exact .inr ⟨rfl, List.cons_lt_cons_iff.2 (.inl hlt)⟩
    refine hrecoveries.congr fun place violation hdefect => ?_
    cases hdefect with
    | recoveryTargetMismatch _ hfound _ _ =>
      have hposition := (List.getElem?_eq_some_iff.1 hfound).1
      simp [Place.rank, hposition]
    | _ => simp [Place.rank]

/-! ### All rules -/

theorem Place.rank_lt (place : Place) : place.rank < 6 := by
  cases place <;> simp [rank]

/-- The violations of parts report the defects of all places. -/
theorem reports_violations (parts : Parts) :
    parts.Reports (fun _ => True) parts.violations := by
  -- the rules are run one after the other, and each looks at places behind those of the ones before
  have hinitial : parts.Reports (fun place => place.rank < 1) parts.initialViolations :=
    (reports_initialViolations parts).congr fun place _ _ => by omega
  have hrules := ((((hinitial.append_rule (reports_defaultViolations parts)).append_rule
    (reports_errorViolations parts)).append_rule (reports_transitions parts)).append_rule
    (reports_ambiguities parts)).append_rule (reports_recoveryViolations parts)
  exact hrules.congr fun place _ _ => by simp [place.rank_lt]

/-- A violation that is reported is what is wrong at some place. -/
theorem exists_defectAt_of_mem (h : violation ∈ parts.violations) :
    ∃ place, parts.DefectAt place violation := by
  obtain ⟨places, -, -, hfound⟩ := reports_violations parts
  obtain ⟨hlength, hdefects⟩ := List.forall₂_iff_get.1 hfound
  obtain ⟨index, hindex, rfl⟩ := List.mem_iff_getElem.1 h
  exact ⟨_, hdefects index (hlength ▸ hindex) hindex⟩

/-- Every defect of the parts is reported once, in the order of the rules and within a rule in the
order of positions, and nothing else is. Whether a place is defective depends on no other place, so
that no rule hides what another one finds, and parts without a defective place have no violation. -/
theorem violations_exact (parts : Parts) :
    (∃ places : List Place, places.Pairwise Place.Before ∧
      (∀ place, place ∈ places ↔ ∃ violation, parts.DefectAt place violation) ∧
      List.Forall₂ parts.DefectAt places parts.violations) ∧
    (parts.violations = [] ↔ ∀ place violation, ¬ parts.DefectAt place violation) := by
  obtain ⟨places, hordered, hmem, hfound⟩ := reports_violations parts
  simp only [true_and] at hmem
  refine ⟨⟨places, hordered, hmem, hfound⟩, ?_⟩
  constructor
  · intro hnone place violation hdefect
    rw [hnone, List.forall₂_nil_right_iff] at hfound
    have hplace : place ∈ places := (hmem place).2 ⟨violation, hdefect⟩
    rw [hfound] at hplace
    exact absurd hplace List.not_mem_nil
  · intro hsound
    refine List.eq_nil_iff_forall_not_mem.2 fun violation hviolation => ?_
    obtain ⟨place, hdefect⟩ := exists_defectAt_of_mem hviolation
    exact hsound place violation hdefect

/-- Parts of which every rule finds fault. A state that is mentioned twice is reported twice, and the
wildcard shares whatever the other transition lists. -/
example :
    let parts : Parts :=
      { states := [⟨"a"⟩]
        initialStates := [⟨"b"⟩, ⟨"b"⟩]
        defaultInitialState := some ⟨"a"⟩
        errorState := some ⟨"c"⟩
        transitions :=
          [{ name := "", source := .states [], target := ⟨"a"⟩ },
           { name := "error", source := .states [⟨"d"⟩, ⟨"d"⟩], target := ⟨"a"⟩ },
           { name := "error", source := .any, target := ⟨"c"⟩ }] }
    parts.violations =
      [.undeclaredInitialState ⟨"b"⟩, .undeclaredInitialState ⟨"b"⟩, .defaultNotInitial ⟨"a"⟩,
        .undeclaredErrorState ⟨"c"⟩, .emptyTransitionName, .emptySource "",
        .undeclaredState "error" ⟨"d"⟩, .undeclaredState "error" ⟨"d"⟩,
        .undeclaredState "error" ⟨"c"⟩, .ambiguousTransition "error" (.states [⟨"d"⟩, ⟨"d"⟩]),
        .recoveryTargetMismatch "error" ⟨"c"⟩ ⟨"a"⟩] := by decide

end Parts

end Lifecycle
