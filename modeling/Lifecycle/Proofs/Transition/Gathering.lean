import Lifecycle.Machine.Draft
import Lifecycle.Proofs.State.Mentions

/-!
# What a draft of a transition gathers

A draft is made by calls in any order. What they come to does not depend on how calls on the source
and calls on the target are mixed: source states accumulate in the order of first mention, one call
for the wildcard absorbs all of them, whether they come before it or after it, and the last target
wins.

- `Transition.Draft.gathered_eq`: the draft that some calls make, in closed form;
- `Transition.Draft.accumulates_gathered`: when it is a transition, and of which parts.
-/

namespace Lifecycle

namespace Transition

namespace Draft

/-- A call on a draft. -/
inductive Call where
  /-- Add one source state. -/
  | addSource (state : State)
  /-- Add source states, perhaps none. -/
  | addSources (states : List State)
  /-- Let the transition start from any state. -/
  | fromAny
  /-- Set the target. -/
  | leadTo (state : State)
deriving DecidableEq, Repr

namespace Call

/-- The draft after a call on it. -/
def apply (draft : Draft) : Call → Draft
  | addSource state => draft.addSource state
  | addSources states => draft.addSources states
  | fromAny => draft.fromAny
  | leadTo state => draft.leadTo state

/-- Whether a call says where the transition starts. An empty list of source states says so too. -/
def givesSource : Call → Bool
  | addSource _ | addSources _ | fromAny => true
  | leadTo _ => false

/-- The source states that a call mentions. -/
def mentioned : Call → List State
  | addSource state => [state]
  | addSources states => states
  | fromAny | leadTo _ => []

/-- The target that a call sets. -/
def target? : Call → Option State
  | leadTo state => some state
  | addSource _ | addSources _ | fromAny => none

end Call

variable {name : String} {calls other : List Call} {call : Call} {states : List State}

/-- The draft that calls make, one after the other. -/
def gathered (name : String) (calls : List Call) : Draft :=
  calls.foldl Call.apply (named name)

/-- Some call says where the transition starts. -/
def GivesSource (calls : List Call) : Prop :=
  ∃ call ∈ calls, call.givesSource = true

instance (calls : List Call) : Decidable (GivesSource calls) := by
  unfold GivesSource
  infer_instance

/-- The source states that calls mention, in their order and with repeats. -/
def mentions (calls : List Call) : List State :=
  calls.flatMap Call.mentioned

/-- The targets that calls set, in their order. -/
def targets (calls : List Call) : List State :=
  calls.filterMap Call.target?

/-! ### Closed form -/

/-- The source that calls come to. The wildcard absorbs every list. -/
def sourceOf (calls : List Call) : Option Source :=
  if .fromAny ∈ calls then some .any
  else if GivesSource calls then some (.states (State.distinct (mentions calls)))
  else none

theorem gathered_concat (name : String) (calls : List Call) (call : Call) :
    gathered name (calls ++ [call]) = call.apply (gathered name calls) := by
  rw [gathered, List.foldl_append]
  rfl

theorem mentions_concat (calls : List Call) (call : Call) :
    mentions (calls ++ [call]) = mentions calls ++ call.mentioned := by
  rw [mentions, List.flatMap_append, List.flatMap_singleton, mentions]

theorem givesSource_concat :
    GivesSource (calls ++ [call]) ↔ GivesSource calls ∨ call.givesSource = true := by
  simp [GivesSource, or_and_right, exists_or]

/-- Only calls that say where the transition starts mention source states. -/
theorem mentions_eq_nil (h : ¬ GivesSource calls) : mentions calls = [] := by
  rw [mentions, List.flatMap_eq_nil_iff]
  intro call hcall
  cases call with
  | addSource state => exact absurd ⟨_, hcall, rfl⟩ h
  | addSources states => exact absurd ⟨_, hcall, rfl⟩ h
  | fromAny => rfl
  | leadTo state => rfl

/-- A source to which source states are added: the wildcard stays, and a list grows. -/
def extended : Option Source → List State → Source
  | some .any, _ => .any
  | some (.states listed), added => .states (State.addAll listed added)
  | none, added => .states (State.distinct added)

theorem addSources_eq (draft : Draft) (states : List State) :
    draft.addSources states = { draft with source := some (extended draft.source states) } := by
  obtain ⟨name, source, target⟩ := draft
  rcases source with _ | _ | listed
  · rfl
  · rfl
  · rfl

/-- One more call that adds source states. -/
theorem sourceOf_concat (calls : List Call) (call : Call) (hcall : call ≠ .fromAny)
    (hgives : call.givesSource = true) :
    sourceOf (calls ++ [call]) = some (extended (sourceOf calls) call.mentioned) := by
  have hany : .fromAny ∈ calls ++ [call] ↔ .fromAny ∈ calls := by
    simp [hcall.symm]
  have hsome : GivesSource (calls ++ [call]) := givesSource_concat.2 (.inr hgives)
  -- what the source was before decides whether it stays, grows or begins
  rw [sourceOf, if_congr hany rfl rfl, if_pos hsome, mentions_concat, sourceOf]
  by_cases hwildcard : .fromAny ∈ calls
  · rw [if_pos hwildcard, if_pos hwildcard, extended]
  · rw [if_neg hwildcard, if_neg hwildcard]
    by_cases hstates : GivesSource calls
    · rw [if_pos hstates, extended, State.distinct_append]
    · -- nothing was mentioned so far
      rw [if_neg hstates, extended, mentions_eq_nil hstates, List.nil_append]

theorem sourceOf_concat_fromAny (calls : List Call) :
    sourceOf (calls ++ [.fromAny]) = some .any :=
  if_pos (List.mem_append_right _ List.mem_cons_self)

theorem sourceOf_concat_leadTo (calls : List Call) (state : State) :
    sourceOf (calls ++ [.leadTo state]) = sourceOf calls := by
  have hany : .fromAny ∈ calls ++ [.leadTo state] ↔ .fromAny ∈ calls := by
    simp
  have hgives : GivesSource (calls ++ [.leadTo state]) ↔ GivesSource calls := by
    simp [givesSource_concat, Call.givesSource]
  have hmentions : mentions (calls ++ [.leadTo state]) = mentions calls := by
    simp [mentions_concat, Call.mentioned]
  rw [sourceOf, if_congr hany rfl rfl, if_congr hgives rfl rfl, hmentions, sourceOf]

theorem targets_concat (calls : List Call) (call : Call) :
    targets (calls ++ [call]) = targets calls ++ call.target?.toList := by
  rw [targets, List.filterMap_append, targets]
  cases call <;> rfl

/-- A draft is made of what its calls say of the source, and of the last target. -/
theorem gathered_eq (name : String) (calls : List Call) :
    gathered name calls =
      { name, source := sourceOf calls, target := (targets calls).getLast? } := by
  -- the draft grows at the end of the calls, so that the induction looks at the last one
  induction calls using List.reverseRecOn with
  | nil => rfl
  | append_singleton calls call ih =>
    rw [gathered_concat, ih, targets_concat]
    cases call with
    | addSource state =>
      rw [sourceOf_concat calls (.addSource state) nofun rfl, Call.apply, addSource, addSources_eq]
      simp [Call.target?, Call.mentioned]
    | addSources states =>
      rw [sourceOf_concat calls (.addSources states) nofun rfl, Call.apply, addSources_eq]
      simp [Call.target?, Call.mentioned]
    | fromAny =>
      rw [sourceOf_concat_fromAny, Call.apply, Draft.fromAny]
      simp [Call.target?]
    | leadTo state =>
      rw [sourceOf_concat_leadTo, Call.apply, Draft.leadTo]
      simp [Call.target?]

/-! ### Parts and interleaving -/

theorem source_gathered_eq_any_iff :
    (gathered name calls).source = some .any ↔ .fromAny ∈ calls := by
  rw [gathered_eq, sourceOf]
  split
  · next hany => simp [hany]
  · next hany =>
    split
    · simp [hany]
    · simp [hany]

theorem source_gathered_eq_states_iff :
    (gathered name calls).source = some (.states states) ↔
      .fromAny ∉ calls ∧ GivesSource calls ∧ State.FirstMentions states (mentions calls) := by
  rw [gathered_eq, sourceOf, State.firstMentions_iff]
  split
  · next hany => simp [hany]
  · next hany =>
    split
    · next hgives => simp [hany, hgives, eq_comm]
    · next hgives => simp [hgives]

theorem sourceOf_eq_none_iff : sourceOf calls = none ↔ ¬ GivesSource calls := by
  rw [sourceOf]
  split
  · next hany =>
    have hgives : GivesSource calls := ⟨_, hany, rfl⟩
    simp [hgives]
  · split
    · next hgives => simp [hgives]
    · next hgives => simp [hgives]

theorem build_eq_missingSource_iff {draft : Draft} :
    draft.build = .error (.missingSource draft.name) ↔ draft.source = none := by
  obtain ⟨name, _ | source, _ | target⟩ := draft <;> simp [build, finish]

theorem build_eq_missingTarget_iff {draft : Draft} :
    draft.build = .error (.missingTarget draft.name) ↔
      draft.source ≠ none ∧ draft.target = none := by
  obtain ⟨name, _ | source, _ | target⟩ := draft <;> simp [build, finish]

theorem build_eq_ok_iff {draft : Draft} {transition : Transition} :
    draft.build = .ok transition ↔ transition.name = draft.name ∧
      draft.source = some transition.source ∧ draft.target = some transition.target := by
  obtain ⟨name, source, target⟩ := transition
  obtain ⟨name, _ | source, _ | target⟩ := draft <;> simp [build, finish, eq_comm]

theorem exists_build_iff {draft : Draft} :
    (∃ transition, draft.build = .ok transition) ↔
      draft.source ≠ none ∧ draft.target ≠ none := by
  obtain ⟨name, _ | source, _ | target⟩ := draft <;> simp [build, finish]

/-- When a draft is a transition, and of which parts, in terms of the calls that made it. -/
structure Accumulates (name : String) (calls : List Call) (draft : Draft) : Prop where
  /-- The wildcard absorbs every list, wherever it stands among the calls. -/
  source_any_iff : draft.source = some .any ↔ .fromAny ∈ calls
  /-- Without it, the source states of all calls are listed, in the order of first mention. -/
  source_states_iff : ∀ states, draft.source = some (.states states) ↔
    .fromAny ∉ calls ∧ GivesSource calls ∧ State.FirstMentions states (mentions calls)
  target_eq : draft.target = (targets calls).getLast?
  missingSource_iff : draft.build = .error (.missingSource name) ↔ ¬ GivesSource calls
  /-- A missing source is reported before a missing target. -/
  missingTarget_iff : draft.build = .error (.missingTarget name) ↔
    GivesSource calls ∧ targets calls = []
  exists_build_iff : (∃ transition, draft.build = .ok transition) ↔
    GivesSource calls ∧ targets calls ≠ []
  build_iff : ∀ transition, draft.build = .ok transition ↔ transition.name = name ∧
    draft.source = some transition.source ∧ draft.target = some transition.target

/-- A draft depends on four things only: whether a call gave the wildcard, whether a call gave any
source, the source states in their order, and the targets in theirs. -/
theorem gathered_congr (hany : .fromAny ∈ other ↔ .fromAny ∈ calls)
    (hgives : GivesSource other ↔ GivesSource calls) (hmentions : mentions other = mentions calls)
    (htargets : targets other = targets calls) : gathered name other = gathered name calls := by
  have hsource : sourceOf other = sourceOf calls := by
    rw [sourceOf, if_congr hany rfl rfl, if_congr hgives rfl rfl, hmentions, sourceOf]
  rw [gathered_eq, gathered_eq, hsource, htargets]

/-- A draft accumulates what its calls say: a set of source states that the wildcard absorbs, and a
target that the next one replaces. So calls may be interleaved in any way that keeps the source
states in their order, and the targets in theirs. -/
theorem accumulates_gathered (name : String) (calls : List Call) :
    Accumulates name calls (gathered name calls) ∧
      ∀ other : List Call, other.Perm calls → mentions other = mentions calls →
        targets other = targets calls → gathered name other = gathered name calls := by
  have hname : (gathered name calls).name = name := by
    rw [gathered_eq]
  have hmissing : (gathered name calls).source = none ↔ ¬ GivesSource calls := by
    rw [gathered_eq, sourceOf_eq_none_iff]
  have hgiven : (gathered name calls).source ≠ none ↔ GivesSource calls := by
    rw [Ne, hmissing, Classical.not_not]
  have htarget : (gathered name calls).target = none ↔ targets calls = [] := by
    rw [gathered_eq, List.getLast?_eq_none_iff]
  constructor
  · exact
      { source_any_iff := source_gathered_eq_any_iff
        source_states_iff := fun states => source_gathered_eq_states_iff
        target_eq := by rw [gathered_eq]
        missingSource_iff := by
          rw [← hmissing, ← build_eq_missingSource_iff, hname]
        missingTarget_iff := by
          rw [← hgiven, ← htarget, ← build_eq_missingTarget_iff, hname]
        exists_build_iff := by
          rw [exists_build_iff, hgiven, Ne, htarget]
        build_iff := by
          intro transition
          rw [build_eq_ok_iff, hname] }
  · intro other hperm hmentions htargets
    refine gathered_congr hperm.mem_iff ?_ hmentions htargets
    -- whether a source was given depends on which calls there are, and not on their order
    rw [GivesSource, GivesSource]
    simp only [hperm.mem_iff]

/-- Targets may be set before the source states and between them, as long as the last one stays the
last. -/
theorem accumulates_gathered_delivery :
    let calls : List Call := [.addSource ⟨"pending"⟩, .addSources [⟨"confirmed"⟩, ⟨"pending"⟩],
      .leadTo ⟨"lost"⟩, .leadTo ⟨"cancelled"⟩]
    let other : List Call := [.leadTo ⟨"lost"⟩, .addSource ⟨"pending"⟩, .leadTo ⟨"cancelled"⟩,
      .addSources [⟨"confirmed"⟩, ⟨"pending"⟩]]
    other.Perm calls ∧ mentions other = mentions calls ∧ targets other = targets calls ∧
      (gathered "cancel" other).build = .ok
        { name := "cancel"
          source := .states [⟨"pending"⟩, ⟨"confirmed"⟩]
          target := ⟨"cancelled"⟩ } := by
  intro calls other
  have hperm : other.Perm calls := by decide
  have hmentions : mentions other = mentions calls := rfl
  have htargets : targets other = targets calls := rfl
  refine ⟨hperm, hmentions, htargets, ?_⟩
  rw [(accumulates_gathered "cancel" calls).2 other hperm hmentions htargets]
  rfl

/-- The wildcard absorbs what comes before it and after it, and an empty list is a source. -/
example :
    (gathered "cancel" [.addSource ⟨"pending"⟩, .fromAny, .addSource ⟨"confirmed"⟩]).source =
        some .any ∧
      (gathered "cancel" [.addSources []]).build = .error (.missingTarget "cancel") ∧
      (gathered "cancel" [.leadTo ⟨"cancelled"⟩]).build = .error (.missingSource "cancel") := by
  decide

end Draft

end Transition

end Lifecycle
