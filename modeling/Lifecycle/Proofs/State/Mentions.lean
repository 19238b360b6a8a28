import Lifecycle.State
import Mathlib.Data.List.Basic
import Mathlib.Data.List.Induction

/-!
# The order of first mention

`State.distinct` keeps the states of a list in the order in which they are first mentioned. The
members of a list and this order determine the result, so that two facts are all that is needed
about it: which order it is, and that mentioning a state once more makes no difference.

- `State.pairwise_distinct`: states come in the order of their first positions in the list, and
  `State.firstMentions_iff` says that no other list has the same states in this order;
- `State.Repeats.distinct_eq`: a further occurrence of a state changes nothing.
-/

namespace Lifecycle

namespace State

variable {state : State} {states listed repeated other : List State}

theorem distinct_append (states other : List State) :
    distinct (states ++ other) = addAll (distinct states) other :=
  addAll_append [] states other

/-! ### First positions -/

/-- The distinct states of a list come in the order of their first positions in it. -/
theorem pairwise_distinct (states : List State) :
    (distinct states).Pairwise fun earlier later =>
      states.idxOf earlier < states.idxOf later := by
  induction states using List.reverseRecOn with
  | nil => exact .nil
  | append_singleton states state ih =>
    -- a state that was mentioned before keeps its first position
    have hkept (other : State) (hother : other ∈ distinct states) :
        (states ++ [state]).idxOf other = states.idxOf other :=
      List.idxOf_append_of_mem (mem_distinct.1 hother)
    have hordered : (distinct states).Pairwise fun earlier later =>
        (states ++ [state]).idxOf earlier < (states ++ [state]).idxOf later := by
      refine ih.imp_of_mem ?_
      intro earlier later hearlier hlater hlt
      rwa [hkept earlier hearlier, hkept later hlater]
    rw [distinct_append, addAll_cons, addAll_nil, add]
    split
    · exact hordered
    · next hfresh =>
      refine List.pairwise_append.2 ⟨hordered, List.pairwise_singleton .., ?_⟩
      intro earlier hearlier later hlater
      obtain rfl := List.mem_singleton.1 hlater
      rw [mem_distinct] at hfresh hearlier
      rw [List.idxOf_append_of_mem hearlier, List.idxOf_append_of_notMem hfresh]
      exact Nat.lt_add_right _ (List.idxOf_lt_length_iff.2 hearlier)

/-- A list has the states that are mentioned, each of them once and in the order of first mention. -/
structure FirstMentions (listed mentions : List State) : Prop where
  nodup : listed.Nodup
  mem_iff : ∀ state, state ∈ listed ↔ state ∈ mentions
  ordered : listed.Pairwise fun earlier later => mentions.idxOf earlier < mentions.idxOf later

theorem firstMentions_distinct (mentions : List State) :
    FirstMentions (distinct mentions) mentions where
  nodup := nodup_distinct mentions
  mem_iff _ := mem_distinct
  ordered := pairwise_distinct mentions

/-- There is one such list only. -/
theorem firstMentions_iff {mentions : List State} :
    FirstMentions listed mentions ↔ listed = distinct mentions := by
  constructor
  · intro h
    have hperm : listed.Perm (distinct mentions) :=
      (List.perm_ext_iff_of_nodup h.nodup (nodup_distinct mentions)).2 fun state =>
        (h.mem_iff state).trans mem_distinct.symm
    -- no state comes both before and after another one
    refine hperm.eq_of_pairwise ?_ h.ordered (pairwise_distinct mentions)
    intro earlier later _ _ hbefore hafter
    exact absurd hafter (Nat.lt_asymm hbefore)
  · rintro rfl
    exact firstMentions_distinct mentions

/-! ### Repeats -/

/-- One list has a further occurrence of a state that the other one lists already. -/
inductive Repeats : List State → List State → Prop where
  | intro {earlier later : List State} {state : State} (hstate : state ∈ earlier) :
      Repeats (earlier ++ later) (earlier ++ state :: later)

namespace Repeats

theorem append_right (h : Repeats listed repeated) (other : List State) :
    Repeats (listed ++ other) (repeated ++ other) := by
  obtain ⟨hstate⟩ := h
  rw [List.append_assoc, List.append_assoc, List.cons_append]
  exact .intro hstate

theorem append_left (h : Repeats listed repeated) (other : List State) :
    Repeats (other ++ listed) (other ++ repeated) := by
  obtain ⟨hstate⟩ := h
  rw [← List.append_assoc, ← List.append_assoc]
  exact .intro (List.mem_append_right other hstate)

/-- A further occurrence of a state makes no difference to the distinct states. -/
theorem distinct_eq (h : Repeats listed repeated) : distinct repeated = distinct listed := by
  obtain ⟨hstate⟩ := h
  rw [distinct_append, distinct_append, addAll_cons, add, if_pos (mem_distinct.2 hstate)]

theorem length_eq (h : Repeats listed repeated) : repeated.length = listed.length + 1 := by
  obtain ⟨-⟩ := h
  rw [List.length_append, List.length_append, List.length_cons, Nat.add_assoc]

theorem ne_nil (h : Repeats listed repeated) : listed ≠ [] := by
  obtain ⟨hstate⟩ := h
  exact List.append_ne_nil_of_left_ne_nil (List.ne_nil_of_mem hstate) _

/-- The one entry of a list can only be repeated by itself. -/
theorem of_singleton (h : Repeats [state] repeated) : repeated = [state, state] := by
  generalize hlisted : [state] = listed at h
  obtain @⟨earlier, later, other, hother⟩ := h
  -- some entry is in front of the further occurrence, and there is only this one
  rcases earlier with _ | ⟨first, earlier⟩
  · exact absurd hother List.not_mem_nil
  · obtain ⟨rfl, hrest⟩ := List.cons.inj hlisted
    obtain ⟨rfl, rfl⟩ := List.append_eq_nil_iff.1 hrest.symm
    rw [List.mem_singleton.1 hother]
    rfl

end Repeats

end State

end Lifecycle
