/-!
# States

A state is an opaque token: two states are the same when their names are equal, and no order
between states is implied. Lists of states keep the order in which the states were mentioned;
`State.addAll` is the one way in which such a list grows without repeating itself.
-/

namespace Lifecycle

/-- A state of a record, known by its name alone. -/
structure State where
  /-- The name, compared code point by code point. -/
  name : String
deriving DecidableEq, Repr, Inhabited

namespace State

/-- The names of some states, separated by a comma and a space. -/
def listing (states : List State) : String :=
  String.intercalate ", " (states.map State.name)

/-- Append a state unless it is listed already. -/
def add (states : List State) (state : State) : List State :=
  if state ∈ states then states else states ++ [state]

/-- Append every state of `added` that is not listed yet, in the order of first mention. -/
def addAll (states added : List State) : List State :=
  added.foldl add states

/-- The states of a list, each once, in the order of first mention. -/
def distinct (states : List State) : List State :=
  addAll [] states

@[simp]
theorem addAll_nil (states : List State) : addAll states [] = states := rfl

@[simp]
theorem addAll_cons (states : List State) (state : State) (added : List State) :
    addAll states (state :: added) = addAll (add states state) added := rfl

/-- Adding two lists one after the other is adding their concatenation. -/
theorem addAll_append (states left right : List State) :
    addAll states (left ++ right) = addAll (addAll states left) right := by
  simp [addAll]

/-- Adding one state lists it beside those that were there. -/
@[simp]
theorem mem_add {states : List State} {state other : State} :
    other ∈ add states state ↔ other ∈ states ∨ other = state := by
  unfold add
  split
  · next h => constructor
              · exact Or.inl
              · rintro (h' | rfl) <;> assumption
  · simp

/-- A state is listed afterwards when it was listed before or is one of those added. -/
@[simp]
theorem mem_addAll {states added : List State} {state : State} :
    state ∈ addAll states added ↔ state ∈ states ∨ state ∈ added := by
  induction added generalizing states with
  | nil => simp
  | cons head tail ih => simp [ih, or_assoc]

/-- The distinct states of a list are its members. -/
@[simp]
theorem mem_distinct {states : List State} {state : State} :
    state ∈ distinct states ↔ state ∈ states := by
  simp [distinct]

/-- Adding a state keeps a list free of repeats. -/
theorem nodup_add {states : List State} {state : State} (h : states.Nodup) :
    (add states state).Nodup := by
  unfold add
  split
  · exact h
  · next fresh =>
    rw [List.nodup_append]
    refine ⟨h, by simp, ?_⟩
    rintro listed member other single rfl
    exact fresh (List.mem_singleton.1 single ▸ member)

/-- Adding states keeps a list free of repeats. -/
theorem nodup_addAll {states added : List State} (h : states.Nodup) :
    (addAll states added).Nodup := by
  induction added generalizing states with
  | nil => exact h
  | cons head tail ih => exact ih (nodup_add h)

/-- The distinct states of a list are free of repeats. -/
theorem nodup_distinct (states : List State) : (distinct states).Nodup :=
  nodup_addAll .nil

end State

end Lifecycle
