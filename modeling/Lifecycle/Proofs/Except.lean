/-!
# Results of readers

Readers return a result or the first fault, and go on with a result by `>>=`. These are the
equations by which the proofs about readers follow them. `Ensures` says what holds of a result, and
`CarriesOver` that a result is found in another computation too, each with one rule for each way to
go on.
-/

namespace Lifecycle

namespace Except

variable {ε α β : Type}

@[simp]
theorem ok_bind (value : α) (next : α → Except ε β) : (Except.ok value >>= next) = next value := rfl

@[simp]
theorem pure_eq_ok (value : α) : (pure value : Except ε α) = .ok value := rfl

@[simp]
theorem map_ok (change : α → β) (value : α) :
    (Except.ok value : Except ε α).map change = .ok (change value) := rfl

/-- A result that is reached in two steps was reached through a result of the first. -/
theorem exists_of_bind_eq_ok {result : Except ε α} {next : α → Except ε β} {value : β}
    (h : (result >>= next) = .ok value) : ∃ first, result = .ok first ∧ next first = .ok value := by
  cases result with
  | error fault => exact nomatch h
  | ok first => exact ⟨first, rfl, h⟩

theorem exists_of_map_eq_ok {result : Except ε α} {change : α → β} {value : β}
    (h : result.map change = .ok value) : ∃ first, result = .ok first ∧ change first = value := by
  cases result with
  | error fault => exact nomatch h
  | ok first => exact ⟨first, rfl, Except.ok.inj h⟩

/-! ### What holds of a result -/

/-- The result, if there is one, meets the condition. -/
def Ensures (result : Except ε α) (post : α → Prop) : Prop :=
  ∀ value, result = .ok value → post value

variable {result : Except ε α} {post : α → Prop} {after : β → Prop}

theorem ensures_error (fault : ε) : Ensures (.error fault) post :=
  fun _ h => nomatch h

theorem ensures_ok {value : α} (h : post value) : Ensures (.ok value : Except ε α) post := by
  rintro _ ⟨⟩
  exact h

theorem ensures_true (result : Except ε α) : Ensures result fun _ => True :=
  fun _ _ => trivial

/-- What holds of the result of a first step is known to the second one. -/
theorem Ensures.bind {next : α → Except ε β} (h : Ensures result post)
    (hnext : ∀ value, post value → Ensures (next value) after) :
    Ensures (result >>= next) after := by
  intro value hvalue
  obtain ⟨first, hfirst, hvalue⟩ := exists_of_bind_eq_ok hvalue
  exact hnext first (h first hfirst) value hvalue

theorem Ensures.map {change : α → β} (h : Ensures result post)
    (hchange : ∀ value, post value → after (change value)) :
    Ensures (result.map change) after := by
  intro value hvalue
  obtain ⟨first, hfirst, rfl⟩ := exists_of_map_eq_ok hvalue
  exact hchange first (h first hfirst)

theorem Ensures.mono {weaker : α → Prop} (h : Ensures result post)
    (himp : ∀ value, post value → weaker value) : Ensures result weaker :=
  fun value hvalue => himp value (h value hvalue)

/-! ### Results that are found again -/

/-- A result that is wanted comes about only where it is due, and is found, changed, in the other
computation. -/
def CarriesOver (due : Prop) (Wanted : α → Prop) (change : α → α') (result : Except ε α)
    (other : Except ε α') : Prop :=
  ∀ value, result = .ok value → Wanted value → due ∧ other = .ok (change value)

variable {α' β' : Type} {due : Prop} {Wanted : α → Prop} {WantedAfter : β → Prop}
  {change : α → α'} {changeAfter : β → β'} {other : Except ε α'}

theorem carriesOver_error (fault : ε) : CarriesOver due Wanted change (.error fault) other :=
  fun _ h => nomatch h

theorem carriesOver_ok {value : α} (h : Wanted value → due) :
    CarriesOver due Wanted change (.ok value : Except ε α) (.ok (change value)) := by
  rintro _ ⟨⟩ hwanted
  exact ⟨h hwanted, rfl⟩

/-- A step that is the same in both computations passes on what is due. -/
theorem carriesOver_self (due : Prop) (result : Except ε α) :
    CarriesOver due (fun _ => due) id result result :=
  fun _ hvalue hdue => ⟨hdue, hvalue⟩

/-- What makes the second step due is what the first step is wanted for. -/
theorem CarriesOver.bind {next : α → Except ε β} {next' : α' → Except ε β'}
    (h : CarriesOver due Wanted change result other)
    (hnext : ∀ value, CarriesOver (Wanted value) WantedAfter changeAfter (next value)
      (next' (change value))) :
    CarriesOver due WantedAfter changeAfter (result >>= next) (other >>= next') := by
  intro last hlast hwanted
  obtain ⟨first, hfirst, hlast⟩ := exists_of_bind_eq_ok hlast
  obtain ⟨hdue, hnextOther⟩ := hnext first last hlast hwanted
  obtain ⟨hbefore, hother⟩ := h first hfirst hdue
  refine ⟨hbefore, ?_⟩
  rw [hother, ok_bind, hnextOther]

theorem CarriesOver.map {after : α → β} {after' : α' → β'}
    (h : CarriesOver due Wanted change result other)
    (hwanted : ∀ value, WantedAfter (after value) → Wanted value)
    (hchange : ∀ value, changeAfter (after value) = after' (change value)) :
    CarriesOver due WantedAfter changeAfter (result.map after) (other.map after') := by
  intro last hlast hlastWanted
  obtain ⟨first, hfirst, rfl⟩ := exists_of_map_eq_ok hlast
  obtain ⟨hbefore, hother⟩ := h first hfirst (hwanted first hlastWanted)
  refine ⟨hbefore, ?_⟩
  rw [hother, map_ok, hchange]

/-- What is due anyway needs no result. -/
theorem CarriesOver.since {sooner : Prop} (h : CarriesOver due Wanted change result other)
    (hsooner : sooner) : CarriesOver sooner Wanted change result other :=
  fun value hvalue hwanted => ⟨hsooner, (h value hvalue hwanted).2⟩

/-- What was read, with more left behind it. -/
def followedBy (more : List τ) (found : α × List τ) : α × List τ :=
  (found.1, found.2 ++ more)

end Except

end Lifecycle
