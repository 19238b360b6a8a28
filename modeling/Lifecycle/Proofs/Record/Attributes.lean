import Lifecycle.Record.Attributes

/-!
# Writing attributes

What is read under a name is what was written there last, as `Attributes.get?_insert` says.

A name that is above all others is put at the end. Writing the entries of some attributes one after
the other, in their order, therefore gives these attributes again, which is how both formats of
records restore them.
-/

namespace Lifecycle

namespace Attributes

@[ext]
theorem ext {attributes other : Attributes} (h : attributes.entries = other.entries) :
    attributes = other := by
  cases attributes
  cases other
  congr

/-- An entry that was placed is found under its name, and what is found under any other name is as
before. -/
theorem find?_place (name text other : String) (entries : List (String × String)) :
    (place name text entries).find? (fun entry => entry.1 == other) =
      if other = name then some (name, text) else entries.find? fun entry => entry.1 == other := by
  induction entries with
  | nil =>
    by_cases hname : other = name
    · simp [place, hname]
    · simp [place, hname, Ne.symm hname]
  | cons entry entries ih =>
    rw [place]
    by_cases hname : other = name
    · subst hname
      split
      · simp
      · split
        · simp
        -- the entry in front has another name, so that the search goes on behind it
        · next hother => simp [ih, Ne.symm hother]
    · split
      · simp [Ne.symm hname]
      · split
        · next hentry => simp [Ne.symm hname, ← hentry]
        · simp only [List.find?_cons, ih, if_neg hname]

@[simp]
theorem get?_insert (attributes : Attributes) (name text other : String) :
    (attributes.insert name text).get? other =
      if other = name then some text else attributes.get? other := by
  rw [get?, insert, find?_place]
  split
  · rfl
  · rfl

/-- A name above all others is put at the end. -/
theorem place_of_lt {name text : String} {entries : List (String × String)}
    (h : ∀ entry ∈ entries, entry.1 < name) :
    place name text entries = entries ++ [(name, text)] := by
  induction entries with
  | nil => rfl
  | cons entry entries ih =>
    have hbelow := h entry List.mem_cons_self
    -- the name passes every entry that is there, and comes to stand behind them
    have hnotBelow : ¬ name < entry.1 := String.lt_asymm hbelow
    have hnotSame : name ≠ entry.1 := fun hsame => String.lt_irrefl _ (hsame ▸ hbelow)
    rw [place, if_neg hnotBelow, if_neg hnotSame,
      ih fun other hother => h other (List.mem_cons_of_mem _ hother), List.cons_append]

/-- Writing entries whose names go on ascending appends them. -/
theorem entries_foldl_insert {later : List (String × String)} {attributes : Attributes}
    (h : (attributes.entries ++ later).Pairwise fun earlier later => earlier.1 < later.1) :
    (later.foldl (fun attributes entry => attributes.insert entry.1 entry.2) attributes).entries =
      attributes.entries ++ later := by
  induction later generalizing attributes with
  | nil => simp
  | cons entry later ih =>
    have hplaced : (attributes.insert entry.1 entry.2).entries = attributes.entries ++ [entry] :=
      place_of_lt fun earlier hearlier =>
        (List.pairwise_append.1 h).2.2 earlier hearlier entry List.mem_cons_self
    have hsorted :
        (attributes.entries ++ [entry]) ++ later = attributes.entries ++ entry :: later := by
      rw [List.append_assoc, List.singleton_append]
    rw [List.foldl_cons, ih (by rwa [hplaced, hsorted]), hplaced, hsorted]

/-- Writing the entries of attributes gives the attributes. -/
theorem ofList_entries (attributes : Attributes) : ofList attributes.entries = attributes := by
  have hentries : (ofList attributes.entries).entries = empty.entries ++ attributes.entries :=
    entries_foldl_insert attributes.sorted
  exact ext hentries

end Attributes

end Lifecycle
