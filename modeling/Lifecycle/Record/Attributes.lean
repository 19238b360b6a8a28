/-!
# Attributes

Free-form texts that a record carries under names. They are kept in the ascending order of the
names, code point by code point, and every name occurs once; writing an attribute replaces the
one of the same name.
-/

namespace Lifecycle

/-- Texts under names. -/
structure Attributes where
  /-- The names and their texts. -/
  entries : List (String × String)
  /-- The names ascend. -/
  sorted : entries.Pairwise fun earlier later => earlier.1 < later.1
deriving DecidableEq, Repr

namespace Attributes

/-- No attributes. -/
def empty : Attributes where
  entries := []
  sorted := .nil

/-- The text under a name. -/
def get? (attributes : Attributes) (name : String) : Option String :=
  (attributes.entries.find? fun entry => entry.1 == name).map Prod.snd

/-- Put an entry where its name belongs, in place of an entry of the same name. -/
def place (name text : String) : List (String × String) → List (String × String)
  | [] => [(name, text)]
  | entry :: entries =>
    if name < entry.1 then (name, text) :: entry :: entries
    else if name = entry.1 then (name, text) :: entries
    else entry :: place name text entries

/-- Placing an entry adds no other name than its own. -/
theorem mem_place {name text : String} {entries : List (String × String)}
    {entry : String × String} (h : entry ∈ place name text entries) :
    entry = (name, text) ∨ entry ∈ entries := by
  induction entries with
  | nil => simpa [place] using h
  | cons head tail ih =>
    simp only [place] at h
    split at h
    · simpa using h
    · split at h
      · rcases List.mem_cons.1 h with h | h
        · exact .inl h
        · exact .inr (List.mem_cons_of_mem _ h)
      · rcases List.mem_cons.1 h with h | h
        · exact .inr (h ▸ List.mem_cons_self)
        · exact (ih h).imp_right (List.mem_cons_of_mem _)

/-- Placing an entry keeps the names in ascending order. -/
theorem sorted_place {name text : String} {entries : List (String × String)}
    (h : entries.Pairwise fun earlier later => earlier.1 < later.1) :
    (place name text entries).Pairwise fun earlier later => earlier.1 < later.1 := by
  induction entries with
  | nil => simp [place]
  | cons head tail ih =>
    obtain ⟨first, rest⟩ := List.pairwise_cons.1 h
    simp only [place]
    split
    · next below =>
      refine List.pairwise_cons.2 ⟨fun entry member => ?_, h⟩
      rcases List.mem_cons.1 member with rfl | member
      · exact below
      · exact String.lt_trans below (first entry member)
    · split
      · next same =>
        exact List.pairwise_cons.2 ⟨fun entry member => same ▸ first entry member, rest⟩
      · next notBelow notSame =>
        refine List.pairwise_cons.2 ⟨fun entry member => ?_, ih rest⟩
        rcases mem_place member with rfl | member
        · exact Decidable.byContradiction fun notAbove =>
            notSame (String.le_antisymm (String.not_lt.1 notAbove) (String.not_lt.1 notBelow))
        · exact first entry member

/-- Write a text under a name. -/
def insert (attributes : Attributes) (name text : String) : Attributes where
  entries := place name text attributes.entries
  sorted := sorted_place attributes.sorted

/-- The attributes that several writes leave, one after the other. -/
def ofList (entries : List (String × String)) : Attributes :=
  entries.foldl (fun attributes entry => attributes.insert entry.1 entry.2) empty

end Attributes

end Lifecycle
