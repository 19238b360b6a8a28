import Lifecycle.Machine.Diagram
import Lifecycle.Proofs.Text.Decimal

/-!
# Lines of diagrams

A diagram has a heading, and below it indented lines. Names of states and transitions go into these
lines as identifiers and as labels, neither of which has a line end. So the lines that were written
are the lines that are read: `Diagram.body_document`.
-/

namespace Lifecycle

namespace Diagram

variable {c d : Char} {state : State} {text heading : String} {texts : List String}

/-! ### Identifiers and labels -/

/-- The characters of identifiers: ASCII letters and digits, and the underscore. -/
def isIdentifier (c : Char) : Bool :=
  c.isAlphanum || c == '_'

theorem isIdentifier_of_mem_nodeId (h : c ∈ (nodeId state).toList) : isIdentifier c = true := by
  rw [nodeId, String.toList_ofList, List.mem_map] at h
  obtain ⟨d, -, rfl⟩ := h
  split
  · next hkept => rw [isIdentifier, hkept, Bool.true_or]
  · rfl

/-- A character of a label belongs to an entity or is a space, unless it means nothing to the drawing
program and is no control character. -/
theorem mem_escapeChar (h : d ∈ escapeChar c) :
    d.isDigit = true ∨ d ∈ ['#', ';', ' '] ∨ d ∉ reserved ∧ isControl d = false := by
  rw [escapeChar] at h
  split at h
  · -- the entity has a code between its marks
    rw [entity, List.cons_append, List.mem_cons, List.mem_append] at h
    rcases h with rfl | hcode | hend
    · exact .inr (.inl (by decide))
    · left
      rw [Nat.toString_eq_repr, Nat.toList_repr] at hcode
      exact Text.isDecimal_toDigits c.toNat d hcode
    · rw [List.mem_singleton] at hend
      exact .inr (.inl (by simp [hend]))
  · next hfree =>
    split at h
    · rw [List.mem_singleton] at h
      exact .inr (.inl (by simp [h]))
    · next hvisible =>
      obtain rfl := List.mem_singleton.1 h
      exact .inr (.inr ⟨by simpa using hfree, by simpa using hvisible⟩)

theorem mem_escapeLabel (h : d ∈ (escapeLabel text).toList) :
    d.isDigit = true ∨ d ∈ ['#', ';', ' '] ∨ d ∉ reserved ∧ isControl d = false := by
  rw [escapeLabel, String.toList_ofList, List.mem_flatMap] at h
  obtain ⟨c, -, hc⟩ := h
  exact mem_escapeChar hc

/-- A text that stays within its line. -/
def IsInline (text : String) : Prop :=
  '\n' ∉ text.toList

instance (text : String) : Decidable (IsInline text) := by
  unfold IsInline
  infer_instance

theorem IsInline.append {left right : String} (hleft : IsInline left) (hright : IsInline right) :
    IsInline (left ++ right) := by
  rw [IsInline, String.toList_append, List.mem_append, not_or]
  exact ⟨hleft, hright⟩

theorem isInline_nodeId (state : State) : IsInline (nodeId state) :=
  fun hmem => absurd (isIdentifier_of_mem_nodeId hmem) (by decide)

theorem isInline_escapeLabel (text : String) : IsInline (escapeLabel text) :=
  fun hmem => absurd (mem_escapeLabel hmem) (by decide)

/-! ### Lines -/

/-- The lines of a text, without their ends. What comes behind the last end is not a line. -/
def lines (text : String) : List (List Char) :=
  (text.toList.splitOn '\n').dropLast

/-- What a diagram has below its heading, without the indentation. -/
def body (text : String) : List (List Char) :=
  (lines text).tail.map (List.drop 4)

theorem lines_append (rest : String) (h : IsInline text) :
    lines (text ++ "\n" ++ rest) = text.toList :: lines rest := by
  have hinline : ∀ c ∈ text.toList, (c == '\n') = false := by
    intro c hc
    have hne : c ≠ '\n' := fun hend => h (hend ▸ hc)
    rw [beq_eq_false_iff_ne]
    exact hne
  have hsplit : (text ++ "\n" ++ rest).toList.splitOn '\n' =
      text.toList :: rest.toList.splitOn '\n' := by
    rw [String.append_assoc, String.toList_append, String.toList_append]
    exact List.splitOnP_append_cons_of_forall_mem hinline '\n' rfl _
  rw [lines, hsplit, List.dropLast_cons_of_ne_nil (List.splitOn_ne_nil _ _), lines]

theorem lines_join (htexts : ∀ text ∈ texts, IsInline text) :
    lines (String.join (texts.map line)) = texts.map fun text => ("    " ++ text).toList := by
  induction texts with
  | nil => rfl
  | cons text texts ih =>
    have hindented : IsInline ("    " ++ text) :=
      IsInline.append (by decide) (htexts text List.mem_cons_self)
    rw [List.map_cons, String.join_cons, line, lines_append _ hindented,
      ih fun other hother => htexts other (List.mem_cons_of_mem _ hother), List.map_cons]

/-- The lines below a heading are read again. -/
theorem body_document (hheading : IsInline heading) (htexts : ∀ text ∈ texts, IsInline text) :
    body (document heading texts) = texts.map String.toList := by
  rw [body, document, lines_append _ hheading, List.tail_cons, lines_join htexts, List.map_map]
  refine List.map_congr_left fun text _ => ?_
  rw [Function.comp_apply, String.toList_append]
  rfl

section Kinds

variable {α β : Type} {first : α → String} {second : β → String}

/-- Lines of two kinds, one behind the other. -/
theorem isInline_kinds (hfirst : ∀ entry, IsInline (first entry))
    (hsecond : ∀ entry, IsInline (second entry)) (entries : List α) (others : List β) :
    ∀ text ∈ entries.map first ++ others.map second, IsInline text := by
  intro text htext
  rcases List.mem_append.1 htext with hmem | hmem
  · obtain ⟨entry, -, rfl⟩ := List.mem_map.1 hmem
    exact hfirst entry
  · obtain ⟨entry, -, rfl⟩ := List.mem_map.1 hmem
    exact hsecond entry

/-- The lines below a heading are of two kinds, one behind the other. -/
theorem body_kinds (hheading : IsInline heading) (hfirst : ∀ entry, IsInline (first entry))
    (hsecond : ∀ entry, IsInline (second entry)) (entries : List α) (others : List β) :
    body (document heading (entries.map first ++ others.map second)) =
      (entries.map first).map String.toList ++ (others.map second).map String.toList := by
  rw [← List.map_append]
  exact body_document hheading (isInline_kinds hfirst hsecond entries others)

end Kinds

end Diagram

end Lifecycle
