import Lifecycle.Json.Skip
import Lifecycle.Proofs.Except
import Lifecycle.Proofs.Text.Encoding
import Mathlib.Algebra.Group.Nat.Defs

/-!
# What readers leave of a document

Readers take text from the front of a document. When the bytes of a document can be counted in a
word, so can those of what is left, after every token and after every value that is passed over. A
string takes no more bytes than were written for it, however its characters are spelled.
-/

namespace Lifecycle

namespace Json

open Lifecycle.Except (Ensures ensures_error ensures_ok)
open Text (skipInsignificant)
open Text.Utf8 (size size_cons size_le_of_suffix length_encodeChar_pos length_encodeChar_le)

/-- The bytes of the document can be counted in a word. -/
def Counted (document : List Char) : Prop :=
  size document < 2 ^ 64

variable {document rest : List Char} {c : Char}

theorem Counted.of_suffix (h : Counted document) (hrest : rest <:+ document) : Counted rest :=
  Nat.lt_of_le_of_lt (size_le_of_suffix hrest) h

theorem Counted.tail (h : Counted (c :: rest)) : Counted rest :=
  h.of_suffix (List.suffix_cons c rest)

theorem Counted.skipInsignificant (h : Counted document) : Counted (skipInsignificant document) :=
  h.of_suffix (List.dropWhile_suffix _)

/-- Behind the first character of a token, a counted document is still counted. -/
theorem Counted.behind (h : Counted document) (hskip : Text.skipInsignificant document = c :: rest) :
    Counted rest := by
  have := h.skipInsignificant
  rw [hskip] at this
  exact this.tail

/-! ### Words and marks -/

theorem counted_readWord (due : List Char) (h : Counted document) :
    Ensures (readWord due document) Counted := by
  fun_induction readWord due document with
  | case1 document => exact ensures_ok h
  | case2 => exact ensures_error _
  | case3 c due document ih => exact ih h.tail
  | case4 => exact ensures_error _

theorem counted_readColon (h : Counted document) : Ensures (readColon document) Counted := by
  unfold readColon
  split
  · exact ensures_error _
  · next hskip =>
    split
    · exact ensures_ok (h.behind hskip)
    · exact ensures_error _

/-! ### Strings -/

/-- The bytes that were read of a character whose spelling is not yet complete. -/
def Phase.taken : Phase → Nat
  | plain => 0
  | escape => 1
  | code none count _ => 2 + count
  | pairBackslash _ => 6
  | pairLetter _ => 7
  | code (some _) count _ => 8 + count

/-- The characters that were read, and what follows them, take no more bytes than there were. -/
def Phase.Spares (phase : Phase) (document : List Char)
    (reading : Except Error (List Char × List Char)) : Prop :=
  Ensures reading fun found => size found.1 + size found.2 ≤ phase.taken + size document

variable {phase next : Phase} {meant : Char} {reading : Except Error (List Char × List Char)}

/-- One more character belongs to the spelling. -/
theorem Phase.Spares.goOn (h : next.Spares rest reading) (hnext : next.taken ≤ phase.taken + 1) :
    phase.Spares (c :: rest) reading := by
  have hpos := length_encodeChar_pos c
  refine h.mono fun found hfound => ?_
  rw [size_cons]
  omega

/-- One more character completes the spelling of the one that is meant. -/
theorem Phase.Spares.prepend (h : Phase.plain.Spares rest reading)
    (hmeant : (Text.Utf8.encodeChar meant).length ≤
      phase.taken + (Text.Utf8.encodeChar c).length) :
    phase.Spares (c :: rest) (Json.prepend meant reading) := by
  refine h.map fun found hfound => ?_
  dsimp only
  simp only [taken] at hfound
  rw [size_cons, size_cons]
  omega

theorem length_escaped? {letter meant : Char} (h : escaped? letter = some meant) :
    (Text.Utf8.encodeChar meant).length ≤ 1 := by
  unfold escaped? at h
  split_ifs at h with hitself
  · rcases hitself with rfl | rfl | rfl <;> cases h <;> decide
  all_goals
    cases h
    decide

/-- The characters of a string take no more bytes than were written for them. -/
theorem spares_readCharacters (phase : Phase) (document : List Char) :
    phase.Spares document (readCharacters phase document) := by
  have hpos := length_encodeChar_pos
  have hshort := length_encodeChar_le
  fun_induction readCharacters phase document <;> try exact ensures_error _
  case case2 rest =>
    refine ensures_ok ?_
    simp only [Text.Utf8.size_nil, size_cons]
    omega
  case case3 ih => exact ih.goOn (by decide)
  case case5 c rest _ _ _ ih => exact ih.prepend (Nat.le_add_left _ _)
  case case6 ih => exact ih.goOn (by decide)
  case case7 c rest _ meant hmeant ih =>
    have hletter := length_escaped? hmeant
    exact ih.prepend (Nat.le_add_right_of_le hletter)
  case case10 high count value c rest digit hdigit value hcount ih =>
    refine ih.goOn ?_
    cases high <;> exact Nat.le_refl _
  -- a code takes six bytes, and a pair of them twelve, and no character needs more than four
  case case12 hcount hlow hhigh ih =>
    refine ih.goOn ?_
    simp only [Phase.taken]
    omega
  case case13 hcount hlow hhigh ih =>
    refine ih.prepend (Nat.le_trans (hshort _) ?_)
    simp only [Phase.taken]
    omega
  case case14 hcount high hlow ih =>
    refine ih.prepend (Nat.le_trans (hshort _) ?_)
    simp only [Phase.taken]
    omega
  case case16 high rest ih => exact ih.goOn (Nat.le_refl 7)
  case case18 high rest ih => exact ih.goOn (Nat.le_refl 8)

/-- The content of a counted string is counted, and so is what follows it. -/
theorem counted_readString (h : Counted document) :
    Ensures (readString document) fun found => Counted found.1.toList ∧ Counted found.2 := by
  refine (spares_readCharacters .plain document).map fun found hfound => ?_
  simp only [Phase.taken] at hfound
  simp only [Counted, String.toList_ofList] at h ⊢
  omega

theorem counted_skipCharacters (phase : Phase) (h : Counted document) :
    Ensures (skipCharacters phase document) Counted := by
  fun_induction skipCharacters phase document <;> try exact ensures_error _
  case case2 => exact ensures_ok h.tail
  all_goals
    next ih => exact ih h.tail

theorem counted_skipString (h : Counted document) : Ensures (skipString document) Counted :=
  counted_skipCharacters .plain h

/-! ### Numbers -/

namespace Literal

theorem counted_someDigits (h : Counted document) :
    Ensures (someDigits document) fun found => Counted found.2 := by
  unfold someDigits
  split
  · exact ensures_error _
  · split
    · exact ensures_ok (h.of_suffix (List.dropWhile_suffix _))
    · exact ensures_error _

theorem counted_readWhole (h : Counted document) :
    Ensures (readWhole document) fun found => Counted found.2 := by
  unfold readWhole
  split
  · split
    · exact ensures_error _
    · exact ensures_ok h.tail
  · exact counted_someDigits h

theorem counted_readFraction (h : Counted document) :
    Ensures (readFraction document) fun found => Counted found.2 := by
  unfold readFraction
  split
  · exact (counted_someDigits h.tail).map fun _ hrest => hrest
  · exact ensures_ok h

theorem counted_readExponent (h : Counted document) :
    Ensures (readExponent document) fun found => Counted found.2 := by
  unfold readExponent
  split
  · next letter rest =>
    split
    · -- a sign, or the first digit
      split
      · exact (counted_someDigits h.tail.tail).map fun _ hrest => hrest
      · exact (counted_someDigits h.tail.tail).map fun _ hrest => hrest
      · exact (counted_someDigits h.tail).map fun _ hrest => hrest
    · exact ensures_ok h
  · exact ensures_ok h

theorem counted_read (negative : Bool) (h : Counted document) :
    Ensures (read negative document) fun found => Counted found.2 := by
  refine (counted_readWhole h).bind fun whole hwhole => ?_
  refine (counted_readFraction hwhole).bind fun fraction hfraction => ?_
  refine (counted_readExponent hfraction).bind fun exponent hexponent => ?_
  exact ensures_ok hexponent

end Literal

theorem counted_readNumeral (h : Counted document) :
    Ensures (readNumeral document) fun found => Counted found.2 := by
  have hvalue (literal : Literal) {rest : List Char} (hrest : Counted rest) :
      Ensures (do return (← literal.value, rest)) fun found => Counted found.2 := by
    intro found hfound
    obtain ⟨value, -, hfound⟩ := Except.exists_of_bind_eq_ok hfound
    cases hfound
    exact hrest
  unfold readNumeral
  dsimp only
  split
  · exact (Literal.counted_read true h.tail).bind fun found hrest => hvalue found.1 hrest
  · exact (Literal.counted_read false h).bind fun found hrest => hvalue found.1 hrest

theorem counted_skipNumeral (h : Counted document) : Ensures (skipNumeral document) Counted := by
  unfold skipNumeral
  dsimp only
  split
  · next literal rest hread =>
    refine ensures_ok ?_
    split at hread
    · exact Literal.counted_read true h.tail _ hread
    · exact Literal.counted_read false h _ hread
  · exact ensures_error _

/-! ### Values that are passed over -/

namespace Skip

theorem counted_afterValue (stack : List Bracket) (h : Counted document) :
    Ensures (afterValue stack document) fun found => Counted found.2 := by
  induction stack generalizing document with
  | nil => exact ensures_ok h
  | cons bracket stack ih =>
    unfold afterValue
    split
    · exact ensures_error _
    · next c rest hskip =>
      split
      · exact ensures_ok (h.behind hskip)
      · split
        · exact ih (h.behind hskip)
        · exact ensures_error _

theorem counted_afterOpening (bracket : Bracket) (stack : List Bracket) (h : Counted document) :
    Ensures (afterOpening bracket stack document) fun found => Counted found.2 := by
  unfold afterOpening
  split
  · exact ensures_error _
  · next c rest hskip =>
    split
    · exact counted_afterValue stack (h.behind hskip)
    · exact ensures_ok (hskip ▸ h.skipInsignificant)

theorem counted_beforeItem (stack : List Bracket) (h : Counted document) :
    Ensures (beforeItem stack document) Counted := by
  unfold beforeItem
  split
  · split
    · exact ensures_error _
    · next c rest hskip =>
      split
      · exact (counted_skipString (h.behind hskip)).bind fun _ hrest => counted_readColon hrest
      · exact ensures_error _
  · exact ensures_ok h

theorem counted_token (stack : List Bracket) (h : Counted document) :
    Ensures (token stack document) fun found => Counted found.2 := by
  have hafter {read : Except Error (List Char)} (hread : Ensures read Counted) :
      Ensures (read >>= afterValue stack) fun found => Counted found.2 :=
    hread.bind fun _ hrest => counted_afterValue stack hrest
  unfold token
  split
  · exact ensures_error _
  · next hskip => exact hafter (counted_readWord _ (h.behind hskip))
  · next hskip => exact hafter (counted_readWord _ (h.behind hskip))
  · next hskip => exact hafter (counted_readWord _ (h.behind hskip))
  · next hskip => exact hafter (counted_skipString (h.behind hskip))
  · next hskip => exact counted_afterOpening .list stack (h.behind hskip)
  · next hskip => exact counted_afterOpening .mapping stack (h.behind hskip)
  · next hskip =>
    split
    · exact hafter (counted_skipNumeral (hskip ▸ h.skipInsignificant))
    · exact ensures_error _

theorem counted_tokens (fuel : Nat) (stack : List Bracket) (h : Counted document) :
    Ensures (tokens fuel stack document) Counted := by
  induction fuel generalizing stack document with
  | zero => exact ensures_error _
  | succ fuel ih =>
    refine (counted_token stack h).bind fun found hfound => ?_
    dsimp only
    split
    · exact ensures_ok hfound
    · exact (counted_beforeItem found.1 hfound).bind fun _ hrest => ih found.1 hrest

theorem counted_value (h : Counted document) : Ensures (value document) Counted :=
  counted_tokens _ [] h

end Skip

end Json

end Lifecycle
