import Lifecycle.Json.Skip
import Lifecycle.Proofs.Except
import Mathlib.Data.List.Basic

/-!
# Where the tokens of a document end

A token is read alike in a longer document, as long as something follows it: words, colons and
strings have a mark at their end, and a number ends before the first character that cannot go on
with it. Only a number at the very end of a document may go on when the document does.

`PassesAlike` and `ReadsAlike` say so of what passes over text and of what reads it, told how much
must be left behind.
-/

namespace Lifecycle

namespace Json

open Lifecycle.Except (CarriesOver carriesOver_error carriesOver_ok followedBy)
open Text (skipInsignificant)

/-- A longer document is passed over alike if enough is left, for which the document must not be
empty. -/
def PassesAlike (Enough : List Char → Prop) (pass : List Char → Except Error (List Char)) : Prop :=
  ∀ document more,
    CarriesOver (document ≠ []) Enough (· ++ more) (pass document) (pass (document ++ more))

/-- A longer document is read alike if enough is left, for which the document must not be empty. -/
def ReadsAlike (Enough : List Char → Prop) (read : List Char → Except Error (α × List Char)) :
    Prop :=
  ∀ document more,
    CarriesOver (document ≠ []) (fun found => Enough found.2) (followedBy more) (read document)
      (read (document ++ more))

/-- Something is left. -/
def Left (rest : List Char) : Prop :=
  rest ≠ []

variable {Enough : List Char → Prop} {document rest : List Char} {c : Char}

/-- The next token of a document is that of a longer one. -/
theorem skip_append (hskip : skipInsignificant document = c :: rest) (more : List Char) :
    skipInsignificant (document ++ more) = c :: (rest ++ more) := by
  rw [skipInsignificant, List.dropWhile_append, ← skipInsignificant, hskip]
  rfl

theorem ne_nil_of_skip (hskip : skipInsignificant document = c :: rest) : document ≠ [] := by
  rintro rfl
  exact nomatch hskip

/-! ### Words and marks -/

theorem readWord_alike (due document more : List Char) :
    CarriesOver True Enough (· ++ more) (readWord due document)
      (readWord due (document ++ more)) := by
  fun_induction readWord due document with
  | case1 document =>
    rw [readWord]
    exact carriesOver_ok fun _ => trivial
  | case2 => exact carriesOver_error _
  | case3 c due document ih =>
    -- one character of the word is met, and what is due of it is the same in both
    rw [List.cons_append, readWord, if_pos rfl]
    exact ih
  | case4 => exact carriesOver_error _

theorem readColon_alike : PassesAlike Left readColon := by
  intro document more
  unfold readColon
  split
  · exact carriesOver_error _
  · next c rest hskip =>
    simp only [skip_append hskip more]
    split
    · exact carriesOver_ok fun _ => ne_nil_of_skip hskip
    · exact carriesOver_error _

/-! ### Strings -/

/-- A character before what is read alike changes nothing. -/
theorem prepend_alike {due : Prop} {more : List Char} (meant : Char)
    {reading longer : Except Error (List Char × List Char)}
    (h : CarriesOver due (fun found => Enough found.2) (followedBy more) reading longer) :
    CarriesOver due (fun found => Enough found.2) (followedBy more) (prepend meant reading)
      (prepend meant longer) :=
  h.map (fun _ henough => henough) fun _ => rfl

theorem readCharacters_alike (phase : Phase) : ReadsAlike Enough (readCharacters phase) := by
  intro document more
  induction document generalizing phase with
  | nil =>
    cases phase <;> exact carriesOver_error _
  | cons c rest ih =>
    -- both go on behind the same character, and so in the same phase
    have goOn (next : Phase) := (ih next).since (List.cons_ne_nil c rest)
    rw [List.cons_append]
    cases phase with
    | plain =>
      simp only [readCharacters]
      split_ifs
      · exact carriesOver_ok fun _ => List.cons_ne_nil c rest
      · exact goOn .escape
      · exact carriesOver_error _
      · exact prepend_alike c (goOn .plain)
    | escape =>
      simp only [readCharacters]
      split_ifs
      · exact goOn (.code none 0 0)
      · cases escaped? c with
        | none => exact carriesOver_error _
        | some meant => exact prepend_alike meant (goOn .plain)
    | code high count value =>
      simp only [readCharacters]
      cases Text.Hex.value? c with
      | none => exact carriesOver_error _
      | some digit =>
        -- the last digit of a code decides by the half of a pair that it spells
        cases high with
        | none =>
          dsimp only
          split_ifs
          · exact goOn _
          · exact carriesOver_error _
          · exact goOn _
          · exact prepend_alike _ (goOn .plain)
        | some high =>
          dsimp only
          split_ifs
          · exact goOn _
          · exact prepend_alike _ (goOn .plain)
          · exact carriesOver_error _
    | pairBackslash high =>
      simp only [readCharacters]
      split_ifs
      · exact goOn _
      · exact carriesOver_error _
    | pairLetter high =>
      simp only [readCharacters]
      split_ifs
      · exact goOn _
      · exact carriesOver_error _

theorem readString_alike : ReadsAlike Left readString := fun document more =>
  (readCharacters_alike .plain document more).map (fun _ h => h) fun _ => rfl

theorem skipCharacters_alike (phase : Phase) : PassesAlike Enough (skipCharacters phase) := by
  intro document more
  induction document generalizing phase with
  | nil =>
    cases phase <;> exact carriesOver_error _
  | cons c rest ih =>
    -- the phases are those of reading, although no character is kept
    have goOn (next : Phase) := (ih next).since (List.cons_ne_nil c rest)
    rw [List.cons_append]
    cases phase with
    | plain =>
      simp only [skipCharacters]
      split_ifs
      · exact carriesOver_ok fun _ => List.cons_ne_nil c rest
      · exact goOn .escape
      · exact carriesOver_error _
      · exact goOn .plain
    | escape =>
      simp only [skipCharacters]
      split_ifs
      · exact goOn _
      · exact goOn .plain
      · exact carriesOver_error _
    | code high count value =>
      simp only [skipCharacters]
      split_ifs
      · exact goOn _
      · exact goOn .plain
      · exact carriesOver_error _
    | pairBackslash high => exact goOn .plain
    | pairLetter high => exact goOn .plain

theorem skipString_alike : PassesAlike Enough skipString :=
  skipCharacters_alike .plain

/-! ### Numbers -/

namespace Literal

/-- Digits that something else follows are the same in a longer text. -/
theorem digits_append {text : List Char} (hleft : (digits text).2 ≠ []) (more : List Char) :
    digits (text ++ more) = followedBy more (digits text) := by
  induction text with
  | nil => exact absurd rfl hleft
  | cons c text ih =>
    by_cases hc : c.isDigit = true
    · have hrest : (digits text).2 ≠ [] := by simpa [digits, hc] using hleft
      have hsame := ih hrest
      simp only [digits, followedBy, Prod.mk.injEq] at hsame ⊢
      simp [hc, hsame.1, hsame.2]
    · simp [digits, followedBy, hc]

theorem someDigits_alike : ReadsAlike Left someDigits := by
  intro document more
  cases document with
  | nil => exact carriesOver_error _
  | cons c rest =>
    rw [List.cons_append, someDigits, someDigits, ← List.cons_append]
    split
    · rintro _ ⟨⟩ hleft
      exact ⟨List.cons_ne_nil c rest, congrArg Except.ok (digits_append hleft more)⟩
    · exact carriesOver_error _

theorem readWhole_of_ne (hc : c ≠ '0') (rest : List Char) :
    readWhole (c :: rest) = someDigits (c :: rest) :=
  readWhole.eq_2 (c :: rest) fun _ h => hc (List.cons.inj h).1

theorem readWhole_alike : ReadsAlike Left readWhole := by
  intro document more
  cases document with
  | nil => exact carriesOver_error _
  | cons c rest =>
    by_cases hzero : c = '0'
    · subst hzero
      cases rest with
      | nil =>
        -- at the very end of a document, a digit might still make the zero wrong
        rintro _ ⟨⟩ hleft
        exact absurd rfl hleft
      | cons d rest =>
        have hnext (tail : List Char) : readWhole ('0' :: d :: tail) =
            if d.isDigit = true then .error .invalidNumber else .ok (['0'], d :: tail) := rfl
        rw [List.cons_append, List.cons_append, hnext, hnext]
        split
        · exact carriesOver_error _
        · exact carriesOver_ok fun _ => List.cons_ne_nil _ _
    · rw [List.cons_append, readWhole_of_ne hzero, readWhole_of_ne hzero, ← List.cons_append]
      exact someDigits_alike (c :: rest) more

theorem readFraction_of_ne (hc : c ≠ '.') (rest : List Char) :
    readFraction (c :: rest) = .ok (none, c :: rest) :=
  readFraction.eq_2 (c :: rest) fun _ h => hc (List.cons.inj h).1

theorem readFraction_alike : ReadsAlike Left readFraction := by
  intro document more
  cases document with
  | nil =>
    rintro _ ⟨⟩ hleft
    exact absurd rfl hleft
  | cons c rest =>
    have hcons := List.cons_ne_nil c rest
    by_cases hpoint : c = '.'
    · subst hpoint
      exact ((someDigits_alike rest more).since hcons).map (fun _ h => h) fun _ => rfl
    · -- there is no fraction, and the longer document has none either
      rw [List.cons_append, readFraction_of_ne hpoint, readFraction_of_ne hpoint,
        ← List.cons_append]
      exact carriesOver_ok fun _ => hcons

theorem readExponent_alike : ReadsAlike Left readExponent := by
  intro document more
  cases document with
  | nil =>
    rintro _ ⟨⟩ hleft
    exact absurd rfl hleft
  | cons c rest =>
    have hcons := List.cons_ne_nil c rest
    have hdigits (negative : Bool) (text : List Char) :
        CarriesOver (c :: rest ≠ []) (fun found => Left found.2) (followedBy more)
          ((someDigits text).map fun found => (some (negative, found.1), found.2))
          ((someDigits (text ++ more)).map fun found => (some (negative, found.1), found.2)) :=
      ((someDigits_alike text more).since hcons).map (fun _ h => h) fun _ => rfl
    simp only [readExponent, List.cons_append]
    split
    · cases rest with
      | nil => exact carriesOver_error _
      | cons d rest =>
        -- behind the letter stands a sign or the first digit
        by_cases hminus : d = '-'
        · subst hminus
          exact hdigits true rest
        by_cases hplus : d = '+'
        · subst hplus
          exact hdigits false rest
        · have hfirst := hdigits false (d :: rest)
          simp only [List.cons_append]
          split
          · next h => exact absurd (List.cons.inj h).1 hminus
          · next h => exact absurd (List.cons.inj h).1 hplus
          · split
            · next h => exact absurd (List.cons.inj h).1 hminus
            · next h => exact absurd (List.cons.inj h).1 hplus
            · exact hfirst
    · exact carriesOver_ok fun _ => hcons

theorem read_alike (negative : Bool) : ReadsAlike Left (read negative) := by
  intro document more
  refine (readWhole_alike document more).bind fun whole => ?_
  refine (readFraction_alike whole.2 more).bind fun fraction => ?_
  refine (readExponent_alike fraction.2 more).bind fun exponent => ?_
  exact carriesOver_ok id

/-- Read a number with its sign. -/
def readSigned (text : List Char) : Except Error (Literal × List Char) :=
  match text with
  | '-' :: rest => read true rest
  | _ => read false text

theorem readSigned_of_ne (hc : c ≠ '-') (rest : List Char) :
    readSigned (c :: rest) = read false (c :: rest) :=
  readSigned.eq_2 (c :: rest) fun _ h => hc (List.cons.inj h).1

theorem readSigned_alike : ReadsAlike Left readSigned := by
  intro document more
  cases document with
  | nil => exact carriesOver_error _
  | cons c rest =>
    by_cases hsign : c = '-'
    · subst hsign
      exact (read_alike true rest more).since (List.cons_ne_nil _ _)
    · rw [List.cons_append, readSigned_of_ne hsign, readSigned_of_ne hsign, ← List.cons_append]
      exact read_alike false (c :: rest) more

end Literal

theorem readNumeral_eq (text : List Char) :
    readNumeral text = Literal.readSigned text >>= fun found =>
      found.1.value >>= fun value => .ok (value, found.2) := by
  unfold readNumeral
  split
  · rfl
  · next hunsigned =>
    rw [Literal.readSigned.eq_2 text hunsigned]
    rfl

theorem readNumeral_alike : ReadsAlike Left readNumeral := by
  intro document more
  rw [readNumeral_eq, readNumeral_eq]
  refine (Literal.readSigned_alike document more).bind fun found => ?_
  dsimp only [followedBy]
  cases found.1.value with
  | error => exact carriesOver_error _
  | ok value => exact carriesOver_ok id

theorem skipNumeral_eq (text : List Char) :
    skipNumeral text = match Literal.readSigned text with
      | .ok (_, rest) => .ok rest
      | .error _ => .error .invalidNumber :=
  rfl

theorem skipNumeral_alike : PassesAlike Left skipNumeral := by
  intro document more passed hpassed hleft
  rw [skipNumeral_eq] at hpassed ⊢
  split at hpassed
  · next literal rest hread =>
    cases hpassed
    obtain ⟨hdocument, hlonger⟩ := Literal.readSigned_alike document more _ hread hleft
    refine ⟨hdocument, ?_⟩
    rw [hlonger]
    rfl
  · cases hpassed

/-! ### Values that are passed over -/

namespace Skip

theorem afterValue_alike (stack : List Bracket) : ReadsAlike Left (afterValue stack) := by
  intro document more
  induction stack generalizing document with
  | nil => exact carriesOver_ok id
  | cons bracket stack ih =>
    unfold afterValue
    split
    · exact carriesOver_error _
    · next c rest hskip =>
      simp only [skip_append hskip more]
      split
      · exact carriesOver_ok fun _ => ne_nil_of_skip hskip
      · split
        · exact (ih rest).since (ne_nil_of_skip hskip)
        · exact carriesOver_error _

theorem afterOpening_alike (bracket : Bracket) (stack : List Bracket) :
    ReadsAlike Left (afterOpening bracket stack) := by
  intro document more
  unfold afterOpening
  split
  · exact carriesOver_error _
  · next c rest hskip =>
    simp only [skip_append hskip more]
    split
    · exact (afterValue_alike stack rest more).since (ne_nil_of_skip hskip)
    · exact carriesOver_ok fun _ => ne_nil_of_skip hskip

theorem beforeItem_alike (stack : List Bracket) : PassesAlike Left (beforeItem stack) := by
  intro document more
  unfold beforeItem
  split
  · split
    · exact carriesOver_error _
    · next c rest hskip =>
      simp only [skip_append hskip more]
      split
      · have hkey : CarriesOver (rest ≠ []) Left (· ++ more) (skipString rest >>= readColon)
            (skipString (rest ++ more) >>= readColon) :=
          (skipString_alike rest more).bind fun behind => readColon_alike behind more
        exact hkey.since (ne_nil_of_skip hskip)
      · exact carriesOver_error _
  · exact carriesOver_ok id

/-- A number is passed over where one begins. -/
theorem token_of_numeral (stack : List Bracket) (hskip : skipInsignificant document = c :: rest)
    (hc : c = '-' ∨ c.isDigit = true) :
    token stack document = skipNumeral (c :: rest) >>= afterValue stack := by
  unfold token
  rw [hskip]
  split
  case h_1 h => exact nomatch h
  case h_8 h =>
    obtain ⟨rfl, rfl⟩ := List.cons.inj h
    exact if_pos hc
  -- no other token begins like a number
  all_goals
    next h =>
      rw [(List.cons.inj h).1] at hc
      exact absurd hc (by decide)

theorem token_alike (stack : List Bracket) : ReadsAlike Left (token stack) := by
  intro document more
  have hafter {pass : List Char → Except Error (List Char)} (hpass : PassesAlike Left pass)
      (text : List Char) :
      CarriesOver (text ≠ []) (fun found => Left found.2) (followedBy more)
        (pass text >>= afterValue stack) (pass (text ++ more) >>= afterValue stack) :=
    (hpass text more).bind fun behind => afterValue_alike stack behind more
  have hword (due : List Char) {c : Char} {rest : List Char}
      (hskip : skipInsignificant document = c :: rest) :
      CarriesOver (document ≠ []) (fun found => Left found.2) (followedBy more)
        (readWord due rest >>= afterValue stack)
        (readWord due (rest ++ more) >>= afterValue stack) :=
    ((readWord_alike due rest more).since (ne_nil_of_skip hskip)).bind fun behind =>
      afterValue_alike stack behind more
  unfold token
  split
  · exact carriesOver_error _
  · next hskip =>
    simp only [skip_append hskip more]
    exact hword _ hskip
  · next hskip =>
    simp only [skip_append hskip more]
    exact hword _ hskip
  · next hskip =>
    simp only [skip_append hskip more]
    exact hword _ hskip
  · next hskip =>
    simp only [skip_append hskip more]
    exact (hafter skipString_alike _).since (ne_nil_of_skip hskip)
  · next hskip =>
    simp only [skip_append hskip more]
    exact (afterOpening_alike .list stack _ more).since (ne_nil_of_skip hskip)
  · next hskip =>
    simp only [skip_append hskip more]
    exact (afterOpening_alike .mapping stack _ more).since (ne_nil_of_skip hskip)
  · next c rest _ _ _ _ _ _ hskip =>
    split
    · next hc =>
      -- the longer document begins with the same digit or sign, and so with a number too
      have hlonger := token_of_numeral stack (skip_append hskip more) hc
      unfold token at hlonger
      rw [hlonger, ← List.cons_append]
      exact (hafter skipNumeral_alike (c :: rest)).since (ne_nil_of_skip hskip)
    · exact carriesOver_error _

/-- Tokens are passed over alike, also with more fuel. -/
theorem tokens_alike (stack : List Bracket) (document more : List Char) {fuel enough : Nat}
    (hfuel : fuel ≤ enough) :
    CarriesOver (document ≠ []) Left (· ++ more) (tokens fuel stack document)
      (tokens enough stack (document ++ more)) := by
  induction fuel generalizing stack document enough with
  | zero => exact carriesOver_error _
  | succ fuel ih =>
    obtain ⟨enough, rfl⟩ := Nat.exists_eq_add_one.2 (Nat.zero_lt_of_lt hfuel)
    refine (token_alike stack document more).bind fun found => ?_
    dsimp only [followedBy]
    split
    · exact carriesOver_ok id
    · exact (beforeItem_alike found.1 found.2 more).bind fun behind =>
        ih found.1 behind (Nat.le_of_succ_le_succ hfuel)

theorem value_alike : PassesAlike Left value := by
  intro document more
  refine tokens_alike [] document more ?_
  rw [List.length_append]
  omega

end Skip

end Json

end Lifecycle
