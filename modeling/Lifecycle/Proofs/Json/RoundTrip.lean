import Lifecycle.Json.Format
import Lifecycle.Proofs.Json.Tokens

/-!
# Lawful formats of documents

A format is lawful when what it writes is read back from the front of any document, in every layout
that puts only white space between the tokens. `Format.Lawful` is proved for the formats of scalars
and kept by arrays and optional values.

Readers are told how many brackets may still be opened. The height of a format is the number that
its values need, and a lawful format asks for no more.
-/

namespace Lifecycle

namespace Json

open Text (isInsignificant skipInsignificant toDigits_eq_cons)

/-! ### White space -/

/-- A text of the white space of documents only. -/
def IsSpace (text : List Char) : Prop :=
  ∀ c ∈ text, isInsignificant c = true

/-- A layout that puts nothing but white space between the tokens. -/
structure Layout.Readable (layout : Layout) : Prop where
  /-- Items are separated by white space. -/
  separator : ∀ level, IsSpace (layout.separator level)
  /-- The colon has white space around it. -/
  colon : ∃ before after, IsSpace before ∧ IsSpace after ∧ layout.colon = before ++ ':' :: after

theorem isSpace_nil : IsSpace [] := by
  simp [IsSpace]

theorem Layout.readable_compact : Layout.compact.Readable where
  separator _ _ hc := absurd hc List.not_mem_nil
  colon := ⟨[], [], isSpace_nil, isSpace_nil, rfl⟩

theorem Layout.readable_indented : Layout.indented.Readable where
  separator level c hc := by
    rcases List.mem_cons.1 hc with rfl | hc
    · rfl
    · rw [(List.mem_replicate.1 hc).2]
      rfl
  colon := ⟨[], [' '], isSpace_nil, by simp [IsSpace, isInsignificant], rfl⟩

variable {space rest : List Char} {c : Char}

theorem skipInsignificant_append (hspace : IsSpace space) (hc : isInsignificant c = false) :
    skipInsignificant (space ++ c :: rest) = c :: rest := by
  rw [skipInsignificant, List.dropWhile_append_of_pos hspace]
  simp [hc]

theorem skipInsignificant_cons (hc : isInsignificant c = false) :
    skipInsignificant (c :: rest) = c :: rest := by
  simp [skipInsignificant, hc]

/-- White space does not go on with a number. -/
theorem isInsignificant_endsNumber (h : isInsignificant c = true) :
    c.isDigit = false ∧ c ≠ '.' ∧ c ≠ 'e' ∧ c ≠ 'E' := by
  simp only [isInsignificant, Bool.or_eq_true, beq_iff_eq] at h
  rcases h with ((rfl | rfl) | rfl) | rfl <;> decide

/-- After white space, the next token decides whether a number goes on. -/
theorem endsNumber_append (hspace : IsSpace space) (hrest : EndsNumber rest) :
    EndsNumber (space ++ rest) := by
  cases space with
  | nil => exact hrest
  | cons c space => exact endsNumber_cons (isInsignificant_endsNumber (hspace c List.mem_cons_self))

/-- The colon is read with the white space around it. -/
theorem readColon_colon {layout : Layout} (hlayout : layout.Readable) (rest : List Char) :
    ∃ after, IsSpace after ∧ readColon (layout.colon ++ rest) = .ok (after ++ rest) := by
  obtain ⟨before, after, hbefore, hafter, hcolon⟩ := hlayout.colon
  refine ⟨after, hafter, ?_⟩
  rw [readColon, hcolon, List.append_assoc, List.cons_append,
    skipInsignificant_append hbefore (by decide)]
  exact if_pos rfl

/-! ### The first character of a value -/

/-- A value that is no floating-point number. -/
def Value.IsExact (value : Value) : Prop :=
  ∀ negative magnitude, value ≠ .number (.real negative magnitude)

/-- A digit begins neither white space nor the end of an array nor a word. -/
theorem significant_of_isDigit (h : c.isDigit = true) :
    isInsignificant c = false ∧ c ≠ ']' ∧ c ≠ 'n' := by
  refine ⟨Bool.eq_false_iff.2 fun hspace => ?_, ?_, ?_⟩
  · rw [(isInsignificant_endsNumber hspace).1] at h
    exact Bool.false_ne_true h
  · rintro rfl
    exact absurd h (by decide)
  · rintro rfl
    exact absurd h (by decide)

/-- An exact value begins with a character that is neither white space nor the end of an array, and
only `null` begins with the letter `n`. -/
theorem Value.write_eq_cons {value : Value} (hvalue : value.IsExact) (layout : Layout)
    (level : Nat) : ∃ c text, value.write layout level = c :: text ∧ isInsignificant c = false ∧
      c ≠ ']' ∧ (value ≠ .null → c ≠ 'n') := by
  cases value with
  | null => exact ⟨'n', _, by rw [write], by decide, by decide, fun h => absurd rfl h⟩
  | boolean value =>
    cases value with
    | true => exact ⟨'t', _, by rw [write]; rfl, by decide, by decide, fun _ => by decide⟩
    | false => exact ⟨'f', _, by rw [write]; rfl, by decide, by decide, fun _ => by decide⟩
  | number numeral =>
    cases numeral with
    | real negative magnitude => exact absurd rfl (hvalue negative magnitude)
    -- an integer begins with a digit or with its sign
    | integer value =>
      cases value with
      | ofNat number =>
        obtain ⟨c, text, htext, hc⟩ := toDigits_eq_cons number
        obtain ⟨hspace, hend, hword⟩ := significant_of_isDigit hc
        refine ⟨c, text, ?_, hspace, hend, fun _ => hword⟩
        rw [write, ← htext]
        exact writeNumeral_natural number
      | negSucc number =>
        refine ⟨'-', Nat.toDigits 10 (number + 1), ?_, by decide, by decide, fun _ => by decide⟩
        rw [write, writeNumeral, ← Nat.toList_repr]
        exact String.toList_append
  | string text => exact ⟨'"', _, by rw [write]; rfl, by decide, by decide, fun _ => by decide⟩
  | array items =>
    cases items with
    | nil => exact ⟨'[', _, by rw [write], by decide, by decide, fun _ => by decide⟩
    | cons item items =>
      exact ⟨'[', _, by rw [write]; rfl, by decide, by decide, fun _ => by decide⟩
  | object members =>
    cases members with
    | nil => exact ⟨'\x7b', _, by rw [write], by decide, by decide, fun _ => by decide⟩
    | cons member members =>
      exact ⟨'\x7b', _, by rw [write]; rfl, by decide, by decide, fun _ => by decide⟩

/-! ### Lawful formats -/

/-- What a format writes is read back from the front of a document when enough brackets may be
opened, and no floating-point number is written. -/
structure Format.Lawful (format : Format α) (height : Nat) : Prop where
  /-- A value is read back. -/
  read_write : ∀ {layout : Layout}, layout.Readable → ∀ {depth : Nat}, height ≤ depth →
    ∀ (value : α) (level : Nat) {space rest : List Char}, IsSpace space → EndsNumber rest →
      format.read depth (space ++ ((format.write value).write layout level ++ rest)) =
        .ok (value, rest)
  /-- No floating-point number is written. -/
  isExact : ∀ value, (format.write value).IsExact

namespace Format

variable {α β : Type} {height : Nat}

/-- More brackets than needed do no harm. -/
theorem Lawful.mono {format : Format α} {higher : Nat} (h : format.Lawful height)
    (hheight : height ≤ higher) : format.Lawful higher where
  read_write hlayout _ hdepth := h.read_write hlayout (Nat.le_trans hheight hdepth)
  isExact := h.isExact

/-- Strings are read back when their content means the value that it was made of. -/
theorem lawful_text {expected : String} {meaning : String → Except String α} {content : α → String}
    (hmeaning : ∀ value, meaning (content value) = .ok value) :
    (text expected meaning content).Lawful 0 where
  read_write _ _ _ value level space rest hspace _ := by
    simp only [text, Reader.text, Value.write, writeString_append,
      skipInsignificant_append hspace (show isInsignificant '"' = false by decide),
      readString_flatMap, Except.ok_bind, hmeaning, Except.pure_eq_ok]
  isExact _ _ _ h := nomatch h

theorem lawful_string : string.Lawful 0 :=
  lawful_text fun _ => rfl

theorem lawful_boolean : boolean.Lawful 0 where
  read_write _ _ _ value level space rest hspace _ := by
    cases value with
    | true =>
      simp only [boolean, Reader.boolean, Value.write, writeBoolean, ↓reduceIte, List.cons_append,
        skipInsignificant_append hspace (show isInsignificant 't' = false by decide), readWord,
        Except.map_ok, List.nil_append]
    | false =>
      simp only [boolean, Reader.boolean, Value.write, writeBoolean, Bool.false_eq_true, ↓reduceIte,
        List.cons_append, skipInsignificant_append hspace
          (show isInsignificant 'f' = false by decide), readWord, Except.map_ok, List.nil_append]
  isExact _ _ _ h := nomatch h

/-- A natural below a bound of at most 64 bits is read back. -/
theorem natural_toDigits (expected : String) {bound number : Nat} (depth : Nat)
    (hbound : bound ≤ UInt64.size) (hnumber : number < bound) (hspace : IsSpace space)
    (hrest : EndsNumber rest) :
    Reader.natural expected bound depth (space ++ (Nat.toDigits 10 number ++ rest)) =
      .ok (number, rest) := by
  have hread := readNumeral_toDigits (Nat.lt_of_lt_of_le hnumber hbound) hrest
  obtain ⟨c, tail, htext, hc⟩ := toDigits_eq_cons number
  have hsignificant := (significant_of_isDigit hc).1
  have hvalue : (0 : Int) ≤ number ∧ (number : Int) < bound := by omega
  -- the reader looks at the first character, which is a digit, before it reads the number
  rw [htext, List.cons_append] at hread
  rw [htext, List.cons_append]
  simp only [Reader.natural, skipInsignificant_append hspace hsignificant, hc, or_true, ↓reduceIte,
    hread, Except.ok_bind, hvalue, and_self, Int.toNat_natCast, Except.pure_eq_ok]

theorem lawful_word32 : word32.Lawful 0 where
  read_write _ _ _ value level space rest hspace hrest := by
    have hread (depth : Nat) := natural_toDigits "u32" depth (by decide : UInt32.size ≤ UInt64.size)
      value.toNat_lt hspace hrest
    simp only [word32, Value.natural, Value.write, writeNumeral_natural, hread, Except.ok_bind,
      Except.pure_eq_ok, UInt32.ofNat_toNat]
  isExact _ _ _ h := nomatch h

theorem lawful_word64 : word64.Lawful 0 where
  read_write _ _ _ value level space rest hspace hrest := by
    have hread (depth : Nat) := natural_toDigits "u64" depth (Nat.le_refl UInt64.size)
      value.toNat_lt hspace hrest
    simp only [word64, Value.natural, Value.write, writeNumeral_natural, hread, Except.ok_bind,
      Except.pure_eq_ok, UInt64.ofNat_toNat]
  isExact _ _ _ h := nomatch h

/-- Values that stand for others are read back when these are. -/
theorem Lawful.transfer {format : Format α} (h : format.Lawful height) {wrap : α → β}
    {unwrap : β → α} (hwrap : ∀ value, wrap (unwrap value) = value) :
    (format.transfer wrap unwrap).Lawful height where
  read_write hlayout _ hdepth value level space rest hspace hrest := by
    have hread := h.read_write hlayout hdepth (unwrap value) level hspace hrest
    simp only [Format.transfer, hread, Except.ok_bind, hwrap, Except.pure_eq_ok]
  isExact value := h.isExact (unwrap value)

/-- Values that may be absent are read back when the others are and are not written as `null`. -/
theorem Lawful.nullable {format : Format α} (h : format.Lawful height)
    (hnull : ∀ value, format.write value ≠ .null) : (Format.nullable format).Lawful height where
  read_write {layout} hlayout depth hdepth value level space rest hspace hrest := by
    cases value with
    | none =>
      simp only [Format.nullable, Reader.nullable, Value.write, List.cons_append,
        skipInsignificant_append hspace (show isInsignificant 'n' = false by decide), readWord,
        ↓reduceIte, Except.map_ok, List.nil_append]
    | some value =>
      -- the first letter tells a value from `null`
      obtain ⟨c, text, htext, hc, -, hword⟩ :=
        Value.write_eq_cons (h.isExact value) layout level
      have hread := h.read_write hlayout hdepth value level isSpace_nil hrest
      simp only [Format.nullable, Reader.nullable, htext, List.cons_append, List.nil_append,
        skipInsignificant_append hspace hc] at hread ⊢
      split
      · next hnone => exact absurd (List.cons.inj hnone).1 (hword (hnull value))
      · rw [hread]
        rfl
  isExact
    | some value => h.isExact value
    | none => fun _ _ hnone => nomatch hnone

/-! ### Arrays -/

theorem nextItem_first (hspace : IsSpace space) (hc : isInsignificant c = false) (hend : c ≠ ']') :
    Reader.nextItem true (space ++ c :: rest) = .ok (some (c :: rest)) := by
  simp only [Reader.nextItem, skipInsignificant_append hspace hc, hend, ↓reduceIte]

theorem nextItem_further (hspace : IsSpace space) (hc : isInsignificant c = false)
    (hend : c ≠ ']') :
    Reader.nextItem false (',' :: (space ++ c :: rest)) = .ok (some (c :: rest)) := by
  simp only [Reader.nextItem, skipInsignificant_cons (show isInsignificant ',' = false by decide),
    skipInsignificant_append hspace hc, hend, show ',' ≠ ']' by decide, ↓reduceIte,
    Bool.false_eq_true]

theorem nextItem_end (first : Bool) (hspace : IsSpace space) (rest : List Char) :
    Reader.nextItem first (space ++ ']' :: rest) = .ok none := by
  simp only [Reader.nextItem,
    skipInsignificant_append hspace (show isInsignificant ']' = false by decide), ↓reduceIte]

/-- Behind the further items of an array, no number goes on. -/
theorem endsNumber_writeItems (layout : Layout) (level : Nat) (items : List Value)
    (hspace : IsSpace space) (rest : List Char) :
    EndsNumber (writeItems layout level items ++ (space ++ ']' :: rest)) := by
  cases items with
  | nil =>
    rw [writeItems, List.nil_append]
    exact endsNumber_append hspace (endsNumber_cons (by decide))
  | cons item items => exact endsNumber_cons (by decide)

/-- A value is read back from wherever it is written. -/
structure ReadsBack (read : List Char → Except Error (α × List Char)) (layout : Layout)
    (value : α) (written : Value) : Prop where
  /-- The value is read, and what follows it is left. -/
  read_write : ∀ level {rest}, EndsNumber rest →
    read (written.write layout level ++ rest) = .ok (value, rest)
  /-- No floating-point number is written. -/
  isExact : written.IsExact

variable {read : List Char → Except Error (α × List Char)} {write : α → Value} {layout : Layout}
  {values : List α}

/-- The further items of an array are read back up to its end. -/
theorem items_writeItems (hlayout : layout.Readable)
    (h : ∀ value ∈ values, ReadsBack read layout value (write value)) (level : Nat) {fuel : Nat}
    (hfuel : values.length < fuel) (hspace : IsSpace space) (rest : List Char) :
    Reader.items read fuel false
        (writeItems layout level (values.map write) ++ (space ++ ']' :: rest)) =
      .ok (values, space ++ ']' :: rest) := by
  induction values generalizing fuel with
  | nil =>
    obtain ⟨fuel, rfl⟩ := Nat.exists_eq_add_one_of_ne_zero (Nat.ne_of_gt hfuel)
    simp only [List.map_nil, writeItems, List.nil_append, Reader.items,
      nextItem_end false hspace rest, Except.ok_bind, Except.pure_eq_ok]
  | cons value values ih =>
    obtain ⟨fuel, rfl⟩ := Nat.exists_eq_add_one_of_ne_zero (Nat.ne_of_gt (Nat.zero_lt_of_lt hfuel))
    obtain ⟨hvalue, hvalues⟩ := List.forall_mem_cons.1 h
    obtain ⟨c, text, htext, hc, hend, -⟩ := Value.write_eq_cons hvalue.isExact layout level
    have hfurther := ih hvalues (Nat.lt_of_succ_lt_succ hfuel)
    -- the white space before the item is already passed over when the item is read
    have hread := hvalue.read_write level
      (endsNumber_writeItems layout level (values.map write) hspace rest)
    rw [htext, List.cons_append] at hread
    simp only [List.map_cons, writeItems, htext, List.append_assoc, List.cons_append, Reader.items,
      nextItem_further (hlayout.separator level) hc hend, Except.ok_bind, hread, hfurther,
      Except.pure_eq_ok]

theorem closeList_end (hspace : IsSpace space) (rest : List Char) :
    Reader.closeList (space ++ ']' :: rest) = .ok rest := by
  simp only [Reader.closeList,
    skipInsignificant_append hspace (show isInsignificant ']' = false by decide), ↓reduceIte]

theorem length_le_writeItems (layout : Layout) (level : Nat) (items : List Value) :
    items.length ≤ (writeItems layout level items).length := by
  induction items with
  | nil => exact Nat.zero_le _
  | cons item items ih =>
    simp only [writeItems, List.length_cons, List.length_append]
    omega

/-- A written array begins with a bracket. Behind it, the items are read, and then the array
ends. -/
theorem readArray_write (hlayout : layout.Readable)
    (h : ∀ value ∈ values, ReadsBack read layout value (write value)) (level : Nat)
    (rest : List Char) :
    ∃ text ending, (Value.array (values.map write)).write layout level ++ rest = '[' :: text ∧
      Reader.items read (text.length + 1) true text = .ok (values, ending) ∧
      Reader.closeList ending = .ok rest := by
  cases values with
  | nil =>
    have hend := nextItem_end true isSpace_nil rest
    rw [List.nil_append] at hend
    refine ⟨']' :: rest, ']' :: rest, by rw [List.map_nil, Value.write]; rfl, ?_,
      closeList_end isSpace_nil rest⟩
    simp only [Reader.items, hend, Except.ok_bind, Except.pure_eq_ok]
  | cons value values =>
    -- the first item is read on its own, and the further ones by the lemma about them
    obtain ⟨hvalue, hvalues⟩ := List.forall_mem_cons.1 h
    obtain ⟨c, text, htext, hc, hend, -⟩ := Value.write_eq_cons hvalue.isExact layout (level + 1)
    have hseparator := hlayout.separator
    have hread := hvalue.read_write (level + 1) (endsNumber_writeItems layout (level + 1)
      (values.map write) (hseparator level) rest)
    rw [htext, List.cons_append] at hread
    refine ⟨layout.separator (level + 1) ++ c :: (text ++ (writeItems layout (level + 1)
        (values.map write) ++ (layout.separator level ++ ']' :: rest))),
      layout.separator level ++ ']' :: rest, ?_, ?_, closeList_end (hseparator level) rest⟩
    · simp only [List.map_cons, Value.write, htext, List.append_assoc, List.cons_append,
        List.nil_append]
    · -- every further item takes a character, so that the document has enough of them
      have hcount := length_le_writeItems layout (level + 1) (values.map write)
      have hfurther (fuel : Nat) (hfuel : values.length < fuel) :=
        items_writeItems hlayout hvalues (level + 1) hfuel (hseparator level) rest
      rw [Reader.items, nextItem_first (hseparator (level + 1)) hc hend, Except.ok_bind]
      simp only [hread, Except.ok_bind]
      rw [hfurther]
      · rfl
      · simp only [List.length_append, List.length_cons, List.length_map] at hcount ⊢
        omega

theorem Lawful.readsBack {format : Format α} (h : format.Lawful height) (hlayout : layout.Readable)
    {depth : Nat} (hdepth : height ≤ depth) (value : α) :
    ReadsBack (format.read depth) layout value (format.write value) where
  read_write level _ hrest := h.read_write hlayout hdepth value level isSpace_nil hrest
  isExact := h.isExact value

theorem Lawful.list {format : Format α} (h : format.Lawful height) :
    (Format.list format).Lawful (height + 1) where
  read_write {layout} hlayout depth hdepth values level space rest hspace hrest := by
    obtain ⟨depth, rfl⟩ := Nat.exists_eq_add_one.2 (Nat.zero_lt_of_lt hdepth)
    have hitems (value : α) (_ : value ∈ values) :=
      h.readsBack hlayout (Nat.le_of_succ_le_succ hdepth) value
    -- one bracket is opened, and the items are read with one less
    obtain ⟨text, ending, htext, hread, hclose⟩ := readArray_write hlayout hitems level rest
    simp only [Format.list, Reader.list, htext, skipInsignificant_append hspace
      (show isInsignificant '[' = false by decide), enter, Except.ok_bind, hread, hclose,
      Except.pure_eq_ok]
  isExact _ _ _ hreal := nomatch hreal

/-! ### Values of any kind -/

theorem any_string (depth : Nat) (text : String) (hspace : IsSpace space) (rest : List Char) :
    Reader.any depth (space ++ (writeString text ++ rest)) = .ok (.string text, rest) := by
  rw [Reader.any, writeString_append]
  simp only [skipInsignificant_append hspace (show isInsignificant '"' = false by decide),
    readString_flatMap, Except.map_ok]

/-- An array of strings is found whatever is asked for, if a bracket may be opened. -/
theorem any_strings (hlayout : layout.Readable) (depth level : Nat) (texts : List String)
    (hspace : IsSpace space) (rest : List Char) :
    Reader.any (depth + 1)
        (space ++ ((Value.array (texts.map .string)).write layout level ++ rest)) =
      .ok (.array (texts.map .string), rest) := by
  have hitems : ∀ value ∈ texts.map Value.string,
      ReadsBack (Reader.any depth) layout value (id value) := by
    intro value hvalue
    obtain ⟨text, -, rfl⟩ := List.mem_map.1 hvalue
    refine ⟨fun level rest _ => ?_, fun _ _ hreal => nomatch hreal⟩
    rw [id, Value.write]
    exact any_string depth text isSpace_nil rest
  obtain ⟨text, ending, htext, hread, hclose⟩ := readArray_write hlayout hitems level rest
  rw [List.map_id] at htext
  rw [Reader.any, htext]
  simp only [skipInsignificant_append hspace (show isInsignificant '[' = false by decide), hread,
    Except.ok_bind, hclose, Except.pure_eq_ok]

end Format

end Json

end Lifecycle
