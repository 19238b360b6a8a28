import Lifecycle.Proofs.Json.RoundTrip

/-!
# Lawful formats of objects

The members of an object are read one after the other, and each updates what was gathered so far.
`Gathers` says what a list of written members makes of it, one member at a time, and
`readObject_write` follows from it for the whole object, whoever reads it.

Two readers gather members. A row of fields is gathered in slots, one for each field, and a mapping
by inserting its entries. Both are lawful when the values of their members are.
-/

namespace Lifecycle

namespace Json

open Text (isInsignificant skipInsignificant)

variable {σ : Type} {space : List Char} {layout : Layout}

/-! ### Members -/

theorem nextKey_first (hspace : IsSpace space) (rest : List Char) :
    Reader.nextKey true (space ++ '"' :: rest) = .ok (some rest) := by
  simp only [Reader.nextKey, skipInsignificant_append hspace
    (show isInsignificant '"' = false by decide), show '"' ≠ '\x7d' by decide, ↓reduceIte]

theorem nextKey_further (hspace : IsSpace space) (rest : List Char) :
    Reader.nextKey false (',' :: (space ++ '"' :: rest)) = .ok (some rest) := by
  simp only [Reader.nextKey, skipInsignificant_cons (show isInsignificant ',' = false by decide),
    skipInsignificant_append hspace (show isInsignificant '"' = false by decide),
    show ',' ≠ '\x7d' by decide, ↓reduceIte, Bool.false_eq_true]

theorem nextKey_end (first : Bool) (hspace : IsSpace space) (rest : List Char) :
    Reader.nextKey first (space ++ '\x7d' :: rest) = .ok none := by
  simp only [Reader.nextKey,
    skipInsignificant_append hspace (show isInsignificant '\x7d' = false by decide), ↓reduceIte]

theorem closeObject_end (hspace : IsSpace space) (rest : List Char) :
    Reader.closeObject (space ++ '\x7d' :: rest) = .ok rest := by
  simp only [Reader.closeObject,
    skipInsignificant_append hspace (show isInsignificant '\x7d' = false by decide), ↓reduceIte]

/-- Behind the further members of an object, no number goes on. -/
theorem endsNumber_writeMembers (layout : Layout) (level : Nat) (members : List (String × Value))
    (hspace : IsSpace space) (rest : List Char) :
    EndsNumber (writeMembers layout level members ++ (space ++ '\x7d' :: rest)) := by
  cases members with
  | nil =>
    rw [writeMembers, List.nil_append]
    exact endsNumber_append hspace (endsNumber_cons (by decide))
  | cons member members => exact endsNumber_cons (by decide)

theorem length_le_writeMembers (layout : Layout) (level : Nat) (members : List (String × Value)) :
    members.length ≤ (writeMembers layout level members).length := by
  induction members with
  | nil => exact Nat.zero_le _
  | cons member members ih =>
    simp only [writeMembers, List.length_cons, List.length_append]
    omega

/-- What written members make of what was gathered before them. Each is read where a member may
stand: after its key, and with something behind it that does not go on with a number. -/
inductive Gathers (step : String → σ → List Char → Except Error (σ × List Char))
    (layout : Layout) (level : Nat) : List (String × Value) → σ → σ → Prop where
  /-- No members change nothing. -/
  | nil (gathered : σ) : Gathers step layout level [] gathered gathered
  /-- One member, and then the others. -/
  | cons {key : String} {value : Value} {members : List (String × Value)}
      {before between after : σ}
      (hstep : ∀ {rest}, EndsNumber rest →
        step key before (layout.colon ++ (value.write layout level ++ rest)) = .ok (between, rest))
      (hmembers : Gathers step layout level members between after) :
      Gathers step layout level ((key, value) :: members) before after

variable {step : String → σ → List Char → Except Error (σ × List Char)} {level : Nat}
  {members : List (String × Value)} {before after : σ}

/-- The further members of an object are gathered up to its end. -/
theorem Gathers.members_writeMembers (h : Gathers step layout level members before after)
    (hlayout : layout.Readable) {fuel : Nat} (hfuel : members.length < fuel)
    (hspace : IsSpace space) (rest : List Char) :
    Reader.members step fuel false before
        (writeMembers layout level members ++ (space ++ '\x7d' :: rest)) =
      .ok (after, space ++ '\x7d' :: rest) := by
  induction h generalizing fuel with
  | nil gathered =>
    obtain ⟨fuel, rfl⟩ := Nat.exists_eq_add_one_of_ne_zero (Nat.ne_of_gt hfuel)
    simp only [writeMembers, List.nil_append, Reader.members, nextKey_end false hspace,
      Except.ok_bind, Except.pure_eq_ok]
  | @cons key value members before between after hstep hmembers ih =>
    obtain ⟨fuel, rfl⟩ := Nat.exists_eq_add_one_of_ne_zero (Nat.ne_of_gt (Nat.zero_lt_of_lt hfuel))
    have hfurther := ih (Nat.lt_of_succ_lt_succ hfuel)
    -- the member may be a number, which must not go on into what follows it
    have hmember := hstep (endsNumber_writeMembers layout level members hspace rest)
    simp only [writeMembers, List.append_assoc, List.cons_append, writeString_append,
      Reader.members, nextKey_further (hlayout.separator level), Except.ok_bind, readString_flatMap,
      hmember, hfurther]

/-- A written object begins with a brace. Behind it, the members are gathered, and then the object
ends. -/
theorem Gathers.readObject_write
    (h : Gathers step layout (level + 1) members before after) (hlayout : layout.Readable)
    (rest : List Char) :
    ∃ text ending, (Value.object members).write layout level ++ rest = '\x7b' :: text ∧
      Reader.members step (text.length + 1) true before text = .ok (after, ending) ∧
      Reader.closeObject ending = .ok rest := by
  cases h with
  | nil gathered =>
    have hend := nextKey_end true isSpace_nil rest
    rw [List.nil_append] at hend
    refine ⟨'\x7d' :: rest, '\x7d' :: rest, by rw [Value.write]; rfl, ?_,
      closeObject_end isSpace_nil rest⟩
    simp only [Reader.members, hend, Except.ok_bind, Except.pure_eq_ok]
  | @cons key value members before between after hstep hmembers =>
    have hseparator := hlayout.separator
    refine ⟨layout.separator (level + 1) ++ (writeString key ++ (layout.colon ++
        (value.write layout (level + 1) ++ (writeMembers layout (level + 1) members ++
          (layout.separator level ++ '\x7d' :: rest))))),
      layout.separator level ++ '\x7d' :: rest, ?_, ?_, closeObject_end (hseparator level) rest⟩
    · simp only [Value.write, List.append_assoc, List.cons_append, List.nil_append]
    · have hmember := hstep
        (endsNumber_writeMembers layout (level + 1) members (hseparator level) rest)
      -- every further member takes a character, so that the document has enough of them
      have hcount := length_le_writeMembers layout (level + 1) members
      have hfurther (fuel : Nat) (hfuel : members.length < fuel) :=
        hmembers.members_writeMembers hlayout hfuel (hseparator level) rest
      rw [Reader.members, writeString_append, nextKey_first (hseparator (level + 1)),
        Except.ok_bind]
      simp only [readString_flatMap, Except.ok_bind, hmember]
      refine hfurther _ ?_
      simp only [List.length_append, List.length_cons]
      omega

/-! ### Rows -/

namespace Fields

variable {height : Nat}

/-- The keys of the fields. -/
def keys : Fields τs → List String
  | nil => []
  | cons field fields => field.key :: fields.keys

/-- Fields with different keys and lawful formats, of which none is left out in writing unless its
value is the one that stands for it then. -/
inductive Lawful (height : Nat) : {τs : List Type} → Fields τs → Prop where
  /-- No fields. -/
  | nil : Lawful height .nil
  /-- One field before others. -/
  | cons {field : Field τ} {fields : Fields τs} (hformat : field.format.Lawful height)
      (homitted : ∀ value, field.omitted value = true → field.absent = some value)
      (hkey : field.key ∉ fields.keys) (hfields : Lawful height fields) :
      Lawful height (.cons field fields)

/-- The values of a row that are written. -/
def written : (fields : Fields τs) → Row τs → Slots τs
  | nil, _ => ()
  | cons field fields, (value, row) =>
    (if field.omitted value then none else some value, fields.written row)

theorem mem_keys_of_mem_writeMembers {fields : Fields τs} {row : Row τs} {member : String × Value}
    (h : member ∈ fields.writeMembers row) : member.1 ∈ fields.keys := by
  induction fields with
  | nil => exact absurd h List.not_mem_nil
  | cons field fields ih =>
    obtain ⟨value, row⟩ := row
    rw [writeMembers] at h
    rw [keys]
    split at h
    · exact List.mem_cons_of_mem _ (ih h)
    · rcases List.mem_cons.1 h with rfl | h
      · exact List.mem_cons_self
      · exact List.mem_cons_of_mem _ (ih h)

/-- The values that are left out are completed. -/
theorem Lawful.complete_written {fields : Fields τs} (h : fields.Lawful height) (row : Row τs) :
    fields.complete (fields.written row) = .ok row := by
  induction h with
  | nil => rfl
  | @cons τ τs field fields hformat homitted hkey hfields ih =>
    obtain ⟨value, row⟩ := row
    -- a value that is left out is the one that stands for an absent member
    rw [written]
    by_cases hvalue : field.omitted value = true
    · simp only [hvalue, ↓reduceIte, complete, homitted value hvalue, ih, Except.ok_bind]
      rfl
    · simp only [hvalue, Bool.false_eq_true, ↓reduceIte, complete, ih, Except.ok_bind]
      rfl

/-- Members of later fields pass by the first one. -/
theorem gathers_cons {field : Field τ} {fields : Fields τs} {depth level : Nat}
    {members : List (String × Value)} {before after : Slots τs} (slot : Option τ)
    (h : Gathers (fun key slots document => fields.readMember depth key slots document) layout level
      members before after)
    (hkeys : ∀ member ∈ members, field.key ≠ member.1) :
    Gathers (fun key slots document => (cons field fields).readMember depth key slots document)
      layout level members (slot, before) (slot, after) := by
  induction h with
  | nil gathered => exact .nil _
  | @cons key value members before between after hstep hmembers ih =>
    -- as long as the key is another one, the slot of the first field stays as it is
    have hkey := hkeys _ List.mem_cons_self
    refine .cons ?_ (ih fun member hmember => hkeys member (List.mem_cons_of_mem _ hmember))
    intro rest hrest
    simp only [readMember, hkey, ↓reduceIte, hstep hrest, Except.ok_bind, Except.pure_eq_ok]

/-- The written members of a row fill its slots. -/
theorem Lawful.gathers_writeMembers {fields : Fields τs} (h : fields.Lawful height)
    (hlayout : layout.Readable) {depth : Nat} (hdepth : height ≤ depth) (level : Nat)
    (row : Row τs) :
    Gathers (fun key slots document => fields.readMember depth key slots document) layout level
      (fields.writeMembers row) fields.empty (fields.written row) := by
  induction h with
  | nil => exact .nil _
  | @cons τ τs field fields hformat homitted hkey hfields ih =>
    obtain ⟨value, row⟩ := row
    -- the keys of later fields are others, so that their members pass by this field
    have hother (member : String × Value) (hmember : member ∈ fields.writeMembers row) :
        field.key ≠ member.1 := fun hsame => hkey (hsame ▸ mem_keys_of_mem_writeMembers hmember)
    have hlater (slot : Option τ) := gathers_cons slot (ih row) hother
    rw [writeMembers, written]
    by_cases hvalue : field.omitted value = true
    · simp only [hvalue, ↓reduceIte]
      exact hlater none
    · simp only [hvalue, Bool.false_eq_true, ↓reduceIte]
      refine .cons ?_ (hlater (some value))
      intro rest hrest
      obtain ⟨after, hafter, hcolon⟩ :=
        readColon_colon hlayout ((field.format.write value).write layout level ++ rest)
      have hread := hformat.read_write hlayout hdepth value level hafter hrest
      simp only [empty, readMember, ↓reduceIte, hcolon, hread, Except.ok_bind, Except.pure_eq_ok]

/-- Rows are read back when their values are. -/
theorem Lawful.format {fields : Fields τs} (h : fields.Lawful height) (title : String) :
    (fields.format title).Lawful (height + 1) where
  read_write {layout} hlayout depth hdepth row level space rest hspace hrest := by
    obtain ⟨depth, rfl⟩ : ∃ inner, depth = inner + 1 :=
      Nat.exists_eq_add_one_of_ne_zero (Nat.ne_of_gt (Nat.zero_lt_of_lt hdepth))
    have hgathers := h.gathers_writeMembers hlayout (Nat.le_of_succ_le_succ hdepth) (level + 1) row
    -- one bracket is opened, and the members are read with one less
    obtain ⟨text, ending, htext, hmembers, hclose⟩ := hgathers.readObject_write hlayout rest
    simp only [Fields.format, read, htext, skipInsignificant_append hspace
      (show isInsignificant '\x7b' = false by decide), enter, Except.ok_bind, hmembers,
      h.complete_written, hclose, Except.pure_eq_ok]
  isExact _ _ _ hreal := nomatch hreal

end Fields

/-! ### Mappings -/

/-- Written entries of a mapping are inserted one after the other. -/
theorem gathers_mapping {format : Format α} {height depth : Nat} (h : format.Lawful height)
    (hlayout : layout.Readable) (hdepth : height ≤ depth) (level : Nat)
    (insert : String → α → σ → σ) (entries : List (String × α)) (gathered : σ) :
    Gathers (fun key gathered document => do
        let document ← readColon document
        let (value, document) ← format.read depth document
        return (insert key value gathered, document))
      layout level (entries.map fun (key, value) => (key, format.write value)) gathered
      (entries.foldl (fun gathered entry => insert entry.1 entry.2 gathered) gathered) := by
  induction entries generalizing gathered with
  | nil => exact .nil _
  | cons entry entries ih =>
    obtain ⟨key, value⟩ := entry
    -- what is gathered so far has to be arbitrary: each entry is inserted into another mapping
    refine .cons ?_ (ih (insert key value gathered))
    intro rest hrest
    obtain ⟨after, hafter, hcolon⟩ :=
      readColon_colon hlayout ((format.write value).write layout level ++ rest)
    have hread := h.read_write hlayout hdepth value level hafter hrest
    simp only [hcolon, hread, Except.ok_bind, Except.pure_eq_ok]

/-- The entries of a mapping are read back, each inserted after those before it. -/
theorem mapping_write {format : Format α} {height depth : Nat} (h : format.Lawful height)
    (hlayout : layout.Readable) (hdepth : height + 1 ≤ depth) (level : Nat) (empty : σ)
    (insert : String → α → σ → σ) (entries : List (String × α)) (hspace : IsSpace space)
    (rest : List Char) :
    Reader.mapping format.read empty insert depth (space ++
        ((Value.object (entries.map fun (key, value) => (key, format.write value))).write layout
          level ++ rest)) =
      .ok (entries.foldl (fun gathered entry => insert entry.1 entry.2 gathered) empty, rest) := by
  obtain ⟨depth, rfl⟩ : ∃ inner, depth = inner + 1 :=
    Nat.exists_eq_add_one_of_ne_zero (Nat.ne_of_gt (Nat.zero_lt_of_lt hdepth))
  -- one bracket is opened, and the entries are read with one less
  have hgathers := gathers_mapping h hlayout (Nat.le_of_succ_le_succ hdepth) (level + 1) insert
    entries empty
  obtain ⟨text, ending, htext, hmembers, hclose⟩ := hgathers.readObject_write hlayout rest
  simp only [Reader.mapping, htext, skipInsignificant_append hspace
    (show isInsignificant '\x7b' = false by decide), enter, Except.ok_bind]
  rw [hmembers]
  simp only [Except.ok_bind, hclose, Except.pure_eq_ok]

/-! ### Documents -/

/-- A document that holds a value and nothing else gives the value. -/
theorem Format.Lawful.parse_write {format : Format α} {height : Nat} (h : format.Lawful height)
    (hlayout : layout.Readable) (hheight : height ≤ depthLimit) (value : α) :
    format.parse (String.ofList ((format.write value).write layout 0)) = .ok value := by
  have hread := h.read_write hlayout hheight value 0 isSpace_nil endsNumber_nil
  rw [List.nil_append, List.append_nil] at hread
  simp only [Format.parse, Reader.run, String.toList_ofList, hread, Except.ok_bind,
    skipInsignificant, List.dropWhile_nil, List.isEmpty_nil, ↓reduceIte, Except.pure_eq_ok]

end Json

end Lifecycle
