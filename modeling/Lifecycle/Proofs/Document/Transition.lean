import Lifecycle.Document.Transition
import Lifecycle.Proofs.Document.Snapshot
import Lifecycle.Proofs.Snapshot.Wire

/-!
# Transitions survive as documents

A source is a word or an object of a single member, and is read back in every layout. So the text of
a transition gives the transition.
-/

namespace Lifecycle

open Json (EndsNumber Format IsSpace Layout Value endsNumber_append endsNumber_cons readColon_colon
  readString_flatMap skipInsignificant_append writeString_append)
open Text (isInsignificant)

namespace Source

variable {layout : Layout} {space rest : List Char}

/-- A source without white space: the word, or the states under their key. -/
theorem compact_eq (source : Source) : Source.format.compact source = String.ofList
    (match source with
    | any => Json.writeString "any"
    | states listed => Wire.Document.object [Wire.Document.member "states"
        (Wire.Document.list (listed.map fun state => Json.writeString state.name))]) := by
  cases source with
  | any => simp only [Format.compact, Value.compact, format, write, Wire.Document.write_string]
  | states listed =>
    have hstate (state : State) : State.format.write state = .string state.name := rfl
    simp only [Format.compact, Value.compact, format, write, Wire.Document.write_object,
      Wire.Document.write_array, List.map_cons, List.map_nil, List.map_map, Function.comp_def,
      hstate, Wire.Document.write_string]

theorem closeSingle_end (hspace : IsSpace space) (rest : List Char) :
    closeSingle (space ++ '\x7d' :: rest) = .ok rest := by
  simp only [closeSingle,
    skipInsignificant_append hspace (show isInsignificant '\x7d' = false by decide), ↓reduceIte]

/-- The states under their key are read back. -/
theorem readContent_states (hlayout : layout.Readable) {depth : Nat} (hdepth : 1 ≤ depth)
    (level : Nat) (listed : List State) (hrest : EndsNumber rest) :
    readContent "states" depth (layout.colon ++
        ((Value.array (listed.map State.format.write)).write layout level ++ rest)) =
      .ok (states listed, rest) := by
  obtain ⟨after, hafter, hcolon⟩ := readColon_colon hlayout
    ((Value.array (listed.map State.format.write)).write layout level ++ rest)
  have hlist := State.lawful_format.list.read_write hlayout hdepth listed level hafter hrest
  simp only [Format.list] at hlist
  simp only [readContent, show "states" ≠ "any" by decide, ↓reduceIte, hcolon, Except.ok_bind,
    hlist, Except.pure_eq_ok]

theorem lawful_format : Source.format.Lawful 2 where
  read_write {layout} hlayout depth hdepth source level space rest hspace hrest := by
    have hquote : isInsignificant '"' = false := by decide
    have hbrace : isInsignificant '\x7b' = false := by decide
    cases source with
    | any =>
      simp only [format, read, write, Value.write, writeString_append,
        skipInsignificant_append hspace hquote, readString_flatMap, Except.ok_bind, ↓reduceIte,
        Except.pure_eq_ok]
    | states listed =>
      obtain ⟨depth, rfl⟩ := Nat.exists_eq_add_one.2 (Nat.zero_lt_of_lt hdepth)
      -- one bracket is opened for the object, and one more for the array
      have hseparator := hlayout.separator
      have hending : EndsNumber (layout.separator level ++ '\x7d' :: rest) :=
        endsNumber_append (hseparator level) (endsNumber_cons (by decide))
      have hcontent := readContent_states hlayout (Nat.le_of_succ_le_succ hdepth) (level + 1) listed
        hending
      simp only [format, read, write, Value.write, Json.writeMembers, List.append_assoc,
        List.cons_append, List.nil_append, skipInsignificant_append hspace hbrace, Json.enter,
        Except.ok_bind, writeString_append,
        skipInsignificant_append (hseparator (level + 1)) hquote, readString_flatMap, hcontent,
        closeSingle_end (hseparator level), Except.pure_eq_ok]
  isExact source := by
    intro negative magnitude hreal
    cases source with
    | any => cases hreal
    | states listed => cases hreal

end Source

namespace Transition

theorem lawful_format : Transition.format.Lawful 3 := by
  have hfields : fields.Lawful 2 := by
    refine .field ?_ (Format.lawful_string.mono (by decide)) (by decide) fun _ => rfl
    refine .field ?_ Source.lawful_format (by decide) fun _ => rfl
    refine .field ?_ (State.lawful_format.mono (by decide)) (by decide) fun _ => rfl
    exact .nil
  exact (hfields.format "struct TransitionDefinition").transfer fun _ => rfl

/-- A transition is read back from its text in every layout. -/
theorem parse_write {layout : Layout} (hlayout : layout.Readable) (transition : Transition) :
    Transition.format.parse
        (String.ofList ((Transition.format.write transition).write layout 0)) = .ok transition :=
  lawful_format.parse_write hlayout (by decide) transition

end Transition

end Lifecycle
