import Lifecycle.Config
import Lifecycle.Proofs.Document.Transition

/-!
# Descriptions of machines survive as documents

The formats of edges and configurations are lawful, although absent options are not written and the
start of an edge does not say of which kind it is. So a configuration is read back from its text,
and whatever document describes a machine can be replaced by the text of what was read from it.
-/

namespace Lifecycle

open Json (Format Layout Value)

namespace Config

variable {config : Config} {document : String}

namespace Origin

theorem strings?_map (names : List String) : strings? (names.map .string) = some names := by
  induction names with
  | nil => rfl
  | cons name names ih =>
    rw [strings?] at ih ⊢
    rw [List.map_cons, List.mapM_cons, ih]
    rfl

/-- What is written for a start of edges says which one it is. -/
theorem ofValue_write (origin : Origin) : ofValue (format.write origin) = .ok origin := by
  cases origin with
  | one name => rfl
  | many names =>
    simp only [format, ofValue, strings?_map]
    rfl

theorem lawful_format : Origin.format.Lawful 1 where
  read_write {layout} hlayout depth hdepth origin level space rest hspace _ := by
    obtain ⟨depth, rfl⟩ := Nat.exists_eq_add_one.2 (Nat.zero_lt_of_lt hdepth)
    -- the value is found whatever it is, and then understood
    have hvalue : Json.Reader.any (depth + 1)
        (space ++ ((format.write origin).write layout level ++ rest)) =
          .ok (format.write origin, rest) := by
      cases origin with
      | one name =>
        simp only [format, Value.write]
        exact Format.any_string (depth + 1) name hspace rest
      | many names => exact Format.any_strings hlayout depth level names hspace rest
    have hmeant := ofValue_write origin
    simp only [format] at hvalue hmeant ⊢
    simp only [hvalue, Except.ok_bind, hmeant, Except.pure_eq_ok]
  isExact origin := by
    intro negative magnitude hreal
    cases origin with
    | one name => cases hreal
    | many names => cases hreal

end Origin

theorem Edge.lawful_format : Edge.format.Lawful 2 := by
  have hfields : fields.Lawful 1 := by
    refine .field ?_ (Format.lawful_string.mono (by decide)) (by decide) fun _ => rfl
    refine .field ?_ Origin.lawful_format (by decide) fun _ => rfl
    refine .field ?_ (Format.lawful_string.mono (by decide)) (by decide) fun _ => rfl
    exact .nil
  exact (hfields.format "struct TransitionConfig").transfer fun _ => rfl

theorem lawful_format : format.Lawful 4 := by
  have hstrings : (Format.list Format.string).Lawful 3 := Format.lawful_string.list.mono (by decide)
  have hstring : (Format.nullable Format.string).Lawful 3 :=
    (Format.lawful_string.nullable fun _ h => nomatch h).mono (by decide)
  have hnone {τ : Type} (value : Option τ) (h : value.isNone = true) : some none = some value := by
    rw [Option.isNone_iff_eq_none.1 h]
  -- what is left out in writing is what stands for an absent member in reading
  have hfields : fields.Lawful 3 := by
    refine .cons (hstrings.nullable fun _ h => nomatch h) hnone (by decide) ?_
    refine .field ?_ hstrings (by decide) fun _ => rfl
    refine .field ?_ hstrings (by decide) fun _ => rfl
    refine .cons hstring hnone (by decide) ?_
    refine .cons hstring hnone (by decide) ?_
    refine .field ?_ (Format.lawful_boolean.mono (by decide)) (by decide) fun _ => rfl
    refine .field ?_ Edge.lawful_format.list (by decide) fun _ => rfl
    exact .nil
  exact (hfields.format "struct StateMachineConfig").transfer fun _ => rfl

/-- A configuration is read back from its text. -/
theorem parse_text (config : Config) : parse config.text = .ok config :=
  lawful_format.parse_write Layout.readable_indented (by decide) config

theorem text_injective : Function.Injective text := by
  intro config other htext
  have hother := parse_text other
  rw [← htext, parse_text config] at hother
  exact Except.ok.inj hother

/-- A document is loaded as the configuration that is read from it is built. -/
theorem load_eq_of_parse (hparse : parse document = .ok config) :
    load document = config.build.mapError .invalid := by
  rw [load, hparse]
  dsimp only
  cases config.build <;> rfl

/-- Descriptions of machines survive as documents. A configuration is read back from its text, and
so is a transition from its own, with or without white space, in which its source is the word or an
object of the states. What is read back makes the same machine or has the same defects. So different
configurations have different texts, and a document that is accepted means what the text of its
configuration means. -/
theorem survives_text :
    (∀ config : Config, parse config.text = .ok config ∧
      (∀ reparsed, parse config.text = .ok reparsed → reparsed.build = config.build) ∧
      load config.text = config.build.mapError .invalid) ∧
    (∀ transition : Transition,
      Transition.format.parse (Transition.format.compact transition) = .ok transition ∧
        Transition.format.parse (Transition.format.indented transition) = .ok transition) ∧
    (∀ source : Source, Source.format.compact source = String.ofList
      (match source with
      | .any => Json.writeString "any"
      | .states listed => Wire.Document.object [Wire.Document.member "states"
          (Wire.Document.list (listed.map fun state => Json.writeString state.name))])) ∧
    Function.Injective text ∧
    ∀ document config, parse document = .ok config →
      parse config.text = .ok config ∧ load config.text = load document := by
  refine ⟨fun config => ⟨parse_text config, ?_, load_eq_of_parse (parse_text config)⟩,
    fun transition => ⟨?_, ?_⟩, Source.compact_eq, text_injective, ?_⟩
  · intro reparsed hreparsed
    obtain rfl := Except.ok.inj ((parse_text config).symm.trans hreparsed)
    rfl
  · exact transition.parse_write Layout.readable_compact
  · exact transition.parse_write Layout.readable_indented
  · intro document config hparse
    refine ⟨parse_text config, ?_⟩
    rw [load_eq_of_parse (parse_text config), load_eq_of_parse hparse]

/-- A document with its members in another order, an option that is absent and a member that nobody
asked for. -/
theorem survives_text_delivery :
    let document := "\x7b \"transitions\": [\x7b\"to\": \"an\\u0067ekommen\", " ++
      "\"from\": [\"*\", \"b\"], \"name\": \"sag \\\"für\\\"\"\x7d], " ++
      "\"error_state\": null, \"comment\": 3 \x7d"
    let edge : Edge :=
      { name := "sag \"für\"", origin := .many ["*", "b"], target := "angekommen" }
    let config : Config := { transitions := [edge] }
    parse document = .ok config ∧ parse config.text = .ok config ∧
      load config.text = load document := by
  intro document edge config
  obtain ⟨-, -, -, -, hdocuments⟩ := survives_text
  have hparse : parse document = .ok config := by decide +kernel
  exact ⟨hparse, hdocuments document config hparse⟩

end Config

end Lifecycle
