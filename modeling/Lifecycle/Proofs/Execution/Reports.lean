import Lifecycle.Execution.Report
import Lifecycle.Proofs.Document.Snapshot

/-!
# Error reports lose nothing

A report is made of the text of an error and of the texts of everything that caused it. Causes form
a chain of any length, along which `Cause.ancestor?` goes step by step. The module shows that nothing
is lost on the way from an error to what is read off a record:

* `Fault.getElem?_causes` — the causes that are reported are those of the chain, in their order;
* `Cause.texts_across` — a failure that crosses executions keeps what was reported within each;
* `ErrorReport.ofRecord?_setAttribute` — a report is read back from the attribute of a record.

The main result `ErrorReport.lossless` puts these together.
-/

namespace Lifecycle

namespace Cause

variable {cause : Cause}

/-- The error that is reached by going from causes to their sources for some steps. -/
def ancestor? : Nat → Cause → Option Cause
  | 0, cause => some cause
  | steps + 1, cause => cause.source?.bind (ancestor? steps)

/-- The texts of a chain are those of the errors in it, each at its distance. -/
theorem getElem?_texts (cause : Cause) (steps : Nat) :
    cause.texts[steps]? = (cause.ancestor? steps).map message := by
  induction cause generalizing steps with
  | root text =>
    rcases steps with _ | steps
    · rfl
    · rfl
  | because text source ih =>
    rcases steps with _ | steps
    · rfl
    · -- behind its head, the chain is that of the source
      rw [texts, List.getElem?_cons_succ, ih steps]
      rfl

/-- The error as a cause of others that bring these texts, the outermost first. -/
def wrap : List String → Cause → Cause
  | [], cause => cause
  | text :: texts, cause => .because text (cause.wrap texts)

theorem texts_wrap (texts : List String) (cause : Cause) :
    (cause.wrap texts).texts = texts ++ cause.texts := by
  induction texts with
  | nil => rfl
  | cons text texts ih => rw [wrap, Cause.texts, ih, List.cons_append]

end Cause

namespace Fault

variable {ε : Type u} [Fault ε] (error : ε)

theorem texts_asCause : (asCause error).texts = message error :: causes error := by
  rw [asCause, causes]
  rcases source? error with _ | source
  · rfl
  · rfl

/-- A cause is seen from outside as what it is. -/
@[simp]
theorem asCause_cause (cause : Cause) : asCause cause = cause := by
  rcases cause with text | ⟨text, source⟩
  · rfl
  · rfl

/-- The causes of an error are its direct cause, the cause of that, and so on down to the root. -/
theorem getElem?_causes (steps : Nat) :
    (causes error)[steps]? =
      ((source? error).bind (Cause.ancestor? steps)).map Cause.message := by
  rw [causes]
  rcases source? error with _ | source
  · rfl
  · exact Cause.getElem?_texts source steps

end Fault

namespace ExecutionError

variable {ε : Type u} [Fault ε]

/-- A failed operation is the cause of the failure, followed by its own causes. -/
theorem causes_operationFailure (transition : String) (error : ε) :
    Fault.causes (operationFailure transition error) = Fault.message error :: Fault.causes error :=
  Fault.texts_asCause error

/-- Nothing caused a refusal. -/
theorem causes_invalidTransition (rejected : InvalidTransition) :
    Fault.causes (invalidTransition (ε := ε) rejected) = [] := rfl

end ExecutionError

/-! ### Failures that cross executions -/

/-- An execution that a failure crosses on its way out. -/
structure Crossing where
  /-- The transition that fails. -/
  transition : String
  /-- The texts that its operation puts around what failed within, the outermost first. -/
  wrapping : List String

namespace Crossing

/-- What an execution returns whose operation failed because of something within. -/
def failure (crossing : Crossing) (within : Cause) : ExecutionError Cause :=
  .operationFailure crossing.transition (within.wrap crossing.wrapping)

/-- What an execution adds to the texts of something that failed within. -/
def texts (crossing : Crossing) (within : Cause) : List String :=
  ("Transition '" ++ crossing.transition ++ "' failed: " ++
    (within.wrap crossing.wrapping).message) :: crossing.wrapping

end Crossing

namespace Cause

/-- The failure that comes out of executions within one another, the outermost first. -/
def across : List Crossing → Cause → Cause
  | [], origin => origin
  | crossing :: within, origin => Fault.asCause (crossing.failure (origin.across within))

/-- What each of the executions adds, the outermost first. -/
def additions : List Crossing → Cause → List (List String)
  | [], _ => []
  | crossing :: within, origin =>
    crossing.texts (origin.across within) :: origin.additions within

/-- One execution puts its own texts in front of those of what failed within. -/
theorem texts_failure (crossing : Crossing) (within : Cause) :
    (Fault.asCause (crossing.failure within)).texts = crossing.texts within ++ within.texts := by
  have hwrapped : Fault.message (within.wrap crossing.wrapping) ::
      Fault.causes (within.wrap crossing.wrapping) = crossing.wrapping ++ within.texts := by
    rw [← Fault.texts_asCause, Fault.asCause_cause, texts_wrap]
  rw [Fault.texts_asCause, Crossing.failure, ExecutionError.causes_operationFailure, hwrapped]
  rfl

theorem texts_across (crossings : List Crossing) (origin : Cause) :
    (origin.across crossings).texts = (origin.additions crossings).flatten ++ origin.texts := by
  induction crossings with
  | nil => rfl
  | cons crossing within ih =>
    rw [across, texts_failure, ih, additions, List.flatten_cons, List.append_assoc]

/-- Each execution that was crossed adds something. -/
theorem length_additions (crossings : List Crossing) (origin : Cause) :
    (origin.additions crossings).length = crossings.length := by
  induction crossings with
  | nil => rfl
  | cons crossing within ih => rw [additions, List.length_cons, ih, List.length_cons]

end Cause

/-! ### Reports -/

namespace ErrorReport

/-- All texts of a report, that of the error first. -/
def texts (report : ErrorReport) : List String :=
  report.message :: report.causes

theorem texts_ofFault {ε : Type u} [Fault ε] (error : ε) :
    (ofFault error).texts = (Fault.asCause error).texts :=
  (Fault.texts_asCause error).symm

/-- Reports are read back. -/
theorem lawful_format : format.Lawful 2 := by
  have hfields : fields.Lawful 1 := by
    refine .field ?_ (Json.Format.lawful_string.mono (by decide)) (by decide) fun _ => rfl
    refine .field ?_ Json.Format.lawful_string.list (by decide) fun _ => rfl
    exact .nil
  exact (hfields.format "struct ErrorReport").transfer fun _ => rfl

theorem parse_text (report : ErrorReport) : format.parse report.text = .ok report :=
  lawful_format.parse_write Json.Layout.readable_compact (by decide) report

/-- A record whose attribute holds the text of a report gives the report. -/
theorem ofRecord?_of_error? {record : Record} {report : ErrorReport}
    (herror : record.error? = some report.text) : ofRecord? record = some report := by
  rw [ofRecord?, herror, Option.bind_some, parse_text]
  rfl

/-- A report that is written into the attribute of a record is read back from there. -/
theorem ofRecord?_setAttribute (record : Record) (report : ErrorReport) :
    ofRecord? (record.setAttribute Record.errorAttribute report.text) = some report := by
  apply ofRecord?_of_error?
  show (record.attributes.insert Record.errorAttribute report.text).get? Record.errorAttribute = _
  rw [Attributes.get?_insert, if_pos rfl]

/-- A report has the text of an error and those of all its causes, from the direct one to the root,
each once. The error of a failed operation, and everything that caused it, comes behind the text of
the failure, while nothing caused a refusal; so the report on a failure that crossed executions is
what each of them added, in front of what went wrong in the first place. Written into a record, any
report is read back. -/
theorem lossless :
    (∀ (ε : Type u) [Fault ε] (error : ε),
      (ofFault error).message = Fault.message error ∧
      ∀ steps, (ofFault error).causes[steps]? =
        ((Fault.source? error).bind (Cause.ancestor? steps)).map Cause.message) ∧
    (∀ (ε : Type u) [Fault ε] (transition : String) (error : ε),
      (ofFault (ExecutionError.operationFailure transition error)).message =
        "Transition '" ++ transition ++ "' failed: " ++ Fault.message error ∧
      (ofFault (ExecutionError.operationFailure transition error)).causes =
        Fault.message error :: (ofFault error).causes) ∧
    (∀ (ε : Type u) [Fault ε] (rejected : InvalidTransition),
      (ofFault (ExecutionError.invalidTransition (ε := ε) rejected)).causes = []) ∧
    (∀ (crossings : List Crossing) (origin : Cause),
      (origin.additions crossings).length = crossings.length ∧
      (ofFault (origin.across crossings)).texts =
        (origin.additions crossings).flatten ++ (ofFault origin).texts) ∧
    ∀ (record : Record) (report : ErrorReport),
      ofRecord? (record.setAttribute "error" report.text) = some report := by
  refine ⟨?_, ?_, ?_, ?_, ofRecord?_setAttribute⟩
  · intro ε _ error
    exact ⟨rfl, fun steps => Fault.getElem?_causes error steps⟩
  · intro ε _ transition error
    exact ⟨rfl, ExecutionError.causes_operationFailure transition error⟩
  · intro ε _ rejected
    exact ExecutionError.causes_invalidTransition (ε := ε) rejected
  · intro crossings origin
    refine ⟨Cause.length_additions crossings origin, ?_⟩
    rw [texts_ofFault, texts_ofFault, Fault.asCause_cause, Fault.asCause_cause,
      Cause.texts_across]

/-- A payment fails within a nested execution, whose host says so in its own words. -/
example :
    let declined : Cause := .because "Payment failed" (.root "card declined")
    let failure := declined.across [⟨"confirm", ["nested"]⟩, ⟨"pay", []⟩]
    (ofFault failure).texts =
      ["Transition 'confirm' failed: nested", "nested",
       "Transition 'pay' failed: Payment failed", "Payment failed", "card declined"] := rfl

end ErrorReport

end Lifecycle
