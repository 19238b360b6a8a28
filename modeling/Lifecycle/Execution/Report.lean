import Lifecycle.Execution.Fault
import Lifecycle.Json.Format

/-!
# Error reports

A report keeps the text of an error and of everything that caused it. Recovery leaves one, written
as a document, in the `error` attribute of the record.
-/

namespace Lifecycle

open Json (Fields Format)

/-- The text of an error and of everything that caused it. -/
structure ErrorReport where
  /-- The text of the error. -/
  message : String
  /-- The texts of its causes, from the direct cause to the root. -/
  causes : List String
deriving DecidableEq, Repr

namespace ErrorReport

/-- Report an error. -/
def ofFault [Fault ε] (error : ε) : ErrorReport where
  message := Fault.message error
  causes := Fault.causes error

/-- The fields of a report. -/
def fields : Fields [String, List String] :=
  .cons { key := "message", format := .string } <|
  .cons { key := "causes", format := .list .string } .nil

/-- The format of reports. -/
def format : Format ErrorReport :=
  (fields.format "struct ErrorReport").transfer (fun (message, causes, _) => { message, causes })
    (fun report => (report.message, report.causes, ()))

/-- The report as a document. -/
def text (report : ErrorReport) : String :=
  format.compact report

/-- The report that recovery left on a record. -/
def ofRecord? (record : Record) : Option ErrorReport :=
  record.error?.bind fun document => (format.parse document).toOption

end ErrorReport

end Lifecycle
