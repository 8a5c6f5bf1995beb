import LateBinding.Calling.Error
import LateBinding.Descriptor.Error
import LateBinding.Json.Printer
import LateBinding.Loading.Error

/-!
# Reports

An error of any phase, and the report of it: the phase, the kind, the member concerned and the
message.  A report prints as one line for people or as JSON for tools.
-/

namespace LateBinding

/-- An error of any phase. -/
inductive EngineError where
  /-- A type cannot be built. -/
  | build (error : BuildError)
  /-- A module cannot be stored. -/
  | store (error : StoreError)
  /-- A module cannot be loaded. -/
  | load (error : LoadError)
  /-- A call fails. -/
  | call (error : CallError)
  /-- The settings cannot be used. -/
  | settings (description : String)
  deriving DecidableEq, Repr, Inhabited

namespace EngineError

/-- The phase in which an error arose. -/
def phase : EngineError → String
  | build error => error.phase
  | store _ => "store"
  | load _ => "loader"
  | call _ => "bridge"
  | settings _ => "config"

/-- The kind of an error. -/
def kind : EngineError → String
  | build error => error.kind
  | store error => error.kind
  | load error => error.kind
  | call error => error.kind
  | settings _ => "Config"

/-- The member that an error is about. -/
def member? : EngineError → Option String
  | build error => error.member?
  | call error => error.member?
  | _ => none

/-- The message of an error. -/
def message : EngineError → String
  | build error => error.message
  | store error => error.message
  | load error => error.message
  | call error => error.message
  | settings description => s!"Config error: {description}"

end EngineError

/-- What is told about an error. -/
structure Report where
  /-- The phase in which the error arose. -/
  phase : String
  /-- The kind of the error. -/
  kind : String
  /-- The member that the error is about. -/
  member : Option String
  /-- The message. -/
  message : String
  deriving DecidableEq, Repr, Inhabited

/-- The report of an error. -/
def EngineError.report (error : EngineError) : Report where
  phase := error.phase
  kind := error.kind
  member := error.member?
  message := error.message

namespace Report

/-- The report as a line for people. -/
def text (report : Report) : String :=
  s!"[{report.phase}] {report.kind}: {report.message}"

/-- The report without the kind. -/
def brief (report : Report) : String :=
  s!"{report.phase}: {report.message}"

/-- The report as JSON; the member is left out when there is none. -/
def json (report : Report) : Json :=
  .ofEntries
    ([("phase", .ofText report.phase), ("error_kind", .ofText report.kind)] ++
      (report.member.toList.map fun member => ("member", .ofText member)) ++
      [("message", .ofText report.message)])

end Report
end LateBinding
