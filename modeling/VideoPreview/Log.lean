/-!
What the library says about its own work, with a severity and named fields.
-/
namespace VideoPreview

inductive Severity where
  | error
  | warn
  | debug
  | trace
  deriving DecidableEq, Repr

namespace Severity

def text : Severity → String
  | error => "ERROR"
  | warn => "WARN"
  | debug => "DEBUG"
  | trace => "TRACE"

def rank : Severity → Nat
  | error => 0
  | warn => 1
  | debug => 2
  | trace => 3

def atLeast (s limit : Severity) : Bool := s.rank ≤ limit.rank

end Severity

structure LogEntry where
  severity : Severity
  message : String
  fields : List (String × String)
  deriving DecidableEq, Repr

namespace LogEntry

def text (e : LogEntry) : String :=
  String.intercalate " " (e.severity.text :: e.message :: e.fields.map fun f => s!"{f.1}={f.2}")

def surfacing (queue failure : String) : LogEntry :=
  ⟨.debug, "async work failed, surfacing on main queue", [("queue", queue), ("failure", failure)]⟩

def unhandled (failure : String) : LogEntry :=
  ⟨.error, "unhandled failure in asynchronous work", [("failure", failure)]⟩

end LogEntry
end VideoPreview
