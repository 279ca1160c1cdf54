/-!
# Diagnostics

What is shown to a user about a failure: the message, the file it concerns, lines of context and
numbered suggestions.
-/

namespace ModuleSharing

inductive Severity where
  | error
  | warning
deriving DecidableEq, Repr

/-- The text of the sign that starts a terminal colour. -/
private def coloured (code text : String) : String :=
  "\x1b[1;" ++ code ++ "m" ++ text ++ "\x1b[0m"

namespace Severity

def name : Severity → String
  | error => "error"
  | warning => "warning"

def colour : Severity → String
  | error => "31"
  | warning => "33"

end Severity

structure Diagnostic where
  severity : Severity
  message : String
  context : List String := []
  suggestions : List String := []
  location : Option String := none
deriving DecidableEq, Repr

namespace Diagnostic

private def numbered : Nat → List String → List String
  | _, [] => []
  | n, s :: rest => ("  " ++ toString n ++ ". " ++ s ++ "\n") :: numbered (n + 1) rest

private def help (d : Diagnostic) (color : Bool) : String :=
  if d.suggestions.isEmpty then ""
  else "\n" ++ (if color then coloured "32" "help" else "help") ++ ": consider:\n" ++
    String.join (numbered 1 d.suggestions)

/-- The lines for a terminal, each ended by a line break. -/
def format (d : Diagnostic) (color : Bool) : String :=
  (if color then coloured d.severity.colour d.severity.name else d.severity.name) ++ ": " ++
    d.message ++ "\n" ++
    (d.location.elim "" fun path => "  --> " ++ path ++ "\n") ++
    String.join (d.context.map fun line => "  = " ++ line ++ "\n") ++
    help d color

end Diagnostic

end ModuleSharing
