import ModuleSharing.Registry.History

/-!
# Traces

An operation is a call on a registry or a query.  A trace records the operations of a run, each with
its response and the warnings it added.
-/

namespace ModuleSharing

/-- A question about one address, which changes nothing. -/
inductive Query where
  | entry (a : Address) (version : Version)
  | versions (a : Address)
  | activated (a : Address)

inductive Operation (μ : Type) where
  | call (c : Call μ)
  | query (q : Query)

inductive Response (μ : Type) where
  | reply (reply : Reply μ)
  | entry (found : Option (Entry μ))
  | versions (versions : List Version)
  | activated (version : Option Version)

/-- The address a query is about. -/
def Query.address : Query → Address
  | entry a _ => a
  | versions a => a
  | activated a => a

/-- The address an operation is about. -/
def Operation.address {μ : Type} : Operation μ → Address
  | call c => c.address
  | query q => q.address

/-- An operation with its response and the warnings it added. -/
structure Event (μ : Type) where
  operation : Operation μ
  response : Response μ
  warnings : List String

namespace Registry

variable {μ : Type}

/-- The versions registered for an address, in ascending precedence. -/
def versions (r : Registry μ) (a : Address) : List Version := (r.entries a).map Entry.version

/-- Answers one query. -/
def ask (r : Registry μ) : Query → Response μ
  | .entry a version => .entry (r.entry? a version)
  | .versions a => .versions (r.versions a)
  | .activated a => .activated (r.activated? a)

/-- Answers one operation. -/
def operate (r : Registry μ) : Operation μ → Response μ × Registry μ
  | .call c => (.reply (r.perform c).1, (r.perform c).2)
  | .query q => (r.ask q, r)

/-- Records one operation. -/
def event (r : Registry μ) (x : Operation μ) : Event μ where
  operation := x
  response := (r.operate x).1
  warnings := (r.operate x).2.warnings.drop r.warnings.length

/-- Answers operations one by one and records them. -/
def trace (r : Registry μ) : List (Operation μ) → List (Event μ) × Registry μ
  | [] => ([], r)
  | x :: operations =>
    let (events, last) := trace (r.operate x).2 operations
    (r.event x :: events, last)

end Registry

end ModuleSharing
