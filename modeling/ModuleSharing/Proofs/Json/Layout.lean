import ModuleSharing.Json.Printer
import ModuleSharing.Json.Reader

/-! A text of a value is laid out with blanks where a reader skips them.  `Layout.lay` writes a
value with the blanks of a layout; the compact text and the indented one are its two cases
(`lay_compact`, `lay_pretty`). -/

namespace ModuleSharing.Json

/-- Characters that a reader skips between the parts of a text. -/
def Blank (cs : List Char) : Prop := ∀ c ∈ cs, isGap c = true

theorem blank_nil : Blank [] := List.forall_mem_nil _

/-- The blanks of a text. -/
structure Layout where
  /-- In front of what stands inside so many arrays and objects. -/
  indent : Nat → List Char
  /-- After a colon. -/
  space : List Char
  blank_indent : ∀ depth, Blank (indent depth)
  blank_space : Blank space

namespace Layout

def compact : Layout where
  indent _ := []
  space := []
  blank_indent _ := blank_nil
  blank_space := blank_nil

def pretty : Layout where
  indent depth := '\n' :: List.replicate (2 * depth) ' '
  space := [' ']
  blank_indent depth := by
    intro c hc
    rcases List.mem_cons.mp hc with rfl | hc
    · rfl
    · rw [List.eq_of_mem_replicate hc]
      rfl
  blank_space := List.forall_mem_singleton.mpr rfl

variable (l : Layout)

mutual

/-- Writes a value that stands inside `depth` arrays and objects, in front of what follows. -/
def lay (depth : Nat) : Json → List Char → List Char
  | array (x :: xs), rest =>
    '[' :: (l.indent (depth + 1) ++
      lay (depth + 1) x (layItems depth xs (l.indent depth ++ ']' :: rest)))
  | object ((k, x) :: xs), rest =>
    '{' :: (l.indent (depth + 1) ++ writeString k (':' :: (l.space ++
      lay (depth + 1) x (layMembers depth xs (l.indent depth ++ '}' :: rest)))))
  | j, rest => j.write rest
termination_by structural j => j

/-- The items after the first. -/
def layItems (depth : Nat) : List Json → List Char → List Char
  | [], rest => rest
  | x :: xs, rest => ',' :: (l.indent (depth + 1) ++ lay (depth + 1) x (layItems depth xs rest))
termination_by structural j => j

/-- The members after the first. -/
def layMembers (depth : Nat) : List (String × Json) → List Char → List Char
  | [], rest => rest
  | (k, x) :: xs, rest =>
    ',' :: (l.indent (depth + 1) ++ writeString k (':' :: (l.space ++
      lay (depth + 1) x (layMembers depth xs rest))))
termination_by structural j => j

end

/-! ## The two texts of a value -/

mutual

theorem lay_compact (depth : Nat) (j : Json) (rest : List Char) :
    compact.lay depth j rest = j.write rest := by
  cases j with
  | array items =>
    cases items with
    | nil => rfl
    | cons x xs =>
      rw [lay, lay_compact, layItems_compact]
      rfl
  | object members =>
    match members with
    | [] => rfl
    | (k, x) :: xs =>
      rw [lay, lay_compact, layMembers_compact]
      rfl
  | _ => rfl
termination_by structural j

theorem layItems_compact (depth : Nat) (xs : List Json) (rest : List Char) :
    compact.layItems depth xs rest = writeItems xs rest := by
  cases xs with
  | nil => rfl
  | cons x xs =>
    rw [layItems, lay_compact, layItems_compact]
    rfl
termination_by structural xs

theorem layMembers_compact (depth : Nat) (xs : List (String × Json)) (rest : List Char) :
    compact.layMembers depth xs rest = writeMembers xs rest := by
  match xs with
  | [] => rfl
  | (k, x) :: xs =>
    rw [layMembers, lay_compact, layMembers_compact]
    rfl
termination_by structural xs

end

mutual

theorem lay_pretty (depth : Nat) (j : Json) (rest : List Char) :
    pretty.lay depth j rest = j.writePretty depth rest := by
  cases j with
  | array items =>
    cases items with
    | nil => rfl
    | cons x xs =>
      rw [lay, lay_pretty, layItems_pretty]
      rfl
  | object members =>
    match members with
    | [] => rfl
    | (k, x) :: xs =>
      rw [lay, lay_pretty, layMembers_pretty]
      rfl
  | _ => rfl
termination_by structural j

theorem layItems_pretty (depth : Nat) (xs : List Json) (rest : List Char) :
    pretty.layItems depth xs rest = writePrettyItems depth xs rest := by
  cases xs with
  | nil => rfl
  | cons x xs =>
    rw [layItems, lay_pretty, layItems_pretty]
    rfl
termination_by structural xs

theorem layMembers_pretty (depth : Nat) (xs : List (String × Json)) (rest : List Char) :
    pretty.layMembers depth xs rest = writePrettyMembers depth xs rest := by
  match xs with
  | [] => rfl
  | (k, x) :: xs =>
    rw [layMembers, lay_pretty, layMembers_pretty]
    rfl
termination_by structural xs

end

end Layout

end ModuleSharing.Json
