import ModuleSharing.CommandLine.Form

/-!
# Help texts

What a command is about, how it is called, and a table each of its commands, operands and options.
-/

namespace ModuleSharing.CommandLine

/-- A text filled up with spaces on the right. -/
def padded (width : Nat) (s : String) : String :=
  s ++ String.ofList (List.replicate (width - s.length) ' ')

/-- The length of the longest text. -/
def widest (texts : List String) : Nat := (texts.map String.length).foldl max 0

/-- A heading over rows of two columns, after an empty line; nothing if there are no rows. The first
column starts with a lead that does not count for its width. -/
def table (heading : String) (rows : List (String × String × String)) : String :=
  let width := widest (rows.map fun (_, term, _) => term)
  if rows.isEmpty then ""
  else
    "\n" ++ heading ++ ":\n" ++
      String.join (rows.map fun (lead, term, meaning) =>
        "  " ++ lead ++ padded width term ++ "  " ++ meaning ++ "\n")

namespace CommandOption

/-- An option as it is written with its value. -/
def term (o : CommandOption) : String :=
  "--" ++ o.name ++ o.kind.label?.elim "" fun label => " <" ++ label ++ ">"

def row (o : CommandOption) : String × String × String :=
  (o.letter.elim "    " fun c => String.ofList ['-', c, ',', ' '], o.term, o.help)

end CommandOption

namespace CommandForm

/-- How the command is called. -/
def usage (f : CommandForm) : String :=
  " ".intercalate <|
    [f.name] ++ (if f.options.isEmpty then [] else ["[OPTIONS]"]) ++
      (f.options.filter CommandOption.required).map CommandOption.term ++
      f.operands.map Operand.label ++ if f.commands.isEmpty then [] else ["<COMMAND>"]

def helpText (f : CommandForm) : String :=
  f.about ++ "\n\nUsage: " ++ f.usage ++ "\n" ++
    table "Commands" (f.commands.map fun (name, about) => ("", name, about)) ++
    table "Arguments" (f.operands.map fun o => ("", o.label, o.help)) ++
    table "Options" (f.options.map CommandOption.row)

end CommandForm

end ModuleSharing.CommandLine
