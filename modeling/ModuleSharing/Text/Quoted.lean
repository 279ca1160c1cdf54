import ModuleSharing.Character.Derived

/-!
# Quoted texts

How a message shows a character or a text between quotes: the quote itself, the backslash and the
common controls get a backslash, and what does not show by itself is named by its code point.
-/

namespace ModuleSharing.Text

/-- Lower-case hexadecimal digits. -/
def hex (n : Nat) : String := String.ofList (Nat.toDigits 16 n)

private def escaped (quote c : Char) : String :=
  if c == quote || c == '\\' then String.ofList ['\\', c]
  else if c == '\n' then "\\n"
  else if c == '\r' then "\\r"
  else if c == '\t' then "\\t"
  else if c == '\x00' then "\\0"
  else if Character.invisible.contains c.toNat then "\\u\x7b" ++ hex c.toNat ++ "\x7d"
  else c.toString

/-- A character between single quotes. -/
def quotedChar (c : Char) : String := "'" ++ escaped '\'' c ++ "'"

/-- A text between double quotes. -/
def quoted (s : String) : String := "\"" ++ String.join (s.toList.map (escaped '"')) ++ "\""

/-- A name between backticks, the way messages show one. -/
def ticked (s : String) : String := "`" ++ s ++ "`"

end ModuleSharing.Text
