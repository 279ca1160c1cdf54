/-!
# Cutting a text

`cutAt sep cs` cuts at the first occurrence of a separator, `splitBars cs` at every pair of bars,
from the left and without overlap.
-/

namespace ModuleSharing.Text

/-- What stands before and after the first occurrence of `sep`. -/
def cutAt (sep : List Char) : List Char → Option (List Char × List Char)
  | [] => if sep.isEmpty then some ([], []) else none
  | c :: cs =>
    if sep.isPrefixOf (c :: cs) then some ([], (c :: cs).drop sep.length)
    else (cutAt sep cs).map fun (before, after) => (c :: before, after)

/-- The pieces between two bars. -/
def splitBars : List Char → List (List Char)
  | [] => [[]]
  | '|' :: '|' :: cs => [] :: splitBars cs
  | c :: cs =>
    match splitBars cs with
    | [] => [[c]]
    | piece :: pieces => (c :: piece) :: pieces

/-- The text after `start`, if `cs` begins with it. -/
def afterPrefix? (start cs : List Char) : Option (List Char) :=
  if start.isPrefixOf cs then some (cs.drop start.length) else none

/-- The text before `ending`, if `cs` ends with it. -/
def beforeSuffix? (ending cs : List Char) : Option (List Char) :=
  (afterPrefix? ending.reverse cs.reverse).map List.reverse

/-- Whether `part` stands somewhere in the text. -/
def contains (part : List Char) : List Char → Bool
  | [] => part.isEmpty
  | c :: cs => part.isPrefixOf (c :: cs) || contains part cs

end ModuleSharing.Text
