import ModuleSharing.Json.Decode
import ModuleSharing.Toml.Scalar

/-!
# TOML documents

`Toml.parse?` reads a document into a draft without faults, so that decoders take it as they take
JSON. Its members stand in the order in which tables and keys are first written; a table that is
opened by its own header after its parts moves behind them.
-/

namespace ModuleSharing.Toml

open Json (Draft)

/-! ## Tables under construction -/

/-- What a key holds while a document is read. -/
inductive Item where
  /-- A finished value, which nothing can be added to. -/
  | value (d : Draft)
  /-- A table. It is `implied` until its own header is read, and `dotted` if a dotted key made it.
  -/
  | table (implied dotted : Bool) (items : List (String × Item))
  /-- Tables with one header, last one first. -/
  | tables (ts : List (List (String × Item)))
deriving Inhabited

abbrev Items := List (String × Item)

/-- A table, with how it came to be. -/
structure Table where
  implied : Bool := false
  dotted : Bool := false
  items : Items := []

def setItem (key : String) (v : Item) : Items → Items
  | [] => [(key, v)]
  | (k, old) :: rest => if k == key then (key, v) :: rest else (k, old) :: setItem key v rest

/-- Changes the table at the end of a path, making tables on the way. -/
def modifyAt (dotted : Bool) (change : Table → Option Table) : List String → Table → Option Table
  | [], t => change t
  | key :: path, t => do
    match t.items.lookup key with
    | none =>
      let new ← modifyAt dotted change path { implied := true, dotted }
      some { t with items := t.items ++ [(key, .table new.implied new.dotted new.items)] }
    | some (.value _) => none
    | some (.table implied wasDotted items) =>
      if dotted && !implied then none
      else do
        let new ← modifyAt dotted change path { implied, dotted := wasDotted, items }
        some { t with items := setItem key (.table new.implied new.dotted new.items) t.items }
    | some (.tables []) => none
    | some (.tables (last :: before)) =>
      let new ← modifyAt dotted change path { items := last }
      some { t with items := setItem key (.tables (new.items :: before)) t.items }

/-- Adds a key, unless it is there, or the table was made in another way than this key would. -/
def addKey (isDotted : Bool) (key : String) (v : Draft) (t : Table) : Option Table :=
  if t.dotted != isDotted || (t.items.lookup key).isSome then none
  else some { t with items := t.items ++ [(key, .value v)] }

/-- Adds a value under a key that may be dotted. -/
def addValue (path : List String) (v : Draft) (t : Table) : Option Table :=
  match path.reverse with
  | [] => none
  | key :: above => modifyAt true (addKey (!above.isEmpty) key v) above.reverse t

mutual

/-- The value of what a key holds. -/
def Item.toDraft : Item → Draft
  | .value d => d
  | .table _ _ items => .object (draftMembers items) none
  | .tables ts => .array (draftTables ts []) none
termination_by structural i => i

def draftMembers : List (String × Item) → List (String × Draft)
  | [] => []
  | (k, i) :: rest => (k, i.toDraft) :: draftMembers rest
termination_by structural i => i

/-- Tables in the order in which they are written, before `after`. -/
def draftTables : List (List (String × Item)) → List Draft → List Draft
  | [], after => after
  | t :: before, after => draftTables before (.object (draftMembers t) none :: after)
termination_by structural i => i

end

/-! ## Values -/

mutual

/-- Reads a value; `depth` levels of nesting are left. -/
def readValue (fuel depth : Nat) (cs : List Char) : Option (Draft × List Char) :=
  match fuel with
  | 0 => none
  | fuel + 1 =>
    match cs with
    | 't' :: 'r' :: 'u' :: 'e' :: cs => some (.bool true, cs)
    | 'f' :: 'a' :: 'l' :: 's' :: 'e' :: cs => some (.bool false, cs)
    | '[' :: cs =>
      match depth with
      | 0 => none
      | depth + 1 => (readItems fuel depth cs).map fun (xs, rest) => (.array xs none, rest)
    | '{' :: cs =>
      match depth with
      | 0 => none
      | depth + 1 =>
        match skipSpace cs with
        | '}' :: rest => some (.object [] none, rest)
        | cs =>
          (readPairs fuel depth {} cs).map fun (t, rest) =>
            (.object (draftMembers t.items) none, rest)
    | '"' :: _ => (readString cs).map fun (s, rest) => (.string s, rest)
    | '\'' :: _ => (readString cs).map fun (s, rest) => (.string s, rest)
    | cs => readScalar cs

/-- Reads the items of an array up to its closing bracket. -/
def readItems (fuel depth : Nat) (cs : List Char) : Option (List Draft × List Char) :=
  match fuel with
  | 0 => none
  | fuel + 1 =>
    match skipLines cs.length cs with
    | ']' :: rest => some ([], rest)
    | cs => do
      let (x, rest) ← readValue fuel depth cs
      match skipLines rest.length rest with
      | ',' :: rest => do
        let (xs, rest) ← readItems fuel depth rest
        some (x :: xs, rest)
      | ']' :: rest => some ([x], rest)
      | _ => none

/-- Reads the pairs of an inline table up to its closing brace. -/
def readPairs (fuel depth : Nat) (t : Table) (cs : List Char) : Option (Table × List Char) :=
  match fuel with
  | 0 => none
  | fuel + 1 => do
    let (path, rest) ← readKey cs
    let (v, rest) ← readValue fuel depth (skipSpace (← skip '=' rest))
    let t ← addValue path v t
    match skipSpace rest with
    | ',' :: rest => readPairs fuel depth t rest
    | '}' :: rest => some (t, rest)
    | _ => none

end

/-! ## Documents -/

/-- A document under construction: the finished part, and the table that keys are added to. -/
structure Builder where
  root : Table := {}
  current : Table := {}
  path : List String := []
  /-- Whether the current table is one of several with its header. -/
  listed : Bool := false

namespace Builder

/-- Puts the current table into its place. -/
def finish (b : Builder) : Option Table :=
  match b.path.reverse with
  | [] => some b.current
  | key :: above =>
    modifyAt false (fun parent =>
      match parent.items.lookup key with
      | some (.tables ts) =>
        if b.listed then
          some { parent with items := setItem key (.tables (b.current.items :: ts)) parent.items }
        else none
      | some _ => none
      | none =>
        some { parent with items := parent.items ++ [(key,
          if b.listed then .tables [b.current.items] else .table false false b.current.items)] })
      above.reverse b.root

/-- Opens the table of a header. One that so far was only implied keeps its parts. -/
def openTable (b : Builder) (path : List String) : Option Builder := do
  let root ← b.finish
  match path.reverse with
  | [] => none
  | key :: above =>
    let parent ← lookupTable above.reverse root
    match parent.items.lookup key with
    | none => do
      let root ← modifyAt false some above.reverse root
      some { root, path }
    | some (.table true false items) => do
      let root ← modifyAt false
        (fun t => some { t with items := t.items.filter fun i => i.1 != key }) above.reverse root
      some { root, path, current := { items } }
    | some _ => none
where
  /-- The table at the end of a path, empty where nothing has been made yet. -/
  lookupTable : List String → Table → Option Table
    | [], t => some t
    | key :: path, t =>
      match t.items.lookup key with
      | none => lookupTable path {}
      | some (.value _) => none
      | some (.table implied dotted items) => lookupTable path { implied, dotted, items }
      | some (.tables []) => none
      | some (.tables (last :: _)) => lookupTable path { items := last }

/-- Opens one more table of a header for several. -/
def openListed (b : Builder) (path : List String) : Option Builder := do
  let root ← b.finish
  match path.reverse with
  | [] => none
  | key :: above =>
    let root ← modifyAt false (fun parent =>
      match parent.items.lookup key with
      | none => some { parent with items := parent.items ++ [(key, .tables [])] }
      | some (.tables _) => some parent
      | some _ => none) above.reverse root
    some { root, path, listed := true }

end Builder

/-- Reads a header or a key with its value, without what ends the line. -/
def readExpression (b : Builder) (cs : List Char) : Option (Builder × List Char) :=
  match cs with
  | '[' :: '[' :: cs => do
    let (path, rest) ← readKey cs
    let rest ← skip ']' (← skip ']' rest)
    some (← b.openListed path, rest)
  | '[' :: cs => do
    let (path, rest) ← readKey cs
    let rest ← skip ']' rest
    some (← b.openTable path, rest)
  | cs => do
    let (path, rest) ← readKey cs
    let (v, rest) ← readValue (2 * rest.length + 2) maxNesting (skipSpace (← skip '=' rest))
    some ({ b with current := ← addValue path v b.current }, rest)

/-- Reads the lines of a document. -/
def readDocument : Nat → Builder → List Char → Option Builder
  | 0, _, _ => none
  | fuel + 1, b, cs =>
    match skipLines cs.length cs with
    | [] => some b
    | cs => do
      let (b, rest) ← readExpression b cs
      readDocument fuel b (← finishLine rest)

/-- Reads a document. -/
def parse? (s : String) : Option Draft := do
  let cs :=
    match s.toList with
    | '\uFEFF' :: cs => cs
    | cs => cs
  let b ← readDocument (cs.length + 1) {} cs
  let root ← b.finish
  some (.object (draftMembers root.items) none)

/-- Reads a document and decodes it. -/
def decode? {α : Type} (dec : Json.Decoder α) (s : String) : Option α := do
  (dec (← parse? s)).toOption

end ModuleSharing.Toml
