/-!
# TOML documents

A document is a table of keys and values. Tables may be opened by headers, implied by the headers of
tables within them, made by dotted keys or written in braces, and each way allows different
additions later; a key is never set twice.

* `Toml.setKey` adds a value under a dotted key.
* `Toml.openTable` and `Toml.openRow` act on headers.
-/

namespace Readiness

/-- How a table came to be. -/
inductive Toml.Origin where
  /-- Written in braces: complete as it stands. -/
  | braces
  /-- A part of the name of another table. -/
  | implied
  /-- A part of a dotted key. -/
  | dotted
  /-- Opened by its own header. -/
  | header
  deriving DecidableEq

/-- A value. Numbers, truth values and times are not told apart. -/
inductive Toml where
  | text (s : String)
  | scalar
  | list (items : List Toml)
  | table (origin : Toml.Origin) (members : List (String × Toml))
  /-- The tables of a repeated header, in their order. -/
  | repeated (tables : List (List (String × Toml)))

namespace Toml

/-- The keys of a table with their values, in their order. -/
abbrev Members := List (String × Toml)

/-- The table with a new value for a key that it has. -/
def replace (key : String) (value : Toml) (ms : Members) : Members :=
  ms.map fun m => if m.1 == key then (key, value) else m

/-- The table with a value under a dotted key; `none` if the key is taken or a part of it belongs to
something that cannot be added to. -/
def setKey : (path : List String) → (value : Toml) → Members → Option Members
  | [], _, _ => none
  | [key], value, ms => if (ms.lookup key).isSome then none else some (ms ++ [(key, value)])
  | key :: path, value, ms =>
    match ms.lookup key with
    | none => (setKey path value []).map fun sub => ms ++ [(key, .table .dotted sub)]
    | some (.table .dotted sub) =>
      (setKey path value sub).map fun sub => replace key (.table .dotted sub) ms
    | some (.table .implied sub) =>
      (setKey path value sub).map fun sub => replace key (.table .implied sub) ms
    | some _ => none

/-- The rows with `change` made to the last one. -/
def changeLast (change : Members → Option Members) : List Members → Option (List Members)
  | [] => none
  | [row] => (change row).map fun row => [row]
  | row :: rows => (changeLast change rows).map fun rows => row :: rows

/-- The table with `change` made to the table that the path leads to. The last row counts for
repeated headers, and missing tables on the way are made. -/
def changeAt (change : Members → Option Members) : (path : List String) → Members → Option Members
  | [], ms => change ms
  | key :: path, ms =>
    match ms.lookup key with
    | none => (changeAt change path []).map fun sub => ms ++ [(key, .table .implied sub)]
    | some (.table .braces _) => none
    | some (.table origin sub) =>
      (changeAt change path sub).map fun sub => replace key (.table origin sub) ms
    | some (.repeated tables) =>
      (changeLast (changeAt change path) tables).map fun tables => replace key (.repeated tables) ms
    | some _ => none

/-- Opens the table of a header in the table around it. A table that was only implied may still
get its header. -/
def openHere (key : String) (ms : Members) : Option Members :=
  match ms.lookup key with
  | none => some (ms ++ [(key, .table .header [])])
  | some (.table .implied sub) => some (replace key (.table .header sub) ms)
  | some _ => none

/-- Adds a row for a repeated header in the table around it. -/
def addRow (key : String) (ms : Members) : Option Members :=
  match ms.lookup key with
  | none => some (ms ++ [(key, .repeated [[]])])
  | some (.repeated tables) => some (replace key (.repeated (tables ++ [[]])) ms)
  | some _ => none

/-- The document after the header of a table. -/
def openTable (path : List String) (root : Members) : Option Members :=
  match path.getLast? with
  | none => none
  | some key => changeAt (openHere key) path.dropLast root

/-- The document after the header of a row. -/
def openRow (path : List String) (root : Members) : Option Members :=
  match path.getLast? with
  | none => none
  | some key => changeAt (addRow key) path.dropLast root

end Toml

end Readiness
