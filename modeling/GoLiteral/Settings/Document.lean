import GoLiteral.Settings.Document.Text

/-!
# Settings documents

A settings document is a TOML document. It says what stands at which path: a string, a boolean, an
empty array, or a table, which is written between braces, under a header in brackets, or by a key
with dots. So `kind = {raw = []}`, `kind.raw = []`, and `[kind]` with `raw = []` below it, all list
a table at `kind` and an empty array at `kind`, `raw`. Nothing else that TOML has could hold a
setting, so a document with numbers, dates, arrays of something or headers in double brackets is
refused.

What a document says is listed and not put together, and no path may be listed twice. That is
stricter than TOML where two keys with dots go through one table; but such a table holds two
things, and no setting does.
-/

namespace GoLiteral.Settings.Document

/-- What stands at a path. -/
inductive Item where
  | text (value : String)
  | flag (value : Bool)
  /-- An array, or a table between braces, with nothing in it. -/
  | empty
  /-- A table that is opened. What is in it is listed at longer paths. -/
  | table
  deriving DecidableEq, Repr

/-- A path, which consists of the names of keys, and what stands there. -/
abbrev Entry := List String × Item

/-- Entries as they are seen from outside the table at a path. -/
def under (path : List String) (entries : List Entry) : List Entry :=
  entries.map fun (names, item) ↦ (path ++ names, item)

/-- What a key lists, given what its value lists. The dots in it open tables. -/
def keyed : List String → List Entry → List Entry
  | [], value => value
  | [name], value => under [name] value
  | name :: names, value => under [name] (([], .table) :: keyed names value)

/-- What a table between braces lists, given its members. -/
def braced (members : List Entry) : List Entry :=
  if members.isEmpty then [([], .empty)] else ([], .table) :: members

/-! ## Values -/

/-- Reads a string. -/
def string? : List Char → Option (String × List Char)
  | '\"' :: '\"' :: '\"' :: rest => multiline? '\"' true (skipFirstBreak rest) []
  | '\'' :: '\'' :: '\'' :: rest => multiline? '\'' false (skipFirstBreak rest) []
  | '\"' :: rest => basic? rest []
  | '\'' :: rest => literal? rest
  | _ => none

/-- Reads a value that is no table. -/
def plain? : List Char → Option (Item × List Char)
  | 't' :: 'r' :: 'u' :: 'e' :: rest => some (.flag true, rest)
  | 'f' :: 'a' :: 'l' :: 's' :: 'e' :: rest => some (.flag false, rest)
  | '[' :: rest =>
    match skipTrivia rest with
    | ']' :: left => some (.empty, left)
    | _ => none
  | cs => (string? cs).map fun (text, left) ↦ (.text text, left)

/-- Reads the members of a table after its opening brace or after a comma, given those before. The
last one may have a comma after it, and there may be line breaks and comments between any two
parts of a table. -/
def members? (cs : List Char) (found : List Entry) : Option (List Entry × List Char) :=
  match skipTrivia cs with
  | '}' :: left => some (braced found, left)
  | start => do
    let (names, left) ← path? start
    let (value, left) ←
      match skipTrivia left with
      | '=' :: rest =>
        match skipTrivia rest with
        | '{' :: inner => if inner.length < cs.length then members? inner [] else none
        | rest => (plain? rest).map fun (item, left) ↦ ([([], item)], left)
      | _ => none
    let found := found ++ keyed names value
    match skipTrivia left with
    | '}' :: left => some (braced found, left)
    | ',' :: rest => if rest.length < cs.length then members? rest found else none
    | _ => none
termination_by cs.length

/-- Reads a value. -/
def value? : List Char → Option (List Entry × List Char)
  | '{' :: rest => members? rest []
  | cs => (plain? cs).map fun (item, left) ↦ ([([], item)], left)

/-! ## Lines -/

/-- Reads a header, or a key and its value, where keys stand in the table at the path `above`.
Answers with the path for the keys after it, too. -/
def statement? (above : List String) (cs : List Char) :
    Option (List String × List Entry × List Char) :=
  match skipBlanks cs with
  | '[' :: rest => do
    let (names, left) ← path? (skipBlanks rest)
    match skipBlanks left with
    | ']' :: left => return (names, [(names, .table)], left)
    | _ => none
  | start => do
    let (names, left) ← path? start
    match skipBlanks left with
    | '=' :: rest =>
      let (value, left) ← value? (skipBlanks rest)
      return (above, under above (keyed names value), left)
    | _ => none

/-- Reads line after line. Each has to use up some of the document. -/
def lines? (above : List String) (cs : List Char) (found : List Entry) : Option (List Entry) :=
  if cs.isEmpty then some found
  else
    match endLine? cs with
    | some left => if left.length < cs.length then lines? above left found else none
    | none => do
      let (above, entries, left) ← statement? above cs
      let left ← endLine? left
      if left.length < cs.length then lines? above left (found ++ entries) else none
termination_by cs.length

/-- What a document lists, in order. A byte order mark in front is skipped. -/
def entries? (text : String) : Option (List Entry) := do
  let entries ←
    match text.toList with
    | '\uFEFF' :: rest => lines? [] rest []
    | cs => lines? [] cs []
  if (entries.map Prod.fst).Nodup then entries else none

/-- The entries without the tables that something is in. -/
def leaves (entries : List Entry) : List Entry :=
  entries.filter fun (path, item) ↦
    item ≠ .table || entries.all fun (other, _) ↦ other = path || !path.isPrefixOf other

end GoLiteral.Settings.Document
