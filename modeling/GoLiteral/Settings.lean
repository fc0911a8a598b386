import GoLiteral.Kind
import GoLiteral.Settings.Document

/-!
# Settings

Two things can be set: the kind assumed for a bare body, and whether spelled text is put between
quotes. They are read from a document that may name each of them once and nothing else.
-/

namespace GoLiteral

/-- What a user can set. -/
structure Settings where
  /-- The kind assumed for a body without delimiters. -/
  kind : Kind := .interpreted
  /-- Whether spelled text is put between double quotes. -/
  quote : Bool := false
  deriving DecidableEq, Repr

namespace Settings

/-- The settings where nothing is set. -/
def standard : Settings := {}

/-- The settings with the kind that a name stands for. -/
def withKind? (settings : Settings) (name : String) : Option Settings :=
  (Kind.ofName? name).map fun kind ↦ { settings with kind := kind }

/-- Puts one entry of a document into force. A kind is named by a string, or by the one key in a
table that holds nothing else. -/
def withEntry? (settings : Settings) (entry : Document.Entry) : Option Settings :=
  match entry with
  | (["kind"], .text name) => settings.withKind? name
  | (["kind", name], .empty) => settings.withKind? name
  | (["kind", name], .table) => settings.withKind? name
  | (["quote"], .flag quote) => some { settings with quote := quote }
  | _ => none

/-- The settings that a text writes. They may stand in any order but none of them twice; those
left out keep their standard values. -/
def ofText? (text : String) : Option Settings := do
  let entries := Document.leaves (← Document.entries? text)
  if (entries.map fun (path, _) ↦ path.head?).Nodup then entries.foldlM withEntry? standard
  else none

end Settings

end GoLiteral
