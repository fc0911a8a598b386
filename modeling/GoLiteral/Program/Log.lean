import GoLiteral.Command

/-!
# Log records

The program logs which settings it uses, which command it runs, and the bad escape that stopped a
reading. A record is shown once enough detail is asked for.
-/

namespace GoLiteral.Program

/-- How detailed a record is. -/
inductive LogLevel where
  /-- What the program does. -/
  | debug
  /-- How a reading goes. -/
  | trace
  deriving DecidableEq, Repr

/-- The name of a level, as records show it. -/
def LogLevel.name : LogLevel → String
  | debug => "DEBUG"
  | trace => "TRACE"

/-- How often detail has to be asked for until records of a level are shown. -/
def LogLevel.verbosity : LogLevel → Nat
  | debug => 2
  | trace => 3

/-- An entry of the log. -/
structure LogRecord where
  /-- The part of the program that it comes from. -/
  target : String
  /-- How detailed it is. -/
  level : LogLevel
  /-- What it says. -/
  message : String
  deriving DecidableEq, Repr

/-- The line that a record is shown as. -/
def LogRecord.line (r : LogRecord) : String :=
  r.target ++ " [" ++ r.level.name ++ "] " ++ r.message

/-! ## Values in records -/

/-- A text between quotes, on one line. -/
def quotedText (text : String) : String :=
  let shown := text.toList.flatMap fun c ↦
    match c with
    | '\"' => ['\\', '\"']
    | '\\' => ['\\', '\\']
    | '\n' => ['\\', 'n']
    | '\x0d' => ['\\', 'r']
    | '\t' => ['\\', 't']
    | '\x00' => ['\\', '0']
    | c => [c]
  "\"" ++ String.ofList shown ++ "\""

/-- A record value with named fields. -/
def shownFields (name : String) (fields : List (String × String)) : String :=
  name ++ " \x7b " ++ ", ".intercalate (fields.map fun (key, value) ↦ key ++ ": " ++ value) ++
    " \x7d"

/-- A text that may be missing. -/
def shownInput : Option String → String
  | some text => "Some(" ++ quotedText text ++ ")"
  | none => "None"

/-- A command, with all that was asked for. -/
def shownCommand : Command → String
  | .decode body raw input =>
    shownFields "Decode"
      [("body", toString body), ("raw", toString raw), ("input", shownInput input)]
  | .encode quote input =>
    shownFields "Encode" [("quote", toString quote), ("input", shownInput input)]
  | .map literal offsets =>
    shownFields "Map"
      [("literal", quotedText literal),
       ("offsets", "[" ++ ", ".intercalate (offsets.map toString) ++ "]")]

/-- The settings. -/
def shownSettings (settings : Settings) : String :=
  let kind :=
    match settings.kind with
    | .interpreted => "Interpreted"
    | .raw => "Raw"
  shownFields "Config" [("kind", kind), ("quote", toString settings.quote)]

/-! ## The records of the program -/

namespace LogRecord

/-- There is no file of settings. -/
def noSettings : LogRecord :=
  ⟨"the_literal::config", .debug, "no user config found, using defaults"⟩

/-- The settings come from a file. -/
def settingsFrom (path : String) : LogRecord :=
  ⟨"the_literal::config", .debug, "loaded config from " ++ path⟩

/-- A command is run with some settings. -/
def running (command : Command) (settings : Settings) : LogRecord :=
  ⟨"the_literal", .debug,
    "running " ++ shownCommand command ++ " with " ++ shownSettings settings⟩

/-- A reading was stopped by a bad escape. -/
def stopped (bad : BadEscape) : LogRecord :=
  ⟨"the_literal::decode", .trace, "failed to decode string literal err=" ++ bad.message⟩

end LogRecord

end GoLiteral.Program
