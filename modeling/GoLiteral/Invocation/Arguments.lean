import GoLiteral.Command

/-!
# Reading the words of a command line

The words are read from left to right, first those of the program and then those of a command.
An option with a value may carry it (`--log=FILE`, `-cFILE`, `-c=FILE`) or be followed by it; flags
of one letter may be written together. After the word `--` there are no options and no commands.

A value that is not attached to its option, and a word that is no option, stays *pending* until
the next option or word is taken up, or the words end; only then is it checked. So of two mistakes
on a command line, the one that is reported is the one that is noticed first.
-/

namespace GoLiteral.Invocation.Arguments

/-- Why a command line asks for no command. -/
inductive UsageError where
  /-- An option or flag that may be given once is given twice. -/
  | repeated
  /-- The file of an option is missing or empty. -/
  | missingValue
  | unexpectedValue
  /-- A word that looks like an option is none, there is one word too many, or a command stands
  after `--`. -/
  | unknownArgument
  /-- Something is missing that the command needs. -/
  | missingArgument
  /-- A boundary is no number. -/
  | badNumber
  | unknownCommand
  | missingCommand
  /-- Nothing is asked for at all. -/
  | nothingAsked
  | helpAsked
  | versionAsked
  deriving DecidableEq, Repr

/-- The names of commands. -/
inductive CommandName where
  | decode
  | encode
  | map
  deriving DecidableEq, Repr

/-- The command that a word names. -/
def CommandName.ofWord? : String → Option CommandName
  | "decode" => some .decode
  | "encode" => some .encode
  | "map" => some .map
  | _ => none

/-- Whose words are read. -/
inductive Level where
  | program
  | command (name : CommandName)
  deriving DecidableEq, Repr

/-! ## Options -/

/-- The options that have a value, which is a file. -/
inductive FileOption where
  | log
  | config
  deriving DecidableEq, Repr

/-- The options without a value. -/
inductive Flag where
  /-- More detail in the log. -/
  | verbose
  /-- The text is a bare body. -/
  | body
  /-- The body is a raw one. -/
  | raw
  | quote
  | help
  | version
  deriving DecidableEq, Repr

/-- An option of either sort. -/
inductive Switch where
  | file (option : FileOption)
  | flag (flag : Flag)
  deriving DecidableEq, Repr

/-- The option with a long name. -/
def Level.long? (level : Level) (name : String) : Option Switch :=
  match name, level with
  | "log", _ => some (.file .log)
  | "config", _ => some (.file .config)
  | "help", _ => some (.flag .help)
  | "version", .program => some (.flag .version)
  | "body", .command .decode => some (.flag .body)
  | "raw", .command .decode => some (.flag .raw)
  | "quote", .command .encode => some (.flag .quote)
  | _, _ => none

/-- The option with a name of one letter. -/
def Level.short? (level : Level) (letter : Char) : Option Switch :=
  match letter, level with
  | 'v', _ => some (.flag .verbose)
  | 'c', _ => some (.file .config)
  | 'h', _ => some (.flag .help)
  | 'V', .program => some (.flag .version)
  | _, _ => none

/-! ## Drafts -/

/-- What has been read but not been taken up. -/
inductive Pending where
  /-- An option with a value. While there is none, the next word is the value, unless it looks
  like an option itself. -/
  | file (option : FileOption) (value : Option String)
  | text (word : String)
  | offsets (words : List String)
  deriving DecidableEq, Repr

/-- What the words so far have asked for. -/
structure Draft where
  /-- How often more detail is asked for. -/
  verbosity : Nat := 0
  log : Option String := none
  config : Option String := none
  body : Bool := false
  raw : Bool := false
  quote : Bool := false
  text : Option String := none
  offsets : List Nat := []
  /-- What has not been taken up. -/
  pending : Option Pending := none
  onlyWords : Bool := false
  deriving DecidableEq, Repr

/-- The number that a word writes: decimal digits after an optional plus sign, below 2⁶⁴. -/
def offset? (word : String) : Option Nat :=
  let digits :=
    match word.toList with
    | '+' :: rest => rest
    | cs => cs
  if digits.isEmpty || digits.any fun c ↦ !c.isDigit then none
  else
    let value := digits.foldl (fun n c ↦ n * 10 + (c.toNat - '0'.toNat)) 0
    if value < UInt64.size then some value else none

namespace Draft

/-- Whether the text of the command has been read, taken up or not. -/
def hasText (d : Draft) : Bool :=
  match d.pending with
  | some (.text _) => true
  | _ => d.text.isSome

/-- The file that has been taken up for an option. -/
def file? (d : Draft) : FileOption → Option String
  | .log => d.log
  | .config => d.config

/-- Takes up the file of an option. That the option is given once is checked first. -/
def setFile (d : Draft) (option : FileOption) (value : String) : Except UsageError Draft :=
  if (d.file? option).isSome then .error .repeated
  else if value.isEmpty then .error .missingValue
  else
    match option with
    | .log => .ok { d with log := some value }
    | .config => .ok { d with config := some value }

/-- Takes up what is pending. -/
def settle (d : Draft) : Except UsageError Draft :=
  let settled := { d with pending := none }
  match d.pending with
  | none => .ok d
  | some (.file _ none) => .error .missingValue
  | some (.file option (some value)) => settled.setFile option value
  | some (.text word) => .ok { settled with text := some word }
  | some (.offsets words) =>
    match words.mapM offset? with
    | some offsets => .ok { settled with offsets := d.offsets ++ offsets }
    | none => .error .badNumber

/-- Takes up a flag, after what is pending. -/
def setFlag (d : Draft) (flag : Flag) : Except UsageError Draft := do
  let d ← d.settle
  match flag with
  | .verbose => .ok { d with verbosity := min (d.verbosity + 1) 255 }
  | .body => if d.body then .error .repeated else .ok { d with body := true }
  | .raw => if d.raw then .error .repeated else .ok { d with raw := true }
  | .quote => if d.quote then .error .repeated else .ok { d with quote := true }
  | .help => .error .helpAsked
  | .version => .error .versionAsked

/-- Takes up an option with its value attached, after what is pending. -/
def attach (d : Draft) (option : FileOption) (value : String) : Except UsageError Draft := do
  (← d.settle).setFile option value

/-- Puts something on hold, after taking up what is pending. -/
def hold (d : Draft) (pending : Pending) : Except UsageError Draft := do
  return { ← d.settle with pending := some pending }

/-- Reads an option with a long name, given what follows its dashes. -/
def long (d : Draft) (level : Level) (word : List Char) : Except UsageError Draft :=
  let name := word.takeWhile (· ≠ '=')
  match level.long? (String.ofList name), word.drop name.length with
  | none, _ => .error .unknownArgument
  | some (.file option), '=' :: value => d.attach option (String.ofList value)
  | some (.file option), _ => d.hold (.file option none)
  | some (.flag _), '=' :: _ => .error .unexpectedValue
  | some (.flag flag), _ => d.setFlag flag

/-- Reads options of one letter that are written together. The first that has a value takes the
rest of the word for it, if there is any. -/
def short (d : Draft) (level : Level) : List Char → Except UsageError Draft
  | [] => .ok d
  | letter :: rest =>
    match level.short? letter, rest with
    | none, _ => .error .unknownArgument
    | some (.file option), [] => d.hold (.file option none)
    | some (.file option), '=' :: value => d.attach option (String.ofList value)
    | some (.file option), value => d.attach option (String.ofList value)
    | some (.flag flag), rest => do (← d.setFlag flag).short level rest

/-- Reads a word of a command that is no option. -/
def word (d : Draft) (name : CommandName) (word : String) : Except UsageError Draft :=
  if !d.hasText then d.hold (.text word)
  else if name = .map then
    match d.pending with
    | some (.offsets words) => .ok { d with pending := some (.offsets (words ++ [word])) }
    | _ => d.hold (.offsets [word])
  else .error .unknownArgument

end Draft

/-! ## Reading -/

/-- Whether a word is one that the program takes for a command. -/
def isCommandWord (word : String) : Bool := word = "help" || (CommandName.ofWord? word).isSome

/-- What the words after `help` ask for: the help text of the program or of one command. -/
def helpFor : List String → UsageError
  | [] => .helpAsked
  | [word] => if isCommandWord word then .helpAsked else .unknownCommand
  | _ => .unknownCommand

/-- Reads words up to their end, or up to the name of a command, which is answered with the words
after it. -/
def read (level : Level) (words : List String) (d : Draft) :
    Except UsageError (Draft × Option (CommandName × List String)) :=
  match words with
  | [] => .ok (d, none)
  | word :: words =>
    if d.onlyWords then
      match level with
      -- No command can stand here, but a word that names one shows what was meant.
      | .program => .error (if isCommandWord word then .unknownArgument else .unknownCommand)
      | .command name => do read level words (← d.word name word)
    else
      match word.toList with
      | ['-', '-'] => read level words { d with onlyWords := true }
      | '-' :: '-' :: rest => do read level words (← d.long level rest)
      | '-' :: letter :: rest => do read level words (← d.short level (letter :: rest))
      | _ =>
        match d.pending, level with
        | some (.file option none), _ =>
          read level words { d with pending := some (.file option (some word)) }
        | _, .command name => do read level words (← d.word name word)
        | _, .program =>
          match CommandName.ofWord? word with
          | some name => .ok (d, some (name, words))
          | none => if word = "help" then .error (helpFor words) else .error .unknownCommand

end GoLiteral.Invocation.Arguments
