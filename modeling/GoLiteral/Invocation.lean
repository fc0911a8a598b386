import GoLiteral.Invocation.Arguments

/-!
# Invocations

An invocation is what the words of a command line ask for. Options that belong to the whole
program may stand before or after the name of the command; one that stands after it is the one
that counts.
-/

namespace GoLiteral

/-- What the words of a command line ask for. -/
structure Invocation where
  /-- How often more detail was asked of the log, at most 255 times. -/
  verbosity : Nat
  /-- The file that the log goes to. -/
  log : Option String
  /-- The file that the settings come from. -/
  config : Option String
  /-- What is to be done. -/
  command : Command
  deriving DecidableEq, Repr

namespace Invocation

open Arguments

/-- The command that the words after its name ask for, once they are all read. -/
def command? (name : CommandName) (d : Draft) : Except UsageError Command :=
  match name with
  | .decode =>
    if d.raw && !d.body then .error .missingArgument else .ok (.decode d.body d.raw d.text)
  | .encode => .ok (.encode d.quote d.text)
  | .map =>
    match d.text with
    | some literal =>
      if d.offsets.isEmpty then .error .missingArgument else .ok (.map literal d.offsets)
    | none => .error .missingArgument

/-- The invocation for a command line without a command. -/
def withoutCommand (d : Draft) : Except UsageError Invocation :=
  if d.verbosity = 0 && d.log.isNone && d.config.isNone then .error .nothingAsked
  else .error .missingCommand

/-- Reads the words of a command line, without the name of the program. What follows the name of
a command is read to its end before the options in front of it are looked at again. -/
def ofArguments (words : List String) : Except UsageError Invocation := do
  match ← read .program words {} with
  | (before, none) => withoutCommand (← before.settle)
  | (before, some (name, words)) =>
    let (after, _) ← read (.command name) words {}
    let after ← after.settle
    let command ← command? name after
    let before ← before.settle
    return {
      verbosity := if after.verbosity = 0 then before.verbosity else after.verbosity
      log := after.log <|> before.log
      config := after.config <|> before.config
      command := command }

end Invocation

end GoLiteral
