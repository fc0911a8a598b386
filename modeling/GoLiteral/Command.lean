import GoLiteral.Session
import GoLiteral.Settings
import GoLiteral.Spelling

/-!
# Commands

Three commands work on a text, which is given or comes from the standard input: `decode` prints
the value of a token or of a bare body, `encode` prints the spelling of a text, and `map` prints
for each boundary of a token's value its position in the token. Every line they print ends with a
line feed. A text from the standard input loses one line break at its end, so that what one
command prints is what the next one reads.

Which characters are hidden is a parameter here as it is of the spelling, for only `encode` to use.
-/

namespace GoLiteral

/-- What is to be done. -/
inductive Command where
  /-- Print the value of a token; or, of a bare `body`, taken as a `raw` one or as the settings
  say. -/
  | decode (body raw : Bool) (input : Option String)
  /-- Print the spelling of a text, between quotes if asked for here or in the settings. -/
  | encode (quote : Bool) (input : Option String)
  /-- Print where in a token the given boundaries of its value lie. -/
  | map (literal : String) (offsets : List Nat)
  deriving DecidableEq, Repr

namespace Command

/-- Why a command fails. -/
inductive Failure where
  /-- The standard input is needed and is not encoded as UTF-8. -/
  | badInput
  /-- The text does not open with a delimiter. -/
  | notALiteral (text : String)
  /-- The bare body holds a bad escape. -/
  | badBody (bad : BadEscape)
  /-- The token cannot be read. -/
  | badLiteral (failure : Session.Failure)
  deriving DecidableEq, Repr

namespace Failure

/-- What failed. -/
def headline : Failure → String
  | badInput => "failed to read stdin"
  | notALiteral text => "not a string literal: " ++ text
  | badBody _ => "failed to decode literal body"
  | badLiteral _ => "failed to decode literal"

/-- Why it failed, where that is not said yet. -/
def cause? : Failure → Option String
  | badInput => some "stream did not contain valid UTF-8"
  | notALiteral _ => none
  | badBody bad => some bad.message
  | badLiteral failure => some failure.message

/-- What failed and why. -/
def message (failure : Failure) : String :=
  match failure.cause? with
  | some cause => failure.headline ++ ": " ++ cause
  | none => failure.headline

/-- The bad escape behind a failure, if there is one. -/
def badEscape? : Failure → Option BadEscape
  | badBody bad => some bad
  | badLiteral (.badEscape bad) => some bad
  | _ => none

end Failure

/-! ## Running -/

/-- A computation that prints, and may fail after it has printed. -/
abbrev Printing := ExceptT Failure (StateM String)

/-- Prints a line. -/
def printLine (text : String) : Printing Unit :=
  modify fun printed ↦ printed ++ text ++ "\n"

/-- Drops one line break, a line feed with or without a carriage return before it, from the end. -/
def dropLineBreak (text : String) : String :=
  match text.toList.reverse with
  | '\n' :: '\x0d' :: rest => String.ofList rest.reverse
  | '\n' :: rest => String.ofList rest.reverse
  | _ => text

/-- Whether a command works on the standard input. -/
def readsStdin : Command → Bool
  | decode _ _ input => input.isNone
  | encode _ input => input.isNone
  | map _ _ => false

/-- The text to work on: the one given, or else the standard input. -/
def inputText (input : Option String) (stdin : ByteArray) : Except Failure String :=
  match input with
  | some text => .ok text
  | none =>
    match String.fromUTF8? stdin with
    | some text => .ok (dropLineBreak text)
    | none => .error .badInput

/-- The token that a text is. -/
def token (text : String) : Except Failure Token :=
  match Token.ofText? text with
  | some token => .ok token
  | none => .error (.notALiteral text)

/-- The value of a token, read in a session of its own. -/
def tokenValue (text : String) : Except Failure String := do
  let session := Session.ofToken (← token text)
  (session.read session.contentSpan).2.mapError .badLiteral

/-- The value of a bare body. -/
def bodyValue (kind : Kind) (body : String) : Except Failure String :=
  match Reading.ofBody kind body with
  | .ok reading => .ok reading.text
  | .error bad => .error (.badBody bad)

/-- The line that says where a boundary lies. -/
def mapLine (offset : Nat) : Option Nat → String
  | some place => toString offset ++ " -> " ++ toString place
  | none => toString offset ++ " -> -"

/-- Runs a command on the given settings and standard input. -/
def run (hidden : Char → Bool) (settings : Settings) (stdin : ByteArray) : Command → Printing Unit
  | decode body raw input => do
    let text ← inputText input stdin
    let value ←
      if body then bodyValue (if raw then .raw else settings.kind) text else tokenValue text
    printLine value
  | encode quote input => do
    let text ← inputText input stdin
    printLine <|
      if quote || settings.quote then Spelling.quoted hidden text else Spelling.ofText hidden text
  | map literal offsets => do
    let session := Session.ofToken (← token literal)
    let span := session.contentSpan
    let (session, result) := session.read span
    let _ ← result.mapError Failure.badLiteral
    offsets.forM fun offset ↦ printLine (mapLine offset (session.toHost? offset span))

/-- What a command has printed when it ends, and how it ends. -/
def outcome (hidden : Char → Bool) (settings : Settings) (stdin : ByteArray) (command : Command) :
    Except Failure Unit × String :=
  (command.run hidden settings stdin).run ""

end Command

end GoLiteral
