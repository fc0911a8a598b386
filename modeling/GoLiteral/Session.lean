import GoLiteral.Reading
import GoLiteral.Token

/-!
# Reading sessions

An editor that searches or edits the value of a literal works on the decoded text, and needs every
position it finds there moved back into the literal as written. A session serves it on one token:
it reads a span of the token, and afterwards answers where in the token a boundary of the decoded
text lies.

The session of an interpreted token keeps the map of its last reading, and of a successful one
only: a failed reading, and one of a span that does not fit the token, leave no map. A raw token
needs none, since every span of it is its own value.
-/

namespace GoLiteral

/-- A token and what is known of its last reading. -/
structure Session where
  /-- The token that is read. -/
  host : Token
  /-- The map of the last reading, if it succeeded and the token is interpreted. -/
  positions : Option PositionMap
  deriving DecidableEq

namespace Session

/-- Why a span of a token cannot be read. -/
inductive Failure where
  /-- The span is reversed or goes past the end of the token, which has `length` characters. -/
  | outside (span : Span) (length : Nat)
  /-- The span holds a bad escape. Its position counts from the start of the span. -/
  | badEscape (bad : BadEscape)
  deriving DecidableEq, Repr

/-- The failure as it is shown. -/
def Failure.message : Failure → String
  | outside span length =>
    "range " ++ toString span.start ++ ".." ++ toString span.stop ++
      " is not inside a literal of " ++ toString length ++ " chars"
  | badEscape bad => bad.message

/-- A session on a token that has not been read. -/
def ofToken (host : Token) : Session := ⟨host, none⟩

/-- The span of the token that can be edited. -/
def contentSpan (s : Session) : Span := s.host.contentSpan

/-- Whether the token is edited as a single line. Tokens of both kinds are. -/
def isOneLine (_ : Session) : Bool := true

/-- Whether a span can be read. -/
def fits (s : Session) (span : Span) : Bool :=
  span.start ≤ span.stop && span.stop ≤ s.host.length

theorem fits_iff {s : Session} {span : Span} :
    s.fits span = true ↔ span.start ≤ span.stop ∧ span.stop ≤ s.host.length := by
  rw [fits, Bool.and_eq_true, decide_eq_true_iff, decide_eq_true_iff]

/-- What came of a reading. -/
structure Outcome where
  /-- The session afterwards. -/
  session : Session
  /-- The buffer afterwards. After a bad escape it ends with what precedes the escape. -/
  buffer : String
  /-- Why the reading failed, if it did. -/
  result : Except Failure Unit

/-- Reads a span of the token and appends its value to a buffer. -/
def append (s : Session) (span : Span) (buffer : String) : Outcome :=
  if s.fits span then
    let attempt := Reading.append s.host.kind (s.host.slice span) buffer
    match attempt.result with
    | .ok positions =>
      let kept := if s.host.isRaw then none else some positions
      ⟨⟨s.host, kept⟩, attempt.buffer, .ok ()⟩
    | .error bad => ⟨⟨s.host, none⟩, attempt.buffer, .error (.badEscape bad)⟩
  else ⟨⟨s.host, none⟩, buffer, .error (.outside span s.host.length)⟩

/-- Reads a span of the token: the session afterwards, and the value. -/
def read (s : Session) (span : Span) : Session × Except Failure String :=
  let outcome := s.append span ""
  (outcome.session, outcome.result.map fun _ ↦ outcome.buffer)

/-- The position in the token of boundary `decoded` of the span that was read last. There is none
when the boundary is not anchored, or when an interpreted token has no reading to go by. -/
def toHost? (s : Session) (decoded : Nat) (span : Span) : Option Nat :=
  match s.host.kind with
  | .raw => (PositionMap.verbatim span.length).toHost? decoded span
  | .interpreted => s.positions.bind fun positions ↦ positions.toHost? decoded span

end Session

end GoLiteral
