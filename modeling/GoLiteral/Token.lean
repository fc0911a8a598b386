import GoLiteral.Kind
import GoLiteral.PositionMap

/-!
# String literal tokens

A token is a string literal as it is written, delimiters included. Its first character decides
the kind; nothing is asked of the rest, so a token may be unclosed, and its body then runs to the
end of the text.

Whether the last character closes the token is decided from the end: it has to be the delimiter,
and in an interpreted token the run of backslashes before it has to be of even length. Positions
count characters; they are turned into byte positions only to cut the text.
-/

namespace GoLiteral

/-- The byte position of the character at index `i`, or the number of bytes of all of them when
there is none. -/
def byteOffset : List Char → Nat → Nat
  | [], _ => 0
  | _ :: _, 0 => 0
  | c :: cs, i + 1 => c.utf8Size + byteOffset cs i

/-- A text that opens with the delimiter of a string literal. -/
structure Token where
  /-- The token as written. -/
  text : String
  /-- Its kind. -/
  kind : Kind
  /-- The kind is that of the opening delimiter. -/
  opens : text.toList.head? = some kind.delimiter
  deriving DecidableEq

namespace Token

/-- The token with the given text, if the text opens with a delimiter. -/
def ofText? (text : String) : Option Token :=
  match h : text.toList.head? with
  | none => none
  | some c =>
    match hk : Kind.ofDelimiter? c with
    | none => none
    | some kind => some ⟨text, kind, by rw [h, Kind.ofDelimiter?_eq_some_iff.1 hk]⟩

/-- Whether the token is a raw literal. -/
def isRaw (t : Token) : Bool := t.kind = .raw

/-- How many characters the token has. -/
def length (t : Token) : Nat := t.text.length

/-- The characters of a span of the token. Positions past its end are moved there, and a reversed
span is empty. -/
def slice (t : Token) (span : Span) : String :=
  let start := byteOffset t.text.toList span.start
  let stop := byteOffset t.text.toList (max span.start span.stop)
  String.Pos.Raw.extract t.text ⟨start⟩ ⟨stop⟩

/-! ## The body -/

/-- The text between the first and the last byte of the token. -/
def inner (t : Token) : String :=
  String.Pos.Raw.extract t.text ⟨1⟩ ⟨t.text.utf8ByteSize - 1⟩

/-- Whether an odd number of backslashes stands before the last character. The opening delimiter
is never counted. -/
def endsInEscape (t : Token) : Bool :=
  (t.inner.toList.reverse.takeWhile (· = '\\')).length % 2 = 1

/-- Whether the last character closes the token. A lone escaped delimiter does not. -/
def isClosed (t : Token) : Bool :=
  2 ≤ t.length && t.text.toList.getLast? = some t.kind.delimiter &&
    !(t.kind = .interpreted && t.endsInEscape)

/-- The span of the body between the delimiters. The body of an unclosed token runs to the end. -/
def contentSpan (t : Token) : Span :=
  ⟨1, if t.isClosed then t.length - 1 else t.length⟩

/-- The body of the token. -/
def body (t : Token) : String := t.slice t.contentSpan

end Token

end GoLiteral
