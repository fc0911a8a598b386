/-!
# Positions in a value and in its body

A boundary of a decoded text is the place before one of its characters, or after the last. A
`PositionMap` sends each boundary to the place in the body it was read from; it answers in both
directions, and it moves a boundary into a longer text that holds the body, its *host*. All
positions count characters.

The map of a raw body is the identity up to the body's length. The map of an interpreted body has
one slot for each character of the body and one more, of which those past the end of the decoded
text stay empty; nothing here assumes more than an array of slots.
-/

namespace GoLiteral

/-- A stretch of a text, from `start` up to and without `stop`. -/
structure Span where
  /-- The first position. -/
  start : Nat
  /-- The position after the last. -/
  stop : Nat
  deriving DecidableEq, Repr

/-- How many characters a span has; a reversed span has none. -/
def Span.length (span : Span) : Nat := span.stop - span.start

/-- A correspondence between the boundaries of a decoded text and places in its body. -/
inductive PositionMap where
  /-- The text is the body itself, of the given length. -/
  | verbatim (length : Nat)
  /-- Slot `d` holds the place in the body of boundary `d`. -/
  | anchored (slots : Array (Option Nat))
  deriving DecidableEq, Repr

namespace PositionMap

/-- The map of an interpreted body of `length` characters without escapes. -/
def identity (length : Nat) : PositionMap :=
  .anchored ((Array.range (length + 1)).map some)

/-- The place in the body of boundary `decoded`. -/
def get? : PositionMap → Nat → Option Nat
  | verbatim length, decoded => if decoded ≤ length then some decoded else none
  | anchored slots, decoded => slots[decoded]?.join

/-- The place of boundary `decoded` in a host that holds the body at `host`. A place past the end
of `host` is moved to its end. A verbatim map moves every boundary, an anchored map only those it
anchors. -/
def toHost? (m : PositionMap) (decoded : Nat) (host : Span) : Option Nat :=
  let place? :=
    match m with
    | verbatim _ => some decoded
    | anchored slots => slots[decoded]?.join
  place?.map fun place ↦ min place host.length + host.start

/-- The leading slots that are filled. -/
def filled (slots : Array (Option Nat)) : List (Option Nat) :=
  slots.toList.takeWhile Option.isSome

/-- The boundary read from place `raw` of the body; none when the place is inside an escape. -/
def toDecoded? : PositionMap → Nat → Option Nat
  | verbatim length, raw => if raw ≤ length then some raw else none
  | anchored slots, raw => (filled slots).findIdx? (· == some raw)

/-- How many characters of decoded text the map covers. -/
def decodedLength : PositionMap → Nat
  | verbatim length => length
  | anchored slots => (filled slots).length - 1

end PositionMap

end GoLiteral
