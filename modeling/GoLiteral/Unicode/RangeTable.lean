/-!
# Sets of code points

A `RangeTable` is a set of code points given by ranges in increasing order; whether a code point
is in it is found by binary search. `runs` goes the other way and lists the ranges of a test.
-/

namespace GoLiteral.Unicode

/-- A set of code points as ranges `(first, last)`, in increasing order and with gaps between
them. -/
structure RangeTable where
  /-- The ranges, both ends included. -/
  ranges : Array (Nat × Nat)

namespace RangeTable

/-- Looks for the range that holds `code` among those from index `low` up to index `high`. -/
def search (t : RangeTable) (code low high : Nat) : Bool :=
  if low < high then
    let middle := (low + high) / 2
    match t.ranges[middle]? with
    | none => false
    | some (first, last) =>
      if code < first then t.search code low middle
      else if last < code then t.search code (middle + 1) high
      else true
  else false
termination_by high - low

/-- Whether the code point of `c` is in the set. -/
def contains (t : RangeTable) (c : Char) : Bool :=
  t.search c.toNat 0 t.ranges.size

end RangeTable

/-! ## The ranges of a test -/

/-- Extends the list of runs by one more code point. A run that does not reach it is closed. -/
def addToRuns (runs : Array (Nat × Nat)) (code : Nat) : Array (Nat × Nat) :=
  match runs.back? with
  | some (first, last) =>
    if last + 1 = code then runs.pop.push (first, code) else runs.push (code, code)
  | none => runs.push (code, code)

/-- The runs of the next `count` code points from `code` on that pass a test, after those already
found. -/
def runsFrom (test : Char → Bool) : Nat → Nat → Array (Nat × Nat) → Array (Nat × Nat)
  | 0, _, found => found
  | count + 1, code, found =>
    let passes := decide code.isValidChar && test (Char.ofNat code)
    runsFrom test count (code + 1) (if passes then addToRuns found code else found)

/-- The maximal runs of consecutive code points from `first` to `last` that pass a test. Numbers
that are no character end a run. -/
def runs (test : Char → Bool) (first last : Nat) : List (Nat × Nat) :=
  (runsFrom test (min last 0x10FFFF + 1 - first) first #[]).toList

end GoLiteral.Unicode
