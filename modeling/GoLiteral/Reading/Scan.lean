import GoLiteral.PositionMap
import GoLiteral.Reading.BadEscape

/-!
# Scanning an interpreted body

The scan goes once through a body, left to right, and fills the slots of the position map as it
goes. Before a character is read, the boundary before it and the one after it are both written,
the latter as if the character stood for itself; once the character turns out to open an escape,
the boundary after it is written again.

`Scan.step` is one round, and `Scan.run` goes on until the body is used up or an escape is bad.
What was decoded before a bad escape stays in the buffer. The empty body needs no round, so its
only slot is never filled; `Reading.append` does not scan bodies without a backslash.
-/

namespace GoLiteral

/-- What came of appending a decoded body to a buffer. -/
structure Attempt where
  /-- The buffer afterwards. After a failure it ends with what precedes the bad escape. -/
  buffer : String
  /-- The map of the text that was appended, or the escape that stopped the reading. -/
  result : Except BadEscape PositionMap

/-- The state of a scan between two characters. -/
structure Scan where
  /-- What is left of the body. -/
  rest : List Char
  /-- How many characters of the body have been read. -/
  index : Nat
  /-- How many characters have been decoded. -/
  decoded : Nat
  /-- The slots of the position map. -/
  slots : Array (Option Nat)
  /-- The buffer that the decoded characters are appended to. -/
  buffer : String

namespace Scan

/-- The scan of a body before its first round. -/
def start (body : List Char) (buffer : String) : Scan :=
  ⟨body, 0, 0, Array.replicate (body.length + 1) none, buffer⟩

/-- Writes the boundary before the next character and, provisionally, the one after it. -/
def anchor (s : Scan) : Scan :=
  { s with
    slots := (s.slots.setIfInBounds s.decoded (some s.index)).setIfInBounds (s.decoded + 1)
      (some (s.index + 1)) }

/-- Moves past a character that stands for itself. -/
def plain (s : Scan) (c : Char) (rest : List Char) : Scan :=
  { s with
    rest := rest
    index := s.index + 1
    decoded := s.decoded + 1
    buffer := s.buffer.push c }

/-- Moves past an escape, where `rest` is what follows its backslash, and writes the boundary
after it. -/
def escaped (s : Scan) (e : Escape) (rest : List Char) : Scan :=
  { rest := rest.drop (e.width - 1)
    index := s.index + e.width
    decoded := s.decoded + 1
    slots := s.slots.setIfInBounds (s.decoded + 1) (some (s.index + e.width))
    buffer := s.buffer.push e.value }

/-- What a round of the scan leads to. -/
inductive Step where
  /-- Another round. -/
  | next (s : Scan)
  /-- The end. -/
  | stop (attempt : Attempt)

/-- One round of the scan. -/
def step (s : Scan) : Step :=
  match s.rest with
  | [] => .stop ⟨s.buffer, .ok (.anchored s.slots)⟩
  | c :: rest =>
    if c = '\\' then
      match Escape.read rest with
      | .ok e => .next (s.anchor.escaped e rest)
      | .error fault =>
        .stop ⟨s.buffer, .error (BadEscape.ofFault fault s.index (c :: rest))⟩
    else .next (s.anchor.plain c rest)

/-- Every round but the last uses up some of the body. -/
theorem length_rest_lt_of_step {s t : Scan} (h : s.step = .next t) :
    t.rest.length < s.rest.length := by
  unfold step at h
  split at h
  · exact absurd h (by simp)
  · next c rest hrest =>
    rw [hrest]
    split at h
    · split at h
      · obtain rfl := Step.next.inj h
        simp only [escaped, List.length_drop, List.length_cons]
        omega
      · exact absurd h (by simp)
    · obtain rfl := Step.next.inj h
      simp [plain]

/-- Scans the rest of the body. -/
def run (s : Scan) : Attempt :=
  match _ : s.step with
  | .next t => t.run
  | .stop attempt => attempt
termination_by s.rest.length
decreasing_by exact length_rest_lt_of_step (by assumption)

end Scan

end GoLiteral
