import Mathlib.Data.List.Forall2
import GoLiteral.Proofs.Reading.Failure
import GoLiteral.Spelling

/-!
# Many texts in one buffer

Bodies may be read one after the other into one buffer, and some of them may be refused on the way.
The buffer is never cleared, not even of what a refused body has left there. Still no reading looks
at it: each one succeeds or fails just as it would alone, its map counts from where its own text
begins, and what it leaves is its text, or the text of what is before its bad escape.

Spellings are appended in the same way. They are told apart by nothing, so that what many of them
leave is the spelling of all the texts in one.
-/

namespace GoLiteral

namespace Reading

/-! ## One body -/

/-- What a body leaves in a buffer. -/
inductive Leaves (kind : Kind) (body : String) : String → Prop
  /-- The text of a body that can be read. -/
  | text {r : Reading} (read : ofBody kind body = .ok r) : Leaves kind body r.text
  /-- The text of what is before the bad escape of a body that is refused. -/
  | before {bad : BadEscape} {r : Reading} (refused : ofBody kind body = .error bad)
      (read : ofBody kind (String.ofList (body.toList.take bad.offset)) = .ok r) :
      Leaves kind body r.text

/-- **To read a body into a buffer** is to read it alone and append what it leaves. -/
theorem exists_leaves_append (kind : Kind) (body : String) : ∃ left, Leaves kind body left ∧
    ∀ buffer, append kind body buffer = ⟨buffer ++ left, (ofBody kind body).map positions⟩ := by
  obtain ⟨r, hr, happend⟩ | ⟨bad, r, hbad, hr, happend⟩ := append_cases kind body
  · refine ⟨r.text, .text hr, fun buffer ↦ ?_⟩
    rw [happend, hr]
    rfl
  · refine ⟨r.text, .before hbad hr, fun buffer ↦ ?_⟩
    rw [happend, hbad]
    rfl

end Reading

/-! ## Many bodies -/

/-- A buffer that bodies have been read into. -/
structure Gathering where
  /-- The buffer afterwards. -/
  buffer : String
  /-- How the readings went, in their order. -/
  results : List (Except BadEscape PositionMap)
  deriving DecidableEq

namespace Gathering

open Reading (Leaves ofBody)

/-- A buffer before the first body is read into it. -/
def start (buffer : String) : Gathering := ⟨buffer, []⟩

/-- Reads another body into the buffer. -/
def read (g : Gathering) (source : Kind × String) : Gathering :=
  let attempt := Reading.append source.1 source.2 g.buffer
  ⟨attempt.buffer, g.results ++ [attempt.result]⟩

/-- Reads bodies into the buffer, one after the other. -/
def readAll (g : Gathering) (sources : List (Kind × String)) : Gathering := sources.foldl read g

@[simp] theorem readAll_nil (g : Gathering) : g.readAll [] = g := rfl

@[simp] theorem readAll_cons (g : Gathering) (source : Kind × String)
    (sources : List (Kind × String)) :
    g.readAll (source :: sources) = (g.read source).readAll sources := rfl

theorem exists_leaves_readAll (sources : List (Kind × String)) : ∃ left : List String,
    List.Forall₂ (fun source ↦ Leaves source.1 source.2) sources left ∧
      ∀ g : Gathering, g.readAll sources = ⟨g.buffer ++ String.join left,
        g.results ++ sources.map fun source ↦
          (ofBody source.1 source.2).map Reading.positions⟩ := by
  induction sources with
  | nil => exact ⟨[], .nil, fun g ↦ by simp⟩
  | cons source sources ih =>
    obtain ⟨first, hfirst, happend⟩ := Reading.exists_leaves_append source.1 source.2
    obtain ⟨left, hleft, hall⟩ := ih
    refine ⟨first :: left, .cons hfirst hleft, fun g ↦ ?_⟩
    rw [readAll_cons, hall, read, happend, String.join_cons, String.append_assoc, List.map_cons,
      List.append_assoc, List.singleton_append]

end Gathering

/-! ## Many spellings -/

namespace Spelling

variable (hidden : Char → Bool)

theorem append_eq_append_ofText (text buffer : String) :
    append hidden text buffer = buffer ++ ofText hidden text := by
  rw [← String.toList_inj, toList_append, String.toList_append, toList_ofText]

theorem ofText_append (text text' : String) :
    ofText hidden (text ++ text') = ofText hidden text ++ ofText hidden text' := by
  rw [← String.toList_inj]
  simp

/-- Appends the spellings of texts to a buffer, one after the other. -/
def appendAll (texts : List String) (buffer : String) : String :=
  texts.foldl (fun written text ↦ append hidden text written) buffer

theorem appendAll_eq (texts : List String) (buffer : String) :
    appendAll hidden texts buffer = buffer ++ ofText hidden (String.join texts) := by
  induction texts generalizing buffer with
  | nil => simp [appendAll, ofText, append]
  | cons text texts ih =>
    have hstep : appendAll hidden (text :: texts) buffer =
        appendAll hidden texts (append hidden text buffer) := rfl
    rw [hstep, ih, append_eq_append_ofText, String.append_assoc, String.join_cons, ofText_append]

end Spelling

/-! ## Both -/

namespace Gathering

open Reading (Leaves ofBody)

/-- **A shared buffer is only appended to, and is never looked at.** Whatever it holds, each of the
bodies that are read into it is read with the map, or refused with the error, that it has alone; and
the buffer grows by what each of them leaves, in their order, where a body that is refused leaves
exactly the text of what is before its bad escape. The spellings of many texts are that of the one
text they make up. -/
theorem readAll_start (sources : List (Kind × String)) (hidden : Char → Bool)
    (texts : List String) :
    (∃ left : List String, List.Forall₂ (fun source ↦ Leaves source.1 source.2) sources left ∧
      ∀ buffer, (start buffer).readAll sources = ⟨buffer ++ String.join left,
        sources.map fun source ↦ (ofBody source.1 source.2).map Reading.positions⟩) ∧
      ∀ buffer, Spelling.appendAll hidden texts buffer =
        buffer ++ Spelling.ofText hidden (String.join texts) := by
  obtain ⟨left, hleft, hall⟩ := exists_leaves_readAll sources
  refine ⟨⟨left, hleft, fun buffer ↦ ?_⟩, Spelling.appendAll_eq hidden texts⟩
  rw [hall, start, List.nil_append]

/-- What a refused body has left stays in front of the text of the next one, whose map begins at
its own beginning. -/
example : (start ">").readAll [(.interpreted, "A\\x42\\q"), (.raw, "\\n")] =
    ⟨">AB\\n", [.error (.malformed 5 "\\q"), .ok (.verbatim 2)]⟩ := by decide +kernel

end Gathering

end GoLiteral
