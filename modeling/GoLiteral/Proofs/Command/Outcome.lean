import Mathlib.Data.String.Basic
import GoLiteral.Command

/-!
# How commands end

A command that works on a text prints one line when it succeeds, and nothing when it fails: it
computes the line as a whole before it prints. `outcome_decode` and `outcome_encode` say so with
the computation in a form that has no printing in it, and from there on nobody looks at how a
command runs. `map` prints line after line, but has nothing left to fail for when it begins, and
`outcome_map` says the same of it.

A line that is printed comes back from the standard input without its line break, unless it ends
with a carriage return, which is then taken for a part of the line break.
-/

theorem String.fromUTF8?_toUTF8 (text : String) : fromUTF8? text.toUTF8 = some text := by
  unfold fromUTF8?
  rw [toUTF8_eq_toByteArray, dif_pos text.isValidUTF8]
  rfl

namespace GoLiteral.Command

/-! ## Commands that print a line -/

/-- The end of a command that prints a text as its only line, or fails. -/
def lineOutcome : Except Failure String → Except Failure Unit × String
  | .ok text => (.ok (), text ++ "\n")
  | .error failure => (.error failure, "")

theorem run_bind_printLine (result : Except Failure String) :
    (liftM result >>= printLine : Printing Unit).run "" = lineOutcome result := by
  cases result with
  | error failure => rfl
  | ok text =>
    have hrun : (liftM (.ok text : Except Failure String) >>= printLine : Printing Unit).run "" =
        (.ok (), "" ++ text ++ "\n") := rfl
    rw [hrun, String.empty_append]
    rfl

variable (hidden : Char → Bool) (settings : Settings) (stdin : ByteArray)

/-- The value of a text, taken as a token or as a bare body. -/
def value (body raw : Bool) (text : String) : Except Failure String :=
  if body then bodyValue (if raw then .raw else settings.kind) text else tokenValue text

/-- The spelling of a text, with or without quotes. -/
def spelling (quote : Bool) (text : String) : String :=
  if quote || settings.quote then Spelling.quoted hidden text else Spelling.ofText hidden text

theorem outcome_decode (body raw : Bool) (input : Option String) :
    outcome hidden settings stdin (decode body raw input) =
      lineOutcome ((inputText input stdin).bind (value settings body raw)) := by
  rw [outcome, run]
  cases inputText input stdin with
  | error failure => rfl
  | ok text =>
    cases body with
    | true => exact run_bind_printLine (bodyValue (if raw then .raw else settings.kind) text)
    | false => exact run_bind_printLine (tokenValue text)

theorem outcome_encode (quote : Bool) (input : Option String) :
    outcome hidden settings stdin (encode quote input) =
      lineOutcome ((inputText input stdin).map (spelling hidden settings quote)) := by
  rw [outcome, run]
  cases inputText input stdin with
  | error failure => rfl
  | ok text => exact run_bind_printLine (.ok (spelling hidden settings quote text))

/-! ## Commands that print lines -/

/-- The end of a command that prints some lines, or fails. -/
def linesOutcome : Except Failure (List String) → Except Failure Unit × String
  | .ok lines => (.ok (), String.join (lines.map (· ++ "\n")))
  | .error failure => (.error failure, "")

theorem run_forM_printLine {α : Type} (line : α → String) (xs : List α) (printed : String) :
    (xs.forM fun x ↦ printLine (line x) : Printing Unit).run printed =
      (.ok (), printed ++ String.join (xs.map fun x ↦ line x ++ "\n")) := by
  induction xs generalizing printed with
  | nil =>
    rw [List.map_nil, String.join_nil, String.append_empty]
    rfl
  | cons x xs ih =>
    have hcons : ((x :: xs).forM fun x ↦ printLine (line x) : Printing Unit).run printed =
        (xs.forM fun x ↦ printLine (line x) : Printing Unit).run (printed ++ line x ++ "\n") := rfl
    rw [hcons, ih, List.map_cons, String.join_cons, String.append_assoc, String.append_assoc,
      String.append_assoc]

theorem run_bind_forM_printLine {α β : Type} (result : Except Failure α) (line : β → String)
    (xs : List β) :
    (liftM result >>= fun _ ↦ xs.forM fun x ↦ printLine (line x) : Printing Unit).run "" =
      linesOutcome (result.map fun _ ↦ xs.map line) := by
  cases result with
  | error failure => rfl
  | ok a =>
    have hrun : (liftM (.ok a : Except Failure α) >>= fun _ ↦ xs.forM fun x ↦ printLine (line x) :
        Printing Unit).run "" = (xs.forM fun x ↦ printLine (line x) : Printing Unit).run "" := rfl
    rw [hrun, run_forM_printLine, String.empty_append, Except.map, linesOutcome, List.map_map]
    rfl

/-- Where in a token the boundaries of its value lie. -/
def places (text : String) : Except Failure (ℕ → Option ℕ) := do
  let session := Session.ofToken (← token text)
  let (after, result) := session.read session.contentSpan
  (result.mapError .badLiteral).map fun _ offset ↦ after.toHost? offset session.contentSpan

theorem outcome_map (literal : String) (offsets : List ℕ) :
    outcome hidden settings stdin (map literal offsets) =
      linesOutcome ((places literal).map fun place ↦ offsets.map fun o ↦ mapLine o (place o)) := by
  rw [outcome, run, places]
  cases token literal with
  | error failure => rfl
  | ok token =>
    have hmap : ∀ (result : Except Failure String) (place : ℕ → Option ℕ),
        (result.map fun _ ↦ offsets.map fun o ↦ mapLine o (place o)) =
          (result.map fun _ ↦ place).map fun place ↦ offsets.map fun o ↦ mapLine o (place o) := by
      intro result place
      cases result <;> rfl
    exact (run_bind_forM_printLine _ _ offsets).trans (congrArg linesOutcome (hmap _ _))

/-! ## Lines as input -/

/-- A text without the carriage return at its end, if it has one. -/
def dropReturn (text : String) : String :=
  if text.toList.getLast? = some '\x0d' then String.ofList text.toList.dropLast else text

theorem dropReturn_eq_self_iff {text : String} :
    dropReturn text = text ↔ text.toList.getLast? ≠ some '\x0d' := by
  constructor
  · intro h hcr
    rw [dropReturn, if_pos hcr] at h
    have hlen := congrArg String.length h
    rw [String.length_ofList, List.length_dropLast, String.length_toList] at hlen
    have hpos : 0 < text.toList.length := List.length_pos_of_mem (List.mem_of_getLast? hcr)
    rw [String.length_toList] at hpos
    omega
  · exact fun h ↦ if_neg h

/-- A line break is dropped as it was put there, with a carriage return before it. -/
theorem dropLineBreak_append_newline (text : String) :
    dropLineBreak (text ++ "\n") = dropReturn text := by
  have hreverse : (text ++ "\n").toList.reverse = '\n' :: text.toList.reverse := by
    rw [String.toList_append, List.reverse_append]
    rfl
  rw [dropLineBreak, hreverse, dropReturn, ← List.head?_reverse]
  split
  · next rest hcr =>
    have htext : text.toList = rest.reverse ++ ['\x0d'] := by
      rw [← List.reverse_cons, ← (List.cons.inj hcr).2, List.reverse_reverse]
    rw [(List.cons.inj hcr).2, List.head?_cons, if_pos rfl, htext, List.dropLast_concat]
  · next rest hne hrest =>
    have hhead : text.toList.reverse.head? ≠ some '\x0d' := by
      intro hcr
      obtain ⟨tail, htail⟩ := List.head?_eq_some_iff.mp hcr
      exact hne tail ((List.cons.inj hrest).2.symm.trans htail)
    rw [if_neg hhead, ← (List.cons.inj hrest).2, List.reverse_reverse, String.ofList_toList]
  · next hne => exact absurd rfl (hne _)

theorem inputText_printed (text : String) :
    inputText none (text ++ "\n").toUTF8 = .ok (dropReturn text) := by
  rw [inputText, String.fromUTF8?_toUTF8]
  exact congrArg Except.ok (dropLineBreak_append_newline text)

theorem inputText_line {text : String} (h : text.toList.getLast? ≠ some '\x0d') :
    inputText none (text ++ "\n").toUTF8 = .ok text := by
  rw [inputText_printed, dropReturn_eq_self_iff.mpr h]

end GoLiteral.Command
