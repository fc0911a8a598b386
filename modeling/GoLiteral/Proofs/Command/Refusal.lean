import GoLiteral.Invocation
import GoLiteral.Proofs.Command.Body

/-!
# Commands that fail

A command fails for one of four causes, which `Refuses` lists with the failure each of them leads
to: the standard input is needed and is no text, what has to be a token opens with no delimiter,
and the body to decode, of a token or a bare one, is interpreted and has a bad escape.

Every command knows all its lines before it prints the first of them, as `outcome_eq_linesOutcome`
says of the three commands alike. So a command that fails prints nothing, not even what precedes a
bad escape, and one that succeeds prints whole lines.
-/

/-! ## Failures that are passed on -/

namespace Except

variable {ε ε' α β : Type} {result : Except ε α}

theorem map_eq_error_iff {f : α → β} {e : ε} :
    result.map f = .error e ↔ result = .error e := by
  cases result <;> simp [Except.map]

theorem map_eq_ok_iff {f : α → β} {b : β} :
    result.map f = .ok b ↔ ∃ a, result = .ok a ∧ f a = b := by
  cases result <;> simp [Except.map]

theorem mapError_eq_error_iff {g : ε → ε'} {e' : ε'} :
    result.mapError g = .error e' ↔ ∃ e, result = .error e ∧ e' = g e := by
  cases result <;> simp [Except.mapError, eq_comm]

theorem bind_eq_error_iff {f : α → Except ε β} {e : ε} :
    result.bind f = .error e ↔ result = .error e ∨ ∃ a, result = .ok a ∧ f a = .error e := by
  cases result <;> simp [Except.bind]

end Except

namespace GoLiteral

theorem Token.ofText?_eq_none_iff {text : String} :
    ofText? text = none ↔ ∀ kind : Kind, text.toList.head? ≠ some kind.delimiter := by
  constructor
  · intro h kind opens
    exact absurd (h.symm.trans (ofText?_text ⟨text, kind, opens⟩)) (by simp)
  · intro h
    rw [Option.eq_none_iff_forall_ne_some]
    intro t ht
    obtain rfl := text_of_ofText? ht
    exact h t.kind t.opens

namespace Command

/-! ## Why a command fails -/

/-- The command takes the text for a token. -/
inductive TakesToken (stdin : ByteArray) : Command → String → Prop
  | decode {raw : Bool} {input : Option String} {text : String}
      (receives : inputText input stdin = .ok text) :
      TakesToken stdin (.decode false raw input) text
  | map (literal : String) (offsets : List ℕ) : TakesToken stdin (.map literal offsets) literal

/-- The command has to fail, with the given failure. -/
inductive Refuses (settings : Settings) (stdin : ByteArray) : Command → Failure → Prop
  /-- The standard input is needed and is no text. -/
  | badInput {command : Command} (reads : command.readsStdin = true)
      (invalid : ¬stdin.IsValidUTF8) : Refuses settings stdin command .badInput
  /-- What has to be a token opens with no delimiter. -/
  | notALiteral {command : Command} {text : String} (takes : TakesToken stdin command text)
      (opens : ∀ kind : Kind, text.toList.head? ≠ some kind.delimiter) :
      Refuses settings stdin command (.notALiteral text)
  /-- The body of an interpreted token has a bad escape. -/
  | badLiteral {command : Command} {t : Token} {bad : BadEscape}
      (takes : TakesToken stdin command t.text) (interpreted : t.kind = .interpreted)
      (refused : Reading.ofBody .interpreted t.body = .error bad) :
      Refuses settings stdin command (.badLiteral (.badEscape bad))
  /-- A bare body that is taken for an interpreted one has a bad escape. -/
  | badBody {input : Option String} {body : String} {bad : BadEscape}
      (receives : inputText input stdin = .ok body) (interpreted : settings.kind = .interpreted)
      (refused : Reading.ofBody .interpreted body = .error bad) :
      Refuses settings stdin (.decode true false input) (.badBody bad)

/-! ## Steps that fail -/

theorem inputText_eq_error_iff {input : Option String} {stdin : ByteArray} {failure : Failure} :
    inputText input stdin = .error failure ↔
      input.isNone = true ∧ ¬stdin.IsValidUTF8 ∧ failure = .badInput := by
  cases input with
  | some text => simp [inputText]
  | none =>
    by_cases hvalid : stdin.IsValidUTF8
    · simp [inputText, String.fromUTF8?, hvalid]
    · simp [inputText, String.fromUTF8?, hvalid, eq_comm]

theorem bodyValue_eq_error_iff {kind : Kind} {body : String} {failure : Failure} :
    bodyValue kind body = .error failure ↔
      ∃ bad, Reading.ofBody kind body = .error bad ∧ failure = .badBody bad := by
  rw [bodyValue_eq, Except.mapError_eq_error_iff]
  simp only [Except.map_eq_error_iff]

theorem tokenValue_text_eq_error_iff {t : Token} {failure : Failure} :
    tokenValue t.text = .error failure ↔ ∃ bad, Reading.ofBody t.kind t.body = .error bad ∧
      failure = .badLiteral (.badEscape bad) := by
  rw [tokenValue_eq_of_ofText? t.ofText?_text, Except.mapError_eq_error_iff]
  simp only [Except.map_eq_error_iff]
  rfl

theorem places_eq_error_iff {literal : String} {failure : Failure} :
    places literal = .error failure ↔ tokenValue literal = .error failure := by
  obtain ⟨failure', hvalue, hplaces⟩ | ⟨t, text, -, -, hvalue, hplaces⟩ :=
    tokenValue_places_cases literal
  · rw [hvalue, hplaces, Except.error.injEq, Except.error.injEq]
  · simp [hvalue, hplaces]

/-! ## What a command is to print -/

/-- The lines that a command is to print, or why it has none. -/
def lines (hidden : Char → Bool) (settings : Settings) (stdin : ByteArray) :
    Command → Except Failure (List String)
  | decode body raw input =>
    ((inputText input stdin).bind (value settings body raw)).map fun text ↦ [text]
  | encode quote input =>
    ((inputText input stdin).map (spelling hidden settings quote)).map fun text ↦ [text]
  | map literal offsets =>
    (places literal).map fun place ↦ offsets.map fun o ↦ mapLine o (place o)

theorem lineOutcome_eq_linesOutcome (result : Except Failure String) :
    lineOutcome result = linesOutcome (result.map fun text ↦ [text]) := by
  cases result with
  | error failure => rfl
  | ok text =>
    rw [Except.map, linesOutcome, List.map_singleton, String.join_cons, String.join_nil,
      String.append_empty]
    rfl

/-- **A command knows its lines before it prints them.** -/
theorem outcome_eq_linesOutcome (hidden : Char → Bool) (settings : Settings) (stdin : ByteArray)
    (command : Command) :
    outcome hidden settings stdin command = linesOutcome (lines hidden settings stdin command) := by
  cases command with
  | decode body raw input => rw [outcome_decode, lineOutcome_eq_linesOutcome, lines]
  | encode quote input => rw [outcome_encode, lineOutcome_eq_linesOutcome, lines]
  | map literal offsets => rw [outcome_map, lines]

/-! ### When it has none -/

variable {hidden : Char → Bool} {settings : Settings} {stdin : ByteArray} {command : Command}
  {failure : Failure}

theorem lines_decode_eq_error_iff {body raw : Bool} {input : Option String} :
    lines hidden settings stdin (decode body raw input) = .error failure ↔
      inputText input stdin = .error failure ∨
        ∃ text, inputText input stdin = .ok text ∧
          value settings body raw text = .error failure := by
  rw [lines, Except.map_eq_error_iff, Except.bind_eq_error_iff]

theorem lines_encode_eq_error_iff {quote : Bool} {input : Option String} :
    lines hidden settings stdin (encode quote input) = .error failure ↔
      inputText input stdin = .error failure := by
  rw [lines, Except.map_eq_error_iff, Except.map_eq_error_iff]

theorem lines_map_eq_error_iff {literal : String} {offsets : List ℕ} :
    lines hidden settings stdin (map literal offsets) = .error failure ↔
      tokenValue literal = .error failure := by
  rw [lines, Except.map_eq_error_iff, places_eq_error_iff]

theorem lines_eq_error_of_takesToken {text : String} (takes : TakesToken stdin command text)
    (h : tokenValue text = .error failure) :
    lines hidden settings stdin command = .error failure := by
  cases takes with
  | decode receives => exact lines_decode_eq_error_iff.mpr (Or.inr ⟨text, receives, h⟩)
  | map literal offsets => exact lines_map_eq_error_iff.mpr h

theorem refuses_of_inputText {input : Option String} (hreads : command.readsStdin = input.isNone)
    (h : inputText input stdin = .error failure) : Refuses settings stdin command failure := by
  obtain ⟨hnone, hinvalid, rfl⟩ := inputText_eq_error_iff.mp h
  exact .badInput (hreads.trans hnone) hinvalid

theorem refuses_of_tokenValue {text : String} (takes : TakesToken stdin command text)
    (h : tokenValue text = .error failure) : Refuses settings stdin command failure := by
  cases htoken : Token.ofText? text with
  | none =>
    rw [tokenValue_of_ofText?_eq_none htoken, Except.error.injEq] at h
    rw [← h]
    exact .notALiteral takes (Token.ofText?_eq_none_iff.mp htoken)
  | some t =>
    obtain rfl := Token.text_of_ofText? htoken
    obtain ⟨bad, hbad, rfl⟩ := tokenValue_text_eq_error_iff.mp h
    have hkind := Reading.interpreted_of_ofBody_eq_error hbad
    exact .badLiteral takes hkind (hkind ▸ hbad)

theorem refuses_of_bodyValue {raw : Bool} {input : Option String} {body : String}
    (receives : inputText input stdin = .ok body)
    (h : bodyValue (if raw then .raw else settings.kind) body = .error failure) :
    Refuses settings stdin (decode true raw input) failure := by
  obtain ⟨bad, hbad, rfl⟩ := bodyValue_eq_error_iff.mp h
  have hkind := Reading.interpreted_of_ofBody_eq_error hbad
  rw [hkind] at hbad
  cases raw with
  | true => exact absurd hkind (by simp)
  | false => exact .badBody receives hkind hbad

/-- A command has no lines exactly when it has to fail. -/
theorem lines_eq_error_iff :
    lines hidden settings stdin command = .error failure ↔
      Refuses settings stdin command failure := by
  -- One way by the steps of the command, the other by the cause of the failure.
  constructor
  · intro h
    cases command with
    | decode body raw input =>
      obtain hinput | ⟨text, hinput, hvalue⟩ := lines_decode_eq_error_iff.mp h
      · exact refuses_of_inputText rfl hinput
      · cases body with
        | true => exact refuses_of_bodyValue hinput hvalue
        | false => exact refuses_of_tokenValue (.decode hinput) hvalue
    | encode quote input => exact refuses_of_inputText rfl (lines_encode_eq_error_iff.mp h)
    | map literal offsets =>
      exact refuses_of_tokenValue (.map literal offsets) (lines_map_eq_error_iff.mp h)
  · rintro (⟨hreads, hinvalid⟩ | ⟨takes, opens⟩ | ⟨takes, hkind, hbad⟩ | ⟨receives, hkind, hbad⟩)
    · cases command with
      | decode body raw input =>
        have hinput := inputText_eq_error_iff.mpr ⟨hreads, hinvalid, rfl⟩
        exact lines_decode_eq_error_iff.mpr (Or.inl hinput)
      | encode quote input =>
        exact lines_encode_eq_error_iff.mpr (inputText_eq_error_iff.mpr ⟨hreads, hinvalid, rfl⟩)
      | map literal offsets => exact absurd hreads Bool.false_ne_true
    · have hnone := Token.ofText?_eq_none_iff.mpr opens
      exact lines_eq_error_of_takesToken takes (tokenValue_of_ofText?_eq_none hnone)
    · have hvalue := tokenValue_text_eq_error_iff.mpr ⟨_, hkind ▸ hbad, rfl⟩
      exact lines_eq_error_of_takesToken takes hvalue
    · have hvalue := bodyValue_eq_error_iff.mpr ⟨_, hkind ▸ hbad, rfl⟩
      exact lines_decode_eq_error_iff.mpr (Or.inr ⟨_, receives, hvalue⟩)

theorem ne_nil_of_lines (hoffsets : ∀ literal, command ≠ map literal []) {printed : List String}
    (h : lines hidden settings stdin command = .ok printed) : printed ≠ [] := by
  rintro rfl
  cases command with
  | decode body raw input =>
    obtain ⟨text, -, hnil⟩ := Except.map_eq_ok_iff.mp h
    exact absurd hnil (List.cons_ne_nil _ _)
  | encode quote input =>
    obtain ⟨text, -, hnil⟩ := Except.map_eq_ok_iff.mp h
    exact absurd hnil (List.cons_ne_nil _ _)
  | map literal offsets =>
    obtain ⟨place, -, hnil⟩ := Except.map_eq_ok_iff.mp h
    exact hoffsets literal (congrArg (map literal) (List.map_eq_nil_iff.mp hnil))

/-! ## What is printed -/

theorem exists_join_eq_append_newline {printed : List String} (hne : printed ≠ []) :
    ∃ text, String.join (printed.map (· ++ "\n")) = text ++ "\n" := by
  obtain rfl | ⟨front, last, rfl⟩ := List.eq_nil_or_concat' printed
  · exact absurd rfl hne
  · refine ⟨String.join (front.map (· ++ "\n")) ++ last, ?_⟩
    rw [List.map_append, String.join_append, List.map_singleton, String.join_cons, String.join_nil,
      String.append_empty, String.append_assoc]

/-- **All or nothing.** A command, `map` with an offset at least, fails exactly when it has to,
and with the failure that it has to fail with. If it fails it has printed nothing, and if it
succeeds it has printed a text that ends with a line feed. -/
theorem outcome_eq_error_iff_refuses (hidden : Char → Bool) (settings : Settings)
    (stdin : ByteArray) {command : Command} (hoffsets : ∀ literal, command ≠ map literal []) :
    (∀ failure, (outcome hidden settings stdin command).1 = .error failure ↔
      Refuses settings stdin command failure) ∧
    (∀ failure, (outcome hidden settings stdin command).1 = .error failure →
      (outcome hidden settings stdin command).2 = "") ∧
    ((outcome hidden settings stdin command).1 = .ok () →
      ∃ text, (outcome hidden settings stdin command).2 = text ++ "\n") := by
  simp only [outcome_eq_linesOutcome, ← @lines_eq_error_iff hidden]
  cases hlines : lines hidden settings stdin command with
  | error failure => simp [linesOutcome]
  | ok printed =>
    refine ⟨by simp [linesOutcome], by simp [linesOutcome], fun _ ↦ ?_⟩
    exact exists_join_eq_append_newline (ne_nil_of_lines hoffsets hlines)

/-- A bad escape behind one that can be read, with two offsets to print a line for. -/
theorem outcome_eq_error_iff_refuses_map :
    (∀ literal, map "\"é\\x41\\q\"" [0, 1] ≠ map literal []) ∧
      Refuses .standard .empty (map "\"é\\x41\\q\"" [0, 1])
        (.badLiteral (.badEscape (.malformed 5 "\\q"))) ∧
      outcome Unicode.isHidden .standard .empty (map "\"é\\x41\\q\"" [0, 1]) =
        (.error (.badLiteral (.badEscape (.malformed 5 "\\q"))), "") := by
  have hoffsets : ∀ literal, map "\"é\\x41\\q\"" [0, 1] ≠ map literal [] := by simp
  have hrefuses : Refuses .standard .empty (map "\"é\\x41\\q\"" [0, 1])
      (.badLiteral (.badEscape (.malformed 5 "\\q"))) :=
    .badLiteral (t := ⟨"\"é\\x41\\q\"", .interpreted, by decide +kernel⟩) (.map _ _) rfl
      (by decide +kernel)
  obtain ⟨hfails, hprints, -⟩ :=
    outcome_eq_error_iff_refuses Unicode.isHidden .standard .empty hoffsets
  have hfirst := (hfails _).mpr hrefuses
  exact ⟨hoffsets, hrefuses, Prod.ext hfirst (hprints _ hfirst)⟩

end Command

/-! ## What a command line asks for -/

namespace Invocation

open Arguments

theorem ne_map_nil_of_command? {name : CommandName} {d : Draft} {command : Command}
    (h : command? name d = .ok command) (literal : String) : command ≠ .map literal [] := by
  rintro rfl
  unfold command? at h
  split at h
  · split at h <;> simp at h
  · simp at h
  · split at h
    · split at h
      · simp at h
      · next hoffsets =>
        simp only [Except.ok.injEq, Command.map.injEq] at h
        exact hoffsets (h.2 ▸ rfl)
    · simp at h

/-- A command line that is understood asks for something to be printed. -/
theorem command_ne_map_nil {words : List String} {inv : Invocation}
    (h : ofArguments words = .ok inv) (literal : String) : inv.command ≠ .map literal [] := by
  rw [ofArguments] at h
  simp only [bind, Except.bind] at h
  split at h
  · simp at h
  split at h
  · -- There is no command, and so no invocation.
    split at h
    · simp at h
    · rw [withoutCommand] at h
      split at h <;> simp at h
  · split at h
    · simp at h
    split at h
    · simp at h
    split at h
    · simp at h
    next hcommand =>
    split at h
    · simp at h
    · simp only [pure, Except.pure, Except.ok.injEq] at h
      subst h
      exact ne_map_nil_of_command? hcommand literal

end Invocation

end GoLiteral
