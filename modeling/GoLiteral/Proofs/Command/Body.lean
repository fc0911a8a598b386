import GoLiteral.Proofs.Command.Mapping

/-!
# Tokens and bare bodies

A token is decoded by way of a session: its body is a span of the token, which has to fit, is cut
out of it, and is read there. A bare body is read as it is given. Both ways lead to the same
reading, so the body of a token can be given in place of the token, if its kind is given with it.
The two commands only name their failures differently; the cause they give is the same bad escape,
with its place in the body, and neither of them prints what precedes it.
-/

namespace GoLiteral.Command

theorem bodyValue_eq (kind : Kind) (body : String) : bodyValue kind body =
    ((Reading.ofBody kind body).map Reading.text).mapError .badBody := by
  rw [bodyValue]
  cases Reading.ofBody kind body <;> rfl

theorem tokenValue_eq_of_ofText? {literal : String} {t : Token}
    (htoken : Token.ofText? literal = some t) : tokenValue literal =
      ((Reading.ofBody t.kind t.body).map Reading.text).mapError (.badLiteral ∘ .badEscape) := by
  have hread := Session.read_contentSpan (Session.ofToken t)
  rw [tokenValue_of_ofText? htoken]
  refine (congrArg (Except.mapError Failure.badLiteral) hread).trans ?_
  simp only [Session.ofToken]
  cases Reading.ofBody t.kind t.body <;> rfl

/-- **The body of a token can be given in its place.** To decode a token and to decode its body, as
one of its kind, ends in the same way. Either both commands print the text of the body. Or they
both fail for the same bad escape of the body, each under a headline of its own, and print
nothing. -/
theorem outcome_decode_body (hidden : Char → Bool) (settings reader : Settings)
    (stdin stdin' : ByteArray) {literal : String} {t : Token}
    (htoken : Token.ofText? literal = some t) {raw : Bool}
    (hkind : (if raw then .raw else reader.kind) = t.kind) :
    (∃ r, Reading.ofBody t.kind t.body = .ok r ∧
      outcome hidden settings stdin (decode false false (some literal)) = (.ok (), r.text ++ "\n") ∧
      outcome hidden reader stdin' (decode true raw (some t.body)) = (.ok (), r.text ++ "\n")) ∨
    ∃ bad failure failure', Reading.ofBody t.kind t.body = .error bad ∧
      outcome hidden settings stdin (decode false false (some literal)) = (.error failure, "") ∧
      outcome hidden reader stdin' (decode true raw (some t.body)) = (.error failure', "") ∧
      failure.badEscape? = some bad ∧ failure'.badEscape? = some bad ∧
      failure.message = "failed to decode literal" ++ ": " ++ bad.message ∧
      failure'.message = "failed to decode literal body" ++ ": " ++ bad.message := by
  have htokenValue := tokenValue_eq_of_ofText? htoken
  have hbodyValue := bodyValue_eq t.kind t.body
  have hdecode : outcome hidden settings stdin (decode false false (some literal)) =
      lineOutcome (tokenValue literal) :=
    outcome_decode hidden settings stdin false false (some literal)
  have hdecodeBody : outcome hidden reader stdin' (decode true raw (some t.body)) =
      lineOutcome (bodyValue t.kind t.body) := by
    rw [outcome_decode, ← hkind]
    rfl
  rw [hdecode, hdecodeBody, htokenValue, hbodyValue]
  cases hread : Reading.ofBody t.kind t.body with
  | ok r => exact Or.inl ⟨r, rfl, rfl, rfl⟩
  | error bad =>
    exact Or.inr
      ⟨bad, .badLiteral (.badEscape bad), .badBody bad, rfl, rfl, rfl, rfl, rfl, rfl, rfl⟩

/-- A token that is not closed and has a forbidden escape behind one that can be read. -/
theorem outcome_decode_body_unclosed : ∃ t : Token,
    Token.ofText? "\"é\\n\\u000a" = some t ∧
      (if false then .raw else Settings.standard.kind) = t.kind ∧ t.body = "é\\n\\u000a" ∧
      ∃ failure failure',
        outcome Unicode.isHidden .standard .empty (decode false false (some "\"é\\n\\u000a")) =
          (.error failure, "") ∧
        outcome Unicode.isHidden .standard .empty (decode true false (some t.body)) =
          (.error failure', "") ∧
        failure.badEscape? = some (.forbidden 3 "\\u000a") ∧
        failure'.badEscape? = some (.forbidden 3 "\\u000a") := by
  have htoken : Token.ofText? "\"é\\n\\u000a" =
      some ⟨"\"é\\n\\u000a", .interpreted, by decide +kernel⟩ := by decide +kernel
  have hread : Reading.ofBody .interpreted "é\\n\\u000a" = .error (.forbidden 3 "\\u000a") := by
    decide +kernel
  have hbody : (⟨"\"é\\n\\u000a", .interpreted, by decide +kernel⟩ : Token).body =
      "é\\n\\u000a" := by decide +kernel
  refine ⟨_, htoken, rfl, hbody, ?_⟩
  obtain ⟨r, hr, -⟩ | ⟨bad, failure, failure', hbad, hfails, hfails', hcause, hcause', -⟩ :=
    @outcome_decode_body Unicode.isHidden .standard .standard .empty .empty _ _ htoken false rfl
  · rw [hbody] at hr
    exact absurd (hr.symm.trans hread) (by simp)
  · rw [hbody] at hbad
    obtain rfl := Except.error.inj (hbad.symm.trans hread)
    exact ⟨failure, failure', hfails, hfails', hcause, hcause'⟩

end GoLiteral.Command
