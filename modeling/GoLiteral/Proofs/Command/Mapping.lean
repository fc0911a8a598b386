import GoLiteral.Proofs.Command.Outcome
import GoLiteral.Proofs.Session.Content
import GoLiteral.Unicode.Category

/-!
# `map` and `decode` on the same token

`map` reads the token as `decode` does, only to be able to say where the boundaries of its value
lie. So each of them fails exactly when the other does, for the same reason, and `map` prints no
line before it is known that there is a value. Each line it then prints can be checked with `decode`
alone: the part of the token up to the place that it names has for its value what is before the
boundary.
-/

namespace GoLiteral.Command

/-! ## The value of a token and the places in it -/

/-- The place in a token of a boundary of its value, once the token has been read. -/
def place? (t : Token) (offset : ℕ) : Option ℕ :=
  ((Session.ofToken t).read t.contentSpan).1.toHost? offset t.contentSpan

section Token

variable {literal : String} {t : Token} (htoken : Token.ofText? literal = some t)
include htoken

theorem tokenValue_of_ofText? : tokenValue literal =
    ((Session.ofToken t).read t.contentSpan).2.mapError .badLiteral := by
  rw [tokenValue, token, htoken]
  rfl

theorem places_of_ofText? : places literal =
    (((Session.ofToken t).read t.contentSpan).2.mapError .badLiteral).map fun _ ↦ place? t := by
  rw [places, token, htoken]
  rfl

end Token

theorem tokenValue_of_ofText?_eq_none {text : String} (h : Token.ofText? text = none) :
    tokenValue text = .error (.notALiteral text) := by
  rw [tokenValue, token, h]
  rfl

theorem places_of_ofText?_eq_none {text : String} (h : Token.ofText? text = none) :
    places text = .error (.notALiteral text) := by
  rw [places, token, h]
  rfl

/-- Whenever a token has a value, it has places for the boundaries of it. -/
theorem tokenValue_places_cases (literal : String) :
    (∃ failure, tokenValue literal = .error failure ∧ places literal = .error failure) ∨
      ∃ t text, Token.ofText? literal = some t ∧
        ((Session.ofToken t).read t.contentSpan).2 = .ok text ∧
          tokenValue literal = .ok text ∧ places literal = .ok (place? t) := by
  cases htoken : Token.ofText? literal with
  | none =>
    exact Or.inl ⟨_, tokenValue_of_ofText?_eq_none htoken, places_of_ofText?_eq_none htoken⟩
  | some t =>
    rw [tokenValue_of_ofText? htoken, places_of_ofText? htoken]
    cases hread : ((Session.ofToken t).read t.contentSpan).2 with
    | error failure => exact Or.inl ⟨.badLiteral failure, rfl, rfl⟩
    | ok text => exact Or.inr ⟨t, text, rfl, hread, rfl, rfl⟩

section Read

variable {t : Token} {text : String}
  (hread : ((Session.ofToken t).read t.contentSpan).2 = .ok text)
include hread

theorem exists_place?_of_le {o : ℕ} (ho : o ≤ text.length) : ∃ h positions,
    place? t o = some h ∧ 1 ≤ h ∧ h ≤ t.length ∧
      Reading.ofBody t.kind (String.ofList ((t.text.toList.take h).drop 1)) =
        .ok ⟨String.ofList (text.toList.take o), positions⟩ := by
  obtain ⟨b, hb, hplace, positions, hbody⟩ := Session.toHost?_contentSpan_of_le hread ho
  obtain ⟨hstart, hstop⟩ : 1 ≤ t.contentSpan.stop ∧ t.contentSpan.stop ≤ t.length :=
    Session.fits_iff.mp (Session.ofToken t).fits_contentSpan
  have hb' : b ≤ t.contentSpan.stop - 1 := hb
  refine ⟨1 + b, positions, hplace, Nat.le_add_right _ _, by omega, ?_⟩
  rw [t.drop_one_take_of_le hb]
  exact hbody

theorem place?_of_lt {o : ℕ} (ho : text.length < o) :
    place? t o = if t.isRaw then some (text.length + 1) else none :=
  Session.toHost?_contentSpan_of_lt hread ho

end Read

/-! ## The lines -/

theorem mapLine_eq (offset : ℕ) (place? : Option ℕ) :
    mapLine offset place? = toString offset ++ " -> " ++ place?.elim "-" toString := by
  cases place? with
  | none =>
    rw [String.append_assoc]
    rfl
  | some place => rfl

variable (hidden : Char → Bool) (settings : Settings) (stdin : ByteArray)

/-- **`map` agrees with `decode`.** Either both fail, in the same way and with nothing printed. Or
`decode` prints the value of the token, and `map` prints one line for each boundary it is given, in
the same order. For a boundary of the value the line names a place in the token: what is behind the
opening delimiter and before that place, taken as a body of the same kind, has for its value what
is before the boundary. For any other boundary the line names no place of an interpreted token, and
of a raw one the place behind its body. -/
theorem outcome_map_decode (literal : String) :
    (∃ failure,
      outcome hidden settings stdin (decode false false (some literal)) = (.error failure, "") ∧
      ∀ offsets, outcome hidden settings stdin (map literal offsets) = (.error failure, "")) ∨
    ∃ (t : Token) (text : String) (place : ℕ → String), Token.ofText? literal = some t ∧
      outcome hidden settings stdin (decode false false (some literal)) = (.ok (), text ++ "\n") ∧
      (∀ offsets, outcome hidden settings stdin (map literal offsets) = (.ok (), String.join
        (offsets.map fun o ↦ toString o ++ " -> " ++ place o ++ "\n"))) ∧
      (∀ o ≤ text.length, ∃ h positions, place o = toString h ∧ 1 ≤ h ∧ h ≤ literal.length ∧
        Reading.ofBody t.kind (String.ofList ((literal.toList.take h).drop 1)) =
          .ok ⟨String.ofList (text.toList.take o), positions⟩) ∧
      ∀ o > text.length, place o = match t.kind with
        | .interpreted => "-"
        | .raw => toString (text.length + 1) := by
  simp only [outcome_decode, outcome_map]
  obtain ⟨failure, hvalue, hplaces⟩ | ⟨t, text, htoken, hread, hvalue, hplaces⟩ :=
    tokenValue_places_cases literal
  · refine Or.inl ⟨failure, ?_, fun offsets ↦ ?_⟩
    · exact congrArg lineOutcome hvalue
    · rw [hplaces]
      rfl
  · obtain rfl := Token.text_of_ofText? htoken
    refine Or.inr ⟨t, text, fun o ↦ (place? t o).elim "-" toString, htoken, ?_, ?_, ?_, ?_⟩
    · exact congrArg lineOutcome hvalue
    · intro offsets
      rw [hplaces, Except.map, linesOutcome, List.map_map]
      simp only [Function.comp_def, mapLine_eq]
    · intro o ho
      obtain ⟨h, positions, hplace, hpos, hle, hbody⟩ := exists_place?_of_le hread ho
      exact ⟨h, positions, congrArg (Option.elim · "-" toString) hplace, hpos, hle, hbody⟩
    · intro o ho
      simp only
      rw [place?_of_lt hread ho, Token.isRaw]
      cases t.kind <;> rfl

/-- The second boundary lies behind an escape of four characters, and the last one nowhere. -/
example : outcome Unicode.isHidden .standard .empty (map "\"a\\x41b\"" [0, 2, 9]) =
    (.ok (), "0 -> 1\n2 -> 6\n9 -> -\n") := by decide +kernel

end GoLiteral.Command
