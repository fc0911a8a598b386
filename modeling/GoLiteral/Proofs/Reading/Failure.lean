import GoLiteral.Proofs.Escape.Fault
import GoLiteral.Proofs.Reading.Walk

/-!
# Bodies that are refused

A body is refused for the escape behind its last piece. Everything before the backslash of that
escape is a body in its own right, which can be read, and its text is what the refusal leaves in
the buffer. What the error says of the escape itself is decided by the characters from the
backslash on, and not by what stands before them.
-/

namespace GoLiteral

open Escape (IsForbidden digitCount)
open Piece (sources Separated Splits)

namespace BadEscape

theorem ofFault_eq_unterminated_iff {fault : Escape.Fault} {offset : ℕ} {rest : List Char} :
    ofFault fault offset rest = .unterminated offset ↔ fault = .unterminated := by
  cases fault <;> simp [ofFault]

theorem ofFault_of_read {c : Char} {rest : List Char} {fault : Escape.Fault}
    (h : Escape.read (c :: rest) = .error fault) (offset : ℕ) :
    let sequence := String.ofList (('\\' :: c :: rest).take (digitCount c + 2))
    (ofFault fault offset ('\\' :: c :: rest) = .forbidden offset sequence ↔ IsForbidden c rest) ∧
      (ofFault fault offset ('\\' :: c :: rest) = .malformed offset sequence ↔
        ¬IsForbidden c rest) := by
  obtain ⟨-, ⟨hbad, rfl⟩ | ⟨hbad, rfl⟩⟩ := Escape.read_error h
  · simp [ofFault, hbad]
  · -- A malformed escape may be cut short by the end of the body.
    have hsequence : ('\\' :: c :: rest).take (min (digitCount c) rest.length + 2) =
        ('\\' :: c :: rest).take (digitCount c + 2) := by
      rw [List.take_eq_take_iff, List.length_cons, List.length_cons]
      omega
    simp [ofFault, hbad, hsequence]

end BadEscape

namespace Reading

/-- Behind the pieces of a body that is refused stands the bad escape that the error is about. -/
theorem exists_bad_of_append {body buffer : String} {bad : BadEscape}
    (h : (append .interpreted body buffer).result = .error bad) :
    ∃ ps tail fault, sources ps ++ '\\' :: tail = body.toList ∧ Separated ps ('\\' :: tail) ∧
      Escape.read tail = .error fault ∧
      bad = BadEscape.ofFault fault (sources ps).length ('\\' :: tail) := by
  obtain ⟨ps, rest, hsources, hsep, rfl | ⟨tail, fault, rfl, hread⟩⟩ :=
    Piece.exists_separated body.toList
  · have hsplits : Splits body.toList ps := ⟨by rwa [List.append_nil] at hsources, hsep⟩
    rw [append_of_splits hsplits] at h
    exact absurd h (by simp)
  · rw [append_of_bad hsources hsep hread] at h
    exact ⟨ps, tail, fault, hsources, hsep, hread, (Except.error.inj h).symm⟩

theorem ofBody_raw (body : String) :
    ofBody .raw body = .ok ⟨body, .verbatim body.length⟩ := by
  simp [ofBody, append, Except.map]

theorem ofBody_eq_error_iff {kind : Kind} {body : String} {bad : BadEscape} :
    ofBody kind body = .error bad ↔ (append kind body "").result = .error bad := by
  rw [ofBody]
  cases (append kind body "").result <;> simp [Except.map]

/-- **What a reading leaves behind**, one case for each way it can end. The buffer is never looked
at: what is appended to it is the text of the body, or of the part of the body before the bad
escape. -/
theorem append_cases (kind : Kind) (body : String) :
    (∃ r, ofBody kind body = .ok r ∧
      ∀ buffer, append kind body buffer = ⟨buffer ++ r.text, .ok r.positions⟩) ∨
    ∃ bad r, ofBody kind body = .error bad ∧
      ofBody kind (String.ofList (body.toList.take bad.offset)) = .ok r ∧
      ∀ buffer, append kind body buffer = ⟨buffer ++ r.text, .error bad⟩ := by
  cases kind with
  | raw => exact Or.inl ⟨_, ofBody_raw body, fun buffer ↦ rfl⟩
  | interpreted =>
    obtain ⟨ps, rest, hsources, hsep, rfl | ⟨tail, fault, rfl, hread⟩⟩ :=
      Piece.exists_separated body.toList
    · have hsplits : Splits body.toList ps := ⟨by rwa [List.append_nil] at hsources, hsep⟩
      exact Or.inl ⟨_, ofBody_of_splits hsplits, append_of_splits hsplits⟩
    · have happend := append_of_bad hsources hsep hread
      have htake : body.toList.take (sources ps).length = sources ps := by
        rw [← hsources, List.take_left]
      refine Or.inr ⟨_, ⟨_, Piece.positions ps⟩, ?_, ?_, happend⟩
      · rw [ofBody_eq_error_iff, happend]
      · rw [BadEscape.offset_ofFault, htake]
        refine ofBody_of_splits ?_
        rw [String.toList_ofList]
        exact ⟨rfl, @Separated.of_append _ [] _ hsep⟩

theorem append_eq_append_empty (kind : Kind) (body buffer : String) :
    append kind body buffer =
      ⟨buffer ++ (append kind body "").buffer, (append kind body "").result⟩ := by
  obtain ⟨r, -, happend⟩ | ⟨bad, r, -, -, happend⟩ := append_cases kind body
  · rw [happend, happend, String.empty_append]
  · rw [happend, happend, String.empty_append]

/-- **The error for a body that is refused.** It names the place of a backslash. What precedes the
backslash can be read, and its text is what has been appended to the buffer. A backslash that ends
the body is an unterminated escape. Otherwise an introducer follows, which is unknown or calls for
hexadecimal digits; the error quotes the escape up to the last digit called for, or to the end of
the body, and the escape is either forbidden or malformed. -/
theorem append_eq_error {body buffer : String} {bad : BadEscape}
    (h : (append .interpreted body buffer).result = .error bad) :
    body.toList[bad.offset]? = some '\\' ∧
      (∃ r, ofBody .interpreted (String.ofList (body.toList.take bad.offset)) = .ok r ∧
        (append .interpreted body buffer).buffer = buffer ++ r.text) ∧
      (bad = .unterminated bad.offset ↔ bad.offset + 1 = body.length) ∧
      ∀ c rest, body.toList.drop bad.offset = '\\' :: c :: rest →
        (Escape.Class.ofIntroducer? c = none ∨ c = 'x' ∨ c = 'u' ∨ c = 'U') ∧
          let sequence := String.ofList (('\\' :: c :: rest).take (digitCount c + 2))
          (bad = .forbidden bad.offset sequence ↔ IsForbidden c rest) ∧
            (bad = .malformed bad.offset sequence ↔ ¬IsForbidden c rest) := by
  obtain ⟨ps, tail, fault, hbody, hsep, hread, rfl⟩ := exists_bad_of_append h
  have htake : body.toList.take (sources ps).length = sources ps := by
    rw [← hbody, List.take_left]
  have hdrop : body.toList.drop (sources ps).length = '\\' :: tail := by
    rw [← hbody, List.drop_left]
  have hsplits : Splits (String.ofList (body.toList.take (sources ps).length)).toList ps := by
    rw [String.toList_ofList, htake]
    exact ⟨rfl, @Separated.of_append _ [] _ hsep⟩
  simp only [BadEscape.offset_ofFault, hdrop]
  refine ⟨?_, ⟨_, ofBody_of_splits hsplits, ?_⟩, ?_, ?_⟩
  · rw [← hbody, List.getElem?_append_right le_rfl, Nat.sub_self]
    rfl
  · rw [append_of_bad hbody hsep hread]
  · have hlen : body.length = (sources ps).length + (tail.length + 1) := by
      rw [← String.length_toList, ← hbody, List.length_append, List.length_cons]
    have hend : fault = .unterminated ↔ tail = [] := by
      rw [← Escape.read_eq_unterminated_iff, hread, Except.error.injEq]
    rw [BadEscape.ofFault_eq_unterminated_iff, hend, hlen, ← List.length_eq_zero_iff]
    omega
  · intro c rest hcons
    obtain rfl : tail = c :: rest := List.tail_eq_of_cons_eq hcons
    exact ⟨(Escape.read_error hread).1, BadEscape.ofFault_of_read hread _⟩

/-- A surrogate behind a good escape. -/
theorem append_eq_error_surrogate :
    (append .interpreted "é\\x41\\uD800!" ">").result = .error (.forbidden 5 "\\uD800") ∧
      (∃ r, ofBody .interpreted "é\\x41" = .ok r ∧
        (append .interpreted "é\\x41\\uD800!" ">").buffer = ">" ++ r.text) ∧
      IsForbidden 'u' "D800!".toList := by
  have h : (append .interpreted "é\\x41\\uD800!" ">").result = .error (.forbidden 5 "\\uD800") := by
    decide +kernel
  obtain ⟨-, hbefore, -, hbad⟩ := append_eq_error h
  obtain ⟨-, hforbidden, -⟩ := hbad 'u' "D800!".toList (by decide +kernel)
  exact ⟨h, hbefore, hforbidden.mp (by decide +kernel)⟩

end Reading

end GoLiteral
