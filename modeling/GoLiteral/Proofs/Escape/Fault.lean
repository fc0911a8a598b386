import GoLiteral.Proofs.Escape.Grammar

/-!
# Escapes that cannot be read

An escape is refused for what stands in the place of its digits, which its introducer alone
numbers. A Unicode escape with all its characters in place is *forbidden* when the first of them
is a sign, or when they are digits and write a number it may not; every other bad escape is
*malformed*. The causes overlap, and this is the order among them: an escape too short to be read
is malformed even if it is signed, and a signed one is forbidden whatever follows the sign.

Either way the bad escape is taken to reach as far as its introducer says, or to the end of the
body.
-/

namespace GoLiteral.Escape

/-! ## What is forbidden -/

/-- A number that no Unicode escape may write: a line feed, a carriage return, a surrogate, or a
number beyond the last code point. -/
def IsForbiddenNumber (n : ℕ) : Prop :=
  n = 0x0A ∨ n = 0x0D ∨ (0xD800 ≤ n ∧ n ≤ 0xDFFF) ∨ 0x10FFFF < n

/-- The next `count` characters are there, but are signed or write a number they may not. -/
def HasForbiddenDigits (count : ℕ) (rest : List Char) : Prop :=
  count ≤ rest.length ∧ ((rest.head? = some '+' ∨ rest.head? = some '-') ∨
    ((∀ d ∈ rest.take count, IsDigit 16 d) ∧ IsForbiddenNumber (numeral 16 (rest.take count))))

/-- How many hexadecimal digits have to follow an introducer. -/
def digitCount (introducer : Char) : ℕ :=
  if introducer = 'x' then 2 else if introducer = 'u' then 4 else if introducer = 'U' then 8 else 0

/-- A backslash before the introducer and the rest opens a forbidden escape. -/
def IsForbidden (introducer : Char) (rest : List Char) : Prop :=
  (introducer = 'u' ∨ introducer = 'U') ∧ HasForbiddenDigits (digitCount introducer) rest

/-! ## The readers, when they fail -/

theorem scalar?_eq_none_iff {w : UInt32} : scalar? w = none ↔ IsForbiddenNumber w.toNat := by
  have hbreaks : (w = 0x0A ∨ w = 0x0D) ↔ w.toNat = 0x0A ∨ w.toNat = 0x0D := by
    rw [← UInt32.toNat_inj, ← UInt32.toNat_inj]
    rfl
  have hvalid : w.isValidChar ↔
      w.toNat < 0xD800 ∨ 0xDFFF < w.toNat ∧ w.toNat < 0x110000 := Iff.rfl
  rw [scalar?, IsForbiddenNumber]
  split
  · next h =>
    rw [hbreaks] at h
    simp only [true_iff]
    omega
  · next h =>
    rw [hbreaks] at h
    split
    · next hv =>
      rw [hvalid] at hv
      simp only [reduceCtorEq, false_iff]
      omega
    · next hv =>
      rw [hvalid] at hv
      simp only [true_iff]
      omega

theorem readHexWord_of_digits {count : ℕ} (hcount : count ≤ 8) {rest : List Char}
    (hlong : count ≤ rest.length) (digits : ∀ d ∈ rest.take count, IsDigit 16 d) :
    ∃ w, readHexWord count rest = .ok w ∧ w.toNat = numeral 16 (rest.take count) := by
  have hlen : (rest.take count).length = count := List.length_take_of_le hlong
  have hword := toNat_hexWord digits (hlen.trans_le hcount)
  refine ⟨_, (readHexWord_eq_ok_iff hcount).mpr ?_, hword⟩
  exact ⟨_, rest.drop count, (List.take_append_drop _ _).symm, hlen, digits, hword⟩

theorem eq_malformed_of_readHexWord {count : ℕ} {rest : List Char} {fault : Fault}
    (h : readHexWord count rest = .error fault) :
    fault = .malformed (min count rest.length + 2) := by
  rw [readHexWord, List.length_take] at h
  split at h
  · exact (Except.error.inj h).symm
  · next hlong =>
    split at h
    · exact absurd h (by simp)
    · rw [← Except.error.inj h, min_eq_left (by omega)]

theorem eq_malformed_of_readHex {rest : List Char} {fault : Fault}
    (h : readHex rest = .error fault) : fault = .malformed (min 2 rest.length + 2) := by
  rw [readHex] at h
  cases hword : readHexWord 2 rest with
  | ok w =>
    rw [hword] at h
    exact absurd h (by simp [Except.map])
  | error fault' =>
    rw [hword] at h
    obtain rfl : fault' = fault := Except.error.inj h
    exact eq_malformed_of_readHexWord hword

/-- The causes in the order in which they are tested: too short, signed, not digits, a number that
is forbidden. -/
theorem readUnicode_error {count : ℕ} (hcount : count ≤ 8) {rest : List Char} {fault : Fault}
    (h : readUnicode count rest = .error fault) :
    (HasForbiddenDigits count rest ∧ fault = .forbidden (count + 2)) ∨
      (¬HasForbiddenDigits count rest ∧ fault = .malformed (min count rest.length + 2)) := by
  rw [readUnicode] at h
  by_cases hshort : rest.length < count
  · rw [if_pos hshort] at h
    refine Or.inr ⟨fun hdigits ↦ absurd hdigits.1 (not_le.mpr hshort), ?_⟩
    rw [← Except.error.inj h, min_eq_right hshort.le]
  rw [if_neg hshort] at h
  have hlong : count ≤ rest.length := not_lt.mp hshort
  by_cases hsign : rest.head? = some '+' ∨ rest.head? = some '-'
  · rw [if_pos hsign] at h
    exact Or.inl ⟨⟨hlong, Or.inl hsign⟩, (Except.error.inj h).symm⟩
  rw [if_neg hsign] at h
  cases hword : readHexWord count rest with
  | error fault' =>
    simp only [hword, Except.error.injEq] at h
    subst h
    refine Or.inr ⟨?_, eq_malformed_of_readHexWord hword⟩
    -- Neither of the two reasons to forbid it is left: no sign, and not all of them digits.
    rintro ⟨-, hsign' | ⟨digits, -⟩⟩
    · exact hsign hsign'
    · obtain ⟨w, hw, -⟩ := readHexWord_of_digits hcount hlong digits
      exact absurd (hword.symm.trans hw) (by simp)
  | ok w =>
    cases hscalar : scalar? w with
    | some c => simp [hword, hscalar] at h
    | none =>
      simp only [hword, hscalar, Except.error.injEq] at h
      obtain ⟨ds, tail, rfl, hlen, digits, number⟩ := (readHexWord_eq_ok_iff hcount).mp hword
      have htake : (ds ++ tail).take count = ds := List.take_left' hlen
      refine Or.inl ⟨⟨hlong, Or.inr ?_⟩, h.symm⟩
      rw [htake, ← number]
      exact ⟨digits, scalar?_eq_none_iff.mp hscalar⟩

/-! ## The reader, when it fails -/

/-- **Why an escape cannot be read.** Its introducer is unknown or calls for hexadecimal digits;
it is forbidden or malformed, and reaches as far as the introducer says. -/
theorem read_error {c : Char} {rest : List Char} {fault : Fault}
    (h : read (c :: rest) = .error fault) :
    (Class.ofIntroducer? c = none ∨ c = 'x' ∨ c = 'u' ∨ c = 'U') ∧
      ((IsForbidden c rest ∧ fault = .forbidden (digitCount c + 2)) ∨
        (¬IsForbidden c rest ∧ fault = .malformed (min (digitCount c) rest.length + 2))) := by
  rw [read_cons] at h
  split_ifs at h with hoctal hx hu hU
  · subst hx
    have hhex : ¬IsForbidden 'x' rest := fun hbad ↦ absurd hbad.1 (by decide)
    exact ⟨by simp, Or.inr ⟨hhex, eq_malformed_of_readHex h⟩⟩
  · subst hu
    have hdigits := readUnicode_error (by decide) h
    exact ⟨by simp, by simpa [IsForbidden, digitCount] using hdigits⟩
  · subst hU
    have hdigits := readUnicode_error (by decide) h
    exact ⟨by simp, by simpa [IsForbidden, digitCount] using hdigits⟩
  · cases hvalue : letterValue? c with
    | some value => simp [hvalue] at h
    | none =>
      simp only [hvalue, Except.error.injEq] at h
      have hclass : Class.ofIntroducer? c = none := by
        simp [Class.ofIntroducer?, isOctal_iff_isDigit, hoctal, hx, hu, hU, hvalue]
      have hcount : digitCount c = 0 := by simp [digitCount, hx, hu, hU]
      refine ⟨Or.inl hclass, Or.inr ⟨fun hbad ↦ hbad.1.elim hu hU, ?_⟩⟩
      rw [← h, hcount, Nat.zero_min]

/-- In an escape that is too short nobody looks for a sign. -/
example : read ['u', '+', '1'] = .error (.malformed 4) := by decide

theorem read_eq_unterminated_iff {cs : List Char} : read cs = .error .unterminated ↔ cs = [] := by
  constructor
  · intro h
    cases cs with
    | nil => rfl
    | cons c rest =>
      obtain ⟨-, ⟨-, hfault⟩ | ⟨-, hfault⟩⟩ := read_error h
      · exact absurd hfault (by simp)
      · exact absurd hfault (by simp)
  · rintro rfl
    rfl

end GoLiteral.Escape
