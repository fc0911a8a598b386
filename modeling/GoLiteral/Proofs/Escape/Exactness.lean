import GoLiteral.Proofs.Escape.Fault

/-!
# Escapes are read within their body and without loss

The reader of escapes is made of operations that always answer: a part of a body is cut to what is
there, a word is narrowed to its last byte, a shift drops what does not fit, a character without an
entry in a table gets a default. Here it is shown that none of this ever happens. An escape, good
or bad, takes up no more than what the body has; and `ReadsExactly` says of the words and tables
that what the reader computes is what it means to.
-/

namespace GoLiteral.Escape

/-! ## Extent -/

/-- How many characters of the body a bad escape takes up, its backslash included. -/
def Fault.width : Fault → ℕ
  | unterminated => 1
  | malformed width => width
  | forbidden width => width

theorem width_of_read_error {cs : List Char} {fault : Fault} (h : read cs = .error fault) :
    0 < fault.width ∧ fault.width ≤ cs.length + 1 := by
  cases cs with
  | nil =>
    obtain rfl : .unterminated = fault := Except.error.inj h
    exact ⟨Nat.one_pos, le_rfl⟩
  | cons c rest =>
    obtain ⟨-, ⟨hbad, rfl⟩ | ⟨-, rfl⟩⟩ := read_error h
    · have hlong : digitCount c ≤ rest.length := hbad.2.1
      simp only [Fault.width, List.length_cons]
      omega
    · simp only [Fault.width, List.length_cons]
      omega

/-- Where the body ends before the last digit, no digit is looked at. -/
theorem read_of_short {c : Char} {cls : Class} {count : ℕ} (hcls : Class.ofIntroducer? c = some cls)
    (hcount : cls.hexDigits? = some count) {rest : List Char} (hshort : rest.length < count) :
    read (c :: rest) = .error (.malformed (rest.length + 2)) := by
  rw [read, hcls]
  cases cls with
  | identity | singleLetter | octal => exact absurd hcount (by simp [Class.hexDigits?])
  | hex =>
    obtain rfl : 2 = count := Option.some.inj hcount
    have htake : rest.take 2 = rest := List.take_of_length_le hshort.le
    simp only [readHex, readHexWord, htake, if_pos hshort]
    rfl
  | shortUnicode =>
    obtain rfl : 4 = count := Option.some.inj hcount
    exact if_pos hshort
  | longUnicode =>
    obtain rfl : 8 = count := Option.some.inj hcount
    exact if_pos hshort

/-! ## Words and tables -/

/-- Nothing is made up and nothing is lost when an escape is read from its introducer and the
rest. -/
structure ReadsExactly (introducer : Char) (rest : List Char) : Prop where
  /-- A single letter has a value. -/
  letter : Class.ofIntroducer? introducer = some .singleLetter → (letterValue? introducer).isSome
  /-- The introducer of an octal escape is its first digit, and all of them have a value. -/
  octalDigits : Class.ofIntroducer? introducer = some .octal →
    ∃ ds, octalRun introducer rest = introducer :: ds ∧ ∀ d ∈ introducer :: ds, isOctal d
  /-- No multiplication on the way to the word of an octal escape overflows. -/
  octalWords : Class.ofIntroducer? introducer = some .octal → ∀ ds d,
    ds ++ [d] <+: octalRun introducer rest →
      (octalWord (ds ++ [d])).toNat = (octalWord ds).toNat * 8 + digitValue d
  /-- The word of an octal escape is a byte. -/
  octalByte : Class.ofIntroducer? introducer = some .octal →
    (octalWord (octalRun introducer rest)).toNat ≤ 255
  /-- The word of a two-digit escape is a byte. -/
  hexByte : Class.ofIntroducer? introducer = some .hex → ∀ w, readHexWord 2 rest = .ok w →
    w.toNat ≤ 255
  /-- No shift on the way to the word of hexadecimal digits drops a bit. -/
  hexWords : ∀ cls count, Class.ofIntroducer? introducer = some cls →
    cls.hexDigits? = some count → ∀ ds d vs, ds ++ [d] <+: rest.take count →
      ds.mapM hexDigit? = some vs → (hexWord vs <<< 4).toNat = (hexWord vs).toNat * 16

/-! ### Octal -/

theorem isOctal_of_ofIntroducer? {c : Char} (h : Class.ofIntroducer? c = some .octal) :
    isOctal c = true := by
  unfold Class.ofIntroducer? at h
  repeat' split at h
  all_goals simp_all

section Octal

variable {introducer : Char} (h : Class.ofIntroducer? introducer = some .octal)
include h

theorem exists_octalRun_of_octal (rest : List Char) : ∃ ds,
    octalRun introducer rest = introducer :: ds ∧ (∀ d ∈ introducer :: ds, IsDigit 8 d) ∧
      (introducer :: ds).length ≤ octalRoom introducer := by
  have hlead := isOctal_iff_isDigit.mp (isOctal_of_ofIntroducer? h)
  obtain ⟨ds, -, -, hrun, digits, length, -⟩ := exists_octalRun hlead rest
  exact ⟨ds, hrun, digits, length⟩

variable {rest : List Char}

theorem toNat_octalWord_part {part : List Char} (hpart : part <+: octalRun introducer rest) :
    (octalWord part).toNat = numeral 8 part := by
  obtain ⟨ds, hrun, digits, length⟩ := exists_octalRun_of_octal h rest
  have hroom : octalRoom introducer ≤ 3 := by
    unfold octalRoom
    split <;> decide
  rw [hrun] at hpart
  have hlen := hpart.length_le
  exact toNat_octalWord (fun d hd ↦ digits d (hpart.subset hd)) (by omega)

theorem toNat_octalWord_octalRun_le : (octalWord (octalRun introducer rest)).toNat ≤ 255 := by
  obtain ⟨ds, hrun, digits, length⟩ := exists_octalRun_of_octal h rest
  have hlt := numeral_lt_of_octalRoom digits length
  rw [toNat_octalWord_part h List.prefix_rfl, hrun]
  omega

end Octal

/-! ### Hexadecimal -/

theorem Class.hexDigits?_le {cls : Class} {count : ℕ} (h : cls.hexDigits? = some count) :
    count ≤ 8 := by
  cases cls <;> simp_all [hexDigits?]
  all_goals omega

theorem toNat_le_of_readHexWord_two {rest : List Char} {w : UInt32}
    (h : readHexWord 2 rest = .ok w) : w.toNat ≤ 255 := by
  obtain ⟨ds, tail, -, length, digits, number⟩ := (readHexWord_eq_ok_iff (by decide)).mp h
  have hlt := numeral_lt (by decide) digits
  rw [length] at hlt
  rw [number]
  omega

theorem toNat_hexWord_shiftLeft {ds : List Char} (hlen : ds.length < 8) {vs : List UInt32}
    (h : ds.mapM hexDigit? = some vs) :
    (hexWord vs <<< 4).toNat = (hexWord vs).toNat * 16 := by
  have digits := isDigit_of_mapM_hexDigit? h
  rw [mapM_hexDigit?_of_isDigit digits] at h
  obtain rfl := Option.some.inj h
  have hlt : numeral 16 ds < 2 ^ 28 :=
    calc numeral 16 ds < 16 ^ ds.length := numeral_lt (by decide) digits
      _ ≤ 16 ^ 7 := Nat.pow_le_pow_right (by decide) (Nat.le_of_lt_succ hlen)
      _ = 2 ^ 28 := by decide
  rw [← toNat_hexWord digits hlen.le] at hlt
  simpa using toNat_shiftLeft_or hlt (v := 0) (by decide)

/-! ### Every escape -/

/-- **Escapes are read exactly**, whatever follows their introducer. -/
theorem readsExactly (introducer : Char) (rest : List Char) : ReadsExactly introducer rest where
  letter := Class.letterValue?_isSome_of_singleLetter
  octalDigits h := by
    obtain ⟨ds, hrun, digits, -⟩ := exists_octalRun_of_octal h rest
    exact ⟨ds, hrun, fun d hd ↦ isOctal_iff_isDigit.mpr (digits d hd)⟩
  octalWords h ds d hpart := by
    have hfront : ds <+: octalRun introducer rest := (List.prefix_append ds [d]).trans hpart
    rw [toNat_octalWord_part h hpart, toNat_octalWord_part h hfront, numeral_append_singleton]
  octalByte h := toNat_octalWord_octalRun_le h
  hexByte _ _ := toNat_le_of_readHexWord_two
  hexWords cls count _ hcount ds d vs hpart := by
    have hlen := hpart.length_le.trans (List.length_take_le count rest)
    rw [List.length_append, List.length_singleton] at hlen
    exact toNat_hexWord_shiftLeft (hlen.trans (Class.hexDigits?_le hcount))

end GoLiteral.Escape
