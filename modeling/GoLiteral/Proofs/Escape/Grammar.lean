import Mathlib.Data.List.TakeWhile
import GoLiteral.Escape.Read
import GoLiteral.Proofs.Escape.Numeral

/-!
# The grammar of a body

A body is a row of stretches, each standing for one character. `Spells s c` says that the stretch
`s` stands for `c`; it is the grammar as it is published, with digits valued in natural numbers
and no reference to how an escape is read. Nearly every stretch shows its own end. The exception
is an octal escape that has fewer digits than it may have: it ends where no octal digit follows,
which is `EndsBefore`.

The main statement is that `Escape.read` is this grammar: it takes up `ds` and answers `c` exactly
when a backslash and `ds` spell `c` and end before the rest.
-/

theorem Char.toNat_ofUInt8_toUInt8 {w : UInt32} (h : w.toNat < 256) :
    (ofUInt8 w.toUInt8).toNat = w.toNat := by
  have hbyte : w.toUInt8.toNat = w.toNat := by
    rw [UInt32.toNat_toUInt8]
    exact Nat.mod_eq_of_lt h
  rw [← hbyte]
  rfl

namespace GoLiteral.Escape

/-! ## Stretches of a body -/

/-- The letters that may follow a backslash, each with the character it stands for. -/
def letters : List (Char × Char) :=
  [('a', '\x07'), ('b', '\x08'), ('f', '\x0c'), ('n', '\n'), ('r', '\x0d'), ('t', '\t'),
    ('v', '\x0b'), ('\\', '\\'), ('\'', '\''), ('\"', '\"'), ('\n', '\n')]

/-- The stretch of a body on the left stands for the character on the right. -/
inductive Spells : List Char → Char → Prop
  /-- Every character but the backslash stands for itself. -/
  | plain {c : Char} (ne : c ≠ '\\') : Spells [c] c
  /-- A backslash and a letter of the table. -/
  | letter {l c : Char} (mem : (l, c) ∈ letters) : Spells ['\\', l] c
  /-- A backslash and up to three octal digits. -/
  | octal {lead : Char} {ds : List Char} {c : Char} (digits : ∀ d ∈ lead :: ds, IsDigit 8 d)
      (length : (lead :: ds).length ≤ octalRoom lead)
      (number : c.toNat = numeral 8 (lead :: ds)) : Spells ('\\' :: lead :: ds) c
  /-- A backslash, `x` and two digits. -/
  | hex {ds : List Char} {c : Char} (length : ds.length = 2) (digits : ∀ d ∈ ds, IsDigit 16 d)
      (number : c.toNat = numeral 16 ds) : Spells ('\\' :: 'x' :: ds) c
  /-- A backslash, `u` and four digits that write no line break. -/
  | shortUnicode {ds : List Char} {c : Char} (length : ds.length = 4)
      (digits : ∀ d ∈ ds, IsDigit 16 d) (number : c.toNat = numeral 16 ds)
      (lineFeed : c ≠ '\n') (carriageReturn : c ≠ '\x0d') : Spells ('\\' :: 'u' :: ds) c
  /-- A backslash, `U` and eight digits that write no line break. -/
  | longUnicode {ds : List Char} {c : Char} (length : ds.length = 8)
      (digits : ∀ d ∈ ds, IsDigit 16 d) (number : c.toNat = numeral 16 ds)
      (lineFeed : c ≠ '\n') (carriageReturn : c ≠ '\x0d') : Spells ('\\' :: 'U' :: ds) c

/-- The stretch is an octal escape that could take another digit. -/
def CanGrow : List Char → Prop
  | '\\' :: lead :: ds => IsDigit 8 lead ∧ (lead :: ds).length < octalRoom lead
  | _ => False

/-- The stretch does not reach into what follows it. -/
def EndsBefore (source rest : List Char) : Prop :=
  CanGrow source → ∀ d ∈ rest.head?, ¬IsDigit 8 d

theorem EndsBefore.of_not_canGrow {source : List Char} (h : ¬CanGrow source) (rest : List Char) :
    EndsBefore source rest := fun hgrow ↦ absurd hgrow h

theorem EndsBefore.of_append {source rest rest' : List Char}
    (h : EndsBefore source (rest ++ rest')) : EndsBefore source rest := by
  intro hgrow d hd
  refine h hgrow d ?_
  rw [List.head?_append, hd]
  rfl

theorem not_canGrow_cons {l : Char} (h : ¬IsDigit 8 l) (ds : List Char) :
    ¬CanGrow ('\\' :: l :: ds) := fun hgrow ↦ h hgrow.1

theorem Spells.ne_nil {source : List Char} {c : Char} (h : Spells source c) : source ≠ [] := by
  cases h <;> simp

theorem Spells.eq_singleton_or {source : List Char} {c : Char} (h : Spells source c) :
    (source = [c] ∧ c ≠ '\\') ∨ ∃ ds, source = '\\' :: ds := by
  cases h with
  | plain ne => exact Or.inl ⟨rfl, ne⟩
  | letter | octal | hex | shortUnicode | longUnicode => exact Or.inr ⟨_, rfl⟩

/-! ## The reader, class by class -/

theorem letterValue?_eq_some_iff {l c : Char} : letterValue? l = some c ↔ (l, c) ∈ letters := by
  constructor
  · intro h
    unfold letterValue? at h
    split at h <;> simp_all [letters, eq_comm]
  · intro h
    have all : ∀ p ∈ letters, letterValue? p.1 = some p.2 := by decide
    exact all _ h

/-- The reader by introducer, which decides the class. -/
theorem read_cons (c : Char) (rest : List Char) : read (c :: rest) =
    if IsDigit 8 c then .ok (readOctal c rest)
    else if c = 'x' then readHex rest
    else if c = 'u' then readUnicode 4 rest
    else if c = 'U' then readUnicode 8 rest
    else match letterValue? c with
      | some value => .ok ⟨value, 2⟩
      | none => .error (.malformed 2) := by
  rw [read]
  by_cases hoctal : IsDigit 8 c
  · rw [Class.ofIntroducer?, if_pos (isOctal_iff_isDigit.mpr hoctal), if_pos hoctal]
  · rw [Class.ofIntroducer?, if_neg (isOctal_iff_isDigit.not.mpr hoctal), if_neg hoctal]
    by_cases hx : c = 'x'
    · rw [if_pos hx, if_pos hx]
    · rw [if_neg hx, if_neg hx]
      by_cases hu : c = 'u'
      · rw [if_pos hu, if_pos hu]
      · rw [if_neg hu, if_neg hu]
        by_cases hU : c = 'U'
        · rw [if_pos hU, if_pos hU]
        · rw [if_neg hU, if_neg hU]
          cases letterValue? c <;> rfl

/-! ### Octal -/

theorem octalRun_of_endsBefore {lead : Char} {ds rest : List Char}
    (digits : ∀ d ∈ lead :: ds, IsDigit 8 d) (length : (lead :: ds).length ≤ octalRoom lead)
    (hend : EndsBefore ('\\' :: lead :: ds) rest) : octalRun lead (ds ++ rest) = lead :: ds := by
  have hlead : IsDigit 8 lead := digits lead List.mem_cons_self
  rw [octalRun, octalLimit_eq_octalRoom hlead, ← List.cons_append, List.take_append,
    List.take_of_length_le length,
    List.takeWhile_append_of_pos fun d hd ↦ isOctal_iff_isDigit.mpr (digits d hd)]
  suffices h : (rest.take (octalRoom lead - (lead :: ds).length)).takeWhile isOctal = [] by
    rw [h, List.append_nil]
  rcases length.eq_or_lt with hfull | hroom
  · rw [hfull, Nat.sub_self, List.take_zero, List.takeWhile_nil]
  · -- There is room for another digit, so the rest does not start with one.
    have hhead := hend ⟨hlead, hroom⟩
    cases rest with
    | nil => rw [List.take_nil, List.takeWhile_nil]
    | cons d rest =>
      have hd : ¬IsDigit 8 d := hhead d rfl
      rw [List.take_cons (Nat.sub_pos_of_lt hroom),
        List.takeWhile_cons_of_neg (isOctal_iff_isDigit.not.mpr hd)]

theorem exists_octalRun {lead : Char} (hlead : IsDigit 8 lead) (rest : List Char) :
    ∃ ds tail, rest = ds ++ tail ∧ octalRun lead rest = lead :: ds ∧
      (∀ d ∈ lead :: ds, IsDigit 8 d) ∧ (lead :: ds).length ≤ octalRoom lead ∧
      EndsBefore ('\\' :: lead :: ds) tail := by
  have hroom : 0 < octalRoom lead := by
    unfold octalRoom
    split <;> decide
  set ds := (rest.take (octalRoom lead - 1)).takeWhile isOctal with hds
  have hrun : octalRun lead rest = lead :: ds := by
    rw [octalRun, octalLimit_eq_octalRoom hlead, List.take_cons hroom,
      List.takeWhile_cons_of_pos (isOctal_iff_isDigit.mpr hlead)]
  have hpre : ds <+: rest := (List.takeWhile_prefix _).trans (List.take_prefix _ _)
  obtain ⟨tail, htail⟩ := hpre
  refine ⟨ds, tail, htail.symm, hrun, ?_, ?_, ?_⟩
  · intro d hd
    rcases List.mem_cons.mp hd with rfl | hd
    · exact hlead
    · exact isOctal_iff_isDigit.mp (List.mem_takeWhile_imp hd)
  · have hle := length_octalRun_le lead rest
    rwa [hrun, octalLimit_eq_octalRoom hlead] at hle
  · rintro ⟨-, hmore⟩ d hd hdigit
    rw [List.length_cons] at hmore
    obtain ⟨tail', rfl⟩ : ∃ tail', tail = d :: tail' := by
      cases tail with
      | nil => simp at hd
      | cons x tail' => exact ⟨tail', by rw [List.head?_cons, Option.mem_some_iff] at hd; rw [hd]⟩
    -- With room for one more, the run would go on through `d`, and so be longer than itself.
    have hgrow : ds = ds ++ d :: ((tail'.take (octalRoom lead - 1 - ds.length - 1)).takeWhile
        isOctal) := by
      conv_lhs => rw [hds, ← htail, List.take_append, List.take_of_length_le (by omega),
        List.takeWhile_append_of_pos fun x hx ↦ List.mem_takeWhile_imp hx,
        List.take_cons (by omega), List.takeWhile_cons_of_pos (isOctal_iff_isDigit.mpr hdigit)]
    simpa using congrArg List.length hgrow

theorem toNat_ofUInt8_octalWord {lead : Char} {ds : List Char}
    (digits : ∀ d ∈ lead :: ds, IsDigit 8 d) (length : (lead :: ds).length ≤ octalRoom lead) :
    (Char.ofUInt8 (octalWord (lead :: ds)).toUInt8).toNat = numeral 8 (lead :: ds) := by
  have hroom : octalRoom lead ≤ 3 := by
    unfold octalRoom
    split <;> decide
  have hword := toNat_octalWord digits (by omega)
  have hlt := numeral_lt_of_octalRoom digits length
  rw [Char.toNat_ofUInt8_toUInt8 (by omega), hword]

/-! ### Hexadecimal -/

theorem readHexWord_eq_ok_iff {count : ℕ} (hcount : count ≤ 8) {rest : List Char} {w : UInt32} :
    readHexWord count rest = .ok w ↔ ∃ ds tail, rest = ds ++ tail ∧ ds.length = count ∧
      (∀ d ∈ ds, IsDigit 16 d) ∧ w.toNat = numeral 16 ds := by
  constructor
  · intro h
    rw [readHexWord] at h
    by_cases hshort : (rest.take count).length < count
    · rw [if_pos hshort] at h
      exact absurd h (by simp)
    · rw [if_neg hshort] at h
      have hlen : (rest.take count).length = count :=
        le_antisymm (List.length_take_le _ _) (not_lt.mp hshort)
      refine ⟨rest.take count, rest.drop count, (List.take_append_drop _ _).symm, hlen, ?_⟩
      refine (hexWord?_eq_some_iff (hlen.trans_le hcount)).mp ?_
      cases hword : hexWord? (rest.take count) with
      | none => simp [hword] at h
      | some value =>
        simp only [hword, Except.ok.injEq] at h
        rw [h]
  · rintro ⟨ds, tail, rfl, rfl, hword⟩
    rw [← hexWord?_eq_some_iff hcount] at hword
    rw [readHexWord, List.take_left, if_neg (lt_irrefl _)]
    simp only [hword]

theorem readHex_eq_ok_iff {rest : List Char} {e : Escape} :
    readHex rest = .ok e ↔ ∃ ds tail, rest = ds ++ tail ∧ ds.length = 2 ∧
      (∀ d ∈ ds, IsDigit 16 d) ∧ e.value.toNat = numeral 16 ds ∧ e.width = 4 := by
  have hbyte : ∀ {ds : List Char}, ds.length = 2 → (∀ d ∈ ds, IsDigit 16 d) →
      numeral 16 ds < 256 := by
    intro ds length digits
    have hlt := numeral_lt (by decide) digits
    rwa [length] at hlt
  constructor
  · intro h
    rw [readHex] at h
    cases hword : readHexWord 2 rest with
    | error fault => rw [hword] at h; exact absurd h (by simp [Except.map])
    | ok w =>
      obtain ⟨ds, tail, hrest, length, digits, number⟩ :=
        (readHexWord_eq_ok_iff (by decide)).mp hword
      rw [hword] at h
      obtain rfl := Except.ok.inj h
      have hw := number.trans_lt (hbyte length digits)
      exact ⟨ds, tail, hrest, length, digits, (Char.toNat_ofUInt8_toUInt8 hw).trans number, rfl⟩
  · rintro ⟨ds, tail, hrest, length, digits, number, hwidth⟩
    have hword : readHexWord 2 rest = .ok e.value.val :=
      (readHexWord_eq_ok_iff (by decide)).mpr ⟨ds, tail, hrest, length, digits, number⟩
    have hw : e.value.val.toNat < 256 := number.trans_lt (hbyte length digits)
    have hvalue : Char.ofUInt8 e.value.val.toUInt8 = e.value := by
      rw [← Char.toNat_inj, Char.toNat_ofUInt8_toUInt8 hw, Char.toNat_val]
    rw [readHex, hword]
    simp only [Except.map, hvalue, ← hwidth]

theorem scalar?_eq_some_iff {w : UInt32} {c : Char} :
    scalar? w = some c ↔ c.toNat = w.toNat ∧ c ≠ '\n' ∧ c ≠ '\x0d' := by
  have hval : c.toNat = w.toNat ↔ c.val = w := by
    rw [← Char.toNat_val, UInt32.toNat_inj]
  have hbreaks : (c ≠ '\n' ∧ c ≠ '\x0d') ↔ ¬(c.val = 0x0A ∨ c.val = 0x0D) := by
    have hlf : c = '\n' ↔ c.val = 0x0A := Char.ext_iff
    have hcr : c = '\x0d' ↔ c.val = 0x0D := Char.ext_iff
    rw [ne_eq, ne_eq, hlf, hcr, not_or]
  rw [hval, hbreaks, scalar?]
  constructor
  · intro h
    split at h
    · exact absurd h (by simp)
    · next hne =>
      split at h
      · obtain rfl := Option.some.inj h
        exact ⟨rfl, hne⟩
      · exact absurd h (by simp)
  · rintro ⟨rfl, hne⟩
    rw [if_neg hne, dif_pos c.valid]

theorem readUnicode_eq_ok_iff {count : ℕ} (hpos : 0 < count) (hcount : count ≤ 8)
    {rest : List Char} {e : Escape} :
    readUnicode count rest = .ok e ↔ ∃ ds tail, rest = ds ++ tail ∧ ds.length = count ∧
      (∀ d ∈ ds, IsDigit 16 d) ∧ e.value.toNat = numeral 16 ds ∧
      e.value ≠ '\n' ∧ e.value ≠ '\x0d' ∧ e.width = count + 2 := by
  constructor
  · intro h
    rw [readUnicode] at h
    split at h
    · exact absurd h (by simp)
    split at h
    · exact absurd h (by simp)
    cases hword : readHexWord count rest with
    | error fault => simp [hword] at h
    | ok w =>
      obtain ⟨ds, tail, hrest, length, digits, number⟩ := (readHexWord_eq_ok_iff hcount).mp hword
      cases hscalar : scalar? w with
      | none => simp [hword, hscalar] at h
      | some c =>
        obtain ⟨hc, hlf, hcr⟩ := scalar?_eq_some_iff.mp hscalar
        simp only [hword, hscalar, Except.ok.injEq] at h
        subst h
        exact ⟨ds, tail, hrest, length, digits, hc.trans number, hlf, hcr, rfl⟩
  · rintro ⟨ds, tail, rfl, length, digits, number, hlf, hcr, hwidth⟩
    have hshort : ¬(ds ++ tail).length < count := by
      rw [List.length_append]
      omega
    -- The sign is looked for before the digits are read, but a digit is no sign.
    have hsign : ¬((ds ++ tail).head? = some '+' ∨ (ds ++ tail).head? = some '-') := by
      obtain ⟨d, ds, rfl⟩ := List.exists_cons_of_length_pos (length ▸ hpos)
      have hd : IsDigit 16 d := digits d List.mem_cons_self
      rw [List.cons_append, List.head?_cons, Option.some_inj, Option.some_inj]
      rintro (rfl | rfl)
      · exact absurd hd (by decide)
      · exact absurd hd (by decide)
    have hword : readHexWord count (ds ++ tail) = .ok e.value.val :=
      (readHexWord_eq_ok_iff hcount).mpr ⟨ds, tail, rfl, length, digits, number⟩
    have hscalar : scalar? e.value.val = some e.value :=
      scalar?_eq_some_iff.mpr ⟨rfl, hlf, hcr⟩
    rw [readUnicode, if_neg hshort, if_neg hsign]
    simp only [hword, hscalar, ← hwidth]

/-! ## The reader is the grammar -/

theorem not_isDigit_of_mem_letters {l c : Char} (h : (l, c) ∈ letters) : ¬IsDigit 8 l := by
  have all : ∀ p ∈ letters, ¬IsDigit 8 p.1 := by decide
  exact all _ h

/-- A stretch that ends before the rest is read as what it stands for. -/
theorem read_of_spells {ds rest : List Char} {c : Char} (h : Spells ('\\' :: ds) c)
    (hend : EndsBefore ('\\' :: ds) rest) : read (ds ++ rest) = .ok ⟨c, ds.length + 1⟩ := by
  cases h with
  | plain ne => exact absurd rfl ne
  | letter mem =>
    have all : ∀ p ∈ letters, p.1 ≠ 'x' ∧ p.1 ≠ 'u' ∧ p.1 ≠ 'U' := by decide
    obtain ⟨hx, hu, hU⟩ := all _ mem
    rw [List.singleton_append, read_cons, if_neg (not_isDigit_of_mem_letters mem), if_neg hx,
      if_neg hu, if_neg hU, letterValue?_eq_some_iff.mpr mem]
    rfl
  | octal digits length number =>
    have hvalue := Char.toNat_inj.mp ((toNat_ofUInt8_octalWord digits length).trans number.symm)
    rw [List.cons_append, read_cons, if_pos (digits _ List.mem_cons_self), readOctal,
      octalRun_of_endsBefore digits length hend]
    simp only [hvalue]
  | hex length digits number =>
    refine readHex_eq_ok_iff.mpr ⟨_, rest, rfl, length, digits, number, ?_⟩
    rw [List.length_cons, length]
  | shortUnicode length digits number lineFeed carriageReturn =>
    refine (readUnicode_eq_ok_iff (by decide) (by decide)).mpr
      ⟨_, rest, rfl, length, digits, number, lineFeed, carriageReturn, ?_⟩
    rw [List.length_cons, length]
  | longUnicode length digits number lineFeed carriageReturn =>
    refine (readUnicode_eq_ok_iff (by decide) (by decide)).mpr
      ⟨_, rest, rfl, length, digits, number, lineFeed, carriageReturn, ?_⟩
    rw [List.length_cons, length]

/-- Digits behind a letter end before whatever follows. -/
private theorem exists_spells_of_digits {l : Char} (hl : ¬IsDigit 8 l) {e : Escape} {count : ℕ}
    {ds rest tail : List Char} (hrest : rest = ds ++ tail) (length : ds.length = count)
    (hwidth : e.width = count + 2) (hspells : Spells ('\\' :: l :: ds) e.value) :
    ∃ ds rest', l :: rest = ds ++ rest' ∧ e.width = ds.length + 1 ∧ Spells ('\\' :: ds) e.value ∧
      EndsBefore ('\\' :: ds) rest' := by
  refine ⟨l :: ds, tail, ?_, ?_, hspells, .of_not_canGrow (not_canGrow_cons hl ds) tail⟩
  · rw [hrest, List.cons_append]
  · rw [hwidth, List.length_cons, length]

/-- Whatever is read is a stretch that ends before the rest. -/
theorem exists_spells_of_read {cs : List Char} {e : Escape} (h : read cs = .ok e) :
    ∃ ds rest, cs = ds ++ rest ∧ e.width = ds.length + 1 ∧ Spells ('\\' :: ds) e.value ∧
      EndsBefore ('\\' :: ds) rest := by
  cases cs with
  | nil => exact absurd h (by simp [read])
  | cons c rest =>
    rw [read_cons] at h
    -- One case for each class, in the order in which the introducer is tested.
    split_ifs at h with hoctal hx hu hU
    · obtain ⟨ds, tail, hrest, hrun, digits, length, hend⟩ := exists_octalRun hoctal rest
      rw [Except.ok.injEq, readOctal, hrun] at h
      subst h
      exact ⟨c :: ds, tail, by rw [hrest, List.cons_append], rfl,
        .octal digits length (toNat_ofUInt8_octalWord digits length), hend⟩
    · obtain ⟨ds, tail, hrest, length, digits, number, hwidth⟩ := readHex_eq_ok_iff.mp h
      refine exists_spells_of_digits hoctal hrest length hwidth ?_
      rw [hx]
      exact .hex length digits number
    · obtain ⟨ds, tail, hrest, length, digits, number, hlf, hcr, hwidth⟩ :=
        (readUnicode_eq_ok_iff (by decide) (by decide)).mp h
      refine exists_spells_of_digits hoctal hrest length hwidth ?_
      rw [hu]
      exact .shortUnicode length digits number hlf hcr
    · obtain ⟨ds, tail, hrest, length, digits, number, hlf, hcr, hwidth⟩ :=
        (readUnicode_eq_ok_iff (by decide) (by decide)).mp h
      refine exists_spells_of_digits hoctal hrest length hwidth ?_
      rw [hU]
      exact .longUnicode length digits number hlf hcr
    · cases hvalue : letterValue? c with
      | none => simp [hvalue] at h
      | some value =>
        simp only [hvalue, Except.ok.injEq] at h
        subst h
        exact ⟨[c], rest, rfl, rfl, .letter (letterValue?_eq_some_iff.mp hvalue),
          .of_not_canGrow (not_canGrow_cons hoctal []) rest⟩

end GoLiteral.Escape
