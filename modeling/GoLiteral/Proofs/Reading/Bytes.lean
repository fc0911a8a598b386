import Mathlib.Data.String.Basic
import GoLiteral.Proofs.Reading.Rounds
import GoLiteral.Proofs.Reading.SharedBuffer
import GoLiteral.Proofs.Reading.Shortcut

/-!
# The size of a text in bytes

Characters of a body become characters of its text, and both are stored in one to four bytes. A
numeric escape can stand for a character of any size, but the larger the number the more digits are
needed to write it: a character takes up no more bytes than its number has hexadecimal digits. So an
escape is always larger than its character, the backslash alone making the difference.

`Scan.bytes` is what the buffer of a scan and the rest of its body take up together. No round makes
it larger, and a round that reads an escape makes it smaller. What has been appended to the buffer
is therefore at no time larger than the body, and a buffer with room for the body never has to grow.
At the end of a body that can be read the two are of the same size exactly when no escape has been
read on the way.
-/

/-! ## Sizes of characters -/

namespace Char

theorem utf8Size_eq_ite (c : Char) : c.utf8Size =
    if c.toNat < 0x80 then 1 else if c.toNat < 0x800 then 2
    else if c.toNat < 0x10000 then 3 else 4 := by
  have hle : ∀ bound : UInt32, c.val ≤ bound ↔ c.toNat < bound.toNat + 1 := fun bound ↦
    UInt32.le_iff_toNat_le.trans Nat.lt_succ_iff.symm
  simp only [utf8Size, hle]
  rfl

/-- A character takes up no more bytes than its number has hexadecimal digits. -/
theorem utf8Size_le_of_toNat_lt {c : Char} {n : ℕ} (hpos : 0 < n) (h : c.toNat < 16 ^ n) :
    c.utf8Size ≤ n := by
  rcases Nat.lt_or_ge n 4 with hn | hn
  · obtain rfl | rfl | rfl : n = 1 ∨ n = 2 ∨ n = 3 := by omega
    all_goals
      rw [utf8Size_eq_ite]
      split_ifs <;> omega
  · exact c.utf8Size_le_four.trans hn

end Char

theorem String.length_le_utf8Len (cs : List Char) : cs.length ≤ utf8Len cs := by
  induction cs with
  | nil => rfl
  | cons c cs ih =>
    rw [List.length_cons, utf8Len_cons]
    exact Nat.add_le_add ih c.utf8Size_pos

namespace GoLiteral

open String (utf8Len)

/-! ## An escape and its character -/

namespace Escape

theorem utf8Size_le_length {base : ℕ} (hbase : 1 < base) (hle : base ≤ 16) {c : Char}
    {ds : List Char} (hpos : 0 < ds.length) (digits : ∀ d ∈ ds, IsDigit base d)
    (number : c.toNat = numeral base ds) : c.utf8Size ≤ ds.length := by
  refine Char.utf8Size_le_of_toNat_lt hpos ?_
  calc c.toNat = numeral base ds := number
    _ < base ^ ds.length := numeral_lt hbase digits
    _ ≤ 16 ^ ds.length := Nat.pow_le_pow_left hle _

theorem Spells.utf8Size_le {ds : List Char} {c : Char} (h : Spells ('\\' :: ds) c) :
    c.utf8Size ≤ ds.length := by
  -- The introducer of the fixed-width classes is one character more than is needed.
  have hex : ∀ {x : Char} {ds : List Char} {count : ℕ}, ds.length = count → 0 < count →
      (∀ d ∈ ds, IsDigit 16 d) → c.toNat = numeral 16 ds → c.utf8Size ≤ (x :: ds).length := by
    rintro x ds _ rfl hpos digits number
    exact (utf8Size_le_length (by decide) le_rfl hpos digits number).trans (Nat.le_succ _)
  cases h with
  | plain ne => exact absurd rfl ne
  | letter mem =>
    have all : ∀ p ∈ letters, p.2.utf8Size ≤ 1 := by decide
    exact all _ mem
  | octal digits _ number =>
    exact utf8Size_le_length (by decide) (by decide) (Nat.succ_pos _) digits number
  | hex length digits number => exact hex length (by decide) digits number
  | shortUnicode length digits number => exact hex length (by decide) digits number
  | longUnicode length digits number => exact hex length (by decide) digits number

end Escape

/-- **A piece is at least as large as its character**, and larger just when it is an escape. -/
theorem Piece.utf8Size_value_le (p : Piece) : p.value.utf8Size ≤ utf8Len p.source ∧
    (p.value.utf8Size = utf8Len p.source ↔ p.source.head? ≠ some '\\') := by
  rcases p.spells.eq_singleton_or with ⟨hsource, hne⟩ | ⟨ds, hsource⟩
  · rw [hsource]
    simp [hne]
  · have hvalue := Escape.Spells.utf8Size_le (hsource ▸ p.spells)
    have hlen := String.length_le_utf8Len p.source
    rw [hsource, List.length_cons] at hlen
    rw [hsource]
    simp only [List.head?_cons, ne_eq, not_true_eq_false, iff_false]
    omega

/-! ## Round by round -/

namespace Scan

/-- What the buffer and the rest of the body take up together. -/
def bytes (s : Scan) : ℕ := s.buffer.utf8ByteSize + utf8Len s.rest

theorem bytes_start (body buffer : String) :
    (start body.toList buffer).bytes = buffer.utf8ByteSize + body.utf8ByteSize := by
  rw [bytes, start, String.utf8Len_toList]

theorem utf8ByteSize_buffer_le (s : Scan) : s.buffer.utf8ByteSize ≤ s.bytes := Nat.le_add_right _ _

/-- **A round makes nothing larger**, and keeps the size just when it reads no escape. -/
theorem bytes_of_step {s t : Scan} (h : s.step = .next t) :
    t.bytes ≤ s.bytes ∧ (t.bytes = s.bytes ↔ s.rest.head? ≠ some '\\') := by
  obtain ⟨p, rest, hrest, rfl⟩ := exists_piece_of_step h
  obtain ⟨hle, heq⟩ := p.utf8Size_value_le
  have hhead : s.rest.head? = p.source.head? := by
    rw [hrest, List.head?_append_of_ne_nil _ p.spells.ne_nil]
  -- The two states differ in the piece, which was before the scan, and its character, which is in
  -- the buffer now.
  have hs : s.bytes = s.buffer.utf8ByteSize + (utf8Len p.source + utf8Len rest) := by
    rw [bytes, hrest, String.utf8Len_append]
  have ht : (s.pass p).bytes = s.buffer.utf8ByteSize + (p.value.utf8Size + utf8Len rest) := by
    rw [bytes, pass, hrest, List.drop_left, String.utf8ByteSize_push, Nat.add_assoc]
  rw [hhead, ← heq, hs, ht]
  omega

theorem bytes_le_of_rounds {s t : Scan} {n : ℕ} (h : Rounds s n t) : t.bytes ≤ s.bytes := by
  induction h with
  | zero => exact le_rfl
  | succ before step ih => exact (bytes_of_step step).1.trans ih

/-- Some round of the scan reads an escape. -/
inductive ReadsEscape : Scan → Prop
  /-- The next one does: it begins at a backslash and does not end the scan. -/
  | now {s t : Scan} (backslash : s.rest.head? = some '\\') (step : s.step = .next t) :
      ReadsEscape s
  /-- A later one does. -/
  | later {s t : Scan} (step : s.step = .next t) (after : ReadsEscape t) : ReadsEscape s

theorem readsEscape_iff_of_step {s t : Scan} (h : s.step = .next t) :
    s.ReadsEscape ↔ s.rest.head? = some '\\' ∨ t.ReadsEscape := by
  constructor
  · rintro (⟨backslash, -⟩ | ⟨step, after⟩)
    · exact Or.inl backslash
    · rw [h, Step.next.injEq] at step
      exact Or.inr (step ▸ after)
  · rintro (backslash | after)
    · exact .now backslash h
    · exact .later h after

theorem not_readsEscape_of_stop {s : Scan} {attempt : Attempt} (h : s.step = .stop attempt) :
    ¬s.ReadsEscape := by
  rintro (⟨-, step⟩ | ⟨step, -⟩)
  · exact absurd (h.symm.trans step) (by simp)
  · exact absurd (h.symm.trans step) (by simp)

/-! ## At the end -/

/-- **The scan makes nothing larger**, and keeps the size just when it succeeds without an
escape. -/
theorem utf8ByteSize_run (s : Scan) : s.run.buffer.utf8ByteSize ≤ s.bytes ∧
    (s.run.buffer.utf8ByteSize = s.bytes ↔
      (∃ positions, s.run.result = .ok positions) ∧ ¬s.ReadsEscape) := by
  induction s using run.induct with
  | case1 s t hstep ih =>
    obtain ⟨hle, heq⟩ := bytes_of_step hstep
    obtain ⟨hle', heq'⟩ := ih
    -- The size is kept when this round keeps it and all later ones do.
    rw [run_of_step hstep, readsEscape_iff_of_step hstep, not_or, and_left_comm, ← heq', ← ne_eq,
      ← heq]
    omega
  | case2 s attempt hstop =>
    have hnone := not_readsEscape_of_stop hstop
    obtain ⟨p, rest, -, hstep⟩ | ⟨hrest, hstep⟩ | ⟨tail, bad, hrest, hstep⟩ := s.step_cases
    · exact absurd (hstop.symm.trans hstep) (by simp)
    · have hbytes : s.bytes = s.buffer.utf8ByteSize := by rw [bytes, hrest]; rfl
      rw [run_of_stop hstep, hbytes]
      exact ⟨le_rfl, iff_of_true rfl ⟨⟨_, rfl⟩, hnone⟩⟩
    · -- The backslash of the bad escape is still there.
      have hlt : s.buffer.utf8ByteSize < s.bytes := by
        have hpos := Char.utf8Size_pos '\\'
        rw [bytes, hrest, String.utf8Len_cons]
        omega
      rw [run_of_stop hstep]
      refine ⟨hlt.le, iff_of_false hlt.ne ?_⟩
      rintro ⟨⟨positions, hok⟩, -⟩
      exact absurd hok (by simp)

end Scan

namespace Reading

/-- An escape is read somewhere in the body. In a raw body none is. -/
def ReadsEscape (kind : Kind) (body : String) : Prop :=
  kind = .interpreted ∧ (Scan.start body.toList "").ReadsEscape

theorem utf8ByteSize_append_empty (kind : Kind) (body : String) :
    (append kind body "").buffer.utf8ByteSize ≤ body.utf8ByteSize ∧
      ((append kind body "").buffer.utf8ByteSize = body.utf8ByteSize ↔
        (∃ positions, (append kind body "").result = .ok positions) ∧ ¬ReadsEscape kind body) := by
  cases kind with
  | raw =>
    have happend : append .raw body "" = ⟨"" ++ body, .ok (.verbatim body.length)⟩ := rfl
    rw [happend, String.empty_append]
    refine ⟨le_rfl, iff_of_true rfl ⟨⟨_, rfl⟩, ?_⟩⟩
    rintro ⟨hkind, -⟩
    exact absurd hkind (by decide)
  | interpreted =>
    have hreads : ReadsEscape .interpreted body ↔ (Scan.start body.toList "").ReadsEscape :=
      and_iff_right rfl
    rw [hreads]
    by_cases hempty : body = ""
    · -- The empty body is not scanned; were it, the first round would be the last.
      subst hempty
      have hstop := Scan.step_of_rest_nil (s := Scan.start "".toList "") rfl
      rw [append_interpreted_empty]
      exact ⟨le_rfl, iff_of_true rfl ⟨⟨_, rfl⟩, Scan.not_readsEscape_of_stop hstop⟩⟩
    · have hrun := (Scan.start body.toList "").utf8ByteSize_run
      rwa [← append_eq_run_start hempty, Scan.bytes_start, String.utf8ByteSize_empty,
        Nat.zero_add] at hrun

/-- **A text never outgrows its body.** What reading a body of either kind leaves in a buffer takes
up no more bytes than the body. If the body can be read, this is its text, which is of the size of
the body exactly when no escape has been read; if the body is refused, it is the text of what is
before the bad escape, which is smaller. A buffer that is empty at first is at no time larger than
the body, so that room for the body is enough. -/
theorem utf8ByteSize_append_le (kind : Kind) (body : String) :
    ∃ left, Leaves kind body left ∧
      (∀ buffer, (append kind body buffer).buffer = buffer ++ left) ∧
      left.utf8ByteSize ≤ body.utf8ByteSize ∧
      (∀ r, ofBody kind body = .ok r →
        (left.utf8ByteSize = body.utf8ByteSize ↔ ¬ReadsEscape kind body)) ∧
      (∀ bad, ofBody kind body = .error bad → left.utf8ByteSize < body.utf8ByteSize) ∧
      ∀ n s, Scan.Rounds (Scan.start body.toList "") n s →
        s.buffer.utf8ByteSize ≤ body.utf8ByteSize := by
  obtain ⟨left, hleft, happend⟩ := exists_leaves_append kind body
  obtain ⟨hle, heq⟩ := utf8ByteSize_append_empty kind body
  rw [happend, String.empty_append] at hle heq
  refine ⟨left, hleft, fun buffer ↦ by rw [happend], hle, fun r hr ↦ ?_, fun bad hbad ↦ ?_,
    fun n s hrounds ↦ ?_⟩
  · rw [heq, hr]
    exact and_iff_right ⟨_, rfl⟩
  · refine hle.lt_of_ne fun hsize ↦ ?_
    obtain ⟨⟨positions, hok⟩, -⟩ := heq.mp hsize
    rw [hbad] at hok
    exact absurd hok (by simp [Except.map])
  · have hbytes := Scan.bytes_le_of_rounds hrounds
    rw [Scan.bytes_start, String.utf8ByteSize_empty, Nat.zero_add] at hbytes
    exact s.utf8ByteSize_buffer_le.trans hbytes

/-- The longest escape makes the longest character, of four bytes. -/
example : "\\U0010FFFF".utf8ByteSize = 10 ∧
    (append .interpreted "\\U0010FFFF" "").buffer.utf8ByteSize = 4 := by decide +kernel

end Reading

end GoLiteral
