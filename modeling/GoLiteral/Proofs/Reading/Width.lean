import GoLiteral.Proofs.Escape.Exactness
import GoLiteral.Proofs.Reading.Boundaries

/-!
# The widths of escapes

Each class of escape has a width, which a table gives; only of an octal escape it leaves the width
open. No escape is read by that table: each reader counts the characters that it takes up itself.
Here it is shown that they count what the table says, for every escape at every place of a body, and
how wide an octal escape is.
-/

namespace GoLiteral

open Escape (Class)
open Piece (sources boundary Splits)

namespace Escape

/-! ## Octal escapes -/

/-- How many octal digits a row of characters begins with. -/
def octalDigits (cs : List Char) : ℕ := (cs.takeWhile isOctal).length

theorem length_octalRun (lead : Char) (rest : List Char) :
    (octalRun lead rest).length = min (octalLimit lead) (octalDigits (lead :: rest)) := by
  rw [octalRun, ← List.take_takeWhile, List.length_take, octalDigits]

/-! ## The reader and the table -/

/-- The width is that of an escape of the class, where `tail` is what follows the backslash. -/
structure HasWidth (cls : Class) (tail : List Char) (width : ℕ) : Prop where
  /-- The width is the one in the table, if there is one. -/
  table : ∀ n, cls.rawLength? = some n → width = n
  /-- An octal escape takes up as many digits as follow, but no more than three, or two when the
  first of them is above `3`. -/
  octal : cls = .octal → ∀ lead ∈ tail.head?,
    width = 1 + min (if lead ≤ '3' then 3 else 2) (octalDigits tail)

theorem rawLength?_eq_none_iff {cls : Class} : cls.rawLength? = none ↔ cls = .octal := by
  cases cls <;> simp [Class.rawLength?]

theorem HasWidth.of_rawLength? {cls : Class} {width : ℕ} (h : cls.rawLength? = some width)
    (tail : List Char) : HasWidth cls tail width where
  table n hn := Option.some.inj (h.symm.trans hn)
  octal hcls := by
    rw [rawLength?_eq_none_iff.mpr hcls] at h
    exact absurd h (by simp)

/-- **An escape that has been read is as wide as the table says.** -/
theorem hasWidth_of_read {introducer : Char} {rest : List Char} {e : Escape}
    (h : read (introducer :: rest) = .ok e) : ∃ cls, Class.ofIntroducer? introducer = some cls ∧
      HasWidth cls (introducer :: rest) e.width := by
  rw [read] at h
  cases hcls : Class.ofIntroducer? introducer with
  | none => simp [hcls] at h
  | some cls =>
    refine ⟨cls, rfl, ?_⟩
    rw [hcls] at h
    cases cls with
    | identity => exact absurd hcls (Class.ofIntroducer?_ne_identity introducer)
    | singleLetter =>
      cases hvalue : letterValue? introducer with
      | none => simp [hvalue] at h
      | some value =>
        simp only [hvalue, Except.ok.injEq] at h
        subst h
        exact .of_rawLength? rfl _
    | octal =>
      obtain rfl := Except.ok.inj h
      refine ⟨fun n hn ↦ absurd hn (by simp [Class.rawLength?]), ?_⟩
      rintro - lead hlead
      obtain rfl : introducer = lead := Option.some.inj hlead
      rw [readOctal, length_octalRun, octalLimit, Nat.add_comm]
    | hex =>
      obtain ⟨ds, tail, -, -, -, -, hwidth⟩ := readHex_eq_ok_iff.mp h
      rw [hwidth]
      exact .of_rawLength? rfl _
    | shortUnicode | longUnicode =>
      obtain ⟨ds, tail, -, -, -, -, -, -, hwidth⟩ :=
        (readUnicode_eq_ok_iff (by decide) (by decide)).mp h
      rw [hwidth]
      exact .of_rawLength? rfl _

end Escape

/-! ## In a body -/

open Escape (HasWidth)

namespace ReadsAs

variable {body text : String} {e : ℕ → ℕ}

theorem exists_piece (h : ReadsAs body text e) {d : ℕ} (hd : d < text.length) :
    ∃ (p : Piece) (rest : List Char), body.toList.drop (e d) = p.source ++ rest ∧
      Escape.EndsBefore p.source rest ∧ e (d + 1) = e d + p.source.length := by
  obtain ⟨ps, hps, -, hlen, he⟩ := h.exists_splits
  rw [hlen] at hd
  have hdrop := hps.drop hd.le
  rw [List.drop_eq_getElem_cons hd] at hdrop
  refine ⟨ps[d], sources (ps.drop (d + 1)), ?_, ?_, ?_⟩
  · rw [he d hd.le, ← hdrop.sources_eq, Piece.sources_cons]
  · have hsep := hdrop.separated.1
    rwa [List.append_nil] at hsep
  · rw [he d hd.le, he (d + 1) hd, Piece.boundary_succ hd]

/-- **Widths are those of the table.** Between two neighbouring boundaries of a text that has been
read lies one character of the body, when that is no backslash, which is the width of a character
that stands for itself. Otherwise they enclose an escape of some class and are as far apart as an
escape of that class is wide. -/
theorem exists_width (h : ReadsAs body text e) {d : ℕ} (hd : d < text.length) :
    ∃ (c : Char) (tail : List Char) (width : ℕ), body.toList.drop (e d) = c :: tail ∧
      e (d + 1) = e d + width ∧
      (c ≠ '\\' → width = 1 ∧ Class.identity.rawLength? = some width) ∧
      (c = '\\' → ∃ introducer ∈ tail.head?, ∃ cls,
        Class.ofIntroducer? introducer = some cls ∧ HasWidth cls tail width) := by
  obtain ⟨p, rest, hdrop, hend, hwidth⟩ := h.exists_piece hd
  rcases p.spells.eq_singleton_or with ⟨hsource, hne⟩ | ⟨ds, hsource⟩
  · rw [hsource] at hdrop hwidth
    exact ⟨_, rest, 1, hdrop, hwidth, fun _ ↦ ⟨rfl, rfl⟩, fun hc ↦ absurd hc hne⟩
  · have hread := Escape.read_of_spells (hsource ▸ p.spells) (hsource ▸ hend)
    rw [hsource] at hdrop hwidth
    refine ⟨'\\', ds ++ rest, ds.length + 1, hdrop, hwidth, fun hc ↦ absurd rfl hc, fun _ ↦ ?_⟩
    cases htail : ds ++ rest with
    | nil =>
      rw [htail] at hread
      exact absurd hread (by simp [Escape.read])
    | cons introducer tail =>
      rw [htail] at hread
      obtain ⟨cls, hcls, hwidth⟩ := Escape.hasWidth_of_read hread
      exact ⟨introducer, rfl, cls, hcls, hwidth⟩

/-- A first digit above `3` leaves the third digit to the text. -/
theorem exists_width_octal :
    let e : ℕ → ℕ := fun d ↦ if d ≤ 1 then d else d + 2
    ReadsAs "8\\411" "8!1" e ∧ 1 < "8!1".length ∧
      ∃ (c : Char) (tail : List Char) (width : ℕ), "8\\411".toList.drop (e 1) = c :: tail ∧
        e 2 = e 1 + width ∧ (c ≠ '\\' → width = 1 ∧ Class.identity.rawLength? = some width) ∧
        (c = '\\' → ∃ introducer ∈ tail.head?, ∃ cls,
          Class.ofIntroducer? introducer = some cls ∧ HasWidth cls tail width) := by
  intro e
  have h : ReadsAs "8\\411" "8!1" e := by
    refine ⟨.anchored #[some 0, some 1, some 4, some 5, none, none], by decide +kernel, fun d ↦ ?_⟩
    match d with
    | 0 | 1 | 2 | 3 | 4 | 5 => rfl
    | d + 6 => rfl
  exact ⟨h, by decide, h.exists_width (by decide)⟩

end ReadsAs

end GoLiteral
