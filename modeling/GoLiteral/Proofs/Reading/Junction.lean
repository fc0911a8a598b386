import GoLiteral.Proofs.Reading.Boundaries
import GoLiteral.Proofs.Reading.Failure

/-!
# Bodies end to end

Two bodies that can be read are read one behind the other, unless the last piece of the first is
an octal escape with room for another digit and the second begins with one. That is the only way
in which a reading looks past a piece, so all that counts is the last piece of the first body and
the first character of the second. The pieces are then those of both, the boundaries of the second
moved behind the first, and so is the error when the second body cannot be read.
-/

namespace GoLiteral

open Escape (EndsBefore)
open Piece (sources Separated boundary Splits)

/-! ## Pieces end to end -/

theorem Escape.endsBefore_append_iff {source front : List Char} (hne : front ≠ [])
    (rest : List Char) : EndsBefore source (front ++ rest) ↔ EndsBefore source front := by
  rw [EndsBefore, EndsBefore, List.head?_append_of_ne_nil front hne]

theorem Escape.endsBefore_nil (source : List Char) : EndsBefore source [] := by
  intro hgrow d hd
  exact absurd hd (by simp)

namespace Piece

/-- Only the last piece of a row can reach into what is behind the row. -/
theorem separated_iff_getLast? {ps : List Piece} {rest : List Char} : Separated ps rest ↔
    Separated ps [] ∧ ∀ p ∈ ps.getLast?, EndsBefore p.source rest := by
  induction ps with
  | nil => simp
  | cons p ps ih =>
    rw [separated_cons, separated_cons, List.append_nil]
    -- Behind a piece that is not the last stands another one, which hides all of `rest`.
    cases ps with
    | nil => simp [Escape.endsBefore_nil]
    | cons q qs =>
      have hne : sources (q :: qs) ≠ [] := by
        rw [sources_cons]
        exact List.append_ne_nil_of_left_ne_nil q.spells.ne_nil _
      rw [Escape.endsBefore_append_iff hne, ih, List.getLast?_cons_cons, and_assoc]

/-- **Two rows of pieces end to end** are the pieces of the whole when the last piece of the first
row does not reach into the second. -/
theorem splits_append_iff {a b : List Char} {ps qs : List Piece} (ha : Splits a ps)
    (hb : Splits b qs) :
    Splits (a ++ b) (ps ++ qs) ↔ ∀ p ∈ ps.getLast?, EndsBefore p.source b := by
  obtain ⟨rfl, hps⟩ := ha
  obtain ⟨rfl, hqs⟩ := hb
  constructor
  · rintro ⟨-, hsep⟩
    rw [separated_append, List.append_nil] at hsep
    exact (separated_iff_getLast?.mp hsep.1).2
  · intro hlast
    refine ⟨sources_append ps qs, ?_⟩
    rw [separated_append, List.append_nil]
    exact ⟨separated_iff_getLast?.mpr ⟨hps, hlast⟩, hqs⟩

theorem boundary_append_add {ps : List Piece} {n : ℕ} (hn : ps.length = n) (qs : List Piece)
    (k : ℕ) : boundary (ps ++ qs) (n + k) = (sources ps).length + boundary qs k := by
  subst hn
  rw [boundary_add, boundary_append_of_le le_rfl, boundary_length, List.drop_left]

end Piece

/-! ## Bodies end to end -/

namespace BadEscape

/-- The same bad escape in a body that has `n` more characters before it. -/
def behind (n : ℕ) : BadEscape → BadEscape
  | malformed offset sequence => malformed (n + offset) sequence
  | forbidden offset sequence => forbidden (n + offset) sequence
  | unterminated offset => unterminated (n + offset)

theorem behind_ofFault (n : ℕ) (fault : Escape.Fault) (offset : ℕ) (rest : List Char) :
    (ofFault fault offset rest).behind n = ofFault fault (n + offset) rest := by
  cases fault <;> rfl

end BadEscape

namespace Reading

theorem ofBody_append_of_bad {a b : String} {ps : List Piece} (hps : Splits a.toList ps)
    (hlast : ∀ p ∈ ps.getLast?, EndsBefore p.source b.toList) {bad : BadEscape}
    (hbad : ofBody .interpreted b = .error bad) :
    ofBody .interpreted (a ++ b) = .error (bad.behind a.length) := by
  obtain ⟨qs, tail, fault, hb, hsep, hread, rfl⟩ :=
    exists_bad_of_append (ofBody_eq_error_iff.mp hbad)
  have hsources : sources (ps ++ qs) ++ '\\' :: tail = (a ++ b).toList := by
    rw [Piece.sources_append, List.append_assoc, hb, hps.sources_eq, String.toList_append]
  have hseparated : Separated (ps ++ qs) ('\\' :: tail) := by
    rw [Piece.separated_append, hb]
    exact ⟨Piece.separated_iff_getLast?.mpr ⟨hps.separated, hlast⟩, hsep⟩
  have hlen : (sources (ps ++ qs)).length = a.length + (sources qs).length := by
    rw [Piece.sources_append, List.length_append, hps.sources_eq, String.length_toList]
  rw [ofBody_eq_error_iff, append_of_bad hsources hseparated hread, hlen,
    BadEscape.behind_ofFault]

end Reading

theorem ReadsAs.endsBefore_stretch {body text : String} {e : ℕ → ℕ} (h : ReadsAs body text e)
    {k : ℕ} (hk : k < text.length) :
    EndsBefore (stretch body e k) (body.toList.drop (e (k + 1))) := by
  obtain ⟨ps, hps, -, hlen, he⟩ := h.exists_splits
  rw [hlen] at hk
  have hsplits : Splits (body.toList.take (e (k + 1)) ++ body.toList.drop (e (k + 1)))
      (ps.take (k + 1) ++ ps.drop (k + 1)) := by
    rwa [List.take_append_drop, List.take_append_drop]
  rw [he (k + 1) hk, Piece.splits_append_iff (hps.take _) (hps.drop hk)] at hsplits
  rw [he (k + 1) hk]
  exact (endsBefore_getLast?_iff hps he hk _).mp hsplits k rfl

/-- **Two bodies end to end.** Unless the last stretch of the first body is an octal escape that
could take another digit and the second body begins with one, the whole is read as both texts, the
boundaries of the second moved behind the first body; and where the second body is refused, so is
the whole, for the same escape. -/
theorem readsAs_append {a b text : String} {e : ℕ → ℕ} (ha : ReadsAs a text e)
    (hend : ∀ k, k + 1 = text.length → EndsBefore (stretch a e k) b.toList) :
    (∀ text' e', ReadsAs b text' e' → ReadsAs (a ++ b) (text ++ text') fun d ↦
        if d ≤ text.length then e d else a.length + e' (d - text.length)) ∧
      ∀ bad, Reading.ofBody .interpreted b = .error bad →
        Reading.ofBody .interpreted (a ++ b) = .error (bad.behind a.length) := by
  obtain ⟨ps, hps, htext, hlen, he⟩ := ha.exists_splits
  have hlast : ∀ p ∈ ps.getLast?, EndsBefore p.source b.toList := by
    have htake := (endsBefore_getLast?_iff hps he le_rfl b.toList).mpr (hlen ▸ hend)
    rwa [List.take_length] at htake
  refine ⟨?_, fun bad ↦ Reading.ofBody_append_of_bad hps hlast⟩
  intro text' e' hb
  obtain ⟨qs, hqs, htext', -, he'⟩ := hb.exists_splits
  have hsplits : Splits (a ++ b).toList (ps ++ qs) := by
    rw [String.toList_append]
    exact (Piece.splits_append_iff hps hqs).mpr hlast
  refine readsAs_of_splits hsplits ?_ ?_
  · rw [String.toList_append, htext, htext', List.map_append]
  · intro d hd
    rw [List.length_append] at hd
    have hsources : (sources ps).length = a.length := by
      rw [hps.sources_eq, String.length_toList]
    rw [hlen, ← hsources]
    split
    · next hle => rw [Piece.boundary_append_of_le hle, he d hle]
    · next hgt =>
      obtain ⟨k, rfl⟩ := Nat.exists_eq_add_of_le (not_le.mp hgt).le
      rw [Piece.boundary_append_add rfl, Nat.add_sub_cancel_left, he' k (by omega)]

/-- A full octal escape takes nothing from a digit behind it, whether what follows that digit can
be read or not. -/
theorem readsAs_append_octal :
    ReadsAs "\\101" "A" (4 * ·) ∧ ReadsAs "1\\n" "1\n" (fun d ↦ d + d / 2) ∧
      ReadsAs ("\\101" ++ "1\\n") ("A" ++ "1\n") (fun d ↦ if d ≤ "A".length then 4 * d
        else "\\101".length + (d - "A".length + (d - "A".length) / 2)) ∧
      Reading.ofBody .interpreted ("\\101" ++ "1\\q") = .error (.malformed 5 "\\q") := by
  have ha : ReadsAs "\\101" "A" (4 * ·) := by
    refine ⟨.anchored #[some 0, some 4, none, none, none], by decide +kernel, fun d ↦ ?_⟩
    match d with
    | 0 | 1 | 2 | 3 | 4 => rfl
    | d + 5 => rfl
  have hb : ReadsAs "1\\n" "1\n" (fun d ↦ d + d / 2) := by
    refine ⟨.anchored #[some 0, some 1, some 3, none], by decide +kernel, fun d ↦ ?_⟩
    match d with
    | 0 | 1 | 2 | 3 => rfl
    | d + 4 => rfl
  have hfull : ∀ rest : List Char, ∀ k, k + 1 = "A".length →
      EndsBefore (stretch "\\101" (4 * ·) k) rest := by
    intro rest k hk
    obtain rfl : k = 0 := Nat.succ.inj hk
    refine .of_not_canGrow ?_ rest
    rintro ⟨-, hroom⟩
    exact absurd hroom (by decide)
  have hbad : Reading.ofBody .interpreted "1\\q" = .error (.malformed 1 "\\q") := by decide +kernel
  exact ⟨ha, hb, (readsAs_append ha (hfull _)).1 _ _ hb, (readsAs_append ha (hfull _)).2 _ hbad⟩

end GoLiteral
