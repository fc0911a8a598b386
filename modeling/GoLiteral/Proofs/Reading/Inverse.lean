import GoLiteral.Proofs.Reading.Boundaries
import GoLiteral.Proofs.Reading.Host
import GoLiteral.Proofs.Reading.Lookup

/-!
# From the text to the body and back

The map of a body that has been read is asked in both directions: for the place of a boundary, by
looking into a slot, and for the boundary at a place, by searching the filled slots from the first
one on. The boundaries are in strict order and their slots come first, so the search finds the one
slot that holds the place, if there is any.

The boundaries reach from the beginning of the body to its end, so a place in the body that is none
of them lies strictly between two neighbours. The piece between those is wider than one character,
and therefore an escape.
-/

namespace GoLiteral

open Piece (sources boundary Splits)

/-- The place lies strictly between a boundary and the next one. -/
def PositionMap.IsInside (m : PositionMap) (d place : ℕ) : Prop :=
  ∃ before after, m.get? d = some before ∧ m.get? (d + 1) = some after ∧
    before < place ∧ place < after

/-! ## A row of pieces -/

namespace Piece

variable {ps : List Piece} {d place : ℕ}

theorem head?_source_of_one_lt {p : Piece} (h : 1 < p.source.length) :
    p.source.head? = some '\\' := by
  obtain ⟨hsource, -⟩ | ⟨ds, hsource⟩ := p.spells.eq_singleton_or
  · rw [hsource] at h
    exact absurd h (lt_irrefl 1)
  · rw [hsource, List.head?_cons]

theorem getElem?_sources_of_between (hd : d < ps.length) (hbefore : boundary ps d < place)
    (hafter : place < boundary ps (d + 1)) : (sources ps)[boundary ps d]? = some '\\' := by
  rw [boundary_succ hd] at hafter
  rw [getElem?_sources_boundary hd]
  exact head?_source_of_one_lt (by omega)

theorem boundary_ne_of_between (hbefore : boundary ps d < place)
    (hafter : place < boundary ps (d + 1)) (d' : ℕ) : boundary ps d' ≠ place := by
  rintro rfl
  rcases Nat.lt_or_ge d d' with h | h
  · exact absurd (boundary_mono ps (Nat.succ_le_of_lt h)) (not_le.mpr hafter)
  · exact absurd (boundary_mono ps h) (not_le.mpr hbefore)

/-- **The boundaries leave no gap but their pieces.** -/
theorem boundary_eq_or_between {n : ℕ} (h : place ≤ boundary ps n) :
    (∃ d ≤ n, boundary ps d = place) ∨
      ∃ d < n, boundary ps d < place ∧ place < boundary ps (d + 1) := by
  induction n with
  | zero =>
    rw [boundary_zero, Nat.le_zero] at h
    exact Or.inl ⟨0, le_rfl, by rw [boundary_zero, h]⟩
  | succ n ih =>
    rcases h.eq_or_lt with rfl | hafter
    · exact Or.inl ⟨n + 1, le_rfl, rfl⟩
    · -- The place lies in the last piece, or the pieces before it reach as far.
      rcases Nat.lt_or_ge (boundary ps n) place with hbefore | hle
      · exact Or.inr ⟨n, Nat.lt_succ_self n, hbefore, hafter⟩
      · obtain ⟨d, hd, heq⟩ | ⟨d, hd, hbetween⟩ := ih hle
        · exact Or.inl ⟨d, hd.trans (Nat.le_succ n), heq⟩
        · exact Or.inr ⟨d, hd.trans (Nat.lt_succ_self n), hbetween⟩

/-! ### The map of the row -/

theorem get?_positions (ps : List Piece) (d : ℕ) : (positions ps).get? d =
    if d ≤ ps.length then some (boundary ps d) else none := getElem?_join_slots ps d

theorem get?_positions_eq_some_iff :
    (positions ps).get? d = some place ↔ d ≤ ps.length ∧ boundary ps d = place := by
  rw [get?_positions]
  split <;> simp_all

theorem mem_boundariesAt_positions : d ∈ (positions ps).boundariesAt place ↔
    d ≤ ps.length ∧ boundary ps d = place := by
  rw [PositionMap.mem_boundariesAt, decodedLength_positions, get?_positions_eq_some_iff,
    and_self_left]

theorem toDecoded?_positions_eq_some_iff :
    (positions ps).toDecoded? place = some d ↔ d ≤ ps.length ∧ boundary ps d = place := by
  rw [PositionMap.toDecoded?_eq_some_iff_isLeast, IsLeast, mem_boundariesAt_positions]
  refine and_iff_left_of_imp ?_
  rintro ⟨hd, rfl⟩ j hj
  obtain ⟨-, heq⟩ := mem_boundariesAt_positions.mp hj
  by_contra hlt
  exact (boundary_lt (not_le.mp hlt) hd).ne heq

theorem toDecoded?_positions_eq_none_iff :
    (positions ps).toDecoded? place = none ↔ ∀ d ≤ ps.length, boundary ps d ≠ place := by
  rw [Option.eq_none_iff_forall_ne_some]
  simp [toDecoded?_positions_eq_some_iff]

theorem isInside_positions_iff : (positions ps).IsInside d place ↔
    d < ps.length ∧ boundary ps d < place ∧ place < boundary ps (d + 1) := by
  simp only [PositionMap.IsInside, get?_positions_eq_some_iff]
  constructor
  · rintro ⟨_, _, ⟨-, rfl⟩, ⟨hd, rfl⟩, hbetween⟩
    exact ⟨hd, hbetween⟩
  · rintro ⟨hd, hbetween⟩
    exact ⟨_, _, ⟨hd.le, rfl⟩, ⟨hd, rfl⟩, hbetween⟩

theorem toDecoded?_positions_eq_none_iff_isInside (hplace : place ≤ (sources ps).length) :
    (positions ps).toDecoded? place = none ↔ ∃ d, (positions ps).IsInside d place := by
  rw [toDecoded?_positions_eq_none_iff]
  constructor
  · intro hnone
    rw [← boundary_length] at hplace
    obtain ⟨d, hd, heq⟩ | ⟨d, hd⟩ := boundary_eq_or_between hplace
    · exact absurd heq (hnone d hd)
    · exact ⟨d, isInside_positions_iff.mpr hd⟩
  · rintro ⟨d, hinside⟩ d' -
    obtain ⟨-, hbefore, hafter⟩ := isInside_positions_iff.mp hinside
    exact boundary_ne_of_between hbefore hafter d'

theorem toHost?_positions_of_length {host : Span} (hlen : host.length = (sources ps).length)
    (d : ℕ) : (positions ps).toHost? d host = ((positions ps).get? d).map (host.start + ·) := by
  rw [toHost?_positions, get?_positions]
  split
  · rw [host.clamp_of_le _ (hlen ▸ boundary_le_length ps d), Option.map_some]
  · rfl

end Piece

/-! ## A body that has been read -/

namespace Reading

/-- **The two directions of a map are inverse to each other.** A boundary is found at a place when
the place is that of the boundary. A place in the body where none is found lies strictly between
two neighbouring boundaries, and so inside the escape that begins at the first of them; behind the
body none is found. In a host of the length of the body every boundary keeps its place, counted
from where the host begins. -/
theorem toDecoded?_eq_some_iff_of_ofBody {body : String} {r : Reading}
    (h : ofBody .interpreted body = .ok r) :
    (∀ d place, r.positions.toDecoded? place = some d ↔ r.positions.get? d = some place) ∧
      (∀ place ≤ body.length,
        r.positions.toDecoded? place = none ↔ ∃ d, r.positions.IsInside d place) ∧
      (∀ d before place, r.positions.get? d = some before → r.positions.IsInside d place →
        body.toList[before]? = some '\\') ∧
      (∀ place, body.length < place → r.positions.toDecoded? place = none) ∧
      ∀ d place start, r.positions.toHost? d ⟨start, start + body.length⟩ =
        some (start + place) ↔ r.positions.get? d = some place := by
  obtain ⟨ps, hps⟩ := exists_splits_of_ofBody h
  rw [ofBody_of_splits hps, Except.ok.injEq] at h
  subst h
  have hbody : body.length = (sources ps).length := by
    rw [hps.sources_eq, String.length_toList]
  simp only [hbody, ← hps.sources_eq]
  refine ⟨?_, ?_, ?_, ?_, ?_⟩
  · intro d place
    rw [Piece.toDecoded?_positions_eq_some_iff, Piece.get?_positions_eq_some_iff]
  · intro place hplace
    exact Piece.toDecoded?_positions_eq_none_iff_isInside hplace
  · intro d before place hget hinside
    obtain ⟨-, rfl⟩ := Piece.get?_positions_eq_some_iff.mp hget
    obtain ⟨hd, hbefore, hafter⟩ := Piece.isInside_positions_iff.mp hinside
    exact Piece.getElem?_sources_of_between hd hbefore hafter
  · intro place hplace
    rw [Piece.toDecoded?_positions_eq_none_iff]
    rintro d - rfl
    exact absurd (Piece.boundary_le_length ps d) (not_le.mpr hplace)
  · intro d place start
    rw [Piece.toHost?_positions_of_length (Nat.add_sub_cancel_left _ _), Option.map_eq_some_iff]
    simp

/-- Where `\x41` stands behind one character, no boundary is found from its second character to its
last, and the next one is found behind it. -/
theorem toDecoded?_eq_some_iff_of_ofBody_hex : ∃ r, ofBody .interpreted "é\\x41" = .ok r ∧
    (∀ d place, r.positions.toDecoded? place = some d ↔ r.positions.get? d = some place) ∧
      r.positions.toDecoded? 5 = some 2 ∧ (∃ d, r.positions.IsInside d 3) ∧
      (∀ place, 5 < place → r.positions.toDecoded? place = none) ∧
      r.positions.toHost? 2 ⟨7, 12⟩ = some 12 := by
  have h : ofBody .interpreted "é\\x41" =
      .ok ⟨"éA", .anchored #[some 0, some 1, some 5, none, none, none]⟩ := by decide +kernel
  obtain ⟨hinverse, hnone, -, hbehind, hhost⟩ := toDecoded?_eq_some_iff_of_ofBody h
  exact ⟨_, h, hinverse, (hinverse 2 5).mpr rfl, (hnone 3 (by decide)).mp rfl, hbehind,
    (hhost 2 5 7).mpr rfl⟩

end Reading

end GoLiteral
