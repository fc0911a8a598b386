import GoLiteral.Proofs.Reading.Walk

/-!
# The boundaries of a text that has been read

The map of a body that has been read has a slot for each character of the body and one more. The
boundaries of the text fill the first of them, each with its place in the body, in strict order
from the beginning of the body to its end; all others stay empty. The scan writes every slot but
the first before it knows how wide the next piece is, as if it were one character; that no such
value is left behind an escape is part of the statement.

`ReadsAs` says the same of a reading without its slots: a text and the places of its boundaries.
-/

namespace GoLiteral

open Escape (EndsBefore)
open Piece (sources boundary Splits)

/-! ## Slot by slot -/

namespace Piece

theorem getElem?_slots_eq_some_iff {ps : List Piece} {d place : ℕ} :
    (slots ps)[d]? = some (some place) ↔ d ≤ ps.length ∧ boundary ps d = place := by
  rw [← Option.join_eq_some_iff, getElem?_join_slots]
  split <;> simp_all

theorem toList_slots (ps : List Piece) : (slots ps).toList =
    (List.range (ps.length + 1)).map (fun d ↦ some (boundary ps d)) ++
      List.replicate ((sources ps).length - ps.length) none := by
  have hle := length_le_length_sources ps
  refine List.ext_getElem? fun d ↦ ?_
  rw [Array.getElem?_toList, getElem?_slots, List.getElem?_append, List.length_map,
    List.length_range]
  by_cases hd : d < ps.length + 1
  · rw [if_pos (by omega), if_pos (by omega), if_pos hd, List.getElem?_map, List.getElem?_range hd]
    rfl
  · rw [if_neg hd, List.getElem?_replicate]
    by_cases hd' : d < (sources ps).length + 1
    · rw [if_pos hd', if_neg (by omega), if_pos (by omega)]
    · rw [if_neg hd', if_neg (by omega)]

theorem filled_slots (ps : List Piece) : PositionMap.filled (slots ps) =
    (List.range (ps.length + 1)).map fun d ↦ some (boundary ps d) := by
  rw [PositionMap.filled, toList_slots, List.takeWhile_append_of_pos, List.takeWhile_replicate]
  · simp
  · simp

@[simp] theorem decodedLength_positions (ps : List Piece) :
    (positions ps).decodedLength = ps.length := by
  rw [positions, PositionMap.decodedLength, filled_slots, List.length_map, List.length_range,
    Nat.add_sub_cancel]

/-! ## Where a piece begins -/

theorem boundary_succ {ps : List Piece} {d : ℕ} (hd : d < ps.length) :
    boundary ps (d + 1) = boundary ps d + ps[d].source.length := by
  rw [boundary_add, List.drop_eq_getElem_cons hd, boundary_cons_one]

theorem getElem?_sources_boundary {ps : List Piece} {d : ℕ} (hd : d < ps.length) :
    (sources ps)[boundary ps d]? = ps[d].source.head? := by
  rw [← List.head?_drop, drop_boundary_sources, List.drop_eq_getElem_cons hd, sources_cons,
    List.head?_append_of_ne_nil _ ps[d].spells.ne_nil]

theorem one_lt_length_source {p : Piece} (h : p.source.head? = some '\\') :
    1 < p.source.length := by
  obtain ⟨source, value, spells⟩ := p
  cases spells with
  | plain ne => exact absurd (Option.some.inj h) ne
  | letter mem => exact Nat.one_lt_two
  | octal digits length number => simp
  | hex length | shortUnicode length | longUnicode length => simp

end Piece

namespace Reading

/-- **The map of a body that has been read.** There is a slot for each character of the body and
one more. The boundaries of the text fill the first ones, in strict order from the beginning of the
body to its end, and the others are empty. The slot behind an escape does not hold the place behind
its backslash, which was written there first. -/
theorem positions_of_ofBody {body : String} {r : Reading} (h : ofBody .interpreted body = .ok r) :
    ∃ slots : Array (Option ℕ), r.positions = .anchored slots ∧ slots.size = body.length + 1 ∧
      (∀ (d : ℕ) (hd : d < slots.size), slots[d].isSome ↔ d ≤ r.text.length) ∧
      slots[0]? = some (some 0) ∧
      (∀ i j place place' : ℕ, i < j → slots[i]? = some (some place) →
        slots[j]? = some (some place') → place < place') ∧
      slots[r.text.length]? = some (some body.length) ∧
      r.positions.decodedLength = r.text.length ∧ r.text.length ≤ body.length ∧
      ∀ d place : ℕ, slots[d]? = some (some place) → body.toList[place]? = some '\\' →
        slots[d + 1]? ≠ some (some (place + 1)) := by
  obtain ⟨ps, hps⟩ := exists_splits_of_ofBody h
  rw [ofBody_of_splits hps, Except.ok.injEq] at h
  subst h
  have hbody : body.length = (sources ps).length := by
    rw [hps.sources_eq, String.length_toList]
  have htext : (String.ofList (ps.map Piece.value)).length = ps.length := by
    rw [String.length_ofList, List.length_map]
  simp only [htext, hbody]
  refine ⟨Piece.slots ps, rfl, Piece.size_slots ps, ?_, ?_, ?_, ?_,
    Piece.decodedLength_positions ps, Piece.length_le_length_sources ps, ?_⟩
  · intro d hd
    rw [Piece.getElem_slots]
    split <;> simp_all
  · exact Piece.getElem?_slots_eq_some_iff.mpr ⟨Nat.zero_le _, rfl⟩
  · intro i j place place' hij hi hj
    obtain ⟨-, rfl⟩ := Piece.getElem?_slots_eq_some_iff.mp hi
    obtain ⟨hle, rfl⟩ := Piece.getElem?_slots_eq_some_iff.mp hj
    exact Piece.boundary_lt hij hle
  · exact Piece.getElem?_slots_eq_some_iff.mpr ⟨le_rfl, Piece.boundary_length ps⟩
  · -- The next boundary is behind the whole escape, and no escape is a single character.
    intro d place hd hbackslash hsucc
    obtain ⟨-, rfl⟩ := Piece.getElem?_slots_eq_some_iff.mp hd
    obtain ⟨hlt, hsucc⟩ := Piece.getElem?_slots_eq_some_iff.mp hsucc
    rw [← hps.sources_eq, Piece.getElem?_sources_boundary hlt] at hbackslash
    have hwide := Piece.one_lt_length_source hbackslash
    rw [Piece.boundary_succ hlt] at hsucc
    omega

/-- An escape of four characters and one of two, between characters that stand for themselves. -/
theorem positions_of_ofBody_escapes : ∃ r, ofBody .interpreted "é\\x41-\\n" = .ok r ∧
    ∃ slots : Array (Option ℕ), r.positions = .anchored slots ∧ slots.size = 9 ∧
      (∀ (d : ℕ) (hd : d < slots.size), slots[d].isSome ↔ d ≤ 4) ∧
      (∀ i j place place' : ℕ, i < j → slots[i]? = some (some place) →
        slots[j]? = some (some place') → place < place') ∧
      slots[4]? = some (some 8) ∧ slots[2]? ≠ some (some 2) := by
  have h : ofBody .interpreted "é\\x41-\\n" = .ok ⟨"éA-\n", .anchored #[some 0, some 1, some 5,
      some 6, some 8, none, none, none, none]⟩ := by decide +kernel
  obtain ⟨slots, hslots, hsize, hfilled, -, hlt, hlast, -, -, hescape⟩ := positions_of_ofBody h
  obtain rfl : _ = slots := PositionMap.anchored.inj hslots
  exact ⟨_, h, _, rfl, hsize, hfilled, hlt, hlast, hescape 1 1 rfl (by decide +kernel)⟩

end Reading

/-! ## The places of the boundaries -/

/-- The interpreted body is read as `text`, and boundary `d` of the text has place `e d` in the
body. -/
def ReadsAs (body text : String) (e : ℕ → ℕ) : Prop :=
  ∃ positions, Reading.ofBody .interpreted body = .ok ⟨text, positions⟩ ∧
    ∀ d, positions.get? d = if d ≤ text.length then some (e d) else none

/-- The stretch of the body that character `k` of the text has been read from. -/
def stretch (body : String) (e : ℕ → ℕ) (k : ℕ) : List Char :=
  (body.toList.take (e (k + 1))).drop (e k)

theorem readsAs_of_splits {body text : String} {e : ℕ → ℕ} {ps : List Piece}
    (hps : Splits body.toList ps) (htext : text.toList = ps.map Piece.value)
    (he : ∀ d ≤ ps.length, e d = boundary ps d) : ReadsAs body text e := by
  have hlen : text.length = ps.length := by
    rw [← String.length_toList, htext, List.length_map]
  refine ⟨Piece.positions ps, ?_, fun d ↦ ?_⟩
  · rw [Reading.ofBody_of_splits hps, ← htext, String.ofList_toList]
  · rw [Piece.positions, PositionMap.get?, Piece.getElem?_join_slots, hlen]
    split
    · next hd => rw [he d hd]
    · rfl

theorem ReadsAs.exists_splits {body text : String} {e : ℕ → ℕ} (h : ReadsAs body text e) :
    ∃ ps, Splits body.toList ps ∧ text.toList = ps.map Piece.value ∧ text.length = ps.length ∧
      ∀ d ≤ ps.length, e d = boundary ps d := by
  obtain ⟨positions, hread, hget⟩ := h
  obtain ⟨ps, hps⟩ := Reading.exists_splits_of_ofBody hread
  rw [Reading.ofBody_of_splits hps, Except.ok.injEq, Reading.mk.injEq] at hread
  obtain ⟨rfl, rfl⟩ := hread
  have hlen : (String.ofList (ps.map Piece.value)).length = ps.length := by
    rw [String.length_ofList, List.length_map]
  refine ⟨ps, hps, String.toList_ofList, hlen, fun d hd ↦ ?_⟩
  have hplace := hget d
  rw [hlen, if_pos hd, Piece.positions, PositionMap.get?, Piece.getElem?_join_slots,
    if_pos hd] at hplace
  exact (Option.some.inj hplace).symm

/-- Whatever can be read has places for the boundaries of its text. -/
theorem exists_readsAs {body : String} {r : Reading}
    (h : Reading.ofBody .interpreted body = .ok r) : ∃ e, ReadsAs body r.text e := by
  obtain ⟨ps, hps⟩ := Reading.exists_splits_of_ofBody h
  rw [Reading.ofBody_of_splits hps, Except.ok.injEq] at h
  subst h
  exact ⟨boundary ps, readsAs_of_splits hps String.toList_ofList fun d _ ↦ rfl⟩

/-! ## The stretches between them -/

section Stretch

variable {body text : String} {e : ℕ → ℕ} {ps : List Piece} (hps : Splits body.toList ps)
  (he : ∀ d ≤ ps.length, e d = boundary ps d)
include hps he

theorem stretch_of_splits {k : ℕ} (hk : k < ps.length) : stretch body e k = ps[k].source := by
  have hpiece : (ps.take (k + 1)).drop k = [ps[k]] := by
    rw [List.drop_take, Nat.add_sub_cancel_left, List.drop_eq_getElem_cons hk, List.take_succ_cons,
      List.take_zero]
  rw [stretch, he k hk.le, he (k + 1) hk, ← (hps.slice (Nat.le_succ k)).sources_eq, hpiece,
    Piece.sources_cons, Piece.sources_nil, List.append_nil]

/-- The last of the first `i` pieces is the stretch that ends at boundary `i`. -/
theorem endsBefore_getLast?_iff {i : ℕ} (hi : i ≤ ps.length) (rest : List Char) :
    (∀ p ∈ (ps.take i).getLast?, EndsBefore p.source rest) ↔
      ∀ k, k + 1 = i → EndsBefore (stretch body e k) rest := by
  cases i with
  | zero => simp
  | succ k =>
    have hlast : (ps.take (k + 1)).getLast? = some ps[k] := by
      rw [List.take_succ_eq_append_getElem hi, List.getLast?_concat]
    rw [hlast]
    constructor
    · rintro h k' hk'
      obtain rfl : k' = k := Nat.succ.inj hk'
      rw [stretch_of_splits hps he hi]
      exact h _ rfl
    · intro h p hp
      obtain rfl : ps[k] = p := Option.some.inj hp
      rw [← stretch_of_splits hps he hi]
      exact h k rfl

end Stretch

theorem ReadsAs.le_length {body text : String} {e : ℕ → ℕ} (h : ReadsAs body text e) {d : ℕ}
    (hd : d ≤ text.length) : e d ≤ body.length := by
  obtain ⟨ps, hps, -, hlen, he⟩ := h.exists_splits
  rw [hlen] at hd
  rw [he d hd, ← String.length_toList, ← hps.sources_eq]
  exact Piece.boundary_le_length ps d

end GoLiteral
