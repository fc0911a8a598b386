import Mathlib.Data.Set.Basic
import Mathlib.Order.Nat
import GoLiteral.PositionMap

/-!
# Looking up a place in a map

Three questions are put to a map: where a boundary is, how many boundaries there are, and which
boundary is at a place. An anchored map answers the first from a single slot, and the other two
from its leading filled slots, up to the first empty one. Nothing is assumed of the slots here.
They may hold places in any order and more than once, there may be empty ones between them, and
there may be none at all.

The answers agree. Among the boundaries that the map covers, the search for a place finds the first
one that is there, and it finds none only where none is. A filled slot behind an empty one is no
boundary that the map covers, so the search need not see it. Where no slot leads, the map still
covers the boundary at the beginning of an empty text; that one has no place.
-/

theorem List.findIdx?_eq_some_iff_isLeast {α : Type} [BEq α] [LawfulBEq α] {l : List α} {a : α}
    {i : ℕ} : l.findIdx? (· == a) = some i ↔ IsLeast {j | l[j]? = some a} i := by
  rw [findIdx?_eq_some_iff_getElem]
  constructor
  · rintro ⟨hi, hfound, hbefore⟩
    refine ⟨getElem?_eq_some_iff.mpr ⟨hi, beq_iff_eq.mp hfound⟩, fun j hj ↦ ?_⟩
    obtain ⟨hj, hat⟩ := getElem?_eq_some_iff.mp hj
    by_contra hlt
    exact hbefore j (not_le.mp hlt) (beq_iff_eq.mpr hat)
  · rintro ⟨hat, hleast⟩
    obtain ⟨hi, hat⟩ := getElem?_eq_some_iff.mp hat
    refine ⟨hi, beq_iff_eq.mpr hat, fun j hj hfound ↦ ?_⟩
    have hle := hleast (getElem?_eq_some_iff.mpr ⟨hj.trans hi, beq_iff_eq.mp hfound⟩)
    exact absurd hle (not_le.mpr hj)

namespace GoLiteral.PositionMap

/-! ## The leading slots -/

section Filled

variable {slots : Array (Option ℕ)} {d place : ℕ}

theorem getElem?_of_lt_length_filled (hd : d < (filled slots).length) :
    slots[d]? = some (filled slots)[d] := by
  have hleading : filled slots <+: slots.toList := List.takeWhile_prefix _
  rw [← Array.getElem?_toList]
  exact List.prefix_iff_getElem?.mp hleading d hd

theorem length_filled_pos (h : slots[0]? = some (some place)) : 0 < (filled slots).length := by
  rw [← Array.getElem?_toList, ← List.head?_eq_getElem?] at h
  obtain ⟨rest, hslots⟩ := List.head?_eq_some_iff.mp h
  rw [filled, hslots, List.takeWhile_cons_of_pos Option.isSome_some]
  exact Nat.succ_pos _

/-- **The leading slots are the boundaries that the map covers.** Their number is one more than
that of the characters, unless there are none. -/
theorem getElem?_filled_eq_some_iff : (filled slots)[d]? = some (some place) ↔
    d ≤ (anchored slots).decodedLength ∧ (anchored slots).get? d = some place := by
  rw [decodedLength, get?, Option.join_eq_some_iff]
  constructor
  · intro h
    obtain ⟨hd, hplace⟩ := List.getElem?_eq_some_iff.mp h
    refine ⟨Nat.le_sub_one_of_lt hd, ?_⟩
    rw [getElem?_of_lt_length_filled hd, hplace]
  · rintro ⟨hle, hplace⟩
    -- The bound does not exclude the first slot when none leads, but then that slot is empty.
    have hd : d < (filled slots).length := by
      rcases Nat.eq_zero_or_pos d with rfl | hpos
      · exact length_filled_pos hplace
      · omega
    rw [List.getElem?_eq_getElem hd, ← hplace, getElem?_of_lt_length_filled hd]

end Filled

/-! ## The search -/

/-- The boundaries that the map covers and that are at a place. -/
def boundariesAt (m : PositionMap) (place : ℕ) : Set ℕ :=
  {d | d ≤ m.decodedLength ∧ m.get? d = some place}

theorem mem_boundariesAt {m : PositionMap} {d place : ℕ} :
    d ∈ m.boundariesAt place ↔ d ≤ m.decodedLength ∧ m.get? d = some place := Iff.rfl

instance (m : PositionMap) (place : ℕ) : DecidablePred (· ∈ m.boundariesAt place) :=
  fun _ ↦ decidable_of_iff _ mem_boundariesAt.symm

theorem mem_boundariesAt_verbatim {length d place : ℕ} :
    d ∈ (verbatim length).boundariesAt place ↔ place ≤ length ∧ place = d := by
  rw [mem_boundariesAt, decodedLength, get?, Option.ite_none_right_eq_some, Option.some_inj]
  constructor
  · rintro ⟨hle, -, rfl⟩
    exact ⟨hle, rfl⟩
  · rintro ⟨hle, rfl⟩
    exact ⟨hle, hle, rfl⟩

theorem boundariesAt_anchored (slots : Array (Option ℕ)) (place : ℕ) :
    (anchored slots).boundariesAt place = {d | (filled slots)[d]? = some (some place)} :=
  Set.ext fun _ ↦ getElem?_filled_eq_some_iff.symm

theorem toDecoded?_eq_some_iff_isLeast {m : PositionMap} {d place : ℕ} :
    m.toDecoded? place = some d ↔ IsLeast (m.boundariesAt place) d := by
  cases m with
  | verbatim length =>
    rw [toDecoded?, Option.ite_none_right_eq_some, Option.some_inj, IsLeast,
      mem_boundariesAt_verbatim]
    refine ⟨fun h ↦ ⟨h, fun j hj ↦ ?_⟩, And.left⟩
    exact (h.2.symm.trans (mem_boundariesAt_verbatim.mp hj).2).le
  | anchored slots => rw [toDecoded?, boundariesAt_anchored, List.findIdx?_eq_some_iff_isLeast]

/-- **The search finds the first boundary at a place, if there is any.** This holds of every map,
whatever its slots hold: what is found is the least of the boundaries that the map covers and that
are at the place, and nothing is found when there are none. -/
theorem toDecoded?_isLeast_or_empty (m : PositionMap) (place : ℕ) :
    (∀ d, m.toDecoded? place = some d ↔ IsLeast (m.boundariesAt place) d) ∧
      (m.toDecoded? place = none ↔ m.boundariesAt place = ∅) := by
  refine ⟨fun d ↦ toDecoded?_eq_some_iff_isLeast, fun hnone ↦ ?_, fun hempty ↦ ?_⟩
  · -- Were there a boundary there would be a first one, and it would have been found.
    by_contra hne
    have hleast := (Set.nonempty_iff_ne_empty.mpr hne).isLeast_natFind
    rw [toDecoded?_eq_some_iff_isLeast.mpr hleast] at hnone
    exact absurd hnone (by simp)
  · rw [Option.eq_none_iff_forall_ne_some]
    intro d hfound
    have hat := (toDecoded?_eq_some_iff_isLeast.mp hfound).1
    rw [hempty] at hat
    exact absurd hat (Set.notMem_empty d)

/-- A place that two slots hold is found at the first of them, and one behind an empty slot is not
found. -/
example :
    let m : PositionMap := .anchored #[some 4, some 2, some 4, none, some 9]
    m.toDecoded? 4 = some 0 ∧ m.toDecoded? 9 = none ∧ m.get? 4 = some 9 ∧ m.decodedLength = 2 := by
  decide

end GoLiteral.PositionMap
