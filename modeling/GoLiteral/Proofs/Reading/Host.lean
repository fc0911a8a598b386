import GoLiteral.Proofs.Reading.Failure

/-!
# Places in a host

A place in a body is moved into the host that holds the body by adding where the host begins, and a
place behind the end of the host is moved to its end first. So what a map answers never lies outside
of the host, whatever the map holds, and the sum never exceeds the greatest position that the host
itself has: computed in words, it does not wrap around.

Moving places keeps their order. The boundaries of a text that has been read therefore stay in order
in every host, also in one that is too short for the body, where the last of them fall together.
-/

namespace GoLiteral

open Piece (boundary)

/-! ## Moving one place -/

namespace Span

variable (host : Span) (place : ℕ)

/-- Where a place of a body comes to lie in a host: behind the place where the host begins, but no
farther than its end. -/
def clamp : ℕ := min place host.length + host.start

theorem start_le_clamp : host.start ≤ host.clamp place := Nat.le_add_left _ _

/-- A reversed host has no place but its start. -/
theorem clamp_le_max : host.clamp place ≤ max host.start host.stop := by
  rw [clamp, length]
  omega

theorem clamp_mono : Monotone host.clamp :=
  fun _ _ h ↦ Nat.add_le_add_right (min_le_min_right _ h) _

theorem clamp_of_le (h : place ≤ host.length) : host.clamp place = host.start + place := by
  rw [clamp, min_eq_left h, Nat.add_comm]

theorem clamp_of_length_le (h : host.length ≤ place) :
    host.clamp place = max host.start host.stop := by
  rw [length] at h
  rw [clamp, length]
  omega

end Span

/-! ### In words -/

/-- The difference of two words, or zero where it would be negative. -/
def wordDistance (start stop : UInt64) : UInt64 := if start ≤ stop then stop - start else 0

/-- The place that `Span.clamp` gives, computed in words, where a sum could wrap around. -/
def wordClamp (start stop place : UInt64) : UInt64 := min place (wordDistance start stop) + start

theorem toNat_wordDistance (start stop : UInt64) :
    (wordDistance start stop).toNat = (⟨start.toNat, stop.toNat⟩ : Span).length := by
  rw [wordDistance, Span.length]
  split
  · next hle => exact UInt64.toNat_sub_of_le _ _ hle
  · next hlt =>
    rw [UInt64.le_iff_toNat_le, not_le] at hlt
    exact (Nat.sub_eq_zero_of_le hlt.le).symm

/-- The sum does not wrap around. -/
theorem toNat_wordClamp (start stop place : UInt64) : (wordClamp start stop place).toNat =
    (⟨start.toNat, stop.toNat⟩ : Span).clamp place.toNat := by
  have hle := Span.clamp_le_max ⟨start.toNat, stop.toNat⟩ place.toNat
  have hlt : max start.toNat stop.toNat < 2 ^ 64 := max_lt start.toNat_lt stop.toNat_lt
  rw [wordClamp, UInt64.toNat_add, UInt64.toNat_min, toNat_wordDistance, ← Span.clamp]
  exact Nat.mod_eq_of_lt (hle.trans_lt hlt)

/-! ## What a map answers -/

namespace PositionMap

variable {host : Span}

theorem toHost?_verbatim (length d : ℕ) (host : Span) :
    (verbatim length).toHost? d host = some (host.clamp d) := rfl

theorem toHost?_anchored (slots : Array (Option ℕ)) (d : ℕ) (host : Span) :
    (anchored slots).toHost? d host = slots[d]?.join.map host.clamp := rfl

theorem exists_clamp_of_toHost? {m : PositionMap} {d place : ℕ}
    (h : m.toHost? d host = some place) : ∃ held, host.clamp held = place := by
  cases m with
  | verbatim length => exact ⟨d, Option.some.inj h⟩
  | anchored slots =>
    rw [toHost?_anchored, Option.map_eq_some_iff] at h
    obtain ⟨held, -, hplace⟩ := h
    exact ⟨held, hplace⟩

end PositionMap

theorem Piece.toHost?_positions (ps : List Piece) (d : ℕ) (host : Span) :
    (positions ps).toHost? d host =
      if d ≤ ps.length then some (host.clamp (boundary ps d)) else none := by
  rw [positions, PositionMap.toHost?_anchored, getElem?_join_slots]
  split <;> rfl

/-! ## The map of a body that has been read -/

/-- The boundaries of a text that has been read have places in a host, in order, and there are no
others but for what a raw body adds. -/
structure MovesInto (host : Span) (kind : Kind) (body : String) (r : Reading) : Prop where
  /-- Every boundary has a place. -/
  isSome : ∀ d ≤ r.text.length, (r.positions.toHost? d host).isSome
  /-- The places are in order. -/
  mono : ∀ i j place place', i ≤ j → r.positions.toHost? i host = some place →
    r.positions.toHost? j host = some place' → place ≤ place'
  /-- Behind the text of an interpreted body there are no places. -/
  interpreted : kind = .interpreted → ∀ d, r.text.length < d → r.positions.toHost? d host = none
  /-- Behind the text of a raw body there is the end of a host that is as long as the body. -/
  raw : kind = .raw → host.start + body.length = host.stop → ∀ d, r.text.length < d →
    r.positions.toHost? d host = some host.stop

theorem movesInto_of_ofBody {kind : Kind} {body : String} {r : Reading}
    (h : Reading.ofBody kind body = .ok r) (host : Span) : MovesInto host kind body r := by
  cases kind with
  | interpreted =>
    obtain ⟨ps, hps⟩ := Reading.exists_splits_of_ofBody h
    rw [Reading.ofBody_of_splits hps, Except.ok.injEq] at h
    subst h
    have hlen : (String.ofList (ps.map Piece.value)).length = ps.length := by
      rw [String.length_ofList, List.length_map]
    constructor
    · intro d hd
      rw [Piece.toHost?_positions, if_pos (hlen ▸ hd), Option.isSome_some]
    · intro i j place place' hij hi hj
      simp only [Piece.toHost?_positions, Option.ite_none_right_eq_some, Option.some_inj] at hi hj
      obtain ⟨-, rfl⟩ := hi
      obtain ⟨-, rfl⟩ := hj
      exact host.clamp_mono (Piece.boundary_mono ps hij)
    · intro _ d hd
      rw [hlen] at hd
      rw [Piece.toHost?_positions, if_neg (not_le.mpr hd)]
    · intro hkind
      exact absurd hkind (by decide)
  | raw =>
    rw [Reading.ofBody_raw, Except.ok.injEq] at h
    subst h
    constructor
    · intro d _
      rw [PositionMap.toHost?_verbatim, Option.isSome_some]
    · intro i j place place' hij hi hj
      obtain rfl := Option.some.inj hi
      obtain rfl := Option.some.inj hj
      exact host.clamp_mono hij
    · intro hkind
      exact absurd hkind (by decide)
    · intro _ hstop d hd
      have hle : host.length ≤ d := by
        rw [Span.length]
        simp only at hd
        omega
      rw [PositionMap.toHost?_verbatim, host.clamp_of_length_le d hle,
        max_eq_right (Nat.le.intro hstop)]

/-- **Places stay in their host.** In a host between two words, also a reversed one, the sum that
moves a place does not wrap around; and whatever a map holds, its answers lie between the start of
the host and its end, or are its start if the host is reversed. Of a body that has been read, every
boundary of the text has a place, and the places are in order. Behind the text an interpreted body
has no places, and a raw one has the end of a host that is exactly as long as the body. -/
theorem toHost?_mem_host (start stop : UInt64) :
    let host : Span := ⟨start.toNat, stop.toNat⟩
    (∀ place : UInt64, (wordClamp start stop place).toNat = host.clamp place.toNat) ∧
      (∀ (m : PositionMap) (d place : ℕ), m.toHost? d host = some place →
        (host.start ≤ place ∧ place ≤ max host.start host.stop) ∧ place ≤ 2 ^ 64 - 1) ∧
      ∀ kind body r, Reading.ofBody kind body = .ok r → MovesInto host kind body r := by
  refine ⟨toNat_wordClamp start stop, ?_, fun kind body r h ↦ movesInto_of_ofBody h _⟩
  intro m d place h
  obtain ⟨held, rfl⟩ := PositionMap.exists_clamp_of_toHost? h
  have hle := Span.clamp_le_max ⟨start.toNat, stop.toNat⟩ held
  have hlt : max start.toNat stop.toNat < 2 ^ 64 := max_lt start.toNat_lt stop.toNat_lt
  exact ⟨⟨Span.start_le_clamp _ _, hle⟩, Nat.le_sub_one_of_lt (hle.trans_lt hlt)⟩

/-- A host that ends inside the second of two escapes; and a reversed one, for a map that holds no
place of any body. -/
theorem toHost?_mem_host_short : ∃ r, Reading.ofBody .interpreted "\\x41\\u0042" = .ok r ∧
    MovesInto ⟨10, 16⟩ .interpreted "\\x41\\u0042" r ∧
      (r.positions.toHost? 1 ⟨10, 16⟩ = some 14 ∧ r.positions.toHost? 2 ⟨10, 16⟩ = some 16) ∧
      (PositionMap.anchored #[none, some (2 ^ 70)]).toHost? 1 ⟨16, 10⟩ = some 16 ∧
      16 ≤ max 16 10 := by
  have h : Reading.ofBody .interpreted "\\x41\\u0042" = .ok ⟨"AB", .anchored #[some 0, some 4,
      some 10, none, none, none, none, none, none, none, none]⟩ := by decide +kernel
  have hreversed : (PositionMap.anchored #[none, some (2 ^ 70)]).toHost? 1 ⟨16, 10⟩ = some 16 := by
    decide +kernel
  obtain ⟨-, -, hread⟩ := toHost?_mem_host 10 16
  obtain ⟨-, hmem, -⟩ := toHost?_mem_host 16 10
  exact ⟨_, h, hread _ _ _ h, ⟨rfl, rfl⟩, hreversed, (hmem _ 1 16 hreversed).1.2⟩

end GoLiteral
