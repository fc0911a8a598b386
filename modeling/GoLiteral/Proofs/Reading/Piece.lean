import GoLiteral.Proofs.Escape.Grammar

/-!
# Bodies in pieces

A body that can be read is cut into *pieces*, each with the character it stands for. `Splits` says
that a row of pieces is such a cut: laid end to end they are the body, and no octal escape among
them could have taken the character behind it. The places between the pieces are the boundaries of
the decoded text.

A body has at most one cut. Every body begins with pieces, and what is left after as many of them
as possible is either nothing or a backslash that opens a bad escape. A stretch of a body that
starts and ends at boundaries is cut into just the pieces between them, since what comes behind a
piece can only make it end later.
-/

namespace GoLiteral

open Escape (Spells EndsBefore)

/-- A stretch of a body with the character it stands for. -/
@[ext]
structure Piece where
  /-- The characters of the body. -/
  source : List Char
  /-- The character they stand for. -/
  value : Char
  /-- They do stand for it. -/
  spells : Spells source value

namespace Piece

theorem length_source_pos (p : Piece) : 0 < p.source.length :=
  List.length_pos_iff.mpr p.spells.ne_nil

/-! ## Rows of pieces -/

/-- The pieces laid end to end. -/
def sources (ps : List Piece) : List Char := ps.flatMap source

@[simp] theorem sources_nil : sources [] = [] := rfl

@[simp] theorem sources_cons (p : Piece) (ps : List Piece) :
    sources (p :: ps) = p.source ++ sources ps := List.flatMap_cons

@[simp] theorem sources_append (ps qs : List Piece) :
    sources (ps ++ qs) = sources ps ++ sources qs := List.flatMap_append

/-- No piece of the row reaches into what is behind it, the last one not into `rest`. -/
def Separated : List Piece → List Char → Prop
  | [], _ => True
  | p :: ps, rest => EndsBefore p.source (sources ps ++ rest) ∧ Separated ps rest

@[simp] theorem separated_nil (rest : List Char) : Separated [] rest := trivial

@[simp] theorem separated_cons {p : Piece} {ps : List Piece} {rest : List Char} :
    Separated (p :: ps) rest ↔ EndsBefore p.source (sources ps ++ rest) ∧ Separated ps rest :=
  Iff.rfl

theorem separated_append {ps qs : List Piece} {rest : List Char} :
    Separated (ps ++ qs) rest ↔ Separated ps (sources qs ++ rest) ∧ Separated qs rest := by
  induction ps with
  | nil => simp
  | cons p ps ih => simp [ih, and_assoc]

theorem Separated.of_append {ps : List Piece} {rest rest' : List Char}
    (h : Separated ps (rest ++ rest')) : Separated ps rest := by
  induction ps with
  | nil => trivial
  | cons p ps ih =>
    obtain ⟨hp, hps⟩ := h
    rw [← List.append_assoc] at hp
    exact ⟨hp.of_append, ih hps⟩

/-- The row of pieces is the cut of the body. -/
structure Splits (body : List Char) (ps : List Piece) : Prop where
  /-- Laid end to end, the pieces are the body. -/
  sources_eq : sources ps = body
  /-- Each of them is as long as it can be. -/
  separated : Separated ps []

/-! ## At most one cut -/

/-- What is read next is determined: the piece at the front of a body is the only one. -/
theorem eq_of_append_eq {p q : Piece} {rest rest' : List Char} (hp : EndsBefore p.source rest)
    (hq : EndsBefore q.source rest') (h : p.source ++ rest = q.source ++ rest') :
    p = q ∧ rest = rest' := by
  suffices hsource : p.source = q.source ∧ p.value = q.value by
    refine ⟨Piece.ext hsource.1 hsource.2, ?_⟩
    rw [hsource.1] at h
    exact List.append_cancel_left h
  rcases p.spells.eq_singleton_or with ⟨hps, hpne⟩ | ⟨ds, hps⟩
  · rcases q.spells.eq_singleton_or with ⟨hqs, -⟩ | ⟨ds', hqs⟩
    · rw [hps, hqs] at h
      have hvalue : p.value = q.value := List.head_eq_of_cons_eq h
      exact ⟨by rw [hps, hqs, hvalue], hvalue⟩
    · rw [hps, hqs] at h
      exact absurd (List.head_eq_of_cons_eq h) hpne
  · rcases q.spells.eq_singleton_or with ⟨hqs, hqne⟩ | ⟨ds', hqs⟩
    · rw [hps, hqs] at h
      exact absurd (List.head_eq_of_cons_eq h).symm hqne
    · -- Both are escapes, and the reader answers for what follows the backslash.
      have hpread := Escape.read_of_spells (hps ▸ p.spells) (hps ▸ hp)
      have hqread := Escape.read_of_spells (hqs ▸ q.spells) (hqs ▸ hq)
      rw [hps, hqs] at h
      have htail : ds ++ rest = ds' ++ rest' := List.tail_eq_of_cons_eq h
      rw [htail, hqread, Except.ok.injEq, Escape.mk.injEq] at hpread
      obtain ⟨hvalue, hlen⟩ := hpread
      have hds : ds = ds' := (List.append_inj htail (by omega)).1
      exact ⟨by rw [hps, hqs, hds], hvalue.symm⟩

theorem Splits.unique {body : List Char} {ps qs : List Piece} (hp : Splits body ps)
    (hq : Splits body qs) : ps = qs := by
  obtain ⟨hp, hps⟩ := hp
  obtain ⟨hq, hqs⟩ := hq
  induction ps generalizing qs body with
  | nil =>
    cases qs with
    | nil => rfl
    | cons q qs =>
      rw [← hp, sources_nil, sources_cons, List.append_eq_nil_iff] at hq
      exact absurd hq.1 q.spells.ne_nil
  | cons p ps ih =>
    cases qs with
    | nil =>
      rw [← hq, sources_nil, sources_cons, List.append_eq_nil_iff] at hp
      exact absurd hp.1 p.spells.ne_nil
    | cons q qs =>
      rw [separated_cons, List.append_nil] at hps hqs
      rw [← hq, sources_cons, sources_cons] at hp
      obtain ⟨rfl, hrest⟩ := eq_of_append_eq hps.1 hqs.1 hp
      rw [ih hrest hps.2 rfl hqs.2]

/-! ## As many pieces as possible -/

/-- **Every body begins with pieces**, and behind them it ends or has a bad escape. -/
theorem exists_separated (cs : List Char) : ∃ ps rest, sources ps ++ rest = cs ∧
    Separated ps rest ∧
    (rest = [] ∨ ∃ tail fault, rest = '\\' :: tail ∧ Escape.read tail = .error fault) := by
  induction hn : cs.length using Nat.strong_induction_on generalizing cs with
  | _ n ih =>
    -- One piece at the front, and the induction hypothesis for the rest.
    have cons : ∀ (p : Piece) (tail : List Char), cs = p.source ++ tail →
        EndsBefore p.source tail → ∃ ps rest, sources ps ++ rest = cs ∧ Separated ps rest ∧
          (rest = [] ∨ ∃ tail fault, rest = '\\' :: tail ∧ Escape.read tail = .error fault) := by
      intro p tail hcs hend
      have hlt : tail.length < n := by
        rw [← hn, hcs, List.length_append]
        exact Nat.lt_add_of_pos_left p.length_source_pos
      obtain ⟨ps, rest, hsources, hsep, hrest⟩ := ih _ hlt tail rfl
      refine ⟨p :: ps, rest, ?_, ?_, hrest⟩
      · rw [sources_cons, List.append_assoc, hsources, hcs]
      · rw [separated_cons, hsources]
        exact ⟨hend, hsep⟩
    cases cs with
    | nil => exact ⟨[], [], rfl, trivial, Or.inl rfl⟩
    | cons c tail =>
      by_cases hc : c = '\\'
      · subst hc
        cases hread : Escape.read tail with
        | error fault => exact ⟨[], _, rfl, trivial, Or.inr ⟨tail, fault, rfl, hread⟩⟩
        | ok e =>
          obtain ⟨ds, rest, rfl, -, hspells, hend⟩ := Escape.exists_spells_of_read hread
          exact cons ⟨_, _, hspells⟩ rest rfl hend
      · refine cons ⟨[c], c, .plain hc⟩ tail rfl (.of_not_canGrow ?_ tail)
        rintro hgrow
        unfold Escape.CanGrow at hgrow
        split at hgrow
        · next heq => exact absurd (List.head_eq_of_cons_eq heq) hc
        · exact hgrow

/-! ## Boundaries -/

/-- The place in the body of a boundary of the text: how far the pieces before it reach. -/
def boundary (ps : List Piece) (d : ℕ) : ℕ := (sources (ps.take d)).length

@[simp] theorem boundary_zero (ps : List Piece) : boundary ps 0 = 0 := rfl

@[simp] theorem boundary_cons_one (p : Piece) (ps : List Piece) :
    boundary (p :: ps) 1 = p.source.length := by
  rw [boundary, List.take_succ_cons, List.take_zero, sources_cons, sources_nil, List.append_nil]

@[simp] theorem boundary_length (ps : List Piece) :
    boundary ps ps.length = (sources ps).length := by
  rw [boundary, List.take_length]

theorem boundary_append_of_le {ps : List Piece} {d : ℕ} (h : d ≤ ps.length) (qs : List Piece) :
    boundary (ps ++ qs) d = boundary ps d := by
  rw [boundary, List.take_append_of_le_length h, boundary]

theorem boundary_take_of_le {d i : ℕ} (h : d ≤ i) (ps : List Piece) :
    boundary (ps.take i) d = boundary ps d := by
  rw [boundary, List.take_take, min_eq_left h, boundary]

theorem boundary_add (ps : List Piece) (i k : ℕ) :
    boundary ps (i + k) = boundary ps i + boundary (ps.drop i) k := by
  rw [boundary, List.take_add, sources_append, List.length_append, boundary, boundary]

theorem boundary_mono (ps : List Piece) {i j : ℕ} (h : i ≤ j) :
    boundary ps i ≤ boundary ps j := by
  obtain ⟨k, rfl⟩ := Nat.exists_eq_add_of_le h
  rw [boundary_add]
  exact Nat.le_add_right _ _

theorem boundary_lt {ps : List Piece} {i j : ℕ} (h : i < j) (hj : j ≤ ps.length) :
    boundary ps i < boundary ps j := by
  have hi : i < ps.length := h.trans_le hj
  have hstep : boundary ps (i + 1) = boundary ps i + ps[i].source.length := by
    rw [boundary_add, List.drop_eq_getElem_cons hi, boundary_cons_one]
  calc boundary ps i < boundary ps (i + 1) := by
        rw [hstep]
        exact Nat.lt_add_of_pos_right ps[i].length_source_pos
    _ ≤ boundary ps j := boundary_mono ps h

theorem boundary_le_length (ps : List Piece) (d : ℕ) : boundary ps d ≤ (sources ps).length := by
  rcases le_total d ps.length with h | h
  · rw [← boundary_length]
    exact boundary_mono ps h
  · rw [boundary, List.take_of_length_le h]

theorem length_le_length_sources (ps : List Piece) : ps.length ≤ (sources ps).length := by
  induction ps with
  | nil => rfl
  | cons p ps ih =>
    have hp := p.length_source_pos
    rw [sources_cons, List.length_append, List.length_cons]
    omega

theorem take_boundary_sources (ps : List Piece) (d : ℕ) :
    (sources ps).take (boundary ps d) = sources (ps.take d) := by
  have hsplit : sources (ps.take d) ++ sources (ps.drop d) = sources ps := by
    rw [← sources_append, List.take_append_drop]
  rw [← hsplit, boundary]
  exact List.take_left

theorem drop_boundary_sources (ps : List Piece) (d : ℕ) :
    (sources ps).drop (boundary ps d) = sources (ps.drop d) := by
  have hsplit : sources (ps.take d) ++ sources (ps.drop d) = sources ps := by
    rw [← sources_append, List.take_append_drop]
  rw [← hsplit, boundary]
  exact List.drop_left

/-- **A stretch between two boundaries is cut into the pieces between them.** -/
theorem Splits.slice {body : List Char} {ps : List Piece} (h : Splits body ps) {i j : ℕ}
    (hij : i ≤ j) :
    Splits ((body.take (boundary ps j)).drop (boundary ps i)) ((ps.take j).drop i) := by
  obtain ⟨rfl, hsep⟩ := h
  constructor
  · rw [take_boundary_sources, ← boundary_take_of_le hij, drop_boundary_sources]
  · -- What stood behind the stretch is cut off, what stood before it was never looked at.
    rw [← List.take_append_drop j ps, separated_append, List.append_nil] at hsep
    have htake : Separated (ps.take j) [] := @Separated.of_append _ [] _ hsep.1
    rw [← List.take_append_drop i (ps.take j), separated_append] at htake
    exact htake.2

theorem Splits.take {body : List Char} {ps : List Piece} (h : Splits body ps) (i : ℕ) :
    Splits (body.take (boundary ps i)) (ps.take i) := by
  have hslice := h.slice (Nat.zero_le i)
  rwa [boundary_zero, List.drop_zero, List.drop_zero] at hslice

theorem Splits.drop {body : List Char} {ps : List Piece} (h : Splits body ps) {i : ℕ}
    (hi : i ≤ ps.length) : Splits (body.drop (boundary ps i)) (ps.drop i) := by
  have hslice := h.slice hi
  rwa [List.take_length, boundary_length, h.sources_eq, List.take_length] at hslice

end Piece

end GoLiteral
