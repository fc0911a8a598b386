import GoLiteral.Proofs.Escape.Exactness
import GoLiteral.Proofs.Reading.Walk

/-!
# The rounds of a scan

`Within` is what holds between two rounds: the scan stands inside the body, it has decoded no more
characters than it has read, and there is a slot for each character of the body and one more. Every
round keeps this and takes up at least one character, so there are no more rounds than characters,
and the last of them ends the scan.

Slots are written only where there are any, and parts of a body are cut to what is there, so a
round could not fail even if it went astray. `RoundWithin` says that it does not: every slot that a
round writes is there, and so is every part of the body that it looks at.
-/

namespace GoLiteral.Scan

open Escape (Class ReadsExactly)

/-! ## Between two rounds -/

/-- The scan of `body` stands inside it. -/
structure Within (body : List Char) (s : Scan) : Prop where
  /-- What is left is behind the place where the scan stands. -/
  rest_eq : s.rest = body.drop s.index
  /-- No more characters have been decoded than read. -/
  decoded_le : s.decoded ≤ s.index
  /-- The place is not behind the body. -/
  index_le : s.index ≤ body.length
  /-- There is a slot for each boundary that the text can have. -/
  size_slots : s.slots.size = body.length + 1

theorem within_start (body : List Char) (buffer : String) : Within body (start body buffer) where
  rest_eq := rfl
  decoded_le := le_rfl
  index_le := Nat.zero_le _
  size_slots := Array.size_replicate

theorem Within.length_rest {body : List Char} {s : Scan} (hs : Within body s) :
    s.rest.length = body.length - s.index := by
  rw [hs.rest_eq, List.length_drop]

/-- **A round keeps the scan inside the body and moves it on.** -/
theorem Within.step {body : List Char} {s t : Scan} (hs : Within body s) (h : s.step = .next t) :
    Within body t ∧ s.index < t.index := by
  obtain ⟨p, rest, hrest, rfl⟩ := exists_piece_of_step h
  have hpos := p.length_source_pos
  have hlen := hs.length_rest
  rw [hrest, List.length_append] at hlen
  have hindex := hs.index_le
  have hdecoded := hs.decoded_le
  refine ⟨⟨?_, ?_, ?_, ?_⟩, Nat.lt_add_of_pos_right hpos⟩
  · simp only [pass]
    rw [hs.rest_eq, List.drop_drop]
  · simp only [pass]
    omega
  · simp only [pass]
    omega
  · simp only [pass, Array.size_setIfInBounds]
    exact hs.size_slots

theorem Within.slots_of_step {body : List Char} {s t : Scan} (hs : Within body s)
    (h : s.step = .next t) : t.decoded = s.decoded + 1 ∧ t.decoded < t.slots.size ∧
      t.slots[s.decoded]? = some (some s.index) ∧ t.slots[t.decoded]? = some (some t.index) := by
  obtain ⟨ht, hlt⟩ := hs.step h
  have hsize : s.decoded + 1 < s.slots.size := by
    have hdecoded := hs.decoded_le
    have hindex := ht.index_le
    rw [hs.size_slots]
    omega
  obtain ⟨p, rest, -, rfl⟩ := exists_piece_of_step h
  refine ⟨rfl, ?_, ?_, ?_⟩
  · simpa [pass] using hsize
  · simp [pass, Nat.lt_of_succ_lt hsize]
  · simp [pass, hsize]

/-! ## Round after round -/

/-- The scan gets from `s` to `t` in `n` rounds. -/
inductive Rounds (s : Scan) : ℕ → Scan → Prop
  | zero : Rounds s 0 s
  | succ {n : ℕ} {t u : Scan} (before : Rounds s n t) (step : t.step = .next u) :
      Rounds s (n + 1) u

theorem Rounds.cons {s t u : Scan} {n : ℕ} (step : s.step = .next t) (h : Rounds t n u) :
    Rounds s (n + 1) u := by
  induction h with
  | zero => exact .succ .zero step
  | succ before last ih => exact .succ ih last

theorem exists_rounds_stop (s : Scan) : ∃ n last, Rounds s n last ∧ last.step = .stop s.run := by
  induction s using run.induct with
  | case1 s t hstep ih =>
    obtain ⟨n, last, hrounds, hlast⟩ := ih
    exact ⟨n + 1, last, .cons hstep hrounds, by rw [run_of_step hstep, hlast]⟩
  | case2 s attempt hstep => exact ⟨0, s, .zero, by rw [run_of_stop hstep, hstep]⟩

theorem Within.of_rounds {body : List Char} {buffer : String} {n : ℕ} {s : Scan}
    (h : Rounds (start body buffer) n s) : Within body s ∧ n ≤ s.index := by
  induction h with
  | zero => exact ⟨within_start body buffer, Nat.zero_le _⟩
  | succ before step ih =>
    -- Every round moves the index on, so there are no more rounds than characters before it.
    obtain ⟨hwithin, hle⟩ := ih
    obtain ⟨hwithin', hlt⟩ := hwithin.step step
    exact ⟨hwithin', by omega⟩

/-! ## In a round -/

/-- A round of the scan of `body` that begins at `s` stays inside the body and its slots, and
computes without loss. -/
structure RoundWithin (body : List Char) (s : Scan) : Prop where
  /-- The boundaries before and after the next character have slots. -/
  slots : s.decoded + 1 < s.slots.size
  /-- The round moves on and stays inside the body. -/
  moves : ∀ t, s.step = .next t → s.index < t.index ∧ t.index ≤ body.length
  /-- The boundary behind what has been taken up has a slot too, and no write is lost. -/
  written : ∀ t, s.step = .next t → t.decoded = s.decoded + 1 ∧ t.decoded < t.slots.size ∧
    t.slots[s.decoded]? = some (some s.index) ∧ t.slots[t.decoded]? = some (some t.index)
  /-- The digits of an escape are looked at only if all of them are in the body. -/
  digits : ∀ introducer rest cls count, s.rest = '\\' :: introducer :: rest →
    Class.ofIntroducer? introducer = some cls → cls.hexDigits? = some count →
      s.index + 2 + count ≤ body.length ∨
        Escape.read (introducer :: rest) = .error (.malformed (rest.length + 2))
  /-- A bad escape is in the body as far as it is quoted. -/
  quoted : ∀ tail fault, s.rest = '\\' :: tail → Escape.read tail = .error fault →
    0 < fault.width ∧ s.index + fault.width ≤ body.length
  /-- The words and tables that an escape is read by are exact. -/
  reads : ∀ introducer rest, s.rest = '\\' :: introducer :: rest → ReadsExactly introducer rest

section Round

variable {body : List Char} {s : Scan} (hs : Within body s)
include hs

theorem Within.index_lt (hne : s.rest ≠ []) : s.index < body.length := by
  have hpos := List.length_pos_iff.mpr hne
  rw [hs.length_rest] at hpos
  omega

theorem Within.round (hne : s.rest ≠ []) : RoundWithin body s where
  slots := by
    have hdecoded := hs.decoded_le
    have hindex := hs.index_lt hne
    rw [hs.size_slots]
    omega
  moves t h := by
    obtain ⟨ht, hlt⟩ := hs.step h
    exact ⟨hlt, ht.index_le⟩
  written t := hs.slots_of_step
  digits introducer rest cls count hrest hcls hcount := by
    have hlen := hs.length_rest
    rw [hrest, List.length_cons, List.length_cons] at hlen
    by_cases hshort : rest.length < count
    · exact Or.inr (Escape.read_of_short hcls hcount hshort)
    · exact Or.inl (by omega)
  quoted tail fault hrest hread := by
    have hlen := hs.length_rest
    rw [hrest, List.length_cons] at hlen
    obtain ⟨hpos, hwidth⟩ := Escape.width_of_read_error hread
    exact ⟨hpos, by omega⟩
  reads introducer rest _ := Escape.readsExactly introducer rest

end Round

/-- **The scan stays inside its body, loses nothing and comes to an end.** There are no more rounds
than characters, and the last of them ends the scan with its result. Before each round no more
characters have been decoded than read, and no more read than there are. Each round moves on,
writes slots that are there, looks at parts of the body that are there, also when it ends the scan
with a bad escape, and computes the character of an escape without loss. -/
theorem roundWithin_of_rounds (body : List Char) (buffer : String) :
    (∃ n last, n ≤ body.length ∧ Rounds (start body buffer) n last ∧
      last.step = .stop (start body buffer).run) ∧
    ∀ n s, Rounds (start body buffer) n s → s.decoded ≤ s.index ∧ s.index ≤ body.length ∧
      (s.rest ≠ [] → n < body.length ∧ RoundWithin body s) := by
  constructor
  · obtain ⟨n, last, hrounds, hlast⟩ := exists_rounds_stop (start body buffer)
    obtain ⟨hwithin, hle⟩ := Within.of_rounds hrounds
    exact ⟨n, last, hle.trans hwithin.index_le, hrounds, hlast⟩
  · intro n s hrounds
    obtain ⟨hwithin, hle⟩ := Within.of_rounds hrounds
    refine ⟨hwithin.decoded_le, hwithin.index_le, fun hne ↦ ?_⟩
    exact ⟨hle.trans_lt (hwithin.index_lt hne), hwithin.round hne⟩

end GoLiteral.Scan
