import GoLiteral.Proofs.Reading.Host
import GoLiteral.Proofs.Token.Cut
import GoLiteral.Session

/-!
# Places of decoded text in a token

A session that has read a span of a token answers where in the token each boundary of the decoded
text lies. For an interpreted token these are the boundaries of the pieces of the span, moved to
where the span starts; for a raw token they are the places themselves.

The main statement is about two sessions on one token. The first reads a span; whatever stretch of
its text is picked, the second reads the span between the two places the first one names, and gets
just that stretch, with the same places for the boundaries inside it. What either session has read
before does not matter.
-/

namespace GoLiteral

open Piece (sources boundary Splits)

/-! ## Spans of a token -/

namespace Token

variable (t : Token)

theorem isRaw_of_interpreted (h : t.kind = .interpreted) : t.isRaw = false := by
  rw [isRaw, h]
  rfl

theorem isRaw_of_raw (h : t.kind = .raw) : t.isRaw = true := by
  rw [isRaw, h]
  rfl

theorem length_slice {span : Span} (hle : span.start ≤ span.stop) (hfit : span.stop ≤ t.length) :
    (t.slice span).toList.length = span.length := by
  rw [length_eq] at hfit
  rw [toList_slice_of_le t hle, List.length_drop, List.length_take_of_le hfit, Span.length]

theorem toList_slice_part {span : Span} {a b : ℕ} (hab : a ≤ b) (hb : b ≤ span.length) :
    (t.slice ⟨span.start + a, span.start + b⟩).toList =
      ((t.slice span).toList.take b).drop a := by
  rw [Span.length] at hb
  have hle : span.start ≤ max span.start span.stop := le_max_left _ _
  rw [toList_slice_of_le t (Nat.add_le_add_left hab _), toList_slice, List.take_drop,
    List.drop_drop, List.take_take, min_eq_left (by omega)]

end Token

namespace Session

/-! ## What a reading leads to -/

section Append

variable {s : Session} {span : Span} (buffer : String)

theorem append_of_not_fits (h : ¬s.fits span) : s.append span buffer =
    ⟨⟨s.host, none⟩, buffer, .error (.outside span s.host.length)⟩ := if_neg h

theorem append_of_ok (h : s.fits span) {positions : PositionMap}
    (hread : (Reading.append s.host.kind (s.host.slice span) buffer).result = .ok positions) :
    s.append span buffer = ⟨⟨s.host, if s.host.isRaw then none else some positions⟩,
      (Reading.append s.host.kind (s.host.slice span) buffer).buffer, .ok ()⟩ := by
  rw [append, if_pos h]
  simp only [hread]

theorem append_of_error (h : s.fits span) {bad : BadEscape}
    (hread : (Reading.append s.host.kind (s.host.slice span) buffer).result = .error bad) :
    s.append span buffer = ⟨⟨s.host, none⟩,
      (Reading.append s.host.kind (s.host.slice span) buffer).buffer, .error (.badEscape bad)⟩ := by
  rw [append, if_pos h]
  simp only [hread]

end Append

variable {s : Session} {span : Span}

@[simp] theorem host_append (s : Session) (span : Span) (buffer : String) :
    (s.append span buffer).session.host = s.host := by
  by_cases h : s.fits span
  · cases hresult : (Reading.append s.host.kind (s.host.slice span) buffer).result with
    | ok positions => rw [append_of_ok buffer h hresult]
    | error bad => rw [append_of_error buffer h hresult]
  · rw [append_of_not_fits buffer h]

@[simp] theorem host_read (s : Session) (span : Span) : (s.read span).1.host = s.host :=
  host_append s span ""

theorem fits_of_read {text : String} (h : (s.read span).2 = .ok text) : s.fits span := by
  by_contra hfit
  rw [read, append_of_not_fits "" hfit] at h
  exact absurd h (by simp [Except.map])

/-! ### Interpreted tokens -/

theorem read_of_splits (hkind : s.host.kind = .interpreted) (hfit : s.fits span) {ps : List Piece}
    (h : Splits (s.host.slice span).toList ps) : s.read span =
      (⟨s.host, some (Piece.positions ps)⟩, .ok (String.ofList (ps.map Piece.value))) := by
  have happend := Reading.append_of_splits h ""
  rw [← hkind] at happend
  have hresult : (Reading.append s.host.kind (s.host.slice span) "").result =
      .ok (Piece.positions ps) := by rw [happend]
  rw [read, append_of_ok "" hfit hresult, happend, s.host.isRaw_of_interpreted hkind]
  simp [Except.map]

theorem exists_splits_of_read (hkind : s.host.kind = .interpreted) {text : String}
    (h : (s.read span).2 = .ok text) : ∃ ps, Splits (s.host.slice span).toList ps := by
  have hfit := fits_of_read h
  cases hresult : (Reading.append s.host.kind (s.host.slice span) "").result with
  | ok positions =>
    rw [hkind] at hresult
    exact Reading.exists_splits_of_append hresult
  | error bad =>
    rw [read, append_of_error "" hfit hresult] at h
    exact absurd h (by simp [Except.map])

theorem length_sources_of_splits (hfit : s.fits span) {ps : List Piece}
    (h : Splits (s.host.slice span).toList ps) : (sources ps).length = span.length := by
  obtain ⟨hle, hstop⟩ := fits_iff.mp hfit
  rw [h.sources_eq, Token.length_slice _ hle hstop]

/-- After a reading, each boundary of the text lies where the pieces before it reach, and there
are no others. -/
theorem toHost?_of_splits (hkind : s.host.kind = .interpreted) (hfit : s.fits span)
    {ps : List Piece} (h : Splits (s.host.slice span).toList ps) (d : ℕ) :
    (s.read span).1.toHost? d span =
      if d ≤ ps.length then some (span.start + boundary ps d) else none := by
  have hlen := length_sources_of_splits hfit h
  have hle : boundary ps d ≤ span.length := hlen ▸ Piece.boundary_le_length ps d
  rw [read_of_splits hkind hfit h, toHost?]
  simp only [hkind, Option.bind_some, Piece.toHost?_positions, span.clamp_of_le _ hle]

/-! ### Raw tokens -/

theorem read_of_raw (hkind : s.host.kind = .raw) (hfit : s.fits span) :
    s.read span = (⟨s.host, none⟩, .ok (s.host.slice span)) := by
  have hresult : (Reading.append s.host.kind (s.host.slice span) "").result =
      .ok (.verbatim (s.host.slice span).length) := by rw [hkind]; rfl
  rw [read, append_of_ok "" hfit hresult, s.host.isRaw_of_raw hkind, hkind]
  simp [Except.map, Reading.append]

theorem toHost?_of_raw (hkind : s.host.kind = .raw) (d : ℕ) (span : Span) :
    s.toHost? d span = some (min d span.length + span.start) := by
  rw [toHost?, hkind]
  rfl

/-! ## Two readings of one token -/

section Part

variable {s' : Session} (hhost : s'.host = s.host)
include hhost

/-- The span between two boundaries is read as the pieces between them, and the boundaries inside
it lie where they lay in the whole span. -/
private theorem read_part_of_splits (hkind : s.host.kind = .interpreted) (hfit : s.fits span)
    {ps : List Piece} (h : Splits (s.host.slice span).toList ps) {i j : ℕ} (hij : i ≤ j)
    (hj : j ≤ ps.length) {part : Span}
    (hpart : part = ⟨span.start + boundary ps i, span.start + boundary ps j⟩) :
    (s'.read part).2 = .ok (String.ofList (((ps.map Piece.value).take j).drop i)) ∧
      ∀ k ≤ j - i, (s'.read part).1.toHost? k part =
        some (span.start + boundary ps (i + k)) := by
  obtain ⟨hle, hstop⟩ := fits_iff.mp hfit
  have hlen := length_sources_of_splits hfit h
  have hmono : boundary ps i ≤ boundary ps j := Piece.boundary_mono ps hij
  have hbound : boundary ps j ≤ span.length := hlen ▸ Piece.boundary_le_length ps j
  have hfit' : s'.fits part := by
    rw [fits_iff, hpart, hhost]
    rw [Span.length] at hbound
    exact ⟨Nat.add_le_add_left hmono _, by simp only; omega⟩
  have hsplits : Splits (s'.host.slice part).toList ((ps.take j).drop i) := by
    rw [hhost, hpart, Token.toList_slice_part _ hmono hbound]
    exact h.slice hij
  have hkind' : s'.host.kind = .interpreted := hhost ▸ hkind
  constructor
  · rw [read_of_splits hkind' hfit' hsplits, List.map_drop, List.map_take]
  · intro k hk
    have hcount : ((ps.take j).drop i).length = j - i := by
      rw [List.length_drop, List.length_take_of_le hj]
    have hinner : boundary ((ps.take j).drop i) k = boundary (ps.drop i) k := by
      rw [List.drop_take, Piece.boundary_take_of_le hk]
    rw [toHost?_of_splits hkind' hfit' hsplits, if_pos (hcount ▸ hk), hinner, hpart,
      Piece.boundary_add, Nat.add_assoc]

private theorem read_part_of_raw (hkind : s.host.kind = .raw) (hfit : s.fits span) {i j : ℕ}
    (hij : i ≤ j) (hj : j ≤ span.length) {part : Span}
    (hpart : part = ⟨span.start + i, span.start + j⟩) :
    (s'.read part).2 = .ok (String.ofList (((s.host.slice span).toList.take j).drop i)) ∧
      ∀ k ≤ j - i, (s'.read part).1.toHost? k part = some (span.start + (i + k)) := by
  obtain ⟨hle, hstop⟩ := fits_iff.mp hfit
  have hfit' : s'.fits part := by
    rw [fits_iff, hpart, hhost]
    rw [Span.length] at hj
    exact ⟨Nat.add_le_add_left hij _, by simp only; omega⟩
  have hkind' : s'.host.kind = .raw := hhost ▸ hkind
  have hslice : s'.host.slice part =
      String.ofList (((s.host.slice span).toList.take j).drop i) := by
    rw [← String.toList_inj, String.toList_ofList, hhost, hpart,
      Token.toList_slice_part _ hij hj]
  refine ⟨by rw [read_of_raw hkind' hfit', hslice], ?_⟩
  intro k hk
  have hlen : part.length = j - i := by
    rw [hpart, Span.length, Nat.add_sub_add_left]
  rw [toHost?_of_raw (by rwa [host_read]), hlen, min_eq_left hk, hpart, Nat.add_comm, Nat.add_assoc]

end Part

/-- **Places found in a decoded text lead back into the token.** After a span has been read, the
boundaries of its text have places in the token, from the start of the span to its end and in
strict order. Reading the span between two of them, in any session on the token, gives exactly the
characters between those boundaries, again with the same places. Past the end of the text an
interpreted token has no places and a raw one has the end of the span. -/
theorem toHost?_read {s s' : Session} (hhost : s'.host = s.host) {span : Span} {text : String}
    (h : (s.read span).2 = .ok text) : ∃ place : ℕ → ℕ,
      place 0 = span.start ∧ place text.length = span.stop ∧
      (∀ d, (s.read span).1.toHost? d span = if d ≤ text.length then some (place d)
        else if s.host.isRaw then some span.stop else none) ∧
      ∀ i j, i ≤ j → j ≤ text.length →
        span.start ≤ place i ∧ place i ≤ place j ∧ (i < j → place i < place j) ∧
          place j ≤ span.stop ∧
          (s'.read ⟨place i, place j⟩).2 =
            .ok (String.ofList ((text.toList.take j).drop i)) ∧
          ∀ k ≤ j - i, (s'.read ⟨place i, place j⟩).1.toHost? k ⟨place i, place j⟩ =
            some (place (i + k)) := by
  have hfit := fits_of_read h
  obtain ⟨hle, hstop⟩ := fits_iff.mp hfit
  have hlength : span.start + span.length = span.stop := by
    rw [Span.length]
    omega
  cases hkind : s.host.kind with
  | interpreted =>
    -- Boundary `d` lies behind the first `d` pieces of the span.
    obtain ⟨ps, hps⟩ := exists_splits_of_read hkind h
    have hsources := length_sources_of_splits hfit hps
    have htext : text.toList = ps.map Piece.value := by
      rw [read_of_splits hkind hfit hps, Except.ok.injEq] at h
      rw [← h, String.toList_ofList]
    have hcount : text.length = ps.length := by
      rw [← String.length_toList, htext, List.length_map]
    refine ⟨fun d ↦ span.start + boundary ps d, rfl, ?_, ?_, ?_⟩
    · simp only
      rw [hcount, Piece.boundary_length, hsources, hlength]
    · intro d
      rw [toHost?_of_splits hkind hfit hps, hcount, s.host.isRaw_of_interpreted hkind]
      rfl
    · intro i j hij hj
      rw [hcount] at hj
      have hend : span.start + boundary ps j ≤ span.stop := by
        have hbound := Piece.boundary_le_length ps j
        omega
      have hpart := read_part_of_splits hhost hkind hfit hps hij hj rfl
      rw [← htext] at hpart
      exact ⟨Nat.le_add_right _ _, Nat.add_le_add_left (Piece.boundary_mono ps hij) _,
        fun hlt ↦ Nat.add_lt_add_left (Piece.boundary_lt hlt hj) _, hend, hpart⟩
  | raw =>
    -- Every character stands for itself, whatever it is.
    have htext : s.host.slice span = text := by
      rw [read_of_raw hkind hfit, Except.ok.injEq] at h
      exact h
    have hcount : text.length = span.length := by
      rw [← String.length_toList, ← htext, Token.length_slice _ hle hstop]
    refine ⟨fun d ↦ span.start + d, rfl, ?_, ?_, ?_⟩
    · simp only
      rw [hcount, hlength]
    · intro d
      rw [toHost?_of_raw (by rwa [host_read]), hcount, s.host.isRaw_of_raw hkind]
      split
      · next hd => rw [min_eq_left hd, Nat.add_comm]
      · next hd => rw [min_eq_right (not_le.mp hd).le, if_pos rfl, Nat.add_comm, hlength]
    · intro i j hij hj
      rw [hcount] at hj
      have hpart := read_part_of_raw hhost hkind hfit hij hj rfl
      rw [htext] at hpart
      exact ⟨Nat.le_add_right _ _, Nat.add_le_add_left hij _,
        fun hlt ↦ Nat.add_lt_add_left hlt _, by simp only; omega, hpart⟩

/-- The octal escape takes no digit from what follows it, wherever the reading is cut. -/
theorem toHost?_read_octal : ∃ s : Session, s.host.text = "\"\\1018\"" ∧
    (s.read ⟨1, 6⟩).2 = .ok "A8" ∧ ∃ place : ℕ → ℕ,
      place 0 = 1 ∧ place "A8".length = 6 ∧
      (∀ d, (s.read ⟨1, 6⟩).1.toHost? d ⟨1, 6⟩ = if d ≤ "A8".length then some (place d)
        else if s.host.isRaw then some 6 else none) ∧
      ∀ i j, i ≤ j → j ≤ "A8".length →
        1 ≤ place i ∧ place i ≤ place j ∧ (i < j → place i < place j) ∧ place j ≤ 6 ∧
          (s.read ⟨place i, place j⟩).2 =
            .ok (String.ofList (("A8".toList.take j).drop i)) ∧
          ∀ k ≤ j - i, (s.read ⟨place i, place j⟩).1.toHost? k ⟨place i, place j⟩ =
            some (place (i + k)) := by
  have hread : ((ofToken ⟨"\"\\1018\"", .interpreted, by decide⟩).read ⟨1, 6⟩).2 = .ok "A8" := by
    decide +kernel
  exact ⟨_, rfl, hread, toHost?_read rfl hread⟩

end Session

end GoLiteral
