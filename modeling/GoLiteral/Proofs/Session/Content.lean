import GoLiteral.Proofs.Reading.Junction
import GoLiteral.Proofs.Session.History
import GoLiteral.Proofs.Token.Closing

/-!
# Reading the whole body of a token

The span between the delimiters always fits its token, so to read it is to read the body.

What closes a token is decided without its escapes, and what a bad escape is without looking at the
delimiter. Still the two agree on the backslashes at the end. In a body that can be read they stand
in pairs, so a backslash that is left over makes their number odd, and no delimiter behind it would
have been taken for the closing one. So a body is refused for a lone backslash at its end only in a
token that is not closed, and there exactly when everything before that backslash can be read.
-/

namespace GoLiteral

open Piece (sources Separated boundary Splits)

/-! ## The content of a token -/

namespace Token

theorem drop_one_take_of_le (t : Token) {b : ℕ} (hb : b ≤ t.contentSpan.length) :
    (t.text.toList.take (1 + b)).drop 1 = t.body.toList.take b := by
  have hpart := t.toList_slice_part (Nat.zero_le b) hb
  rwa [t.toList_slice_of_le (Nat.add_le_add_left (Nat.zero_le b) _)] at hpart

end Token

namespace Session

theorem fits_contentSpan (s : Session) : s.fits s.contentSpan = true := by
  have hpos := s.host.length_pos
  rw [fits_iff, contentSpan, Token.contentSpan]
  split
  · next hclosed =>
    have htwo := (Token.isClosed_iff.mp hclosed).1
    simp only
    omega
  · exact ⟨hpos, le_rfl⟩

/-- **To read the content of a token is to read its body.** -/
theorem read_contentSpan (s : Session) : (s.read s.contentSpan).2 =
    ((Reading.ofBody s.host.kind s.host.body).map Reading.text).mapError .badEscape := by
  have hfit := fits_iff.mp s.fits_contentSpan
  have hbody : s.host.slice s.contentSpan = s.host.body := rfl
  rw [read_eq_firstReading]
  cases hread : Reading.ofBody s.host.kind s.host.body with
  | ok r =>
    rw [firstReading_of_ok hfit hread]
    rfl
  | error bad =>
    obtain ⟨r, -, hfirst⟩ := firstReading_of_error hfit hread
    rw [hfirst]
    rfl

theorem read_contentSpan_eq_badEscape_iff {s : Session} {bad : BadEscape} :
    (s.read s.contentSpan).2 = .error (.badEscape bad) ↔
      Reading.ofBody s.host.kind s.host.body = .error bad := by
  rw [read_contentSpan]
  cases Reading.ofBody s.host.kind s.host.body <;> simp [Except.map, Except.mapError]

section Places

variable {s : Session} {text : String} (h : (s.read s.contentSpan).2 = .ok text)
include h

theorem exists_splits_of_read_contentSpan (hkind : s.host.kind = .interpreted) :
    ∃ ps, Splits (s.host.slice s.contentSpan).toList ps ∧ text.toList = ps.map Piece.value ∧
      text.length = ps.length := by
  obtain ⟨ps, hps⟩ := exists_splits_of_read hkind h
  rw [read_of_splits hkind s.fits_contentSpan hps, Except.ok.injEq] at h
  have htext : text.toList = ps.map Piece.value := by rw [← h, String.toList_ofList]
  refine ⟨ps, hps, htext, ?_⟩
  rw [← String.length_toList, htext, List.length_map]

theorem eq_body_of_read_contentSpan (hkind : s.host.kind = .raw) :
    text = s.host.body ∧ text.length = s.contentSpan.length := by
  have hfit := s.fits_contentSpan
  obtain ⟨hle, hstop⟩ := fits_iff.mp hfit
  rw [read_of_raw hkind hfit, Except.ok.injEq] at h
  refine ⟨h.symm, ?_⟩
  rw [← h, ← String.length_toList, Token.length_slice _ hle hstop]

theorem toHost?_contentSpan_of_le {d : ℕ} (hd : d ≤ text.length) : ∃ b ≤ s.contentSpan.length,
    (s.read s.contentSpan).1.toHost? d s.contentSpan = some (1 + b) ∧ ∃ positions,
      Reading.ofBody s.host.kind (String.ofList (s.host.body.toList.take b)) =
        .ok ⟨String.ofList (text.toList.take d), positions⟩ := by
  have hfit := s.fits_contentSpan
  cases hkind : s.host.kind with
  | interpreted =>
    obtain ⟨ps, hps, htext, hcount⟩ := exists_splits_of_read_contentSpan h hkind
    have hbound : boundary ps d ≤ s.contentSpan.length := by
      rw [← length_sources_of_splits hfit hps]
      exact Piece.boundary_le_length ps d
    have htake : Splits (String.ofList (s.host.body.toList.take (boundary ps d))).toList
        (ps.take d) := by
      rw [String.toList_ofList]
      exact hps.take d
    refine ⟨boundary ps d, hbound, ?_, Piece.positions (ps.take d), ?_⟩
    · rw [toHost?_of_splits hkind hfit hps, if_pos (hcount ▸ hd)]
      rfl
    · rw [Reading.ofBody_of_splits htake, htext, List.map_take]
  | raw =>
    obtain ⟨htext, hlen⟩ := eq_body_of_read_contentSpan h hkind
    rw [hlen] at hd
    rw [htext]
    refine ⟨d, hd, ?_, _, Reading.ofBody_raw _⟩
    rw [toHost?_of_raw (by rwa [host_read]), min_eq_left hd, Nat.add_comm]
    rfl

theorem toHost?_contentSpan_of_lt {d : ℕ} (hd : text.length < d) :
    (s.read s.contentSpan).1.toHost? d s.contentSpan =
      if s.host.isRaw then some (text.length + 1) else none := by
  cases hkind : s.host.kind with
  | interpreted =>
    obtain ⟨ps, hps, -, hcount⟩ := exists_splits_of_read_contentSpan h hkind
    rw [toHost?_of_splits hkind s.fits_contentSpan hps, if_neg (not_le.mpr (hcount ▸ hd)),
      s.host.isRaw_of_interpreted hkind, if_neg Bool.false_ne_true]
  | raw =>
    obtain ⟨-, hlen⟩ := eq_body_of_read_contentSpan h hkind
    rw [toHost?_of_raw (by rwa [host_read]), ← hlen, min_eq_right hd.le, s.host.isRaw_of_raw hkind]
    rfl

end Places

end Session

/-! ## A lone backslash at the end -/

theorem Escape.endsBefore_backslash (source rest : List Char) :
    Escape.EndsBefore source ('\\' :: rest) := by
  rintro - d hd
  obtain rfl : '\\' = d := Option.some.inj hd
  decide

namespace Reading

theorem interpreted_of_ofBody_eq_error {kind : Kind} {body : String} {bad : BadEscape}
    (h : ofBody kind body = .error bad) : kind = .interpreted := by
  cases kind with
  | interpreted => rfl
  | raw => exact absurd h (by simp [ofBody_raw])

/-- A body is refused for a backslash at its end when what is before it can be read. -/
theorem ofBody_eq_unterminated_iff {body : String} {offset : ℕ} :
    ofBody .interpreted body = .error (.unterminated offset) ↔
      ∃ front, body.toList = front ++ ['\\'] ∧ offset = front.length ∧
        ∃ r, ofBody .interpreted (String.ofList front) = .ok r := by
  constructor
  · intro h
    obtain ⟨ps, tail, fault, hbody, hsep, hread, hbad⟩ :=
      exists_bad_of_append (ofBody_eq_error_iff.mp h)
    have hoffset : offset = (sources ps).length := by
      rw [← BadEscape.offset_ofFault fault (sources ps).length ('\\' :: tail), ← hbad]
      rfl
    subst hoffset
    obtain rfl := BadEscape.ofFault_eq_unterminated_iff.mp hbad.symm
    obtain rfl := Escape.read_eq_unterminated_iff.mp hread
    have hsplits : Splits (String.ofList (sources ps)).toList ps := by
      rw [String.toList_ofList]
      exact ⟨rfl, @Separated.of_append _ [] _ hsep⟩
    exact ⟨sources ps, hbody.symm, rfl, _, ofBody_of_splits hsplits⟩
  · rintro ⟨front, hbody, rfl, r, hr⟩
    obtain ⟨ps, hps⟩ := exists_splits_of_ofBody hr
    rw [String.toList_ofList] at hps
    obtain ⟨rfl, hsep⟩ := hps
    -- The backslash is no digit, so the last piece of `front` ends before it too.
    have hsep' : Separated ps ['\\'] :=
      Piece.separated_iff_getLast?.mpr ⟨hsep, fun p _ ↦ Escape.endsBefore_backslash _ _⟩
    have hread : Escape.read [] = .error .unterminated := rfl
    rw [ofBody_eq_error_iff, append_of_bad hbody.symm hsep' hread]
    rfl

theorem odd_trailingBackslashes_of_ofBody {front : List Char} {r : Reading}
    (h : ofBody .interpreted (String.ofList front) = .ok r) :
    Odd (trailingBackslashes (front ++ ['\\'])) := by
  obtain ⟨ps, hps⟩ := exists_splits_of_ofBody h
  rw [String.toList_ofList] at hps
  have hlast : trailingBackslashes (front ++ ['\\']) = trailingBackslashes front + 1 := by
    simp [trailingBackslashes]
  rw [hlast, ← hps.sources_eq]
  exact (even_trailingBackslashes_sources ps).add_one

end Reading

/-! ### In a token -/

namespace Token

variable {t : Token}

theorem not_isClosed_of_endsWithBackslash {front : List Char}
    (h : t.text.toList.drop 1 = front ++ ['\\']) : ¬t.isClosed = true := by
  intro hclosed
  have hlast := (isClosed_iff.mp hclosed).2.1
  rw [← List.take_append_drop 1 t.text.toList, h, ← List.append_assoc,
    List.getLast?_concat] at hlast
  cases hkind : t.kind <;> simp [hkind, Kind.delimiter] at hlast

theorem ofBody_body_ne_unterminated (hclosed : t.isClosed = true) (offset : ℕ) :
    Reading.ofBody t.kind t.body ≠ .error (.unterminated offset) := by
  intro h
  have hkind := Reading.interpreted_of_ofBody_eq_error h
  rw [hkind] at h
  obtain ⟨front, hbody, -, r, hr⟩ := Reading.ofBody_eq_unterminated_iff.mp h
  have hodd := Reading.odd_trailingBackslashes_of_ofBody hr
  have heven := even_trailingBackslashes_body hkind hclosed
  rw [hbody] at heven
  exact Nat.not_even_iff_odd.mpr hodd heven

end Token

namespace Session

/-- **Unterminated escapes and closing delimiters agree.** The body of a token is refused for an
unterminated escape exactly when the token is interpreted, ends in an odd run of backslashes behind
its opening delimiter, and what is between the delimiter and the last of them can be read; the
escape is then the backslash that ends the body. So the body of a token that is closed is never
refused for one. -/
theorem read_contentSpan_eq_unterminated_iff (s : Session) (offset : ℕ) :
    ((s.read s.contentSpan).2 = .error (.badEscape (.unterminated offset)) ↔
      s.host.kind = .interpreted ∧ ∃ front, s.host.text.toList.drop 1 = front ++ ['\\'] ∧
        Odd (trailingBackslashes (s.host.text.toList.drop 1)) ∧
          (∃ r, Reading.ofBody .interpreted (String.ofList front) = .ok r) ∧
            s.host.body.toList.drop offset = ['\\']) ∧
      (s.host.isClosed = true →
        (s.read s.contentSpan).2 ≠ .error (.badEscape (.unterminated offset))) := by
  rw [ne_eq, read_contentSpan_eq_badEscape_iff]
  refine ⟨⟨?_, ?_⟩, fun hclosed ↦ Token.ofBody_body_ne_unterminated hclosed offset⟩
  · intro h
    have hbody := Token.toList_body_of_not_closed fun hclosed ↦
      Token.ofBody_body_ne_unterminated hclosed offset h
    have hkind := Reading.interpreted_of_ofBody_eq_error h
    rw [hkind] at h
    obtain ⟨front, hfront, rfl, r, hr⟩ := Reading.ofBody_eq_unterminated_iff.mp h
    have hodd := Reading.odd_trailingBackslashes_of_ofBody hr
    rw [← hbody, hfront]
    exact ⟨hkind, front, rfl, hodd, ⟨r, hr⟩, List.drop_left⟩
  · rintro ⟨hkind, front, hfront, -, ⟨r, hr⟩, hlast⟩
    have hbody := Token.toList_body_of_not_closed (Token.not_isClosed_of_endsWithBackslash hfront)
    rw [hfront] at hbody
    have hoffset : offset = front.length := by
      have hlen := congrArg List.length hlast
      simp only [hbody, List.length_drop, List.length_append, List.length_singleton] at hlen
      omega
    rw [hkind]
    exact Reading.ofBody_eq_unterminated_iff.mpr ⟨front, hbody, hoffset, r, hr⟩

end Session

end GoLiteral
