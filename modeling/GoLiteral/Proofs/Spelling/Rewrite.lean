import GoLiteral.Proofs.Reading.Junction
import GoLiteral.Proofs.Spelling.RoundTrip

/-!
# Writing back into a body

An editor replaces a part of the decoded text by another text, and has to do so in the body: it
cuts out what lies between the places of two boundaries and writes the spelling of the new text
there. The pieces of the new body are the pieces before the cut, the spellings of the characters of
the new text, and the pieces behind the cut. A spelling reaches into nothing behind it, so the one
place where this can go wrong is the beginning of the cut, and it does go wrong there when an octal
escape with room for another digit is followed by one.
-/

namespace GoLiteral

open Escape (EndsBefore)
open Piece (sources boundary Splits)

namespace Spelling

variable (hidden : Char → Bool)

/-- No spelling reaches into what is behind it, so a body may follow one as it is. -/
theorem splits_ofText_append (u : String) {rest : List Char} {qs : List Piece}
    (h : Splits rest qs) :
    Splits ((ofText hidden u).toList ++ rest) (u.toList.map (piece hidden) ++ qs) := by
  refine (Piece.splits_append_iff (splits_ofText hidden u) h).mpr ?_
  exact (Piece.separated_iff_getLast?.mp (separated_map_piece hidden _ _)).2

/-- The body with the spelling of `u` in the place of what lies between boundaries `i` and `j`,
where `e` gives the places of the boundaries. -/
def rewrite (body : String) (e : ℕ → ℕ) (i j : ℕ) (u : String) : String :=
  String.ofList (body.toList.take (e i)) ++ ofText hidden u ++
    String.ofList (body.toList.drop (e j))

theorem toList_rewrite (body : String) (e : ℕ → ℕ) (i j : ℕ) (u : String) :
    (rewrite hidden body e i j u).toList =
      body.toList.take (e i) ++ ((ofText hidden u).toList ++ body.toList.drop (e j)) := by
  rw [rewrite, String.toList_append, String.toList_append, String.toList_ofList,
    String.toList_ofList, List.append_assoc]

/-! ## The pieces of the new body -/

/-- The pieces before the cut, those of the new text, and those behind the cut. -/
def rewritePieces (ps : List Piece) (i j : ℕ) (u : String) : List Piece :=
  ps.take i ++ (u.toList.map (piece hidden) ++ ps.drop j)

@[simp] theorem map_value_rewritePieces (ps : List Piece) (i j : ℕ) (u : String) :
    (rewritePieces hidden ps i j u).map Piece.value =
      (ps.map Piece.value).take i ++ (u.toList ++ (ps.map Piece.value).drop j) := by
  rw [rewritePieces, List.map_append, List.map_append, map_value_map_piece, List.map_take,
    List.map_drop]

/-- The places of the boundaries after the rewriting. Those before the cut stay, those in the new
text are where the spelling of what is before them ends, and those behind the cut move by as much
as the spelling is longer than what was cut out. -/
structure MovedPlaces (text : String) (e : ℕ → ℕ) (i j : ℕ) (u : String) (e' : ℕ → ℕ) : Prop where
  /-- Up to the beginning of the cut. -/
  before : ∀ d ≤ i, e' d = e d
  /-- In the new text. -/
  inside : ∀ k ≤ u.length, e' (i + k) =
    e i + (ofText hidden (String.ofList (u.toList.take k))).length
  /-- From the end of the cut on. -/
  behind : ∀ d, j ≤ d → d ≤ text.length → (e' (i + u.length + (d - j)) : ℤ) =
    e d + ((ofText hidden u).length - (e j - e i))

variable {hidden}

section Cut

variable {e : ℕ → ℕ} {ps : List Piece} (he : ∀ d ≤ ps.length, e d = boundary ps d) {i j : ℕ}
  (hij : i ≤ j) (hj : j ≤ ps.length) (u : String)
include he hij hj

theorem splits_rewrite {body : String} (hps : Splits body.toList ps)
    (hend : ∀ k, k + 1 = i → EndsBefore (stretch body e k)
      ((ofText hidden u).toList ++ body.toList.drop (e j))) :
    Splits (rewrite hidden body e i j u).toList (rewritePieces hidden ps i j u) := by
  have hlast := (endsBefore_getLast?_iff hps he (hij.trans hj) _).mpr hend
  rw [he j hj] at hlast
  rw [toList_rewrite, he i (hij.trans hj), he j hj]
  exact (Piece.splits_append_iff (hps.take i)
    (splits_ofText_append hidden u (hps.drop hj))).mpr hlast

theorem movedPlaces_rewritePieces {text : String} (hlen : text.length = ps.length) :
    MovedPlaces hidden text e i j u (boundary (rewritePieces hidden ps i j u)) := by
  have hi : i ≤ ps.length := hij.trans hj
  have hfront : (ps.take i).length = i := List.length_take_of_le hi
  have hu : (u.toList.map (piece hidden)).length = u.length := by
    rw [List.length_map, String.length_toList]
  have hbefore : (sources (ps.take i)).length = e i := (he i hi).symm
  constructor
  · intro d hd
    rw [rewritePieces, Piece.boundary_append_of_le (hd.trans_eq hfront.symm),
      Piece.boundary_take_of_le hd, he d (hd.trans hi)]
  · intro k hk
    rw [rewritePieces, Piece.boundary_append_add hfront,
      Piece.boundary_append_of_le (hk.trans_eq hu.symm), boundary_map_piece, hbefore]
  · intro d hjd hd
    obtain ⟨k, rfl⟩ := Nat.exists_eq_add_of_le hjd
    have hspelling : (sources (u.toList.map (piece hidden))).length = (ofText hidden u).length := by
      rw [sources_map_piece, String.length_toList]
    have hcut : e (j + k) = e j + boundary (ps.drop j) k := by
      rw [he j hj, he (j + k) (hlen ▸ hd), Piece.boundary_add]
    rw [Nat.add_sub_cancel_left, Nat.add_assoc, rewritePieces, Piece.boundary_append_add hfront,
      Piece.boundary_append_add hu, hbefore, hspelling, hcut]
    omega

end Cut

/-- Up to the cut the new body is the old one, so if the boundaries up to there have stayed, the
piece before the cut still ends at it. -/
theorem endsBefore_of_readsAs_rewrite {body text text' : String} {e e' : ℕ → ℕ}
    (h : ReadsAs body text e) {i j : ℕ} (hi : i ≤ text.length) (hi' : i ≤ text'.length) {u : String}
    (hnew : ReadsAs (rewrite hidden body e i j u) text' e') (hbefore : ∀ d ≤ i, e' d = e d)
    {k : ℕ} (hk : k + 1 = i) :
    EndsBefore (stretch body e k) ((ofText hidden u).toList ++ body.toList.drop (e j)) := by
  subst hk
  have hcut : e (k + 1) ≤ body.toList.length := by
    rw [String.length_toList]
    exact h.le_length hi
  have hlen : (body.toList.take (e (k + 1))).length = e (k + 1) := List.length_take_of_le hcut
  have hstretch := hnew.endsBefore_stretch hi'
  rw [stretch, hbefore k (Nat.le_succ k), hbefore (k + 1) le_rfl, toList_rewrite,
    List.take_left' hlen, List.drop_left' hlen] at hstretch
  exact hstretch

/-- **Writing a text back into a body.** The new body is read as the old text with the part between
boundaries `i` and `j` replaced, and with the boundaries moved along, unless the stretch that ends
at boundary `i` is an octal escape that could take another digit and an octal digit is the first
character of the spelling of the new text with what is behind it. In that case, and only then, it
is not. -/
theorem readsAs_rewrite_iff (hidden : Char → Bool) {body text : String} {e : ℕ → ℕ}
    (h : ReadsAs body text e) {i j : ℕ} (hij : i ≤ j) (hj : j ≤ text.length) (u : String) :
    (∃ e', ReadsAs (rewrite hidden body e i j u)
        (String.ofList (text.toList.take i) ++ u ++ String.ofList (text.toList.drop j)) e' ∧
      MovedPlaces hidden text e i j u e') ↔
      ∀ k, k + 1 = i → EndsBefore (stretch body e k)
        ((ofText hidden u).toList ++ body.toList.drop (e j)) := by
  constructor
  · rintro ⟨e', hnew, hmoved⟩ k hk
    have hi : i ≤ text.toList.length := by
      rw [String.length_toList]
      exact hij.trans hj
    have hfront : (String.ofList (text.toList.take i)).length = i := by
      rw [String.length_ofList, List.length_take_of_le hi]
    refine endsBefore_of_readsAs_rewrite h (hij.trans hj) ?_ hnew hmoved.before hk
    rw [String.length_append, String.length_append, hfront, Nat.add_assoc]
    exact Nat.le_add_right i _
  · -- Only the piece before the cut is in question: a spelling never reaches into what follows it.
    intro hend
    obtain ⟨ps, hps, htext, hlen, he⟩ := h.exists_splits
    rw [hlen] at hj
    have hsplits := splits_rewrite he hij hj u hps hend
    refine ⟨_, readsAs_of_splits hsplits ?_ fun d _ ↦ rfl,
      movedPlaces_rewritePieces he hij hj u hlen⟩
    rw [map_value_rewritePieces, ← htext, String.toList_append, String.toList_append,
      String.toList_ofList, String.toList_ofList, List.append_assoc]

/-- Behind an octal escape with room for another digit, an escape may be written but not a `7`. -/
theorem readsAs_rewrite_iff_octal : ∃ e, ReadsAs "\\18x" "\x018x" e ∧ 1 ≤ 2 ∧ 2 ≤ "\x018x".length ∧
    (∃ e', ReadsAs (rewrite (fun _ ↦ false) "\\18x" e 1 2 "\n")
        (String.ofList ("\x018x".toList.take 1) ++ "\n" ++ String.ofList ("\x018x".toList.drop 2))
        e' ∧ MovedPlaces (fun _ ↦ false) "\x018x" e 1 2 "\n" e') ∧
      ¬∃ e', ReadsAs (rewrite (fun _ ↦ false) "\\18x" e 1 2 "7")
        (String.ofList ("\x018x".toList.take 1) ++ "7" ++ String.ofList ("\x018x".toList.drop 2))
        e' ∧ MovedPlaces (fun _ ↦ false) "\x018x" e 1 2 "7" e' := by
  have h : ReadsAs "\\18x" "\x018x" (fun d ↦ d + min d 1) := by
    refine ⟨.anchored #[some 0, some 2, some 3, some 4, none], by decide +kernel, fun d ↦ ?_⟩
    match d with
    | 0 | 1 | 2 | 3 | 4 => rfl
    | d + 5 => rfl
  refine ⟨_, h, by decide, by decide, ?_, ?_⟩
  · refine (readsAs_rewrite_iff _ h (by decide) (by decide) _).mpr ?_
    intro k hk
    obtain rfl : k = 0 := Nat.succ.inj hk
    have hhead : ((ofText (fun _ ↦ false) "\n").toList ++ "\\18x".toList.drop 3).head? =
        some '\\' := by decide +kernel
    intro _ d hd
    obtain rfl : '\\' = d := Option.some.inj (hhead.symm.trans hd)
    decide
  · rw [readsAs_rewrite_iff _ h (by decide) (by decide)]
    intro hend
    exact hend 0 rfl ⟨by decide, by decide⟩ '7' (by decide +kernel) (by decide)

end Spelling

end GoLiteral
