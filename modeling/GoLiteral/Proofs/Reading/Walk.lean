import Mathlib.Data.List.Basic
import GoLiteral.Proofs.Reading.Piece
import GoLiteral.Reading

/-!
# The scan passes piece by piece

One round of the scan takes up exactly one piece: `Scan.pass` is what the round does to the state,
with both writes of a boundary in one. `Scan.step_of_rest` says so of a round, and
`Scan.run_of_separated` of all rounds over a row of pieces. What the slots hold afterwards is an
invariant of the rounds: those up to the number of pieces hold the boundaries, the others nothing.

Together with the cuts of a body this decides what reading a body leads to. A body that splits
gives the characters of its pieces with the map of their boundaries, whether it was scanned or
not; any other body is refused for the escape behind its last piece.
-/

namespace GoLiteral

open Escape (EndsBefore)
open Piece (sources Separated boundary Splits)

namespace Scan

/-! ## One round -/

/-- Moves past a piece, writing the boundaries before and after it. -/
def pass (s : Scan) (p : Piece) : Scan where
  rest := s.rest.drop p.source.length
  index := s.index + p.source.length
  decoded := s.decoded + 1
  slots := (s.slots.setIfInBounds s.decoded (some s.index)).setIfInBounds (s.decoded + 1)
    (some (s.index + p.source.length))
  buffer := s.buffer.push p.value

/-- **A round takes up one piece.** -/
theorem step_of_rest {s : Scan} {p : Piece} {rest : List Char} (hrest : s.rest = p.source ++ rest)
    (hend : EndsBefore p.source rest) : s.step = .next (s.pass p) := by
  rcases p.spells.eq_singleton_or with ⟨hsource, hne⟩ | ⟨ds, hsource⟩
  · -- The boundary after the character is the one written with the boundary before it.
    have hpass : s.pass p = s.anchor.plain p.value rest := by
      simp [pass, plain, anchor, hrest, hsource]
    rw [hpass, step, hrest, hsource, List.singleton_append]
    exact if_neg hne
  · -- The boundary after the escape is written twice, and the second value stays.
    have hread := Escape.read_of_spells (hsource ▸ p.spells) (hsource ▸ hend)
    have hpass : s.pass p = s.anchor.escaped ⟨p.value, ds.length + 1⟩ (ds ++ rest) := by
      simp [pass, escaped, anchor, hrest, hsource]
    rw [hpass, step, hrest, hsource, List.cons_append]
    simp only [↓reduceIte, hread]

theorem step_of_rest_nil {s : Scan} (h : s.rest = []) :
    s.step = .stop ⟨s.buffer, .ok (.anchored s.slots)⟩ := by
  rw [step, h]

theorem step_of_bad {s : Scan} {tail : List Char} {fault : Escape.Fault}
    (h : s.rest = '\\' :: tail) (hread : Escape.read tail = .error fault) :
    s.step = .stop ⟨s.buffer, .error (BadEscape.ofFault fault s.index ('\\' :: tail))⟩ := by
  rw [step, h]
  simp only [↓reduceIte, hread]

/-- **What a round does.** It takes up the piece at the front of what is left, or ends the scan, at
the end of the body or at a bad escape. -/
theorem step_cases (s : Scan) :
    (∃ (p : Piece) (rest : List Char), s.rest = p.source ++ rest ∧ s.step = .next (s.pass p)) ∨
      (s.rest = [] ∧ s.step = .stop ⟨s.buffer, .ok (.anchored s.slots)⟩) ∨
      ∃ (tail : List Char) (bad : BadEscape), s.rest = '\\' :: tail ∧
        s.step = .stop ⟨s.buffer, .error bad⟩ := by
  obtain ⟨ps, rest, hsources, hsep, hrest⟩ := Piece.exists_separated s.rest
  cases ps with
  | nil =>
    -- Nothing can be taken up.
    have hsources' : s.rest = rest := hsources.symm
    obtain rfl | ⟨tail, fault, rfl, hread⟩ := hrest
    · exact Or.inr (Or.inl ⟨hsources', step_of_rest_nil hsources'⟩)
    · exact Or.inr (Or.inr ⟨tail, _, hsources', step_of_bad hsources' hread⟩)
  | cons p ps =>
    have hsource : s.rest = p.source ++ (Piece.sources ps ++ rest) := by
      rw [← hsources, Piece.sources_cons, List.append_assoc]
    exact Or.inl ⟨p, _, hsource, step_of_rest hsource hsep.1⟩

theorem exists_piece_of_step {s t : Scan} (h : s.step = .next t) :
    ∃ (p : Piece) (rest : List Char), s.rest = p.source ++ rest ∧ t = s.pass p := by
  obtain ⟨p, rest, hrest, hstep⟩ | ⟨-, hstep⟩ | ⟨tail, bad, -, hstep⟩ := s.step_cases
  · exact ⟨p, rest, hrest, Step.next.inj (h.symm.trans hstep)⟩
  · exact absurd (h.symm.trans hstep) (by simp)
  · exact absurd (h.symm.trans hstep) (by simp)

theorem run_of_step {s t : Scan} (h : s.step = .next t) : s.run = t.run := by
  rw [run]
  split
  · next heq =>
    rw [h] at heq
    rw [Step.next.inj heq]
  · next heq => exact absurd (h.symm.trans heq) (by simp)

theorem run_of_stop {s : Scan} {attempt : Attempt} (h : s.step = .stop attempt) :
    s.run = attempt := by
  rw [run]
  split
  · next heq => exact absurd (h.symm.trans heq) (by simp)
  · next heq => exact (Step.stop.inj (h.symm.trans heq)).symm

theorem run_of_rest_nil {s : Scan} (h : s.rest = []) :
    s.run = ⟨s.buffer, .ok (.anchored s.slots)⟩ :=
  run_of_stop (step_of_rest_nil h)

theorem run_of_bad {s : Scan} {tail : List Char} {fault : Escape.Fault}
    (h : s.rest = '\\' :: tail) (hread : Escape.read tail = .error fault) :
    s.run = ⟨s.buffer, .error (BadEscape.ofFault fault s.index ('\\' :: tail))⟩ :=
  run_of_stop (step_of_bad h hread)

/-! ## All rounds -/

/-- Moves past a row of pieces. -/
def passAll (s : Scan) (ps : List Piece) : Scan := ps.foldl pass s

@[simp] theorem passAll_nil (s : Scan) : s.passAll [] = s := rfl

@[simp] theorem passAll_cons (s : Scan) (p : Piece) (ps : List Piece) :
    s.passAll (p :: ps) = (s.pass p).passAll ps := rfl

theorem passAll_append_singleton (s : Scan) (ps : List Piece) (p : Piece) :
    s.passAll (ps ++ [p]) = (s.passAll ps).pass p := by
  rw [passAll, List.foldl_append, List.foldl_cons, List.foldl_nil, passAll]

theorem rest_passAll (s : Scan) (ps : List Piece) :
    (s.passAll ps).rest = s.rest.drop (sources ps).length := by
  induction ps generalizing s with
  | nil => rfl
  | cons p ps ih =>
    rw [passAll_cons, ih, Piece.sources_cons, List.length_append, ← List.drop_drop]
    rfl

@[simp] theorem index_passAll (s : Scan) (ps : List Piece) :
    (s.passAll ps).index = s.index + (sources ps).length := by
  induction ps generalizing s with
  | nil => rfl
  | cons p ps ih =>
    rw [passAll_cons, ih, Piece.sources_cons, List.length_append, ← Nat.add_assoc]
    rfl

@[simp] theorem decoded_passAll (s : Scan) (ps : List Piece) :
    (s.passAll ps).decoded = s.decoded + ps.length := by
  induction ps generalizing s with
  | nil => rfl
  | cons p ps ih =>
    rw [passAll_cons, ih, List.length_cons, Nat.add_comm ps.length, ← Nat.add_assoc]
    rfl

@[simp] theorem buffer_passAll (s : Scan) (ps : List Piece) :
    (s.passAll ps).buffer = s.buffer ++ String.ofList (ps.map Piece.value) := by
  induction ps generalizing s with
  | nil => simp
  | cons p ps ih =>
    rw [passAll_cons, ih, ← String.toList_inj]
    simp [pass]

@[simp] theorem size_slots_passAll (s : Scan) (ps : List Piece) :
    (s.passAll ps).slots.size = s.slots.size := by
  induction ps generalizing s with
  | nil => rfl
  | cons p ps ih =>
    rw [passAll_cons, ih, pass, Array.size_setIfInBounds, Array.size_setIfInBounds]

theorem run_of_separated {ps : List Piece} {rest : List Char} (hsep : Separated ps rest)
    {s : Scan} (hrest : s.rest = sources ps ++ rest) : s.run = (s.passAll ps).run := by
  induction ps generalizing s with
  | nil => rfl
  | cons p ps ih =>
    obtain ⟨hend, hsep⟩ := hsep
    rw [Piece.sources_cons, List.append_assoc] at hrest
    have hrest' : (s.pass p).rest = sources ps ++ rest := by
      rw [pass, hrest]
      exact List.drop_left
    rw [run_of_step (step_of_rest hrest hend), ih hsep hrest', passAll_cons]

/-- **The slots after a row of pieces.** Before the first round they are all empty; afterwards the
boundaries that have been passed are written, and nothing else is. -/
theorem getElem?_slots_passAll (body : List Char) (buffer : String) (ps : List Piece) (d : ℕ) :
    ((start body buffer).passAll ps).slots[d]? =
      if d < body.length + 1 then
        some (if d ≤ ps.length ∧ ps ≠ [] then some (boundary ps d) else none)
      else none := by
  induction ps using List.reverseRecOn generalizing d with
  | nil =>
    rw [passAll_nil, start, Array.getElem?_replicate]
    simp
  | append_singleton ps p ih =>
    have hsize : (start body buffer).slots.size = body.length + 1 := Array.size_replicate
    have hlast : boundary (ps ++ [p]) (ps.length + 1) = (sources ps).length + p.source.length := by
      have hlen : ps.length + 1 = (ps ++ [p]).length := by simp
      rw [hlen, Piece.boundary_length]
      simp
    have hindex : (start body buffer).index = 0 := rfl
    have hdecoded : (start body buffer).decoded = 0 := rfl
    rw [passAll_append_singleton, pass, Array.getElem?_setIfInBounds, Array.getElem?_setIfInBounds,
      Array.size_setIfInBounds, decoded_passAll, index_passAll, hindex, hdecoded, Nat.zero_add,
      Nat.zero_add, size_slots_passAll, hsize, ih]
    -- The round wrote the boundary before `p` once more and the one after it for the first time.
    have hne : ps ++ [p] ≠ [] := by simp
    have hlen : (ps ++ [p]).length = ps.length + 1 := by simp
    rw [hlen]
    rcases lt_trichotomy d (ps.length + 1) with hd | rfl | hd
    · rw [if_neg (by omega)]
      rcases (Nat.lt_succ_iff.mp hd).eq_or_lt with rfl | hd
      · rw [if_pos rfl, Piece.boundary_append_of_le le_rfl, Piece.boundary_length]
        simp
      · have hps : ps ≠ [] := List.ne_nil_of_length_pos (by omega)
        rw [if_neg (by omega), Piece.boundary_append_of_le hd.le]
        simp [hd.le, hd.le.trans (Nat.le_succ _), hps]
    · rw [if_pos rfl, hlast]
      simp
    · rw [if_neg (by omega), if_neg (by omega)]
      simp [show ¬d ≤ ps.length from by omega, show ¬d ≤ ps.length + 1 from by omega]

end Scan

/-! ## The map of a row of pieces -/

namespace Piece

/-- A slot for each character of the body and one more. Slot `d` holds the place of boundary `d`,
and those past the end of the text are empty. -/
def slots (ps : List Piece) : Array (Option ℕ) :=
  Array.ofFn fun d : Fin ((sources ps).length + 1) ↦
    if (d : ℕ) ≤ ps.length then some (boundary ps d) else none

@[simp] theorem size_slots (ps : List Piece) : (slots ps).size = (sources ps).length + 1 :=
  Array.size_ofFn

theorem getElem_slots (ps : List Piece) {d : ℕ} (hd : d < (slots ps).size) :
    (slots ps)[d] = if d ≤ ps.length then some (boundary ps d) else none :=
  Array.getElem_ofFn ..

theorem getElem?_slots (ps : List Piece) (d : ℕ) : (slots ps)[d]? =
    if d < (sources ps).length + 1 then
      some (if d ≤ ps.length then some (boundary ps d) else none)
    else none := by
  rw [slots, Array.getElem?_ofFn]
  split <;> rfl

theorem getElem?_join_slots (ps : List Piece) (d : ℕ) :
    (slots ps)[d]?.join = if d ≤ ps.length then some (boundary ps d) else none := by
  have hle := length_le_length_sources ps
  rw [getElem?_slots]
  split
  · rfl
  · rw [if_neg (by omega)]
    rfl

/-- The map that sends each boundary of the text to its place in the body. -/
def positions (ps : List Piece) : PositionMap := .anchored (slots ps)

theorem source_eq_of_not_mem {ps : List Piece} (h : '\\' ∉ sources ps) :
    ∀ p ∈ ps, p.source = [p.value] := by
  intro p hp
  rcases p.spells.eq_singleton_or with ⟨hsource, -⟩ | ⟨ds, hsource⟩
  · exact hsource
  · refine absurd (List.mem_flatMap.mpr ⟨p, hp, ?_⟩) h
    rw [hsource]
    exact List.mem_cons_self

theorem sources_eq_map_value {ps : List Piece} (h : ∀ p ∈ ps, p.source = [p.value]) :
    sources ps = ps.map value := by
  rw [sources, List.map_eq_flatMap]
  exact List.flatMap_congr h

theorem identity_eq_positions {ps : List Piece} (h : ∀ p ∈ ps, p.source = [p.value]) :
    PositionMap.identity (sources ps).length = positions ps := by
  have hlen : (sources ps).length = ps.length := by
    rw [sources_eq_map_value h, List.length_map]
  rw [PositionMap.identity, positions, PositionMap.anchored.injEq]
  refine Array.ext (by simp) fun d hd hd' ↦ ?_
  have hle : d ≤ ps.length := by
    rw [size_slots] at hd'
    omega
  have htake : ∀ p ∈ ps.take d, p.source = [p.value] := fun p hp ↦ h p (List.mem_of_mem_take hp)
  rw [Array.getElem_map, Array.getElem_range, getElem_slots, if_pos hle, boundary,
    sources_eq_map_value htake, List.length_map, List.length_take_of_le hle]

end Piece

/-! ## What reading a body leads to -/

theorem Scan.run_start_of_splits {body : List Char} {ps : List Piece} (h : Splits body ps)
    (hne : body ≠ []) (buffer : String) : (Scan.start body buffer).run =
      ⟨buffer ++ String.ofList (ps.map Piece.value), .ok (Piece.positions ps)⟩ := by
  obtain ⟨rfl, hsep⟩ := h
  have hps : ps ≠ [] := by
    rintro rfl
    exact hne rfl
  have hrest : ((Scan.start (sources ps) buffer).passAll ps).rest = [] := by
    rw [Scan.rest_passAll]
    exact List.drop_length
  have hslots : ((Scan.start (sources ps) buffer).passAll ps).slots = Piece.slots ps := by
    refine Array.ext_getElem? fun d ↦ ?_
    rw [Scan.getElem?_slots_passAll, Piece.getElem?_slots]
    simp [hps]
  rw [Scan.run_of_separated hsep (by rw [List.append_nil]; rfl), Scan.run_of_rest_nil hrest,
    Scan.buffer_passAll, hslots]
  rfl

namespace Reading

/-- **A body that splits is read as its pieces**, with the map of their boundaries. -/
theorem append_of_splits {body : String} {ps : List Piece} (h : Splits body.toList ps)
    (buffer : String) : append .interpreted body buffer =
      ⟨buffer ++ String.ofList (ps.map Piece.value), .ok (Piece.positions ps)⟩ := by
  rw [append]
  by_cases hmem : '\\' ∈ body.toList
  · rw [if_pos hmem]
    exact Scan.run_start_of_splits h (List.ne_nil_of_mem hmem) buffer
  · -- The body is not scanned, but its pieces are its characters.
    have hnone : '\\' ∉ sources ps := by rwa [h.sources_eq]
    have hsource := Piece.source_eq_of_not_mem hnone
    have hbody : body = String.ofList (ps.map Piece.value) := by
      rw [← Piece.sources_eq_map_value hsource, h.sources_eq, String.ofList_toList]
    have hlen : body.length = (sources ps).length := by
      rw [h.sources_eq, String.length_toList]
    rw [if_neg hmem, hlen, Piece.identity_eq_positions hsource, ← hbody]

theorem append_of_bad {body : String} {ps : List Piece} {tail : List Char} {fault : Escape.Fault}
    (h : sources ps ++ '\\' :: tail = body.toList) (hsep : Separated ps ('\\' :: tail))
    (hread : Escape.read tail = .error fault) (buffer : String) :
    append .interpreted body buffer = ⟨buffer ++ String.ofList (ps.map Piece.value),
      .error (BadEscape.ofFault fault (sources ps).length ('\\' :: tail))⟩ := by
  have hmem : '\\' ∈ body.toList := by
    rw [← h]
    exact List.mem_append_right _ List.mem_cons_self
  have hstart : (Scan.start body.toList buffer).rest = sources ps ++ '\\' :: tail := h.symm
  have hrest : ((Scan.start body.toList buffer).passAll ps).rest = '\\' :: tail := by
    rw [Scan.rest_passAll, hstart]
    exact List.drop_left
  rw [append, if_pos hmem, Scan.run_of_separated hsep hstart, Scan.run_of_bad hrest hread,
    Scan.buffer_passAll, Scan.index_passAll]
  simp [Scan.start]

theorem ofBody_of_splits {body : String} {ps : List Piece} (h : Splits body.toList ps) :
    ofBody .interpreted body =
      .ok ⟨String.ofList (ps.map Piece.value), Piece.positions ps⟩ := by
  rw [ofBody, append_of_splits h]
  simp [Except.map]

theorem exists_splits_of_append {body buffer : String} {positions : PositionMap}
    (h : (append .interpreted body buffer).result = .ok positions) :
    ∃ ps, Splits body.toList ps := by
  obtain ⟨ps, rest, hsources, hsep, rfl | ⟨tail, fault, rfl, hread⟩⟩ :=
    Piece.exists_separated body.toList
  · exact ⟨ps, by rwa [List.append_nil] at hsources, hsep⟩
  · rw [append_of_bad hsources hsep hread] at h
    exact absurd h (by simp)

theorem exists_splits_of_ofBody {body : String} {r : Reading}
    (h : ofBody .interpreted body = .ok r) : ∃ ps, Splits body.toList ps := by
  rw [ofBody] at h
  cases hresult : (append .interpreted body "").result with
  | error bad => rw [hresult] at h; exact absurd h (by simp [Except.map])
  | ok positions => exact exists_splits_of_append hresult

/-- **The grammar of an interpreted body.** It can be read exactly when it splits into pieces; the
text is then the characters of the pieces, one each; and it splits in one way only. -/
theorem ofBody_isOk_iff_splits (body : String) :
    ((∃ r, ofBody .interpreted body = .ok r) ↔ ∃ ps, Splits body.toList ps) ∧
      (∀ r ps, ofBody .interpreted body = .ok r → Splits body.toList ps →
        r.text.toList = ps.map Piece.value) ∧
      ∀ ps qs, Splits body.toList ps → Splits body.toList qs → ps = qs := by
  refine ⟨⟨?_, ?_⟩, ?_, ?_⟩
  · rintro ⟨r, hr⟩
    exact exists_splits_of_ofBody hr
  · rintro ⟨ps, hps⟩
    exact ⟨_, ofBody_of_splits hps⟩
  · intro r ps hr hps
    rw [ofBody_of_splits hps, Except.ok.injEq] at hr
    rw [← hr, String.toList_ofList]
  · intro ps qs hps hqs
    exact hps.unique hqs

/-- A first digit above `3` leaves no room for a third one. -/
example : (ofBody .interpreted "\\1018\\411").map Reading.text = .ok "A8!1" := by decide +kernel

end Reading

end GoLiteral
