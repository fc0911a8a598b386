import GoLiteral.Proofs.Reading.Boundaries

/-!
# Bodies that are not scanned

A body without a backslash is its own text, and reading it goes around the scan. Were it scanned,
every round would write the places around one character, and what is left at the end would be the
identity, so the result is the same. The empty body is the exception. It has no character and so
no round, and its only slot would stay empty, although every text has a boundary at its beginning;
the way around the scan fills it.
-/

namespace GoLiteral

open Piece (Splits)

theorem Piece.exists_splits_of_not_mem {body : List Char} (h : '\\' ∉ body) :
    ∃ ps, Splits body ps := by
  obtain ⟨ps, rest, hsources, hsep, rfl | ⟨tail, fault, rfl, -⟩⟩ := exists_separated body
  · exact ⟨ps, by rwa [List.append_nil] at hsources, hsep⟩
  · refine absurd ?_ h
    rw [← hsources]
    exact List.mem_append_right _ List.mem_cons_self

theorem Scan.run_start_nil (buffer : String) :
    (start [] buffer).run = ⟨buffer, .ok (.anchored #[none])⟩ :=
  run_of_rest_nil rfl

namespace Reading

theorem append_of_not_mem {body : String} (h : '\\' ∉ body.toList) (buffer : String) :
    append .interpreted body buffer = ⟨buffer ++ body, .ok (.identity body.length)⟩ :=
  if_neg h

theorem append_interpreted_empty (buffer : String) :
    append .interpreted "" buffer = ⟨buffer, .ok (.anchored #[some 0])⟩ := by
  have hslots : PositionMap.identity "".length = .anchored #[some 0] := by decide +kernel
  rw [append_of_not_mem List.not_mem_nil, String.append_empty, hslots]

/-- To read a body that is not empty is to scan it, also where reading goes around the scan. -/
theorem append_eq_run_start {body : String} (hne : body ≠ "") (buffer : String) :
    append .interpreted body buffer = (Scan.start body.toList buffer).run := by
  by_cases hmem : '\\' ∈ body.toList
  · exact if_pos hmem
  · obtain ⟨ps, hps⟩ := Piece.exists_splits_of_not_mem hmem
    have hne' : body.toList ≠ [] := mt String.toList_eq_nil_iff.mp hne
    rw [append_of_splits hps, Scan.run_start_of_splits hps hne']

theorem getElem?_zero_of_append {body buffer : String} {positions : PositionMap}
    (h : (append .interpreted body buffer).result = .ok positions) :
    ∃ slots : Array (Option ℕ), positions = .anchored slots ∧ slots[0]? = some (some 0) := by
  obtain ⟨ps, hps⟩ := exists_splits_of_append h
  rw [append_of_splits hps, Except.ok.injEq] at h
  exact ⟨Piece.slots ps, h.symm, Piece.getElem?_slots_eq_some_iff.mpr ⟨Nat.zero_le _, rfl⟩⟩

/-- **Going around the scan changes nothing, but for the empty body.** Reading a body and scanning
it end with the same buffer and the same map or error exactly when the body is not empty. So the
scan of a body without a backslash, if there is anything to scan, succeeds with the body for its
text and the identity for its map. Of the empty body, reading anchors the boundary that the scan
does not; and so every map of an interpreted body has the first boundary at its beginning. -/
theorem append_eq_run_start_iff (body buffer : String) :
    (append .interpreted body buffer = (Scan.start body.toList buffer).run ↔ body ≠ "") ∧
      (body ≠ "" → '\\' ∉ body.toList → (Scan.start body.toList buffer).run =
        ⟨buffer ++ body, .ok (.identity body.length)⟩) ∧
      append .interpreted "" buffer = ⟨buffer, .ok (.anchored #[some 0])⟩ ∧
      (Scan.start [] buffer).run = ⟨buffer, .ok (.anchored #[none])⟩ ∧
      ∀ positions, (append .interpreted body buffer).result = .ok positions →
        ∃ slots : Array (Option ℕ), positions = .anchored slots ∧ slots[0]? = some (some 0) := by
  refine ⟨⟨?_, fun hne ↦ append_eq_run_start hne buffer⟩, ?_, append_interpreted_empty buffer,
    Scan.run_start_nil buffer, fun positions ↦ getElem?_zero_of_append⟩
  · rintro h rfl
    have hscan : append .interpreted "" buffer = (Scan.start [] buffer).run := h
    rw [append_interpreted_empty, Scan.run_start_nil] at hscan
    have hslots : #[some 0] = #[(none : Option ℕ)] :=
      PositionMap.anchored.inj (Except.ok.inj (congrArg Attempt.result hscan))
    exact absurd hslots (by decide)
  · intro hne hmem
    rw [← append_eq_run_start hne, append_of_not_mem hmem]

end Reading

end GoLiteral
