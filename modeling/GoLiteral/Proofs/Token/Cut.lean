import Mathlib.Data.String.Basic
import GoLiteral.Token

/-!
# Cutting a token

A token is cut at byte positions, but every position it is asked for counts characters. The byte
position of a character is the size of the characters before it, so a cut between two positions
gives exactly the characters between them; `Token.toList_slice` says so of any two positions. What
stands between two delimiters is cut out by bytes alone, which is right because a delimiter is a
single byte.
-/

namespace GoLiteral

open String (utf8Len)

theorem byteOffset_eq_utf8Len (cs : List Char) (i : ℕ) :
    byteOffset cs i = utf8Len (cs.take i) := by
  induction cs generalizing i with
  | nil => simp [byteOffset]
  | cons c cs ih =>
    cases i with
    | zero => rfl
    | succ i => rw [byteOffset, ih, List.take_succ_cons, String.utf8Len_cons, Nat.add_comm]

@[simp] theorem Kind.utf8Size_delimiter (k : Kind) : k.delimiter.utf8Size = 1 := by
  cases k <;> rfl

namespace Token

variable (t : Token)

theorem length_eq : t.length = t.text.toList.length := String.length_toList.symm

private theorem extract_eq {text : String} {before inside after : List Char}
    (h : text.toList = before ++ inside ++ after) :
    String.Pos.Raw.extract text ⟨utf8Len before⟩ ⟨utf8Len before + utf8Len inside⟩ =
      String.ofList inside := by
  rw [← String.ofList_toList (s := text), h]
  exact String.extract_of_valid before inside after

/-- **A slice is the characters between its two positions**, which are moved to the end of the
token when they are past it; a reversed span is empty. -/
theorem toList_slice (span : Span) : (t.slice span).toList =
    (t.text.toList.take (max span.start span.stop)).drop span.start := by
  set cs := t.text.toList with hcs
  set stop := max span.start span.stop with hstop
  have hle : span.start ≤ stop := le_max_left _ _
  have htake : cs.take stop = cs.take span.start ++ (cs.take stop).drop span.start := by
    conv_lhs => rw [← List.take_append_drop span.start (cs.take stop), List.take_take,
      min_eq_left hle]
  have hsplit : cs = cs.take span.start ++ (cs.take stop).drop span.start ++ cs.drop stop := by
    rw [← htake, List.take_append_drop]
  have hbytes : utf8Len (cs.take stop) =
      utf8Len (cs.take span.start) + utf8Len ((cs.take stop).drop span.start) := by
    rw [← String.utf8Len_append, ← htake]
  rw [slice, ← hcs, ← hstop, byteOffset_eq_utf8Len, byteOffset_eq_utf8Len, hbytes,
    extract_eq (hcs.symm.trans hsplit), String.toList_ofList]

theorem toList_slice_of_le {span : Span} (h : span.start ≤ span.stop) :
    (t.slice span).toList = (t.text.toList.take span.stop).drop span.start := by
  rw [toList_slice, max_eq_right h]

theorem toList_inner {first last : Char} {inside : List Char}
    (h : t.text.toList = first :: inside ++ [last]) (hfirst : first.utf8Size = 1)
    (hlast : last.utf8Size = 1) : t.inner.toList = inside := by
  have hsize : t.text.utf8ByteSize - 1 = utf8Len [first] + utf8Len inside := by
    rw [← String.utf8Len_toList, h]
    simp only [String.utf8Len_append, String.utf8Len_cons, String.utf8Len_nil]
    omega
  have hone : 1 = utf8Len [first] := by
    rw [String.utf8Len_cons, String.utf8Len_nil, hfirst]
  rw [inner, hsize, hone, @extract_eq t.text [first] inside [last] h, String.toList_ofList]

end Token

end GoLiteral
