import GoLiteral.Proofs.Session.Content

/-!
# Cuts between characters

A token is a row of bytes, and a part of it may only be cut out where a character ends and another
one begins. The positions that a token is asked for count characters; whichever they are, the byte
positions they are turned into lie between two characters, or at an end of the token, and are in
order. What is cut out are the characters between the two positions, after both have been moved to
the end of the token where they are past it.

Only in one place a byte is taken off without regard to the characters, from either end of a token
whose trailing backslashes are counted. The token has a delimiter at both ends then, and a delimiter
is a single byte.
-/

namespace GoLiteral

open String (utf8Len)

/-! ## Cutting a text -/

/-- The part of the text between two byte positions, none of which is inside of a character. -/
structure CutsOut (text : String) (start stop : ℕ) (part : String) : Prop where
  /-- The part begins where a character begins, or at the end of the text. -/
  start_valid : String.Pos.Raw.IsValid text ⟨start⟩
  /-- It ends where a character ends, or where it begins. -/
  stop_valid : String.Pos.Raw.IsValid text ⟨stop⟩
  /-- The positions are in order. -/
  le : start ≤ stop
  /-- The part is what lies between them. -/
  part_eq : part = String.Pos.Raw.extract text ⟨start⟩ ⟨stop⟩

theorem isValid_utf8Len_of_prefix {text : String} {front : List Char} (h : front <+: text.toList) :
    String.Pos.Raw.IsValid text ⟨utf8Len front⟩ := by
  obtain ⟨rest, hrest⟩ := h
  rw [String.Pos.Raw.isValid_iff_exists_append]
  refine ⟨String.ofList front, String.ofList rest, ?_, ?_⟩
  · rw [← String.ofList_append, hrest, String.ofList_toList]
  · rw [String.rawEndPos_ofList]

/-- A byte taken off a text that does not end in a delimiter may be a part of a character. -/
example : ¬String.Pos.Raw.IsValid "\"é" ⟨2⟩ := by decide

theorem isValid_byteOffset (text : String) (i : ℕ) :
    String.Pos.Raw.IsValid text ⟨byteOffset text.toList i⟩ := by
  rw [byteOffset_eq_utf8Len]
  exact isValid_utf8Len_of_prefix (List.take_prefix i _)

theorem byteOffset_mono (cs : List Char) : Monotone (byteOffset cs) := by
  intro i j hij
  rw [byteOffset_eq_utf8Len, byteOffset_eq_utf8Len]
  exact String.utf8Len_le_of_prefix (List.take_prefix_take_left hij)

/-! ## Cutting a token -/

namespace Token

variable (t : Token)

theorem cutsOut_slice (span : Span) : CutsOut t.text (byteOffset t.text.toList span.start)
    (byteOffset t.text.toList (max span.start span.stop)) (t.slice span) where
  start_valid := isValid_byteOffset _ _
  stop_valid := isValid_byteOffset _ _
  le := byteOffset_mono _ (le_max_left _ _)
  part_eq := rfl

/-- Positions past the end of the token are moved there. -/
theorem toList_slice_min (span : Span) : (t.slice span).toList =
    (t.text.toList.take (min (max span.start span.stop) t.length)).drop
      (min span.start t.length) := by
  have htake : t.text.toList.take (max span.start span.stop) =
      t.text.toList.take (min (max span.start span.stop) t.length) := by
    rw [List.take_eq_take_iff, ← length_eq, min_assoc, min_self]
  rw [toList_slice, htake]
  rcases le_total span.start t.length with hle | hle
  · rw [min_eq_left hle]
  · -- Neither of the two has a character to begin with.
    have hlen : (t.text.toList.take (min (max span.start span.stop) t.length)).length ≤ t.length :=
      (List.length_take_le _ _).trans (min_le_right _ _)
    rw [min_eq_right hle, List.drop_eq_nil_of_le (hlen.trans hle), List.drop_eq_nil_of_le hlen]

theorem cutsOut_inner {t : Token} (hlen : 2 ≤ t.length)
    (hlast : t.text.toList.getLast? = some t.kind.delimiter) :
    CutsOut t.text 1 (t.text.utf8ByteSize - 1) t.inner := by
  obtain ⟨inside, htext⟩ := exists_delimited hlen hlast
  have hone : 1 = utf8Len [t.kind.delimiter] := by
    rw [String.utf8Len_cons, String.utf8Len_nil, Kind.utf8Size_delimiter]
  have hsize : t.text.utf8ByteSize - 1 = utf8Len (t.kind.delimiter :: inside) := by
    rw [← String.utf8Len_toList, htext, String.utf8Len_append, ← hone, Nat.add_sub_cancel]
  have hopening : [t.kind.delimiter] <+: t.kind.delimiter :: inside := List.prefix_append _ inside
  have hfront : t.kind.delimiter :: inside <+: t.text.toList := by
    rw [htext]
    exact List.prefix_append _ _
  constructor
  · rw [hone]
    exact isValid_utf8Len_of_prefix (hopening.trans hfront)
  · rw [hsize]
    exact isValid_utf8Len_of_prefix hfront
  · rw [hsize, hone]
    exact String.utf8Len_le_of_prefix hopening
  · rfl

theorem contentSpan_of_not_delimited {t : Token}
    (h : ¬(2 ≤ t.length ∧ t.text.toList.getLast? = some t.kind.delimiter)) :
    t.contentSpan = ⟨1, t.length⟩ := by
  refine congrArg (Span.mk 1) (if_neg fun hclosed ↦ h ?_)
  obtain ⟨hlen, hlast, -⟩ := isClosed_iff.mp hclosed
  exact ⟨hlen, hlast⟩

end Token

/-! ## Reading what has been cut out -/

namespace Session

theorem append_contentSpan_ne_outside (s : Session) (buffer : String) (span : Span) (length : ℕ) :
    (s.append s.contentSpan buffer).result ≠ .error (.outside span length) := by
  intro h
  have houtside := (appends_firstReading s s.contentSpan buffer).outside_iff.mp ⟨span, length, h⟩
  exact houtside (fits_iff.mp s.fits_contentSpan)

/-- **Tokens are cut between their characters.** Whatever the two positions of a slice are, the
bytes that are cut out begin and end between two characters, in this order, and are exactly the
characters between the positions, where these are in the token, and between the end of the token and
itself where they are past it. The content of a token begins behind its first character and ends in
the token. The backslashes before the last character are only looked for in a token with a delimiter
at either end, where the bytes between the first one and the last one are whole characters; in any
other token the content runs to the end. So the content is always a span that can be read. -/
theorem cutsOut_slice_contentSpan (s : Session) (span : Span) :
    let t := s.host
    (CutsOut t.text (byteOffset t.text.toList span.start)
        (byteOffset t.text.toList (max span.start span.stop)) (t.slice span) ∧
      (t.slice span).toList = (t.text.toList.take (min (max span.start span.stop) t.length)).drop
        (min span.start t.length)) ∧
      (t.contentSpan.start = 1 ∧ 1 ≤ t.contentSpan.stop ∧ t.contentSpan.stop ≤ t.length) ∧
      ((2 ≤ t.length ∧ t.text.toList.getLast? = some t.kind.delimiter →
          CutsOut t.text 1 (t.text.utf8ByteSize - 1) t.inner) ∧
        (¬(2 ≤ t.length ∧ t.text.toList.getLast? = some t.kind.delimiter) →
          t.contentSpan = ⟨1, t.length⟩)) ∧
      ∀ buffer span' length,
        (s.append s.contentSpan buffer).result ≠ .error (.outside span' length) ∧
          (s.read s.contentSpan).2 ≠ .error (.outside span' length) := by
  obtain ⟨hle, hstop⟩ := fits_iff.mp s.fits_contentSpan
  refine ⟨⟨s.host.cutsOut_slice span, s.host.toList_slice_min span⟩, ⟨rfl, hle, hstop⟩,
    ⟨fun h ↦ Token.cutsOut_inner h.1 h.2, Token.contentSpan_of_not_delimited⟩,
    fun buffer span' length ↦ ⟨?_, ?_⟩⟩
  · exact s.append_contentSpan_ne_outside buffer span' length
  · rw [read_contentSpan]
    cases Reading.ofBody s.host.kind s.host.body <;> simp [Except.map, Except.mapError]

end Session

end GoLiteral
