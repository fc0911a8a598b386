import Mathlib.Data.List.Basic
import Mathlib.Data.List.Induction
import Mathlib.Data.Nat.Digits.Defs
import GoLiteral.Escape.Digits

/-!
# Digits as numbers

What a row of digits means is said here with natural numbers: a digit has a value below its base,
and a row of them writes the number `numeral`, most significant digit first. The readers of
escapes compute with 32-bit words instead, octal digits by multiplication and hexadecimal ones by
shifting; the main statements are that their words are these numbers, and that an octal escape
never writes more than 255.
-/

namespace GoLiteral.Escape

/-! ## The value of a digit -/

/-- The digits in the order of their values, letters in lower case. -/
def lowerDigits : List Char :=
  ['0', '1', '2', '3', '4', '5', '6', '7', '8', '9', 'a', 'b', 'c', 'd', 'e', 'f']

/-- The digits in the order of their values, letters in upper case. -/
def upperDigits : List Char :=
  ['0', '1', '2', '3', '4', '5', '6', '7', '8', '9', 'A', 'B', 'C', 'D', 'E', 'F']

/-- The value of a digit of either case, and `16` for a character that is none. -/
def digitValue (c : Char) : ℕ := min (lowerDigits.idxOf c) (upperDigits.idxOf c)

/-- `c` is a digit of the given base, which is at most `16`. -/
def IsDigit (base : ℕ) (c : Char) : Prop := digitValue c < base

instance (base : ℕ) (c : Char) : Decidable (IsDigit base c) :=
  inferInstanceAs (Decidable (digitValue c < base))

theorem IsDigit.mono {b b' : ℕ} (hb : b ≤ b') {c : Char} (h : IsDigit b c) : IsDigit b' c :=
  lt_of_lt_of_le h hb

theorem mem_digits_of_isDigit {c : Char} (h : IsDigit 16 c) : c ∈ lowerDigits ++ upperDigits := by
  rw [List.mem_append]
  rcases min_lt_iff.mp h with h | h
  · exact Or.inl (List.idxOf_lt_length_iff.mp h)
  · exact Or.inr (List.idxOf_lt_length_iff.mp h)

theorem IsDigit.of_forall {p : Char → Prop} (all : (lowerDigits ++ upperDigits).Forall p)
    {c : Char} (h : IsDigit 16 c) : p c :=
  List.forall_iff_forall_mem.mp all c (mem_digits_of_isDigit h)

theorem IsDigit.of_forall_octal {p : Char → Prop} (all : (lowerDigits.take 8).Forall p)
    {c : Char} (h : IsDigit 8 c) : p c := by
  refine List.forall_iff_forall_mem.mp all c ?_
  have octal : (lowerDigits ++ upperDigits).Forall
      fun d ↦ IsDigit 8 d → d ∈ lowerDigits.take 8 := by decide
  exact (h.mono (by decide)).of_forall octal h

/-- The characters from `a` up to `b`. -/
def charsBetween (a b : Char) : List Char :=
  (List.range' a.toNat (b.toNat + 1 - a.toNat)).map Char.ofNat

/-- What holds of every character from `a` up to `b` is checked one by one. -/
theorem forall_between {a b : Char} {p : Char → Prop} (all : (charsBetween a b).Forall p)
    {c : Char} (ha : a ≤ c) (hb : c ≤ b) : p c := by
  have ha' : a.toNat ≤ c.toNat := ha
  have hb' : c.toNat ≤ b.toNat := hb
  refine List.forall_iff_forall_mem.mp all c ?_
  refine List.mem_map.mpr ⟨c.toNat, List.mem_range'_1.mpr ⟨ha', by omega⟩, ?_⟩
  exact Char.ofNat_toNat c

theorem isOctal_iff_isDigit {c : Char} : isOctal c = true ↔ IsDigit 8 c := by
  constructor
  · intro h
    obtain ⟨h0, h7⟩ := isOctal_iff.mp h
    exact forall_between (by decide) h0 h7
  · intro h
    exact h.of_forall_octal (p := fun d ↦ isOctal d = true) (by decide)

theorem toNat_octal_sub {c : Char} (h : IsDigit 8 c) :
    (c.val - '0'.val).toNat = digitValue c := by
  refine h.of_forall_octal (p := fun d ↦ (d.val - '0'.val).toNat = digitValue d) ?_
  decide

theorem hexDigit?_of_isDigit {c : Char} (h : IsDigit 16 c) :
    hexDigit? c = some (UInt32.ofNat (digitValue c)) := by
  refine h.of_forall (p := fun d ↦ hexDigit? d = some (UInt32.ofNat (digitValue d))) ?_
  decide

theorem isDigit_of_hexDigit? {c : Char} {v : UInt32} (h : hexDigit? c = some v) :
    IsDigit 16 c := by
  unfold hexDigit? at h
  split_ifs at h with hdecimal hlower hupper
  · exact forall_between (by decide) hdecimal.1 hdecimal.2
  · exact forall_between (by decide) hlower.1 hlower.2
  · exact forall_between (by decide) hupper.1 hupper.2

/-! ## The number of a row of digits -/

/-- The number that a row of digits writes in a base, most significant digit first. -/
def numeral (base : ℕ) (ds : List Char) : ℕ := Nat.ofDigits base (ds.map digitValue).reverse

@[simp] theorem numeral_nil (base : ℕ) : numeral base [] = 0 := rfl

@[simp] theorem numeral_append_singleton (base : ℕ) (ds : List Char) (d : Char) :
    numeral base (ds ++ [d]) = numeral base ds * base + digitValue d := by
  rw [numeral, List.map_append, List.map_singleton, List.reverse_append, List.reverse_singleton,
    List.singleton_append, Nat.ofDigits_cons, numeral]
  ring

theorem numeral_lt {base : ℕ} (hbase : 1 < base) {ds : List Char} (h : ∀ d ∈ ds, IsDigit base d) :
    numeral base ds < base ^ ds.length := by
  have hlt : ∀ v ∈ (ds.map digitValue).reverse, v < base := by
    intro v hv
    obtain ⟨d, hd, rfl⟩ := List.mem_map.mp (List.mem_reverse.mp hv)
    exact h d hd
  simpa [numeral] using Nat.ofDigits_lt_base_pow_length hbase hlt

/-! ## Words of octal digits -/

@[simp] theorem octalWord_append_singleton (ds : List Char) (d : Char) :
    octalWord (ds ++ [d]) = octalWord ds * 8 + (d.val - '0'.val) := by
  rw [octalWord, List.foldl_append, List.foldl_cons, List.foldl_nil, octalWord]

theorem toNat_octalWord {ds : List Char} (h : ∀ d ∈ ds, IsDigit 8 d) (hlen : ds.length ≤ 10) :
    (octalWord ds).toNat = numeral 8 ds := by
  induction ds using List.reverseRecOn with
  | nil => rfl
  | append_singleton ds d ih =>
    have hd : IsDigit 8 d := h d (by simp)
    have hds : ∀ x ∈ ds, IsDigit 8 x := fun x hx ↦ h x (List.mem_append_left _ hx)
    rw [List.length_append, List.length_singleton] at hlen
    have hlt : numeral 8 ds < 8 ^ 9 :=
      (numeral_lt (by decide) hds).trans_le (Nat.pow_le_pow_right (by decide) (by omega))
    have hval : digitValue d < 8 := hd
    rw [octalWord_append_singleton, numeral_append_singleton, UInt32.toNat_add, UInt32.toNat_mul,
      toNat_octal_sub hd, ih hds (by omega)]
    have h8 : (8 : UInt32).toNat = 8 := rfl
    rw [h8]
    omega

/-- The most digits that an octal escape with a given first digit has. -/
def octalRoom (lead : Char) : ℕ := if digitValue lead ≤ 3 then 3 else 2

theorem octalLimit_eq_octalRoom {lead : Char} (h : IsDigit 8 lead) :
    octalLimit lead = octalRoom lead := by
  refine h.of_forall_octal (p := fun d ↦ octalLimit d = octalRoom d) ?_
  decide

/-- **An octal escape writes a byte.** A third digit is only taken after a first one below `4`. -/
theorem numeral_lt_of_octalRoom {lead : Char} {ds : List Char}
    (h : ∀ d ∈ lead :: ds, IsDigit 8 d) (hlen : (lead :: ds).length ≤ octalRoom lead) :
    numeral 8 (lead :: ds) < 256 := by
  have hlead : digitValue lead < 8 := h lead List.mem_cons_self
  have hds : ∀ d ∈ ds, digitValue d < 8 := fun d hd ↦ h d (List.mem_cons_of_mem _ hd)
  unfold octalRoom at hlen
  match ds with
  | [] => simpa [numeral] using hlead.trans (by decide)
  | [d] =>
    have hd := hds d (by simp)
    simp only [numeral, List.map_cons, List.map_nil, List.reverse_cons, List.reverse_nil,
      List.nil_append, List.cons_append, Nat.ofDigits_cons, Nat.ofDigits_nil]
    omega
  | [d, d'] =>
    have hd := hds d (by simp)
    have hd' := hds d' (by simp)
    simp only [numeral, List.map_cons, List.map_nil, List.reverse_cons, List.reverse_nil,
      List.nil_append, List.cons_append, Nat.ofDigits_cons, Nat.ofDigits_nil]
    split at hlen
    · omega
    · simp at hlen
  | _ :: _ :: _ :: _ =>
    simp only [List.length_cons] at hlen
    split at hlen <;> omega

/-! ## Words of hexadecimal digits -/

@[simp] theorem hexWord_append_singleton (vs : List UInt32) (v : UInt32) :
    hexWord (vs ++ [v]) = (hexWord vs <<< 4) ||| v := by
  rw [hexWord, List.foldl_append, List.foldl_cons, List.foldl_nil, hexWord]

theorem toNat_shiftLeft_or {w v : UInt32} (hw : w.toNat < 2 ^ 28) (hv : v.toNat < 16) :
    ((w <<< 4) ||| v).toNat = w.toNat * 16 + v.toNat := by
  have h4 : (4 : UInt32).toNat % 32 = 4 := rfl
  have hshift : w.toNat <<< 4 = w.toNat * 16 := by rw [Nat.shiftLeft_eq]
  rw [UInt32.toNat_or, UInt32.toNat_shiftLeft, h4, hshift, Nat.mod_eq_of_lt (by omega), ← hshift,
    ← Nat.shiftLeft_add_eq_or_of_lt hv, hshift]

theorem toNat_hexWord {ds : List Char} (h : ∀ d ∈ ds, IsDigit 16 d) (hlen : ds.length ≤ 8) :
    (hexWord (ds.map fun d ↦ UInt32.ofNat (digitValue d))).toNat = numeral 16 ds := by
  induction ds using List.reverseRecOn with
  | nil => rfl
  | append_singleton ds d ih =>
    have hds : ∀ x ∈ ds, IsDigit 16 x := fun x hx ↦ h x (List.mem_append_left _ hx)
    rw [List.length_append, List.length_singleton] at hlen
    have hlt : numeral 16 ds < 16 ^ 7 :=
      (numeral_lt (by decide) hds).trans_le (Nat.pow_le_pow_right (by decide) (by omega))
    have hval : digitValue d < 16 := h d (by simp)
    have hv : (UInt32.ofNat (digitValue d)).toNat = digitValue d :=
      UInt32.toNat_ofNat_of_lt' (by rw [UInt32.size]; omega)
    have hw := ih hds (by omega)
    rw [List.map_append, List.map_singleton, hexWord_append_singleton, numeral_append_singleton,
      toNat_shiftLeft_or (by omega) (by omega), hw, hv]

theorem mapM_hexDigit?_of_isDigit {ds : List Char} (h : ∀ d ∈ ds, IsDigit 16 d) :
    ds.mapM hexDigit? = some (ds.map fun d ↦ UInt32.ofNat (digitValue d)) := by
  induction ds with
  | nil => rfl
  | cons d ds ih =>
    rw [List.mapM_cons, hexDigit?_of_isDigit (h d List.mem_cons_self),
      ih fun x hx ↦ h x (List.mem_cons_of_mem _ hx)]
    rfl

theorem isDigit_of_mapM_hexDigit? {ds : List Char} {vs : List UInt32}
    (h : ds.mapM hexDigit? = some vs) : ∀ d ∈ ds, IsDigit 16 d := by
  induction ds generalizing vs with
  | nil => simp
  | cons d ds ih =>
    rw [List.mapM_cons] at h
    obtain ⟨v, hv, h⟩ := Option.bind_eq_some_iff.mp h
    obtain ⟨vs', hvs, -⟩ := Option.bind_eq_some_iff.mp h
    intro x hx
    rcases List.mem_cons.mp hx with rfl | hx
    · exact isDigit_of_hexDigit? hv
    · exact ih hvs x hx

/-- **The word of a row of hexadecimal digits is their number**, and only digits have one. -/
theorem hexWord?_eq_some_iff {ds : List Char} (hlen : ds.length ≤ 8) {w : UInt32} :
    hexWord? ds = some w ↔ (∀ d ∈ ds, IsDigit 16 d) ∧ w.toNat = numeral 16 ds := by
  rw [hexWord?, Option.map_eq_some_iff]
  constructor
  · rintro ⟨vs, hvs, rfl⟩
    have hds := isDigit_of_mapM_hexDigit? hvs
    rw [mapM_hexDigit?_of_isDigit hds] at hvs
    obtain rfl := Option.some.inj hvs
    exact ⟨hds, toNat_hexWord hds hlen⟩
  · rintro ⟨hds, hw⟩
    refine ⟨_, mapM_hexDigit?_of_isDigit hds, UInt32.toNat.inj ?_⟩
    rw [hw, toNat_hexWord hds hlen]

end GoLiteral.Escape
