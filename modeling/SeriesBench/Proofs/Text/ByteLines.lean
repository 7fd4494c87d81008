import Mathlib.Algebra.Group.Nat.Defs
import SeriesBench.Proofs.Text.Bytes

set_option autoImplicit false

/-!
# Line feeds among bytes

Text and its bytes have the same line feeds, and so have bytes and what is read of them, even where
they are malformed. Bytes are cut into lines behind each line feed. Lines that were put together come
out again just when none of them has a line feed before its end.
-/
namespace SeriesBench.Text

def lineFeed : UInt8 := asciiByte '\n'

theorem count_utf8 {c : Char} (hc : IsAscii c) (s : List Char) :
    (utf8 s).count (asciiByte c) = s.count c := by
  induction s with
  | nil => rfl
  | cons d s ih =>
    have front : (utf8 [d]).count (asciiByte c) = [d].count c := by
      by_cases hd : d = c
      · subst hd
        rw [utf8_ascii_cons hc, List.count_cons_self, List.count_singleton_self]
        rfl
      · have absent : c ∉ [d] := by simpa using Ne.symm hd
        rw [List.count_eq_zero_of_not_mem absent,
          List.count_eq_zero_of_not_mem (asciiByte_not_mem_utf8 hc absent)]
    have cut : utf8 (d :: s) = utf8 [d] ++ utf8 s := utf8_append [d] s
    rw [cut, List.count_append, front, ih, ← List.count_append]
    rfl

structure PartialChar.Long (p : PartialChar) : Prop where
  tail : 128 ≤ p.least.toNat
  value : 128 ≤ (p.bits * 64 + (p.least.toNat - 128)) * 64 ^ (p.missing - 1)

theorem firstByte_cases (b : UInt8) :
    b.toNat < 128 ∧ firstByte b = .char (Char.ofNat b.toNat) ∨
      128 ≤ b.toNat ∧ (firstByte b = .stray ∨ ∃ p, firstByte b = .opens p ∧ p.Long) := by
  have hb := b.toNat_lt
  unfold firstByte
  generalize b.toNat = n at hb
  dsimp only
  by_cases hascii : n < 128
  · exact .inl ⟨hascii, by rw [if_pos hascii]⟩
  · refine .inr ⟨Nat.le_of_not_lt hascii, ?_⟩
    rw [if_neg hascii]
    repeat' split
    all_goals first
      | exact .inl rfl
      | exact .inr ⟨_, rfl, by decide, by decide⟩
      | exact .inr ⟨_, rfl, Nat.le_refl 128, by simp only [UInt8.reduceToNat]; omega⟩

section Reading
variable {p : PartialChar} {b : UInt8} {bs : List UInt8} {c : Char}

theorem PartialChar.Long.last (h : p.Long) (hlow : p.least ≤ b) (hlast : p.missing ≤ 1) :
    128 ≤ p.bits * 64 + (b.toNat - 128) := by
  have hvalue := h.value
  have hone : p.missing - 1 = 0 := by omega
  rw [hone, Nat.pow_zero, Nat.mul_one] at hvalue
  rw [UInt8.le_iff_toNat_le] at hlow
  omega

theorem PartialChar.Long.next (h : p.Long) (hlow : p.least ≤ b) (hmore : ¬ p.missing ≤ 1) :
    PartialChar.Long ⟨p.bits * 64 + (b.toNat - 128), p.missing - 1, 0x80, 0xBF⟩ := by
  refine ⟨Nat.le_refl 128, ?_⟩
  rw [UInt8.le_iff_toNat_le] at hlow
  have hbits : p.bits * 64 + (p.least.toNat - 128) ≤ p.bits * 64 + (b.toNat - 128) := by omega
  obtain ⟨left, hleft⟩ : ∃ left, p.missing - 1 = left + 1 := ⟨p.missing - 2, by omega⟩
  have hvalue := h.value
  rw [hleft, Nat.pow_succ'] at hvalue
  have start : (0x80 : UInt8).toNat - 128 = 0 := rfl
  dsimp only
  rw [start, hleft, Nat.add_sub_cancel, Nat.add_zero, Nat.mul_assoc]
  exact Nat.le_trans hvalue (Nat.mul_le_mul_right _ hbits)

theorem readOn_none (b : UInt8) (bs : List UInt8) : readOn none (b :: bs) =
    match firstByte b with
    | .char c => some c :: readOn none bs
    | .opens p => readOn (some p) bs
    | .stray => none :: readOn none bs := rfl

theorem readOn_some (p : PartialChar) (b : UInt8) (bs : List UInt8) : readOn (some p) (b :: bs) =
    if p.least ≤ b ∧ b ≤ p.greatest then
      if p.missing ≤ 1 then some (Char.ofNat (p.bits * 64 + (b.toNat - 128))) :: readOn none bs
      else readOn (some ⟨p.bits * 64 + (b.toNat - 128), p.missing - 1, 0x80, 0xBF⟩) bs
    else none :: readOn none (b :: bs) := rfl

theorem toNat_asciiByte (hc : IsAscii c) : (asciiByte c).toNat = c.toNat := by
  rw [asciiByte, UInt8.toNat_ofNat']
  exact Nat.mod_eq_of_lt (Nat.lt_trans hc (by decide))

theorem ofNat_ne {n : Nat} (hc : IsAscii c) (hzero : c ≠ '\x00') (hn : 128 ≤ n) :
    Char.ofNat n ≠ c := by
  rintro rfl
  unfold IsAscii at hc
  by_cases hvalid : n.isValidChar
  · rw [toNat_ofNat hvalid] at hc
    omega
  · exact hzero (by rw [Char.ofNat, dif_neg hvalid]; rfl)

theorem ne_asciiByte (hc : IsAscii c) (hb : 128 ≤ b.toNat) : b ≠ asciiByte c := by
  rintro rfl
  rw [toNat_asciiByte hc] at hb
  exact absurd hc (Nat.not_lt.2 hb)

theorem count_readOn (hc : IsAscii c) (hzero : c ≠ '\x00') (open? : Option PartialChar)
    (hopen : ∀ p, open? = some p → p.Long) :
    (readOn open? bs).count (some c) = bs.count (asciiByte c) := by
  induction bs generalizing open? with
  | nil => cases open? <;> rfl
  | cons b bs ih =>
    have fresh : (readOn none bs).count (some c) = bs.count (asciiByte c) := ih none (by simp)
    have started : (readOn none (b :: bs)).count (some c) = (b :: bs).count (asciiByte c) := by
      rw [readOn_none]
      rcases firstByte_cases b with ⟨hlow, hfirst⟩ | ⟨hhigh, hfirst | ⟨p, hfirst, hlong⟩⟩
      · have same : Char.ofNat b.toNat = c ↔ b = asciiByte c := by
          have hvalid : b.toNat.isValidChar := .inl (by omega)
          rw [← Char.toNat_inj, toNat_ofNat hvalid, ← UInt8.toNat_inj, toNat_asciiByte hc]
        simp only [hfirst, List.count_cons, fresh, beq_iff_eq, Option.some.injEq, same]
      · simp only [hfirst]
        rw [List.count_cons_of_ne (by simp), List.count_cons_of_ne (ne_asciiByte hc hhigh), fresh]
      · simp only [hfirst]
        rw [List.count_cons_of_ne (ne_asciiByte hc hhigh)]
        exact ih (some p) fun q hq => Option.some.inj hq ▸ hlong
    cases open? with
    | none => exact started
    | some p =>
      have hlong := hopen p rfl
      rw [readOn_some]
      split
      · rename_i hrange
        have htail := hlong.tail
        have hlow := UInt8.le_iff_toNat_le.1 hrange.1
        rw [List.count_cons_of_ne (ne_asciiByte hc (by omega))]
        split
        · rename_i hlast
          have hne := ofNat_ne hc hzero (hlong.last hrange.1 hlast)
          rw [List.count_cons_of_ne (by simpa using hne), fresh]
        · rename_i hmore
          exact ih _ fun q hq => Option.some.inj hq ▸ hlong.next hrange.1 hmore
      · rw [List.count_cons_of_ne (by simp), started]

/-- What stands for malformed bytes is not ASCII. -/
theorem count_ofUtf8Lossy (hc : IsAscii c) (hzero : c ≠ '\x00') (bytes : List UInt8) :
    (ofUtf8Lossy bytes).count c = bytes.count (asciiByte c) := by
  have same (x : Option Char) : x.getD '\uFFFD' = c ↔ x = some c := by
    cases x with
    | some d => simp
    | none =>
      have hne : '\uFFFD' ≠ c := by
        rintro rfl
        exact absurd hc (by decide)
      simpa using hne
  rw [← count_readOn hc hzero none (by simp), ofUtf8Lossy, readUtf8, List.count, List.countP_map,
    List.count]
  apply List.countP_congr
  intro x _
  simp [same]

end Reading

/-- The lines of the bytes, each with the line feed that ends it; there may be none at the end of
the last. -/
def byteLines : List UInt8 → List (List UInt8)
  | [] => []
  | b :: bs =>
    if b = lineFeed then [b] :: byteLines bs
    else match byteLines bs with
      | [] => [[b]]
      | line :: more => (b :: line) :: more

section Lines
variable {lines : List (List UInt8)}

theorem byteLines_append {body : List UInt8} (h : lineFeed ∉ body) (rest : List UInt8) :
    byteLines (body ++ lineFeed :: rest) = (body ++ [lineFeed]) :: byteLines rest := by
  induction body with
  | nil => rw [List.nil_append, byteLines, if_pos rfl, List.nil_append]
  | cons b body ih =>
    rw [List.mem_cons, not_or] at h
    rw [List.cons_append, byteLines, if_neg (Ne.symm h.1), ih h.2]
    rfl

theorem getLast?_flatten (h : ∀ line ∈ lines, line.getLast? = some lineFeed) :
    lines.flatten = [] ∨ lines.flatten.getLast? = some lineFeed := by
  rcases List.eq_nil_or_concat lines with rfl | ⟨front, last, rfl⟩
  · exact .inl rfl
  · right
    rw [List.concat_eq_append, List.flatten_append, List.flatten_singleton, List.getLast?_append,
      h last (by simp), Option.some_or]

theorem length_byteLines {bytes : List UInt8}
    (h : bytes = [] ∨ bytes.getLast? = some lineFeed) :
    (byteLines bytes).length = bytes.count lineFeed := by
  induction bytes with
  | nil => rfl
  | cons b bs ih =>
    have hlast : (b :: bs).getLast? = some lineFeed := h.resolve_left (List.cons_ne_nil b bs)
    rw [byteLines]
    cases bs with
    | nil =>
      obtain rfl : b = lineFeed := Option.some.inj hlast
      rfl
    | cons d bs =>
      rw [List.getLast?_cons_cons] at hlast
      have hrest := ih (.inr hlast)
      split
      · rename_i hb
        rw [hb, List.count_cons_self, List.length_cons, hrest]
      · rename_i hb
        rw [List.count_cons_of_ne hb, ← hrest]
        have some_line : 0 < (byteLines (d :: bs)).length := by
          rw [hrest]
          exact List.count_pos_iff.2 (List.mem_of_getLast? hlast)
        cases hlines : byteLines (d :: bs) with
        | nil => exact absurd some_line (by rw [hlines]; exact Nat.lt_irrefl 0)
        | cons line more => rfl

theorem count_pos (h : ∀ line ∈ lines, line.getLast? = some lineFeed) :
    ∀ line ∈ lines, 1 ≤ line.count lineFeed :=
  fun line hline => List.count_pos_iff.2 (List.mem_of_getLast? (h line hline))

theorem length_le_count_flatten (h : ∀ line ∈ lines, line.getLast? = some lineFeed) :
    lines.length ≤ lines.flatten.count lineFeed := by
  induction lines with
  | nil => exact Nat.le_refl 0
  | cons line rest ih =>
    have hline := count_pos h line List.mem_cons_self
    have hrest := ih fun l hl => h l (List.mem_cons_of_mem _ hl)
    rw [List.flatten_cons, List.count_append, List.length_cons]
    omega

/-- Whether lines are found again is a matter of how many line feeds they have. -/
theorem byteLines_flatten_iff (h : ∀ line ∈ lines, line.getLast? = some lineFeed) :
    byteLines lines.flatten = lines ↔ lines.flatten.count lineFeed = lines.length := by
  constructor
  · intro heq
    rw [← length_byteLines (getLast?_flatten h), heq]
  · intro hcount
    induction lines with
    | nil => rfl
    | cons line rest ih =>
      have hends := List.forall_mem_cons.1 h
      have hline := count_pos h line List.mem_cons_self
      have hrest := length_le_count_flatten hends.2
      rw [List.flatten_cons, List.count_append, List.length_cons] at hcount
      obtain ⟨body, rfl⟩ := List.getLast?_eq_some_iff.1 hends.1
      have bare : lineFeed ∉ body := by
        rw [← List.count_eq_zero]
        rw [List.count_append, List.count_singleton_self] at hcount hline
        omega
      rw [List.flatten_cons, List.append_assoc, List.singleton_append, byteLines_append bare,
        ih hends.2 (by omega)]

end Lines
end SeriesBench.Text
