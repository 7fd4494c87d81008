import SeriesBench.Text.Utf8

set_option autoImplicit false

namespace SeriesBench.Text

section Steps
variable {b least greatest : UInt8} {bs : List UInt8} {bits missing : Nat}

theorem readOn_opens {p : PartialChar} (h : firstByte b = .opens p) :
    readOn none (b :: bs) = readOn (some p) bs := by
  rw [readOn]
  simp only [h]

theorem readOn_more (hlow : least ≤ b) (hhigh : b ≤ greatest) :
    readOn (some ⟨bits, missing + 2, least, greatest⟩) (b :: bs) =
      readOn (some ⟨bits * 64 + (b.toNat - 128), missing + 1, 0x80, 0xBF⟩) bs := by
  have more : ¬ missing + 2 ≤ 1 := by omega
  rw [readOn]
  simp only [hlow, hhigh, and_self, if_true, more, if_false]
  rfl

theorem readOn_last (hlow : least ≤ b) (hhigh : b ≤ greatest) :
    readOn (some ⟨bits, 1, least, greatest⟩) (b :: bs) =
      some (Char.ofNat (bits * 64 + (b.toNat - 128))) :: readOn none bs := by
  rw [readOn]
  simp only [hlow, hhigh, and_self, if_true, Nat.le_refl]

end Steps

section Tails
variable {n : Nat}

theorem toNat_tail : (UInt8.ofNat (n % 64 + 128)).toNat = n % 64 + 128 := by
  rw [UInt8.toNat_ofNat']
  omega

theorem least_le_tail : (0x80 : UInt8) ≤ UInt8.ofNat (n % 64 + 128) := by
  rw [UInt8.le_iff_toNat_le, toNat_tail]
  exact Nat.le_add_left _ _

theorem tail_le_greatest : UInt8.ofNat (n % 64 + 128) ≤ (0xBF : UInt8) := by
  rw [UInt8.le_iff_toNat_le, toNat_tail]
  change n % 64 + 128 ≤ 191
  omega

end Tails

theorem firstByte_one {n : Nat} (h : n ≤ 127) : firstByte (UInt8.ofNat n) = .char (Char.ofNat n) := by
  have value : (UInt8.ofNat n).toNat = n := by
    rw [UInt8.toNat_ofNat']
    omega
  unfold firstByte
  simp only [value]
  rw [if_pos (by omega)]

theorem firstByte_two {n : Nat} (hlow : 127 < n) (hhigh : n ≤ 2047) :
    firstByte (UInt8.ofNat (n / 64 % 32 + 192)) = .opens ⟨n / 64, 1, 0x80, 0xBF⟩ := by
  have value : (UInt8.ofNat (n / 64 % 32 + 192)).toNat = n / 64 + 192 := by
    rw [UInt8.toNat_ofNat']
    omega
  unfold firstByte
  simp only [value]
  rw [if_neg (by omega), if_neg (by omega), if_pos (by omega), Nat.add_sub_cancel]

/-- The bounds of the second byte leave out shorter characters and halves of surrogate pairs. -/
theorem firstByte_three {n : Nat} (hlow : 2047 < n) (hhigh : n ≤ 65535)
    (hhalf : n < 55296 ∨ 57343 < n) : ∃ least greatest : UInt8,
      firstByte (UInt8.ofNat (n / 4096 % 16 + 224)) = .opens ⟨n / 4096, 2, least, greatest⟩ ∧
      least.toNat ≤ n / 64 % 64 + 128 ∧ n / 64 % 64 + 128 ≤ greatest.toNat := by
  have value : (UInt8.ofNat (n / 4096 % 16 + 224)).toNat = n / 4096 + 224 := by
    rw [UInt8.toNat_ofNat']
    omega
  unfold firstByte
  simp only [value]
  rw [if_neg (by omega), if_neg (by omega), if_neg (by omega)]
  by_cases hfirst : n / 4096 = 0
  · refine ⟨0xA0, 0xBF, by simp [hfirst], ?_, ?_⟩
    · change 160 ≤ _
      omega
    · change _ ≤ 191
      omega
  · rw [if_neg (by omega)]
    by_cases hlast : n / 4096 = 13
    · refine ⟨0x80, 0x9F, by simp [hlast], ?_, ?_⟩
      · change 128 ≤ _
        omega
      · change _ ≤ 159
        omega
    · rw [if_neg (by omega), if_pos (by omega), Nat.add_sub_cancel]
      refine ⟨0x80, 0xBF, rfl, ?_, ?_⟩
      · change 128 ≤ _
        omega
      · change _ ≤ 191
        omega

theorem firstByte_four {n : Nat} (hlow : 65535 < n) (hhigh : n < 1114112) :
    ∃ least greatest : UInt8,
      firstByte (UInt8.ofNat (n / 262144 % 8 + 240)) = .opens ⟨n / 262144, 3, least, greatest⟩ ∧
      least.toNat ≤ n / 4096 % 64 + 128 ∧ n / 4096 % 64 + 128 ≤ greatest.toNat := by
  have value : (UInt8.ofNat (n / 262144 % 8 + 240)).toNat = n / 262144 + 240 := by
    rw [UInt8.toNat_ofNat']
    omega
  unfold firstByte
  simp only [value]
  rw [if_neg (by omega), if_neg (by omega), if_neg (by omega), if_neg (by omega),
    if_neg (by omega), if_neg (by omega)]
  by_cases hfirst : n / 262144 = 0
  · refine ⟨0x90, 0xBF, by simp [hfirst], ?_, ?_⟩
    · change 144 ≤ _
      omega
    · change _ ≤ 191
      omega
  · rw [if_neg (by omega)]
    by_cases hlast : n / 262144 = 4
    · refine ⟨0x80, 0x8F, by simp [hlast], ?_, ?_⟩
      · change 128 ≤ _
        omega
      · change _ ≤ 143
        omega
    · rw [if_pos (by omega), Nat.add_sub_cancel]
      refine ⟨0x80, 0xBF, rfl, ?_, ?_⟩
      · change 128 ≤ _
        omega
      · change _ ≤ 191
        omega

theorem readOn_encode (c : Char) (bs : List UInt8) :
    readOn none (String.utf8EncodeChar c ++ bs) = some c :: readOn none bs := by
  have valid : c.val.toNat < 55296 ∨ 57343 < c.val.toNat ∧ c.val.toNat < 1114112 := c.valid
  have char {n : Nat} (h : n = c.val.toNat) : Char.ofNat n = c := h ▸ Char.ofNat_toNat c
  unfold String.utf8EncodeChar
  generalize c.val.toNat = n at valid char
  dsimp only
  -- a case for each length; only the first byte and the bounds of the second tell them apart
  split
  · rename_i hone
    rw [List.cons_append, List.nil_append, readOn]
    simp only [firstByte_one hone, char rfl]
  · split
    · rename_i hone htwo
      rw [List.cons_append, List.cons_append, List.nil_append,
        readOn_opens (firstByte_two (by omega) htwo),
        readOn_last least_le_tail tail_le_greatest, toNat_tail]
      rw [char (by omega)]
    · split
      · rename_i htwo hthree
        obtain ⟨least, greatest, hfirst, hlow, hhigh⟩ :=
          firstByte_three (n := n) (by omega) hthree (by omega)
        rw [← toNat_tail, ← UInt8.le_iff_toNat_le] at hlow hhigh
        rw [List.cons_append, List.cons_append, List.cons_append, List.nil_append,
          readOn_opens hfirst, readOn_more hlow hhigh,
          readOn_last least_le_tail tail_le_greatest, toNat_tail, toNat_tail]
        rw [char (by omega)]
      · rename_i hthree
        obtain ⟨least, greatest, hfirst, hlow, hhigh⟩ :=
          firstByte_four (n := n) (by omega) (by omega)
        rw [← toNat_tail, ← UInt8.le_iff_toNat_le] at hlow hhigh
        rw [List.cons_append, List.cons_append, List.cons_append, List.cons_append,
          List.nil_append, readOn_opens hfirst, readOn_more hlow hhigh,
          readOn_more least_le_tail tail_le_greatest,
          readOn_last least_le_tail tail_le_greatest, toNat_tail, toNat_tail, toNat_tail]
        rw [char (by omega)]

theorem readUtf8_utf8 (s : List Char) : readUtf8 (utf8 s) = s.map some := by
  induction s with
  | nil => rfl
  | cons c cs ih =>
    have step := readOn_encode c (utf8 cs)
    rw [readUtf8] at ih ⊢
    rw [utf8, List.flatMap_cons, List.map_cons, ← ih]
    exact step

theorem ofUtf8?_utf8 (s : List Char) : ofUtf8? (utf8 s) = some s := by
  rw [ofUtf8?, readUtf8_utf8]
  induction s with
  | nil => rfl
  | cons c cs ih => simp [ih]

end SeriesBench.Text
