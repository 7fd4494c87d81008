import SeriesBench.Text.Utf8

set_option autoImplicit false

namespace SeriesBench.Text

def IsAscii (c : Char) : Prop := c.toNat < 128

instance (c : Char) : Decidable (IsAscii c) := inferInstanceAs (Decidable (_ < _))

def asciiByte (c : Char) : UInt8 := UInt8.ofNat c.toNat

theorem toNat_ofNat {n : Nat} (h : n.isValidChar) : (Char.ofNat n).toNat = n := by
  rw [Char.ofNat, dif_pos h]
  rfl

theorem utf8_append (s t : List Char) : utf8 (s ++ t) = utf8 s ++ utf8 t := List.flatMap_append

theorem utf8_ascii_cons {c : Char} (hc : IsAscii c) (s : List Char) :
    utf8 (c :: s) = asciiByte c :: utf8 s := by
  have hval : c.val.toNat ≤ 127 := Nat.le_of_lt_succ hc
  have single : String.utf8EncodeChar c = [asciiByte c] := by
    unfold String.utf8EncodeChar
    rw [if_pos hval]
    rfl
  rw [utf8, List.flatMap_cons, single]
  rfl

theorem utf8_injective {s t : List Char} (h : utf8 s = utf8 t) : s = t := by
  have encoded : s.utf8Encode = t.utf8Encode := congrArg List.toByteArray h
  rw [← String.toByteArray_ofList, ← String.toByteArray_ofList] at encoded
  have same := congrArg String.toList (String.toByteArray_inj.1 encoded)
  simpa only [String.toList_ofList] using same

theorem toNat_eq_of_mem_encode {b : UInt8} {c : Char} (hb : b ∈ String.utf8EncodeChar c)
    (hlow : b.toNat < 128) : c.toNat = b.toNat := by
  unfold String.utf8EncodeChar at hb
  dsimp only at hb
  change c.val.toNat = b.toNat
  split at hb
  · rw [List.mem_singleton] at hb
    subst hb
    rw [UInt8.toNat_ofNat']
    omega
  · -- The bytes of a longer character all have their highest bit set.
    exfalso
    repeat' split at hb
    all_goals
      simp only [List.mem_cons, List.not_mem_nil, or_false] at hb
      rcases hb with rfl | rfl | rfl | rfl
    all_goals
      rw [UInt8.toNat_ofNat'] at hlow
      omega

theorem asciiByte_not_mem_utf8 {c : Char} (hc : IsAscii c) {s : List Char} (hs : c ∉ s) :
    asciiByte c ∉ utf8 s := by
  intro h
  obtain ⟨d, hd, hb⟩ := List.mem_flatMap.1 h
  have hbyte : (asciiByte c).toNat = c.toNat := by
    unfold IsAscii at hc
    rw [asciiByte, UInt8.toNat_ofNat']
    omega
  have hval := toNat_eq_of_mem_encode hb (hbyte ▸ hc)
  rw [hbyte] at hval
  exact hs (Char.toNat_inj.1 hval ▸ hd)

theorem getLast?_utf8 {c : Char} (hc : IsAscii c) (s : List Char) :
    (utf8 s).getLast? = some (asciiByte c) ↔ s.getLast? = some c := by
  rcases List.eq_nil_or_concat s with rfl | ⟨front, d, rfl⟩
  · simp [utf8]
  · have single : utf8 [d] = String.utf8EncodeChar d := List.flatMap_singleton ..
    have last : (utf8 (front ++ [d])).getLast? = (String.utf8EncodeChar d).getLast? := by
      rw [utf8_append, single, List.getLast?_append,
        List.getLast?_eq_some_getLast String.utf8EncodeChar_ne_nil, Option.some_or]
    have low : (asciiByte c).toNat = c.toNat := by
      rw [asciiByte, UInt8.toNat_ofNat']
      exact Nat.mod_eq_of_lt (Nat.lt_trans hc (by decide))
    rw [List.concat_eq_append, last, List.getLast?_concat, Option.some.injEq]
    constructor
    · intro h
      have same := toNat_eq_of_mem_encode (List.mem_of_getLast? h) (low ▸ hc)
      exact Char.toNat_inj.1 (same.trans low)
    · rintro rfl
      have alone := utf8_ascii_cons hc []
      rw [single] at alone
      rw [alone]
      rfl

theorem isEmpty_utf8 (text : List Char) : (utf8 text).isEmpty = text.isEmpty := by
  cases text with
  | nil => rfl
  | cons c cs => simp [utf8, String.utf8EncodeChar_ne_nil]

theorem eq_of_append_cons {α : Type} {sep : α} {a b c d : List α} (ha : sep ∉ a) (hc : sep ∉ c)
    (h : a ++ sep :: b = c ++ sep :: d) : a = c ∧ b = d := by
  induction a generalizing c with
  | nil =>
    cases c with
    | nil => exact ⟨rfl, (List.cons.inj h).2⟩
    | cons x c => exact absurd (List.cons.inj h).1 (List.ne_of_not_mem_cons hc)
  | cons x a ih =>
    cases c with
    | nil => exact absurd (List.cons.inj h).1.symm (List.ne_of_not_mem_cons ha)
    | cons y c =>
      obtain ⟨rfl, hrest⟩ := List.cons.inj h
      have htail := ih (List.not_mem_of_not_mem_cons ha) (List.not_mem_of_not_mem_cons hc) hrest
      exact ⟨by rw [htail.1], htail.2⟩

/-- Bytes are cut at a separator in one way only. -/
theorem eq_of_utf8_append_cons {sep : Char} (hsep : IsAscii sep) {s t : List Char}
    {a b : List UInt8} (hs : sep ∉ s) (ht : sep ∉ t)
    (h : utf8 s ++ asciiByte sep :: a = utf8 t ++ asciiByte sep :: b) : s = t ∧ a = b := by
  obtain ⟨hfront, hback⟩ := eq_of_append_cons (asciiByte_not_mem_utf8 hsep hs)
    (asciiByte_not_mem_utf8 hsep ht) h
  exact ⟨utf8_injective hfront, hback⟩

end SeriesBench.Text
