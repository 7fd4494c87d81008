import SeriesBench.Proofs.Text.Numerals
import SeriesBench.Query.ForEvery

set_option autoImplicit false

namespace SeriesBench
open SeriesBench.Text

namespace ForEvery

structure CutAs (spec : String) (tag count : List Char) : Prop where
  text : spec.toList = tag ++ ',' :: count
  tag_free : ',' ∉ tag
  count_free : ',' ∉ count
  tag_ne : tag ≠ []

def IsCount (s : List Char) (n : Int) : Prop :=
  Numeral s n ∧ -9223372036854775808 ≤ n ∧ n ≤ 9223372036854775807

variable {spec : String} {tag count : List Char}

theorem cutAs_iff : CutAs spec tag count ↔ split ',' spec.toList = [tag, count] ∧ tag ≠ [] := by
  rw [split_eq_pair_iff]
  constructor
  · rintro ⟨htext, htag, hcount, hne⟩
    exact ⟨⟨htext, htag, hcount⟩, hne⟩
  · rintro ⟨⟨htext, htag, hcount⟩, hne⟩
    exact ⟨htext, htag, hcount, hne⟩

theorem readCount_eq_ok_iff {n : Int} :
    readInt 9223372036854775808 9223372036854775807 count = .ok n ↔ IsCount count n :=
  readInt_eq_ok_iff

theorem read_of_cutAs (h : CutAs spec tag count) :
    read spec = match readInt 9223372036854775808 9223372036854775807 count with
      | .ok n => .ok ⟨String.ofList tag, n⟩
      | .error fault => .error (.forEveryCount spec fault) := by
  obtain ⟨hsplit, hne⟩ := cutAs_iff.1 h
  obtain ⟨t, tag, rfl⟩ := List.exists_cons_of_ne_nil hne
  cases hread : readInt 9223372036854775808 9223372036854775807 count with
  | ok n => simp only [read, hsplit, hread]
  | error fault => simp only [read, hsplit, hread]

theorem read_of_not_cutAs (h : ∀ tag count, ¬ CutAs spec tag count) :
    read spec = .error (.forEveryShape spec) := by
  unfold read
  split
  · rename_i t tag count hsplit
    exact absurd (cutAs_iff.2 ⟨hsplit, List.cons_ne_nil t tag⟩) (h _ _)
  · rfl

/-- Whatever a text is read as, it has been cut, unless the error is about its shape. -/
theorem exists_cutAs (h : read spec ≠ .error (.forEveryShape spec)) :
    ∃ tag count, CutAs spec tag count := by
  by_contra hcut
  exact h (read_of_not_cutAs (by simpa using hcut))

theorem read_eq_ok_iff {f : ForEvery} : read spec = .ok f ↔
    ∃ count, CutAs spec f.tag.toList count ∧ IsCount count f.count := by
  constructor
  · intro h
    have hshape : read spec ≠ .error (.forEveryShape spec) := by simp [h]
    obtain ⟨tag, count, hcut⟩ := exists_cutAs hshape
    rw [read_of_cutAs hcut] at h
    split at h
    · rename_i n hn
      obtain rfl := Except.ok.inj h
      exact ⟨count, by rwa [String.toList_ofList], readCount_eq_ok_iff.1 hn⟩
    · exact absurd h (by simp)
  · rintro ⟨count, hcut, hcount⟩
    rw [read_of_cutAs hcut, readCount_eq_ok_iff.2 hcount, String.ofList_toList]

theorem read_eq_count_error_iff : (∃ fault, read spec = .error (.forEveryCount spec fault)) ↔
    ∃ tag count, CutAs spec tag count ∧ ∀ n, ¬ IsCount count n := by
  constructor
  · rintro ⟨fault, h⟩
    have hshape : read spec ≠ .error (.forEveryShape spec) := by simp [h]
    obtain ⟨tag, count, hcut⟩ := exists_cutAs hshape
    refine ⟨tag, count, hcut, ?_⟩
    intro n hn
    rw [read_of_cutAs hcut, readCount_eq_ok_iff.2 hn] at h
    exact absurd h (by simp)
  · rintro ⟨tag, count, hcut, hnone⟩
    rw [read_of_cutAs hcut]
    cases hread : readInt 9223372036854775808 9223372036854775807 count with
    | ok n => exact absurd (readCount_eq_ok_iff.1 hread) (hnone n)
    | error fault => exact ⟨fault, rfl⟩

theorem read_eq_shape_error_iff :
    read spec = .error (.forEveryShape spec) ↔ ∀ tag count, ¬ CutAs spec tag count := by
  refine ⟨?_, read_of_not_cutAs⟩
  intro h tag count hcut
  rw [read_of_cutAs hcut] at h
  split at h
  · exact absurd h (by simp)
  · exact absurd h (by simp)

/-- A text is read just when it has one comma, with a tag in front of it and behind it a numeral of
64 bits, and is read as these two. If it has the comma and a tag, but no such numeral, the error is
about the count, and otherwise about the shape. A tag and a count that are written as a spec are
read back. -/
theorem read_follows_grammar :
    (∀ spec, (∀ f, read spec = .ok f ↔
        ∃ count, CutAs spec f.tag.toList count ∧ IsCount count f.count) ∧
      ((∃ fault, read spec = .error (.forEveryCount spec fault)) ↔
        ∃ tag count, CutAs spec tag count ∧ ∀ n, ¬ IsCount count n) ∧
      (read spec = .error (.forEveryShape spec) ↔ ∀ tag count, ¬ CutAs spec tag count)) ∧
    ∀ (tag : String) (n : Int), tag ≠ "" → ',' ∉ tag.toList → -9223372036854775808 ≤ n →
      n ≤ 9223372036854775807 →
        read (tag ++ "," ++ String.ofList (signed n)) = .ok ⟨tag, n⟩ := by
  constructor
  · intro spec
    exact ⟨fun f => read_eq_ok_iff, read_eq_count_error_iff, read_eq_shape_error_iff⟩
  · intro tag n hne hfree hlow hhigh
    refine read_eq_ok_iff.2 ⟨signed n, ?_, numeral_signed n, hlow, hhigh⟩
    exact {
      text := by simp
      tag_free := hfree
      count_free := not_mem_signed rfl (by decide) n
      tag_ne := by simpa using hne }

end ForEvery
end SeriesBench
