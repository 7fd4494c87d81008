import SeriesBench.Proofs.Success
import SeriesBench.Proofs.Time.DateText
import SeriesBench.Proofs.Time.Steady
import SeriesBench.Series.Id

set_option autoImplicit false

namespace SeriesBench
open SeriesBench.Time SeriesBench.Text

/-- Parts whose separators in an id are the only ones. -/
structure Separable (measurement : String) (tags : List (String × String)) (field : String) :
    Prop where
  measurement_ne : measurement.toList ≠ []
  measurement_comma : ',' ∉ measurement.toList
  measurement_hash : '#' ∉ measurement.toList
  key_comma : ∀ t ∈ tags, ',' ∉ t.1.toList
  key_equals : ∀ t ∈ tags, '=' ∉ t.1.toList
  key_hash : ∀ t ∈ tags, '#' ∉ t.1.toList
  value_comma : ∀ t ∈ tags, ',' ∉ t.2.toList
  value_hash : ∀ t ∈ tags, '#' ∉ t.2.toList
  field_ne : field.toList ≠ []
  field_hash : '#' ∉ field.toList

def tagChars (t : String × String) : List Char := t.1.toList ++ '=' :: t.2.toList

def keyChars (measurement : String) (tags : List (String × String)) : List Char :=
  measurement.toList ++ tags.flatMap fun t => ',' :: tagChars t

theorem toList_seriesId (measurement : String) (tags : List (String × String)) (field : String)
    (day : Date) : (seriesId measurement tags field day).toList =
      keyChars measurement tags ++ '#' :: (field.toList ++ '#' :: day.text) := by
  have tagText : (String.join (tags.map fun t => "," ++ t.1 ++ "=" ++ t.2)).toList =
      tags.flatMap fun t => ',' :: tagChars t := by
    rw [String.toList_join, List.flatMap_map]
    apply List.flatMap_congr
    intro t _
    simp [tagChars]
  have hash : "#".toList = ['#'] := rfl
  simp only [seriesId, String.toList_append, tagText, hash, String.toList_ofList, keyChars,
    List.append_assoc, List.cons_append, List.nil_append]

theorem not_mem_text {c : Char} (hdigit : c.isDigit = false) (hminus : c ≠ '-') (hplus : c ≠ '+')
    (d : Date) : c ∉ d.text := by
  have notDigit {width n : Nat} : c ∉ padded width n := by
    intro h
    rw [isDigit_of_mem_padded h] at hdigit
    exact absurd hdigit (by simp)
  have year : c ∉ Date.yearText d.year := by
    unfold Date.yearText
    split
    · simp [notDigit, hminus]
    · split
      · exact notDigit
      · simp [notDigit, hplus]
  simp [Date.text, notDigit, year, hminus]

theorem hash_not_mem_text (d : Date) : '#' ∉ d.text :=
  not_mem_text rfl (by decide) (by decide) d

section Parts
variable {measurement field : String} {tags : List (String × String)}

theorem pieces_comma (hm : ',' ∉ measurement.toList) (ht : ∀ t ∈ tags, ',' ∉ tagChars t) :
    pieces (· == ',') (keyChars measurement tags) = (measurement.toList, tags.map tagChars) := by
  have cut : split ',' (keyChars measurement tags) =
      measurement.toList :: tags.map tagChars := by
    unfold keyChars
    generalize measurement.toList = front at hm
    induction tags generalizing front with
    | nil =>
      rw [List.flatMap_nil, List.append_nil]
      exact split_of_not_mem hm
    | cons t rest ih =>
      rw [List.flatMap_cons, List.cons_append, split_append hm, List.map_cons]
      rw [ih (fun u hu => ht u (by simp [hu])) _ (ht t (by simp))]
  rw [split, splitWhere, List.cons.injEq] at cut
  exact Prod.ext cut.1 cut.2

theorem comma_not_mem_tagChars (h : Separable measurement tags field) :
    ∀ t ∈ tags, ',' ∉ tagChars t := by
  intro t ht
  simp [tagChars, h.key_comma t ht, h.value_comma t ht]

theorem hash_not_mem_keyChars (h : Separable measurement tags field) :
    '#' ∉ keyChars measurement tags := by
  simp only [keyChars, List.mem_append, List.mem_flatMap, not_or, not_exists, not_and]
  refine ⟨h.measurement_hash, ?_⟩
  intro t ht
  simp [tagChars, h.key_hash t ht, h.value_hash t ht]

theorem split_seriesId (h : Separable measurement tags field) (day : Date) :
    split '#' (seriesId measurement tags field day).toList =
      [keyChars measurement tags, field.toList, day.text] := by
  rw [toList_seriesId, split_append (hash_not_mem_keyChars h), split_append h.field_hash,
    split_of_not_mem (hash_not_mem_text day)]

theorem readTag_tagChars (id : String) {t : String × String} (h : '=' ∉ t.1.toList) :
    readTag id (tagChars t) = .ok t := by
  rw [readTag, tagChars, splitOnce_append h]
  simp only [String.ofList_toList]

theorem mapM_readTag (id : String) (h : ∀ t ∈ tags, '=' ∉ t.1.toList) :
    (tags.map tagChars).mapM (readTag id) = .ok tags := by
  rw [mapM_eq_ok_iff, List.forall₂_map_left_iff]
  induction tags with
  | nil => exact .nil
  | cons t rest ih =>
    exact .cons (readTag_tagChars id (h t (by simp))) (ih fun u hu => h u (by simp [hu]))

theorem fieldLabel_seriesId (h : Separable measurement tags field) (day : Date) :
    fieldLabel (seriesId measurement tags field day) = .ok field := by
  rw [fieldLabel, split_seriesId h]
  simp only [List.reverse_cons, List.reverse_nil, List.nil_append, List.cons_append,
    String.ofList_toList]

/-- The series that has an id: there is one unless the day is none of timestamps. -/
theorem ofId_seriesId (h : Separable measurement tags field) {day : Date} (hvalid : day.Valid)
    (hlow : Date.minYear ≤ day.year) (hhigh : day.year ≤ Date.maxYear) (table : String) :
    Series.ofId table (seriesId measurement tags field day) =
      match dayInterval? day.toDay with
      | none => .error (.seriesId (seriesId measurement tags field day) .dayRange)
      | some interval => .ok {
          table, measurement, field, interval
          id := seriesId measurement tags field day
          tags := StringMap.ofList tags } := by
  have hmeasurement : measurement.toList.isEmpty = false :=
    List.isEmpty_eq_false_iff.2 h.measurement_ne
  have hfield : field.toList.isEmpty = false := List.isEmpty_eq_false_iff.2 h.field_ne
  rw [Series.ofId, split_seriesId h]
  cases hinterval : dayInterval? day.toDay
  all_goals
    simp only [pieces_comma h.measurement_comma (comma_not_mem_tagChars h), hmeasurement, hfield,
      Bool.false_eq_true, if_false, mapM_readTag _ h.key_equals, bind, Except.bind,
      Date.read?_text hvalid hlow hhigh, String.ofList_toList, hinterval]

end Parts

theorem dayInterval?_eq_some {day : Int} {i : Interval} (h : dayInterval? day = some i) :
    i.start = day * nanosPerDay ∧ i.stop = (day + 1) * nanosPerDay := by
  simp only [dayInterval?, Timestamp.ofInt?, Interval.between?, Option.bind_eq_bind,
    Option.bind_eq_some_iff, Option.dite_none_right_eq_some, Option.some.injEq] at h
  obtain ⟨_, ⟨_, rfl⟩, _, ⟨_, rfl⟩, _, rfl⟩ := h
  simp only [secondsPerDay, nanosPerSecond, nanosPerDay]
  omega

theorem exists_dayInterval {day : Int} (hlow : minTimestamp ≤ day * nanosPerDay)
    (hhigh : (day + 1) * nanosPerDay ≤ maxTimestamp) : ∃ i, dayInterval? day = some i := by
  have start : day * secondsPerDay * nanosPerSecond = day * nanosPerDay := by
    simp only [secondsPerDay, nanosPerSecond, nanosPerDay]
    omega
  have stop : (day + 1) * secondsPerDay * nanosPerSecond = (day + 1) * nanosPerDay := by
    simp only [secondsPerDay, nanosPerSecond, nanosPerDay]
    omega
  have order : day * nanosPerDay ≤ (day + 1) * nanosPerDay := by
    simp only [nanosPerDay]
    omega
  unfold dayInterval? Timestamp.ofInt?
  rw [start, stop, dif_pos ⟨hlow, by omega⟩, dif_pos ⟨by omega, hhigh⟩]
  exact ⟨_, dif_pos order⟩

theorem Series.ofId_eq_ok {table id : String} {s : Series} (h : Series.ofId table id = .ok s) :
    ∃ key field day date, split '#' id.toList = [key, field, day] ∧ Date.read? day = some date ∧
      dayInterval? date.toDay = some s.interval ∧ s.id = id ∧ s.field = String.ofList field := by
  unfold Series.ofId at h
  split at h
  · rename_i key field day hsplit
    dsimp only at h
    split at h
    · exact absurd h (by simp)
    · split at h
      · exact absurd h (by simp)
      · obtain ⟨tags, -, h⟩ := bind_eq_ok_iff.1 h
        split at h
        · exact absurd h (by simp)
        · rename_i date hdate
          split at h
          · exact absurd h (by simp)
          · rename_i interval hinterval
            obtain rfl := Except.ok.inj h
            exact ⟨key, field, day, date, hsplit, hdate, hinterval, rfl, rfl⟩
  · exact absurd h (by simp)

/-- An id that is read back has the interval of its day, even if its other parts are not those that
it was made of. -/
theorem interval_of_ofId_seriesId {measurement field table : String} {tags : List (String × String)}
    {day : Date} (hvalid : day.Valid) (hlow : Date.minYear ≤ day.year)
    (hhigh : day.year ≤ Date.maxYear) {s : Series}
    (h : Series.ofId table (seriesId measurement tags field day) = .ok s) :
    dayInterval? day.toDay = some s.interval := by
  obtain ⟨key, label, text, date, hsplit, hdate, hinterval, -⟩ := Series.ofId_eq_ok h
  rw [toList_seriesId, split_append_cons, split_append_cons,
    split_of_not_mem (hash_not_mem_text day), ← List.append_assoc] at hsplit
  have last := congrArg List.getLast? hsplit
  rw [List.getLast?_concat] at last
  obtain rfl : day.text = text := Option.some.inj last
  rw [Date.read?_text hvalid hlow hhigh] at hdate
  obtain rfl := Option.some.inj hdate
  exact hinterval

end SeriesBench
