import Mathlib.Algebra.GroupWithZero.Nat
import SeriesBench.Proofs.Point.Decoding
import SeriesBench.Proofs.Point.Timestamps
import SeriesBench.Proofs.Text.ByteLines

set_option autoImplicit false

namespace SeriesBench
open SeriesBench.Time SeriesBench.Text

def Value.lineFeeds : Value → Nat
  | .text s => s.toList.count '\n'
  | .bytes b => b.count lineFeed
  | _ => 0

def labelFeeds (entry : String × Value) : Nat :=
  entry.1.toList.count '\n' + entry.2.lineFeeds

namespace Point

def headFeeds (p : Point) : Nat :=
  p.measurement.toList.count '\n' + (p.liveTags.map labelFeeds).sum

structure OneLine (p : Point) : Prop where
  measurement : '\n' ∉ p.measurement.toList
  key : ∀ entry ∈ p.liveTags ++ p.liveFields, '\n' ∉ entry.1.toList
  text : ∀ entry ∈ p.liveTags ++ p.liveFields, ∀ s, entry.2 = .text s → '\n' ∉ s.toList
  bytes : ∀ entry ∈ p.liveTags ++ p.liveFields, ∀ b, entry.2 = .bytes b → lineFeed ∉ b

end Point

/-- The line feeds that the texts of a point bring into its lines. A line has each text once; a row
has one field, with measurement and tags. -/
def Format.strayFeeds : Format → Point → Nat
  | .lineProtocol, p =>
    if (LineProtocol.lineFields p).isEmpty then 0
    else p.headFeeds + (p.liveFields.map labelFeeds).sum
  | .bulkRows, p => (p.liveFields.map fun field => p.headFeeds + labelFeeds field).sum

theorem count_signed (n : Int) : (signed n).count '\n' = 0 :=
  List.count_eq_zero_of_not_mem (not_mem_signed rfl (by decide) n)

namespace Value

theorem count_chars (v : Value) : v.chars.count '\n' = v.lineFeeds := by
  cases v with
  | integer n => exact count_signed n.toInt
  | real x =>
    apply List.count_eq_zero_of_not_mem
    intro h
    exact absurd (LineProtocol.isValueChar_of_mem_floatText h) (by decide)
  | boolean b => cases b <;> rfl
  | text s => rfl
  | bytes b => exact count_ofUtf8Lossy (by decide) (by decide) b

theorem count_rowBytes (v : Value) : v.rowBytes.count lineFeed = v.lineFeeds := by
  have plain (v : Value) : (utf8 v.chars).count lineFeed = v.lineFeeds := by
    rw [← count_chars]
    exact count_utf8 (by decide) _
  cases v with
  | bytes b => rfl
  | integer n => exact plain (.integer n)
  | real x => exact plain (.real x)
  | boolean b => exact plain (.boolean b)
  | text s => exact plain (.text s)

theorem lineFeeds_eq_zero_iff {v : Value} : v.lineFeeds = 0 ↔
    (∀ s, v = .text s → '\n' ∉ s.toList) ∧ ∀ b, v = .bytes b → lineFeed ∉ b := by
  cases v with
  | text s => simp [lineFeeds, List.count_eq_zero]
  | bytes b => simp [lineFeeds, List.count_eq_zero]
  | integer n => simp [lineFeeds]
  | real x => simp [lineFeeds]
  | boolean b => simp [lineFeeds]

end Value

theorem labelFeeds_eq_zero_iff {entry : String × Value} : labelFeeds entry = 0 ↔
    '\n' ∉ entry.1.toList ∧ entry.2.lineFeeds = 0 := by
  rw [labelFeeds, Nat.add_eq_zero_iff, List.count_eq_zero]

namespace LineProtocol

theorem count_escape {c : Char} (hc : c ≠ '\\') (special : Char → Bool) (s : List Char) :
    (escape special s).count c = s.count c := by
  induction s with
  | nil => rfl
  | cons d s ih =>
    rw [escape_cons, List.count_append, ih]
    split
    · rw [List.count_cons_of_ne (Ne.symm hc), ← List.count_append, List.singleton_append]
    · rw [← List.count_append, List.singleton_append]

theorem count_keyChars (key : String) : (keyChars key).count '\n' = key.toList.count '\n' :=
  count_escape (by decide) _ _

theorem count_stringChars (s : List Char) : (stringChars s).count '\n' = s.count '\n' := by
  rw [stringChars, List.count_append, List.count_cons_of_ne (by decide),
    count_escape (by decide)]
  rfl

theorem count_fieldChars (v : Value) : (fieldChars v).count '\n' = v.lineFeeds := by
  cases v with
  | integer n =>
    rw [fieldChars, List.count_append, count_signed]
    rfl
  | real x => exact Value.count_chars (.real x)
  | boolean b => exact Value.count_chars (.boolean b)
  | text s => exact count_stringChars s.toList
  | bytes b => exact (count_stringChars _).trans (Value.count_chars (.bytes b))

theorem count_tagText (tag : String × String) :
    (tagText tag).count '\n' = tag.1.toList.count '\n' + tag.2.toList.count '\n' := by
  rw [tagText, List.cons_append, List.count_cons_of_ne (by decide), List.count_append,
    List.count_cons_of_ne (by decide), count_keyChars, count_keyChars]

theorem count_fieldText {separator : Char} (hsep : separator ≠ '\n') (field : String × Value) :
    (fieldText separator field).count '\n' = labelFeeds field := by
  rw [fieldText, List.cons_append, List.count_cons_of_ne hsep, List.count_append,
    List.count_cons_of_ne (by decide), count_keyChars, count_fieldChars, labelFeeds]

theorem count_tagTexts (tags : List (String × Value)) :
    ((textTags tags).flatMap tagText).count '\n' +
      ((tags.filter fun tag => !tag.2.isText).map labelFeeds).sum = (tags.map labelFeeds).sum := by
  induction tags with
  | nil => rfl
  | cons tag tags ih =>
    obtain ⟨key, value⟩ := tag
    rw [List.map_cons, List.sum_cons, ← ih]
    cases value with
    | text s =>
      change ((tagText (key, s) ++ (textTags tags).flatMap tagText).count '\n') + _ = _
      rw [List.count_append, count_tagText, Nat.add_assoc]
      rfl
    | integer => exact Nat.add_left_comm _ _ _
    | real => exact Nat.add_left_comm _ _ _
    | boolean => exact Nat.add_left_comm _ _ _
    | bytes => exact Nat.add_left_comm _ _ _

theorem count_endText (p : Point) : (endText p).count '\n' = 1 := by
  rcases endText_cases p with ⟨-, hend⟩ | ⟨t, -, hend⟩
  · rw [hend]
    rfl
  · rw [hend, List.cons_append, List.count_cons_of_ne (by decide), List.count_append, count_signed]
    rfl

theorem getLast?_endText (p : Point) : (endText p).getLast? = some '\n' := by
  rw [endText, List.getLast?_concat]

theorem count_pieces {p : Point} (h : lineFields p ≠ []) :
    (pieces p).flatten.count '\n' = Format.lineProtocol.strayFeeds p + 1 := by
  obtain ⟨first, more, hfields⟩ := List.exists_cons_of_ne_nil h
  have rest : (more.flatMap (fieldText ',')).count '\n' = (more.map labelFeeds).sum := by
    rw [List.count_flatMap]
    congr 1
    apply List.map_congr_left
    intro field _
    exact count_fieldText (by decide) field
  have front (field : String × Value) : (fieldText ' ' field).count '\n' = labelFeeds field :=
    count_fieldText (by decide) field
  have fields : (lineFields p).map labelFeeds =
      (p.liveTags.filter fun tag => !tag.2.isText).map labelFeeds ++ p.liveFields.map labelFeeds :=
    List.map_append
  have sum := congrArg List.sum fields
  rw [hfields, List.map_cons, List.sum_cons, List.sum_append] at sum
  rw [flatten_linePieces hfields, Format.strayFeeds, if_neg (by simpa using h), Point.headFeeds,
    ← count_tagTexts]
  simp only [List.count_append, count_escape (c := '\n') (by decide), front, rest, count_endText]
  omega

theorem getLast?_pieces {p : Point} (h : lineFields p ≠ []) :
    (pieces p).flatten.getLast? = some '\n' := by
  obtain ⟨front, v, hline⟩ := exists_last_field h
  rw [hline, List.getLast?_append, getLast?_endText, Option.some_or]

end LineProtocol

namespace BulkRow

theorem count_seriesId (p : Point) (t : Instant) (field : String) :
    (seriesIdOf p t field).toList.count '\n' = p.headFeeds + field.toList.count '\n' := by
  have date : (t.date.text).count '\n' = 0 :=
    List.count_eq_zero_of_not_mem (not_mem_text rfl (by decide) (by decide) t.date)
  have tags : (p.idTags.flatMap fun tag => ',' :: tagChars tag).count '\n' =
      (p.liveTags.map labelFeeds).sum := by
    rw [List.count_flatMap, Point.idTags, List.map_map]
    congr 1
    apply List.map_congr_left
    intro tag _
    simp only [Function.comp_apply, tagChars, String.toList_ofList]
    rw [List.count_cons_of_ne (by decide), List.count_append, List.count_cons_of_ne (by decide),
      Value.count_chars, labelFeeds]
  have id : seriesIdOf p t field = seriesId p.measurement p.idTags field t.date := rfl
  rw [id, toList_seriesId, keyChars, List.count_append, List.count_append, tags,
    List.count_cons_of_ne (by decide), List.count_append, List.count_cons_of_ne (by decide), date]
  rfl

theorem count_bytes (p : Point) (t : Instant) (field : String × Value) :
    (entryOf p t field).bytes.count lineFeed = p.headFeeds + labelFeeds field + 1 := by
  have table : field.2.table.toList.count '\n' = 0 :=
    List.count_eq_zero_of_not_mem (field.2.not_mem_table rfl (by decide))
  have front : (utf8 ((entryOf p t field).table.toList ++ ',' :: (entryOf p t field).id.toList ++
      ',' :: signed (entryOf p t field).nanos ++ [','])).count lineFeed =
        p.headFeeds + field.1.toList.count '\n' := by
    have encoded := count_utf8 (c := '\n') (by decide) ((entryOf p t field).table.toList ++
      ',' :: (entryOf p t field).id.toList ++ ',' :: signed (entryOf p t field).nanos ++ [','])
    rw [lineFeed, encoded]
    simp only [List.count_append, List.count_cons_of_ne (show ',' ≠ '\n' by decide),
      List.count_nil, count_signed, entryOf, table, count_seriesId]
    omega
  have value := field.2.count_rowBytes
  rw [Entry.bytes, List.count_append, front, List.count_append]
  change _ + (field.2.rowBytes.count lineFeed + 1) = _
  rw [value, labelFeeds]
  omega

theorem getLast?_bytes (e : Entry) : e.bytes.getLast? = some lineFeed := by
  rw [Entry.bytes, ← List.append_assoc]
  exact List.getLast?_concat

end BulkRow

namespace Format
variable {format : Format} {p : Point} {points : List Point}

theorem getLast?_lines : ∀ line ∈ format.lines p, line.getLast? = some lineFeed := by
  intro line hline
  cases format with
  | lineProtocol =>
    obtain ⟨hfields, rfl⟩ := LineProtocol.mem_lines_iff.1 hline
    exact (getLast?_utf8 (by decide) _).2 (LineProtocol.getLast?_pieces hfields)
  | bulkRows =>
    obtain ⟨e, -, rfl⟩ := List.mem_map.1 hline
    exact BulkRow.getLast?_bytes e

theorem lines_lineProtocol (h : LineProtocol.lineFields p ≠ []) :
    Format.lineProtocol.lines p = [utf8 (LineProtocol.pieces p).flatten] := by
  rw [lines, LineProtocol.pieces_isEmpty, if_neg (by simpa using h)]

theorem lines_lineProtocol_of_nil (h : LineProtocol.lineFields p = []) :
    Format.lineProtocol.lines p = [] := by
  rw [lines, LineProtocol.pieces_isEmpty, if_pos (by simpa using h)]

theorem exists_time (h : Format.bulkRows.refusal? p = none) : ∃ t, p.time = some t := by
  cases htime : p.time with
  | none => simp [refusal?, htime] at h
  | some t => exact ⟨t, rfl⟩

theorem count_lines (h : format.refusal? p = none) :
    (format.lines p).flatten.count lineFeed = (format.lines p).length + format.strayFeeds p := by
  cases format with
  | lineProtocol =>
    by_cases hfields : LineProtocol.lineFields p = []
    · rw [lines_lineProtocol_of_nil hfields, strayFeeds, if_pos (by simpa using hfields)]
      rfl
    · have encoded := count_utf8 (c := '\n') (by decide) (LineProtocol.pieces p).flatten
      rw [lines_lineProtocol hfields, List.flatten_singleton, lineFeed, encoded,
        LineProtocol.count_pieces hfields, Nat.add_comm]
      rfl
  | bulkRows =>
    obtain ⟨t, htime⟩ := exists_time h
    rw [lines, BulkRow.entries, htime, strayFeeds, List.map_map, ← List.flatMap_def,
      List.count_flatMap, List.length_map]
    generalize p.liveFields = fields
    induction fields with
    | nil => rfl
    | cons field rest ih =>
      rw [List.map_cons, List.sum_cons, ih, List.map_cons, List.sum_cons, List.length_cons]
      simp only [Function.comp_apply, BulkRow.count_bytes]
      omega

theorem lines_eq_nil_iff (h : format.refusal? p = none) : format.lines p = [] ↔
    (if format = .lineProtocol then LineProtocol.lineFields p else p.liveFields) = [] := by
  cases format with
  | lineProtocol =>
    rw [if_pos rfl]
    constructor
    · intro hlines
      by_contra hfields
      rw [lines_lineProtocol hfields] at hlines
      exact absurd hlines (List.cons_ne_nil _ _)
    · exact lines_lineProtocol_of_nil
  | bulkRows =>
    obtain ⟨t, htime⟩ := exists_time h
    rw [lines, BulkRow.entries, htime, if_neg (by simp)]
    simp

end Format

theorem Point.oneLine_iff {p : Point} :
    p.OneLine ↔ p.headFeeds = 0 ∧ (p.liveFields.map labelFeeds).sum = 0 := by
  have sum (entries : List (String × Value)) :
      (entries.map labelFeeds).sum = 0 ↔ ∀ e ∈ entries, labelFeeds e = 0 := by
    rw [List.sum_eq_zero_iff_forall_eq_nat, List.forall_mem_map]
  rw [headFeeds, Nat.add_eq_zero_iff, List.count_eq_zero, sum, sum, and_assoc,
    ← List.forall_mem_append]
  simp only [labelFeeds_eq_zero_iff, Value.lineFeeds_eq_zero_iff]
  constructor
  · intro h
    exact ⟨h.measurement, fun e he => ⟨h.key e he, h.text e he, h.bytes e he⟩⟩
  · rintro ⟨hmeasurement, hentries⟩
    exact ⟨hmeasurement, fun e he => (hentries e he).1, fun e he => (hentries e he).2.1,
      fun e he => (hentries e he).2.2⟩

theorem Format.strayFeeds_eq_zero_iff {format : Format} {p : Point}
    (h : format.refusal? p = none) :
    format.strayFeeds p = 0 ↔ format.lines p = [] ∨ p.OneLine := by
  rw [lines_eq_nil_iff h, Point.oneLine_iff]
  cases format with
  | lineProtocol =>
    rw [strayFeeds, if_pos rfl]
    by_cases hfields : LineProtocol.lineFields p = []
    · simp [hfields]
    · rw [if_neg (by simpa using hfields), Nat.add_eq_zero_iff]
      simp [hfields]
  | bulkRows =>
    rw [strayFeeds, if_neg (by simp)]
    cases p.liveFields with
    | nil => simp
    | cons field rest =>
      simp only [List.sum_eq_zero_iff_forall_eq_nat, List.forall_mem_map, Nat.add_eq_zero_iff,
        List.forall_mem_cons, reduceCtorEq, false_or]
      constructor
      · rintro ⟨⟨hhead, hfield⟩, hrest⟩
        exact ⟨hhead, hfield, fun e he => (hrest e he).2⟩
      · rintro ⟨hhead, hfield, hrest⟩
        exact ⟨⟨hhead, hfield⟩, fun e he => ⟨hhead, hrest e he⟩⟩

theorem Format.count_lines_all {format : Format} {points : List Point}
    (h : ∀ p ∈ points, format.refusal? p = none) :
    (points.flatMap format.lines).flatten.count lineFeed =
      (points.flatMap format.lines).length + (points.map format.strayFeeds).sum := by
  induction points with
  | nil => rfl
  | cons p rest ih =>
    rw [List.forall_mem_cons] at h
    rw [List.flatMap_cons, List.flatten_append, List.count_append, count_lines h.1, ih h.2,
      List.length_append, List.map_cons, List.sum_cons]
    omega

/-- What is written consists of lines with a line feed at the end. It has one for each line that is
counted, and those of the texts. So a reader of lines sees the lines that are counted just when no
point with a line has a line feed in its texts, and sees more of them if there is such a point. -/
theorem written_line_feeds {format : Format} {points : List Point} {sink sink' : Sink}
    {done summary : WriteSummary}
    (h : writePoints format points sink done = (sink', .ok summary)) :
    ∃ out, sink'.bytes = sink.bytes ++ out ∧ out = (points.flatMap format.lines).flatten ∧
      summary.lines = done.lines + (points.flatMap format.lines).length ∧
      (out = [] ∨ out.getLast? = some lineFeed) ∧
      done.lines + out.count lineFeed = summary.lines + (points.map format.strayFeeds).sum ∧
      (byteLines out).length = out.count lineFeed ∧
      (done.lines + out.count lineFeed = summary.lines ↔
        ∀ p ∈ points, format.lines p = [] ∨ p.OneLine) ∧
      (byteLines out = points.flatMap format.lines ↔
        ∀ p ∈ points, format.lines p = [] ∨ p.OneLine) := by
  obtain ⟨hnone, hbytes, hlines⟩ := writePoints_lines h
  have ends : ∀ line ∈ points.flatMap format.lines, line.getLast? = some lineFeed := by
    intro line hline
    obtain ⟨p, -, hp⟩ := List.mem_flatMap.1 hline
    exact Format.getLast?_lines line hp
  have count := Format.count_lines_all hnone
  have clear : (points.map format.strayFeeds).sum = 0 ↔
      ∀ p ∈ points, format.lines p = [] ∨ p.OneLine := by
    rw [List.sum_eq_zero_iff_forall_eq_nat, List.forall_mem_map]
    exact forall₂_congr fun p hp => Format.strayFeeds_eq_zero_iff (hnone p hp)
  have last := getLast?_flatten ends
  refine ⟨_, hbytes, rfl, hlines, last, ?_, length_byteLines last, ?_, ?_⟩
  · omega
  · rw [← clear]
    omega
  · rw [byteLines_flatten_iff ends, ← clear]
    omega

def twoLineNote : Point where
  measurement := "status"
  fields := [("note", some (.text "up\ndown"))]
  time := Instant.ofUnix? 1451606400 0

def noteless : Point := twoLineNote.clearField "note"

theorem notes_line_feeds : ∃ sink summary,
    writePoints .bulkRows [twoLineNote, noteless] {} {} = (sink, .ok summary) ∧
    sink.bytes.count lineFeed = summary.lines + 1 ∧ (byteLines sink.bytes).length = 2 ∧
    byteLines sink.bytes ≠ Format.bulkRows.lines twoLineNote := by
  obtain ⟨sink, summary, hwrite, hlines⟩ : ∃ sink summary, writePoints .bulkRows
      [twoLineNote, noteless] {} {} = (sink, .ok summary) ∧ summary.lines = 1 := ⟨_, _, rfl, rfl⟩
  obtain ⟨out, hbytes, -, -, -, hcount, hlength, -, hseen⟩ := written_line_feeds hwrite
  have stray : ([twoLineNote, noteless].map Format.bulkRows.strayFeeds).sum = 1 := by decide
  obtain rfl : sink.bytes = out := hbytes
  have total : sink.bytes.count lineFeed = 2 := by
    rw [stray, hlines] at hcount
    exact (Nat.zero_add _).symm.trans hcount
  refine ⟨sink, summary, hwrite, by omega, by omega, ?_⟩
  intro heq
  have entry : ("note", .text "up\ndown") ∈ twoLineNote.liveTags ++ twoLineNote.liveFields :=
    List.mem_singleton.2 rfl
  rcases hseen.1 heq twoLineNote List.mem_cons_self with hnone | hclear
  · exact List.cons_ne_nil _ _ hnone
  · exact hclear.text _ entry _ rfl (by decide)

/-- The note is counted as one line in either format, and is written with two line feeds. -/
theorem twoLineNote_miscounted :
    (∃ sink summary, writePoints .bulkRows [twoLineNote] {} {} = (sink, .ok summary) ∧
      summary.lines = 1 ∧ sink.bytes.count lineFeed = 2) ∧
    ∃ sink summary, writePoints .lineProtocol [twoLineNote] {} {} = (sink, .ok summary) ∧
      summary.lines = 1 ∧ sink.bytes.count lineFeed = 2 :=
  ⟨⟨_, _, rfl, rfl, by decide⟩, ⟨_, _, rfl, rfl, by decide⟩⟩

end SeriesBench
