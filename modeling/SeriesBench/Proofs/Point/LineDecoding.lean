import SeriesBench.Proofs.Point.LineReader
import SeriesBench.Proofs.Point.Writing
import SeriesBench.Proofs.Text.Bytes
import SeriesBench.Proofs.Text.Numerals
import SeriesBench.Proofs.Text.Utf8

set_option autoImplicit false

namespace SeriesBench
open SeriesBench.Time SeriesBench.Text

namespace LineProtocol

def Closed (name : String) : Prop := name.toList.getLast? ≠ some '\\'

instance (name : String) : Decidable (Closed name) := inferInstanceAs (Decidable (_ ≠ _))

section Names
variable {ends : Char → Bool} {c : Char} {s rest : List Char}

theorem readName_cons (hc : c ≠ '\\') : readName ends (c :: s) =
    if ends c then ([], c :: s) else prepend c (readName ends s) := by
  rw [readName]
  intro d after h
  exact absurd h hc

theorem escape_cons (special : Char → Bool) (c : Char) (s : List Char) :
    escape special (c :: s) = (if special c then ['\\', c] else [c]) ++ escape special s :=
  List.flatMap_cons

theorem exists_escape_eq_cons (hends : ends '\\' = false) (hs : s ≠ []) :
    ∃ d after, escape ends s = d :: after ∧ ends d = false := by
  obtain ⟨c, s, rfl⟩ := List.exists_cons_of_ne_nil hs
  rw [escape_cons]
  cases hc : ends c with
  | true => exact ⟨'\\', _, rfl, hends⟩
  | false => exact ⟨c, _, rfl, hc⟩

theorem readName_escape (hends : ends '\\' = false) (hs : s.getLast? ≠ some '\\')
    (hrest : Stops ends rest) : readName ends (escape ends s ++ rest) = (s, rest) := by
  induction s with
  | nil =>
    obtain ⟨c, after, rfl, hc⟩ := hrest
    have hne : c ≠ '\\' := by
      rintro rfl
      exact absurd (hends.symm.trans hc) (by simp)
    change readName ends (c :: after) = _
    rw [readName_cons hne, if_pos hc]
  | cons c s ih =>
    have hlast : s.getLast? ≠ some '\\' := by
      cases s with
      | nil => simp
      | cons d s => rwa [List.getLast?_cons_cons] at hs
    rw [escape_cons, List.append_assoc]
    cases hc : ends c with
    | true =>
      change readName ends ('\\' :: c :: (escape ends s ++ rest)) = _
      rw [readName, if_pos hc, ih hlast]
      rfl
    | false =>
      change readName ends (c :: (escape ends s ++ rest)) = _
      by_cases hslash : c = '\\'
      · have hne : s ≠ [] := by
          rintro rfl
          exact hs (by rw [hslash]; rfl)
        obtain ⟨d, after, hescape, hd⟩ := exists_escape_eq_cons hends hne
        rw [hescape] at ih ⊢
        rw [hslash, List.cons_append, readName, if_neg (by simp [hd])]
        rw [List.cons_append] at ih
        rw [ih hlast]
        rfl
      · rw [readName_cons hslash, if_neg (by simp [hc]), ih hlast]
        rfl

end Names

theorem readQuoted_escape (s rest : List Char) :
    readQuoted (escape (fun c => c == '\\' || c == '"') s ++ '"' :: rest) = some (s, rest) := by
  induction s with
  | nil => rfl
  | cons c s ih =>
    rw [escape_cons, List.append_assoc]
    by_cases hslash : c = '\\'
    · subst hslash
      rw [if_pos (by decide : ('\\' == '\\' || '\\' == '"') = true), List.cons_append,
        List.singleton_append, readQuoted, ih]
      rfl
    · by_cases hquote : c = '"'
      · subst hquote
        rw [if_pos (by decide : ('"' == '\\' || '"' == '"') = true), List.cons_append,
          List.singleton_append, readQuoted, ih]
        rfl
      · rw [if_neg (by simp [hslash, hquote]), List.singleton_append, readQuoted, ih]
        · rfl
        · exact hquote
        · exact fun _ h _ => hslash h
        · exact fun _ h _ => hslash h

/-- A value as its line is to show it: text as it is, bytes as the text that they encode. -/
def shown : Value → Shown
  | .integer n => .bare (String.ofList (signed n.toInt ++ ['i']))
  | .real x => .bare (String.ofList (Decimal.floatText x))
  | .boolean b => .bare (if b then "true" else "false")
  | .text s => .quoted s
  | .bytes b => .quoted (String.ofList (ofUtf8Lossy b))

theorem mem_of_mem_trimZeros {c : Char} {s : List Char} (h : c ∈ trimZeros s) : c ∈ s := by
  rw [trimZeros, List.mem_reverse] at h
  exact List.mem_reverse.1 ((List.dropWhile_suffix _).subset h)

def isValueChar (c : Char) : Bool := c.isDigit || "-.INafeilnrstu".toList.contains c

theorem isValueChar_of_isDigit {c : Char} (h : c.isDigit = true) : isValueChar c = true := by
  rw [isValueChar, h, Bool.true_or]

theorem forall_isValueChar {s : List Char} (h : s.all isValueChar = true) :
    ∀ c ∈ s, isValueChar c = true := List.all_eq_true.1 h

theorem isValueChar_of_mem_positional {n : Nat} {e : Int} {c : Char}
    (h : c ∈ Decimal.positional n e) : isValueChar c = true := by
  unfold Decimal.positional at h
  split at h
  · exact isValueChar_of_isDigit (isDigit_of_mem_digits h)
  · rcases List.mem_append.1 h with h | h
    · exact isValueChar_of_isDigit (isDigit_of_mem_digits h)
    · split at h
      · exact absurd h (by simp)
      · rcases List.mem_cons.1 h with rfl | h
        · rfl
        · exact isValueChar_of_isDigit (isDigit_of_mem_padded (mem_of_mem_trimZeros h))

theorem isValueChar_of_mem_floatText {x : Float} {c : Char} (h : c ∈ Decimal.floatText x) :
    isValueChar c = true := by
  unfold Decimal.floatText Decimal.bitsText at h
  extract_lets sign biased fraction mantissa exponent at h
  have ofSign : c ∈ sign → isValueChar c = true := by
    intro h
    obtain ⟨-, hminus⟩ := List.mem_ite_nil_right.1 h
    obtain rfl := List.mem_singleton.1 hminus
    rfl
  clear_value sign biased fraction mantissa exponent
  split at h
  · split at h
    · rcases List.mem_append.1 h with h | h
      · exact ofSign h
      · exact forall_isValueChar (by decide) c h
    · exact forall_isValueChar (by decide) c h
  · split at h
    · rcases List.mem_append.1 h with h | h
      · exact ofSign h
      · exact forall_isValueChar (by decide) c h
    · rcases List.mem_append.1 h with h | h
      · exact ofSign h
      · exact isValueChar_of_mem_positional h

theorem bare_of_isValueChar {c : Char} (h : isValueChar c = true) :
    endsValue c = false ∧ c ≠ '"' := by
  constructor
  · simp only [endsValue, Bool.or_eq_false_iff, beq_eq_false_iff_ne]
    refine ⟨⟨?_, ?_⟩, ?_⟩
    all_goals
      rintro rfl
      exact absurd h (by decide)
  · rintro rfl
    exact absurd h (by decide)

section Fields
variable {rest : List Char}

theorem readValue?_bare {s : List Char} (hs : ∀ c ∈ s, isValueChar c = true)
    (hrest : Stops endsValue rest) :
    readValue? (s ++ rest) = some (.bare (String.ofList s), rest) := by
  obtain ⟨sep, after, rfl, hsep⟩ := hrest
  have ofChars : ∀ c ∈ s, (!endsValue c) = true := fun c hc => by
    rw [(bare_of_isValueChar (hs c hc)).1]
    rfl
  unfold readValue?
  split
  · rename_i quoted heq
    cases s with
    | nil =>
      obtain rfl : sep = '"' := (List.cons.inj heq).1
      exact absurd hsep (by decide)
    | cons c s =>
      obtain rfl : c = '"' := (List.cons.inj heq).1
      exact absurd rfl (bare_of_isValueChar (hs '"' (by simp))).2
  · rw [List.takeWhile_append_of_pos ofChars, List.dropWhile_append_of_pos ofChars,
      List.takeWhile_cons_of_neg (by simp [hsep]), List.dropWhile_cons_of_neg (by simp [hsep]),
      List.append_nil]

theorem readValue?_quoted (s rest : List Char) :
    readValue? (stringChars s ++ rest) = some (.quoted (String.ofList s), rest) := by
  rw [stringChars, List.append_assoc, List.cons_append]
  change (readQuoted _).map _ = _
  rw [List.singleton_append, readQuoted_escape]
  rfl

theorem fieldChars_cases (v : Value) :
    (∃ s, fieldChars v = stringChars s ∧ shown v = .quoted (String.ofList s)) ∨
      (∀ c ∈ fieldChars v, isValueChar c = true) ∧ shown v = .bare (String.ofList (fieldChars v)) := by
  cases v with
  | text s => exact .inl ⟨s.toList, rfl, by rw [String.ofList_toList]; rfl⟩
  | bytes b => exact .inl ⟨_, rfl, rfl⟩
  | real x => exact .inr ⟨fun c => isValueChar_of_mem_floatText, rfl⟩
  | boolean b =>
    cases b with
    | false => exact .inr ⟨forall_isValueChar (s := "false".toList) (by decide), rfl⟩
    | true => exact .inr ⟨forall_isValueChar (s := "true".toList) (by decide), rfl⟩
  | integer n =>
    refine .inr ⟨?_, rfl⟩
    intro c hc
    rcases List.mem_append.1 hc with hc | hc
    · by_cases hdigit : c.isDigit = true
      · exact isValueChar_of_isDigit hdigit
      · by_cases hsign : c = '-'
        · rw [hsign]
          rfl
        · exact absurd hc (not_mem_signed (by simpa using hdigit) hsign _)
    · obtain rfl := List.mem_singleton.1 hc
      rfl

theorem readValue?_fieldChars (v : Value) (hrest : Stops endsValue rest) :
    readValue? (fieldChars v ++ rest) = some (shown v, rest) := by
  rcases fieldChars_cases v with ⟨s, hchars, hshown⟩ | ⟨hbare, hshown⟩
  · rw [hchars, hshown, readValue?_quoted]
  · rw [hshown, readValue?_bare hbare hrest]

theorem readName_keyChars {key : String} (hkey : Closed key) (hrest : Stops endsKey rest) :
    readName endsKey (keyChars key ++ rest) = (key.toList, rest) :=
  readName_escape rfl hkey hrest

theorem readKey?_keyChars {key : String} (hkey : Closed key) (rest : List Char) :
    readKey? (keyChars key ++ '=' :: rest) = some (key.toList, rest) := by
  unfold readKey?
  rw [readName_keyChars hkey ⟨'=', rest, rfl, rfl⟩]
  rfl

def tagText (tag : String × String) : List Char := ',' :: keyChars tag.1 ++ '=' :: keyChars tag.2

def fieldText (separator : Char) (field : String × Value) : List Char :=
  separator :: keyChars field.1 ++ '=' :: fieldChars field.2

theorem readTag?_tagText {tag : String × String} (hkey : Closed tag.1) (hvalue : Closed tag.2)
    (hrest : Stops endsKey rest) : readTag? (tagText tag ++ rest) = some (tag, rest) := by
  rw [tagText, List.append_assoc, List.cons_append, List.cons_append, readTag?,
    readKey?_keyChars hkey]
  simp only [Option.map_some, readName_keyChars hvalue hrest, String.ofList_toList]

theorem readField?_fieldText (separator : Char) {field : String × Value} (hkey : Closed field.1)
    (hrest : Stops endsValue rest) :
    readField? separator (fieldText separator field ++ rest) =
      some ((field.1, shown field.2), rest) := by
  rw [fieldText, List.append_assoc, List.cons_append, List.cons_append, readField?, if_pos rfl,
    readKey?_keyChars hkey, Option.bind_some, readValue?_fieldChars field.2 hrest]
  simp only [Option.map_some, String.ofList_toList]

end Fields

def textTags (tags : List (String × Value)) : List (String × String) :=
  tags.filterMap fun tag => tag.2.text?.map fun s => (tag.1, s)

theorem flatten_tagPieces (tags : List (String × Value)) :
    (tags.filterMap tagPiece).flatten = (textTags tags).flatMap tagText := by
  induction tags with
  | nil => rfl
  | cons tag tags ih =>
    obtain ⟨key, value⟩ := tag
    cases value with
    | text s => exact congrArg (tagText (key, s) ++ ·) ih
    | integer => exact ih
    | real => exact ih
    | boolean => exact ih
    | bytes => exact ih

theorem flatten_fieldPieces (separator : Char) (field : String × Value)
    (more : List (String × Value)) : (fieldPieces separator (field :: more)).flatten =
      fieldText separator field ++ more.flatMap (fieldText ',') := by
  induction more generalizing separator field with
  | nil => simp [fieldPieces, fieldText]
  | cons next more ih =>
    rw [fieldPieces, List.flatten_cons, List.flatten_cons, ih, List.flatMap_cons]
    simp [fieldText]

theorem readEnd?_signed (t : Timestamp) :
    readEnd? (' ' :: signed t.val ++ ['\n']) = some (some t.val) := by
  have clear : ∀ c ∈ signed t.val, (c != '\n') = true := by
    intro c hc
    rw [bne_iff_ne]
    rintro rfl
    exact not_mem_signed rfl (by decide) _ hc
  have number : readInt minTimestamp.natAbs maxTimestamp.natAbs (signed t.val) = .ok t.val := by
    apply readInt_signed
    · exact t.property.1
    · exact t.property.2
  rw [List.cons_append, readEnd?, List.dropWhile_append_of_pos clear,
    List.takeWhile_append_of_pos clear]
  simp only [List.dropWhile, List.takeWhile, bne_self_eq_false, List.append_nil, if_true, number]
  rfl

def endText (p : Point) : List Char := (timePiece p).flatten ++ ['\n']

theorem endText_cases (p : Point) :
    (p.time.bind (·.timestamp?) = none ∧ endText p = ['\n']) ∨
      ∃ t, p.time.bind (·.timestamp?) = some t ∧ endText p = ' ' :: signed t.val ++ ['\n'] := by
  unfold endText timePiece
  cases p.time.bind (·.timestamp?) with
  | none => exact .inl ⟨rfl, rfl⟩
  | some t => exact .inr ⟨t, rfl, by simp⟩

theorem readEnd?_endText (p : Point) :
    readEnd? (endText p) = some ((p.time.bind (·.timestamp?)).map (·.val)) := by
  rcases endText_cases p with ⟨htime, hend⟩ | ⟨t, htime, hend⟩
  · rw [htime, hend]
    rfl
  · rw [htime, hend]
    exact readEnd?_signed t

theorem stops_endText (p : Point) : Stops endsValue (endText p) := by
  rcases endText_cases p with ⟨-, hend⟩ | ⟨t, -, hend⟩
  · exact ⟨'\n', [], hend, rfl⟩
  · exact ⟨' ', _, hend, rfl⟩

theorem readField?_endText (p : Point) : readField? ',' (endText p) = none := by
  rcases endText_cases p with ⟨-, hend⟩ | ⟨t, -, hend⟩
  · rw [hend]
    rfl
  · rw [hend]
    rfl

/-- What a point's line is to say: the tags with text, and all other tags in front of the fields. -/
def Line.ofPoint (p : Point) : Line where
  measurement := p.measurement
  tags := textTags p.liveTags
  fields := (lineFields p).map fun field => (field.1, shown field.2)
  time? := (p.time.bind (·.timestamp?)).map (·.val)

/-- Whether a point has a line in which every name ends where it should. -/
structure Readable (p : Point) : Prop where
  has_field : lineFields p ≠ []
  measurement : Closed p.measurement
  tag_key : ∀ tag ∈ p.liveTags, Closed tag.1
  tag_text : ∀ tag ∈ p.liveTags, ∀ s, tag.2.text? = some s → Closed s
  field_key : ∀ field ∈ p.liveFields, Closed field.1

section Lines
variable {p : Point}

theorem Readable.textTag (h : Readable p) {tag : String × String} (htag : tag ∈ textTags p.liveTags) :
    Closed tag.1 ∧ Closed tag.2 := by
  obtain ⟨live, hlive, htext⟩ := List.mem_filterMap.1 htag
  obtain ⟨s, hs, rfl⟩ := Option.map_eq_some_iff.1 htext
  exact ⟨h.tag_key live hlive, h.tag_text live hlive s hs⟩

theorem Readable.lineField (h : Readable p) {field : String × Value} (hfield : field ∈ lineFields p) :
    Closed field.1 := by
  rcases List.mem_append.1 hfield with hfield | hfield
  · exact h.tag_key field (List.mem_filter.1 hfield).1
  · exact h.field_key field hfield

theorem flatten_linePieces {first : String × Value} {more : List (String × Value)}
    (h : lineFields p = first :: more) : (pieces p).flatten =
      escape endsMeasurement p.measurement.toList ++ ((textTags p.liveTags).flatMap tagText ++
        (fieldText ' ' first ++ (more.flatMap (fieldText ',') ++ endText p))) := by
  rw [pieces, h, if_neg (by simp), endText, ← flatten_tagPieces]
  simp only [List.flatten_cons, List.flatten_append, flatten_fieldPieces, List.append_assoc,
    List.cons_append, List.flatten_nil, List.append_nil]
  rfl

theorem many_tagText {tags : List (String × String)} {rest : List Char}
    (htags : ∀ tag ∈ tags, Closed tag.1 ∧ Closed tag.2) (hrest : ∃ after, rest = ' ' :: after) :
    tagReader.many (tags.flatMap tagText ++ rest) = (tags, rest) := by
  obtain ⟨after, rfl⟩ := hrest
  have read : ∀ tag ∈ tags, ∀ after, Stops endsKey after →
      tagReader.read? (tagText tag ++ after) = some (id tag, after) :=
    fun tag htag after => readTag?_tagText (htags tag htag).1 (htags tag htag).2
  rw [ItemReader.many_append read (fun _ _ => ⟨',', _, rfl, rfl⟩) ⟨' ', after, rfl, rfl⟩ rfl,
    List.map_id]

theorem many_fieldText {fields : List (String × Value)} {rest : List Char}
    (hfields : ∀ field ∈ fields, Closed field.1) (hstops : Stops endsValue rest)
    (hrest : readField? ',' rest = none) :
    (fieldReader ',').many (fields.flatMap (fieldText ',') ++ rest) =
      (fields.map fun field => (field.1, shown field.2), rest) :=
  ItemReader.many_append (fun field hfield _ => readField?_fieldText ',' (hfields field hfield))
    (fun _ _ => ⟨',', _, rfl, rfl⟩) hstops hrest

theorem stops_fields {fields : List (String × Value)} {rest : List Char}
    (hrest : Stops endsValue rest) :
    Stops endsValue (fields.flatMap (fieldText ',') ++ rest) := by
  cases fields with
  | nil => exact hrest
  | cons field fields => exact ⟨',', _, rfl, rfl⟩

theorem stops_tags (tags : List (String × String)) {rest : List Char}
    (hrest : ∃ after, rest = ' ' :: after) :
    Stops endsMeasurement (tags.flatMap tagText ++ rest) := by
  cases tags with
  | nil =>
    obtain ⟨after, rfl⟩ := hrest
    exact ⟨' ', after, rfl, rfl⟩
  | cons tag tags => exact ⟨',', _, rfl, rfl⟩

theorem read?_pieces (h : Readable p) : Line.read? (pieces p).flatten = some (Line.ofPoint p) := by
  obtain ⟨first, more, hfields⟩ := List.exists_cons_of_ne_nil h.has_field
  have closed : ∀ field ∈ first :: more, Closed field.1 := by
    rw [← hfields]
    exact fun field => h.lineField
  rw [List.forall_mem_cons] at closed
  have space : ∃ after, fieldText ' ' first ++ (more.flatMap (fieldText ',') ++ endText p) =
      ' ' :: after := ⟨_, rfl⟩
  rw [flatten_linePieces hfields]
  unfold Line.read?
  rw [readName_escape rfl h.measurement (stops_tags _ space)]
  dsimp only
  rw [many_tagText (fun tag => h.textTag) space]
  dsimp only
  rw [readField?_fieldText ' ' closed.1 (stops_fields (stops_endText p))]
  dsimp only [bind, Option.bind]
  rw [many_fieldText closed.2 (stops_endText p) (readField?_endText p)]
  dsimp only
  rw [readEnd?_endText]
  dsimp only [pure, Line.ofPoint]
  rw [String.ofList_toList, hfields, List.map_cons]

end Lines

end LineProtocol

theorem Text.utf8_flatten (pieces : List (List Char)) :
    utf8 pieces.flatten = (pieces.map utf8).flatten := by
  induction pieces with
  | nil => rfl
  | cons piece rest ih => rw [List.flatten_cons, utf8_append, ih, List.map_cons, List.flatten_cons]

theorem Format.bytesOf_lineProtocol (p : Point) :
    Format.lineProtocol.bytesOf p = utf8 (LineProtocol.pieces p).flatten := by
  have hrender : Format.lineProtocol.render p =
      .ok ⟨(LineProtocol.pieces p).map utf8, if (LineProtocol.pieces p).isEmpty then 0 else 1⟩ := rfl
  rw [(Format.rendered_alone hrender).1, utf8_flatten]
  rfl

namespace LineProtocol

/-- With separators, quotes and backslashes in every name, a tag that is a number, a slot that is
cleared, bytes that are no text, and text that ends in a backslash and holds the end of a line. -/
def diskPoint : Point where
  measurement := "disk\\ io,\"a=b\""
  tags := [("path=", some (.text "C:\\ d,e")), ("gone\\", none), ("size, max", some (.integer (-5))),
    ("", some (.text ""))]
  fields := [("raw", some (.bytes [34, 255, 92])), ("no\\,te", some (.text "one\ntwo \\"))]
  time := some ⟨-2, 999999998, by decide, by decide, by decide⟩

end LineProtocol
end SeriesBench
