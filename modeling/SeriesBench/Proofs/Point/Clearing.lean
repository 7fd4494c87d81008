import SeriesBench.Proofs.Point.Framing

set_option autoImplicit false

/-!
# Cleared values leave no trace

Clearing a value keeps its slot, and the slot keeps later clearing of its key away from the slots
behind it. What a point is written as depends on the values that are left alone: on no slot without
one, and not on how the point came to have them.
-/
namespace SeriesBench
open SeriesBench.Time SeriesBench.Text

namespace Slot

inductive Edit where
  | append (key : String) (value : Value)
  | clear (key : String)
  | wipe

namespace Edit

def apply (slots : List Slot) : Edit → List Slot
  | .append key value => slots ++ [(key, some value)]
  | .clear key => Slot.clear key slots
  | .wipe => []

def wipes : Edit → Bool
  | .wipe => true
  | _ => false

def clears (key : String) : Edit → Bool
  | .clear k => k == key
  | _ => false

end Edit

/-- Whether a value is gone after the edits: if all are, or if its key is cleared and no other slot
of the key stands in front of it. -/
def gone (isFirst : Bool) (key : String) (edits : List Edit) : Bool :=
  edits.any Edit.wipes || isFirst && edits.any (Edit.clears key)

/-- The pairs that are appended and not gone in the end. The keys of the slots in front of them,
cleared or not, are those that have been `seen`. -/
def survivors (seen : List String) : List Edit → List (String × Value)
  | [] => []
  | .append key value :: rest =>
    if gone (decide (key ∉ seen)) key rest then survivors (seen ++ [key]) rest
    else (key, value) :: survivors (seen ++ [key]) rest
  | .clear _ :: rest => survivors seen rest
  | .wipe :: rest => survivors [] rest

theorem keys_clear (key : String) (slots : List Slot) :
    (Slot.clear key slots).map (·.1) = slots.map (·.1) := by
  induction slots with
  | nil => rfl
  | cons s rest ih =>
    rw [Slot.clear]
    split
    · rfl
    · rw [List.map_cons, List.map_cons, ih]

theorem clear_of_not_mem {key : String} {slots : List Slot} (h : key ∉ slots.map (·.1)) :
    Slot.clear key slots = slots := by
  induction slots with
  | nil => rfl
  | cons s rest ih =>
    rw [List.map_cons, List.mem_cons, not_or] at h
    rw [Slot.clear, if_neg (by simpa using Ne.symm h.1), ih h.2]

theorem clear_append_of_mem {key : String} {xs : List Slot} (h : key ∈ xs.map (·.1))
    (ys : List Slot) : Slot.clear key (xs ++ ys) = Slot.clear key xs ++ ys := by
  induction xs with
  | nil => exact absurd h (by simp)
  | cons s rest ih =>
    rw [List.cons_append, Slot.clear, Slot.clear]
    by_cases hs : s.1 = key
    · simp [hs]
    · rw [List.map_cons, List.mem_cons, or_iff_right (Ne.symm hs)] at h
      rw [if_neg (by simpa using hs), if_neg (by simpa using hs), ih h, List.cons_append]

theorem clear_append_of_not_mem {key : String} {xs : List Slot} (h : key ∉ xs.map (·.1))
    (ys : List Slot) : Slot.clear key (xs ++ ys) = xs ++ Slot.clear key ys := by
  induction xs with
  | nil => rfl
  | cons s rest ih =>
    rw [List.map_cons, List.mem_cons, not_or] at h
    rw [List.cons_append, Slot.clear, if_neg (by simpa using Ne.symm h.1), ih h.2, List.cons_append]

def remains : List Edit → List Slot → List Slot
  | [], slots => slots
  | .append _ _ :: rest, slots => remains rest slots
  | .clear key :: rest, slots => remains rest (Slot.clear key slots)
  | .wipe :: _, _ => []

theorem remains_nil (edits : List Edit) : remains edits [] = [] := by
  induction edits with
  | nil => rfl
  | cons e rest ih =>
    cases e with
    | append key value => exact ih
    | clear key => exact ih
    | wipe => rfl

theorem gone_clear (isFirst : Bool) (key k : String) (rest : List Edit) :
    gone isFirst key (.clear k :: rest) = (gone isFirst key rest || isFirst && k == key) := by
  simp only [gone, List.any_cons, Edit.wipes, Edit.clears, Bool.false_or]
  cases isFirst with
  | false => simp
  | true => simp only [Bool.true_and, Bool.or_assoc, Bool.or_comm (k == key)]

/-- A slot behind others loses its value if it is gone, and otherwise the others lose what they
would lose without it. -/
theorem filled_remains_concat (edits : List Edit) (slots : List Slot) (key : String)
    (value : Option Value) :
    filled (remains edits (slots ++ [(key, value)])) = filled (remains edits slots) ++
      if gone (decide (key ∉ slots.map (·.1))) key edits then [] else filled [(key, value)] := by
  induction edits generalizing slots value with
  | nil =>
    rw [remains, remains, filled_append]
    simp [gone]
  | cons e rest ih =>
    cases e with
    | append k v => exact ih slots value
    | wipe => rfl
    | clear k =>
      rw [gone_clear, remains, remains]
      by_cases hk : k ∈ slots.map (·.1)
      · have kept : (decide (key ∉ slots.map (·.1)) && k == key) = false := by
          by_cases hkey : k = key
          · simp [← hkey, hk]
          · simp [hkey]
        rw [kept, Bool.or_false, clear_append_of_mem hk, ih, keys_clear]
      · rw [clear_append_of_not_mem hk, clear_of_not_mem hk]
        by_cases hkey : k = key
        · subst hkey
          have empty : Slot.clear k [(k, value)] = [(k, none)] := by simp [Slot.clear]
          rw [empty, ih]
          simp [hk, filled]
        · have other : Slot.clear k [(key, value)] = [(key, value)] :=
            clear_of_not_mem (by simpa using hkey)
          rw [other, ih]
          simp [hkey]

theorem filled_foldl (edits : List Edit) (slots : List Slot) :
    filled (edits.foldl Edit.apply slots) =
      filled (remains edits slots) ++ survivors (slots.map (·.1)) edits := by
  induction edits generalizing slots with
  | nil => simp [remains, survivors]
  | cons e rest ih =>
    rw [List.foldl_cons, ih]
    cases e with
    | append key value =>
      rw [Edit.apply, filled_remains_concat, survivors, remains, List.map_append]
      split
      · rw [List.append_nil]
        rfl
      · rw [List.append_assoc]
        rfl
    | clear key =>
      rw [Edit.apply, keys_clear]
      rfl
    | wipe =>
      rw [Edit.apply, remains_nil]
      rfl

theorem filled_of_edits (edits : List Edit) :
    filled (edits.foldl Edit.apply []) = survivors [] edits := by
  rw [filled_foldl, remains_nil]
  rfl

/-- A slot that is clear already is still the first of its key. -/
example : survivors [] [.append "up" (.boolean true), .clear "up", .append "up" (.boolean false),
    .clear "up"] = [("up", .boolean false)] := rfl

end Slot

namespace Point

inductive Edit where
  | new (measurement : String)
  | setMeasurement (measurement : String)
  | setTime (t : Instant)
  | appendTag (key : String) (value : Value)
  | appendField (key : String) (value : Value)
  | clearTag (key : String)
  | clearField (key : String)
  | reset

namespace Edit

def apply (p : Point) : Edit → Point
  | .new measurement => Point.new measurement
  | .setMeasurement measurement => p.setMeasurement measurement
  | .setTime t => p.setTime t
  | .appendTag key value => p.appendTag key value
  | .appendField key value => p.appendField key value
  | .clearTag key => p.clearTag key
  | .clearField key => p.clearField key
  | .reset => p.reset

def onTags : Edit → Option Slot.Edit
  | .new _ => some .wipe
  | .reset => some .wipe
  | .appendTag key value => some (.append key value)
  | .clearTag key => some (.clear key)
  | _ => none

def onFields : Edit → Option Slot.Edit
  | .new _ => some .wipe
  | .reset => some .wipe
  | .appendField key value => some (.append key value)
  | .clearField key => some (.clear key)
  | _ => none

end Edit

def after (edits : List Edit) : Point := edits.foldl Edit.apply {}

def survivingTags (edits : List Edit) : List (String × Value) :=
  Slot.survivors [] (edits.filterMap Edit.onTags)

def survivingFields (edits : List Edit) : List (String × Value) :=
  Slot.survivors [] (edits.filterMap Edit.onFields)

def ofPairs (measurement : String) (time : Option Instant) (tags fields : List (String × Value)) :
    Point :=
  let tagged := tags.foldl (fun p tag => p.appendTag tag.1 tag.2) (Point.new measurement)
  let whole := fields.foldl (fun p field => p.appendField field.1 field.2) tagged
  time.elim whole whole.setTime

theorem tags_foldl (edits : List Edit) (p : Point) : (edits.foldl Edit.apply p).tags =
    (edits.filterMap Edit.onTags).foldl Slot.Edit.apply p.tags := by
  induction edits generalizing p with
  | nil => rfl
  | cons e rest ih =>
    rw [List.foldl_cons, ih]
    cases e <;> rfl

theorem fields_foldl (edits : List Edit) (p : Point) : (edits.foldl Edit.apply p).fields =
    (edits.filterMap Edit.onFields).foldl Slot.Edit.apply p.fields := by
  induction edits generalizing p with
  | nil => rfl
  | cons e rest ih =>
    rw [List.foldl_cons, ih]
    cases e <;> rfl

theorem liveTags_after (edits : List Edit) : (after edits).liveTags = survivingTags edits := by
  rw [liveTags, after, tags_foldl]
  exact Slot.filled_of_edits _

theorem liveFields_after (edits : List Edit) : (after edits).liveFields = survivingFields edits := by
  rw [liveFields, after, fields_foldl]
  exact Slot.filled_of_edits _

theorem foldl_appendTag (tags : List (String × Value)) (p : Point) :
    tags.foldl (fun p tag => p.appendTag tag.1 tag.2) p =
      { p with tags := p.tags ++ tags.map fun tag => (tag.1, some tag.2) } := by
  induction tags generalizing p with
  | nil => simp
  | cons tag rest ih =>
    rw [List.foldl_cons, ih]
    simp [appendTag]

theorem foldl_appendField (fields : List (String × Value)) (p : Point) :
    fields.foldl (fun p field => p.appendField field.1 field.2) p =
      { p with fields := p.fields ++ fields.map fun field => (field.1, some field.2) } := by
  induction fields generalizing p with
  | nil => simp
  | cons field rest ih =>
    rw [List.foldl_cons, ih]
    simp [appendField]

theorem ofPairs_eq (measurement : String) (time : Option Instant)
    (tags fields : List (String × Value)) : ofPairs measurement time tags fields =
      { measurement, time
        tags := tags.map fun tag => (tag.1, some tag.2)
        fields := fields.map fun field => (field.1, some field.2) } := by
  rw [ofPairs, foldl_appendTag, foldl_appendField]
  cases time <;> simp [Point.new, setTime]

/-- Points that differ in nothing but their slots without values. -/
structure Alike (p q : Point) : Prop where
  measurement_eq : p.measurement = q.measurement
  time_eq : p.time = q.time
  tags_eq : p.liveTags = q.liveTags
  fields_eq : p.liveFields = q.liveFields

theorem alike_ofPairs (p : Point) :
    p.Alike (ofPairs p.measurement p.time p.liveTags p.liveFields) := by
  rw [ofPairs_eq]
  exact ⟨rfl, rfl, (Slot.filled_map_some _).symm, (Slot.filled_map_some _).symm⟩

end Point

section Alike
variable {p q : Point}

theorem LineProtocol.pieces_congr (h : p.Alike q) : pieces p = pieces q := by
  have fields : lineFields p = lineFields q := by
    rw [lineFields, lineFields, h.tags_eq, h.fields_eq]
  have time : timePiece p = timePiece q := by
    rw [timePiece, timePiece, h.time_eq]
  rw [pieces, pieces, fields, time, h.measurement_eq, h.tags_eq]

theorem BulkRow.rows_congr (h : p.Alike q) : rows p = rows q := by
  have each (t : Instant) (n : Timestamp) : pieces p t n = pieces q t n := by
    funext field
    simp only [pieces, seriesIdOf, h.measurement_eq, h.tags_eq]
  simp only [rows, h.measurement_eq, h.time_eq, h.fields_eq, each]

theorem Format.render_congr (h : p.Alike q) (format : Format) : format.render p = format.render q := by
  cases format with
  | lineProtocol => simp only [render, LineProtocol.pieces_congr h]
  | bulkRows => simp only [render, BulkRow.rows_congr h]

theorem LineProtocol.lineFields_eq_nil_iff : lineFields p = [] ↔
    p.liveFields = [] ∧ ∀ tag ∈ p.liveTags, tag.2.isText = true := by
  simp [lineFields, and_comm]

theorem Format.render_lineProtocol_eq_nil_iff {r : Rendered}
    (h : Format.lineProtocol.render p = .ok r) :
    (r.bytes = [] ↔ LineProtocol.lineFields p = []) ∧
      (r.lines = 0 ↔ LineProtocol.lineFields p = []) := by
  have accepted : Format.lineProtocol.refusal? p = none := rfl
  obtain ⟨hbytes, hlines⟩ := bytesOf_eq_lines accepted
  rw [(rendered_alone h).1] at hbytes
  rw [(rendered_alone h).2] at hlines
  have none := lines_eq_nil_iff accepted
  rw [if_pos rfl] at none
  rw [hbytes, hlines, List.length_eq_zero_iff, none, ← none, List.flatten_eq_nil_iff]
  refine ⟨⟨?_, ?_⟩, Iff.rfl⟩
  · intro hempty
    rw [List.eq_nil_iff_forall_not_mem]
    intro line hline
    have last := getLast?_lines line hline
    rw [hempty line hline] at last
    exact absurd last (by simp)
  · intro hnil line hline
    rw [hnil] at hline
    exact absurd hline (by simp)

end Alike

/-- However a point has come about, it is written as a new point with its measurement and time to
which the surviving pairs have been appended, or refused as that one is. The line protocol writes
nothing of it just when no field survives and no tag that is not text. -/
theorem Point.written_as_survivors (edits : List Point.Edit) :
    (∀ format : Format, format.render (after edits) = format.render
      (ofPairs (after edits).measurement (after edits).time (survivingTags edits)
        (survivingFields edits))) ∧
    (after edits).text = (ofPairs (after edits).measurement (after edits).time
      (survivingTags edits) (survivingFields edits)).text ∧
    ∃ r, Format.lineProtocol.render (after edits) = .ok r ∧
      (r.bytes = [] ↔ survivingFields edits = [] ∧
        ∀ tag ∈ survivingTags edits, tag.2.isText = true) ∧
      (r.lines = 0 ↔ survivingFields edits = [] ∧
        ∀ tag ∈ survivingTags edits, tag.2.isText = true) := by
  have alike := alike_ofPairs (after edits)
  rw [liveTags_after, liveFields_after] at alike
  refine ⟨Format.render_congr alike, ?_, _, rfl, ?_⟩
  · rw [text, text, LineProtocol.pieces_congr alike]
  · rw [← liveTags_after, ← liveFields_after, ← LineProtocol.lineFields_eq_nil_iff]
    exact Format.render_lineProtocol_eq_nil_iff rfl

end SeriesBench
