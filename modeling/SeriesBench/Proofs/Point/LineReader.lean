import SeriesBench.Point.LineProtocol
import SeriesBench.Text.Number
import SeriesBench.Text.Utf8

set_option autoImplicit false

/-!
# Reading a line of line protocol

The reader goes from left to right and stops each part at the first separator that is not escaped.
Names are escaped by a backslash before a separator, where any other backslash stands for itself;
text in quotes has escapes for the quote and the backslash. `ItemReader.many_append` says when a
sequence of items that each can be read is read as a whole.
-/
namespace SeriesBench.LineProtocol
open SeriesBench.Time SeriesBench.Text

/-- A value as a line shows it. Only the quotes tell text from other values. -/
inductive Shown where
  | quoted (text : String)
  | bare (text : String)
deriving DecidableEq, Repr

structure Line where
  measurement : String
  tags : List (String × String)
  fields : List (String × Shown)
  time? : Option Int
deriving DecidableEq, Repr

def endsMeasurement (c : Char) : Bool := c == ' ' || c == ','

def endsKey (c : Char) : Bool := c == ' ' || c == ',' || c == '='

def endsValue (c : Char) : Bool := c == ' ' || c == ',' || c == '\n'

def Stops (ends : Char → Bool) (s : List Char) : Prop := ∃ c rest, s = c :: rest ∧ ends c = true

def prepend (c : Char) (read : List Char × List Char) : List Char × List Char :=
  (c :: read.1, read.2)

/-- Reads up to the first separator, which stays. After a backslash a separator is part of the name
and the backslash is not. -/
def readName (ends : Char → Bool) : List Char → List Char × List Char
  | '\\' :: c :: rest =>
    if ends c then prepend c (readName ends rest) else prepend '\\' (readName ends (c :: rest))
  | c :: rest => if ends c then ([], c :: rest) else prepend c (readName ends rest)
  | [] => ([], [])

def readQuoted : List Char → Option (List Char × List Char)
  | '"' :: rest => some ([], rest)
  | '\\' :: '\\' :: rest => (readQuoted rest).map (prepend '\\')
  | '\\' :: '"' :: rest => (readQuoted rest).map (prepend '"')
  | c :: rest => (readQuoted rest).map (prepend c)
  | [] => none

theorem readName_suffix (ends : Char → Bool) (s : List Char) : (readName ends s).2 <:+ s := by
  fun_induction readName ends s with
  | case1 c rest _ ih => exact ih.trans (List.suffix_append ['\\', c] rest)
  | case2 c rest _ ih => exact ih.trans (List.suffix_cons '\\' (c :: rest))
  | case3 c rest => exact List.suffix_refl _
  | case4 c rest _ _ ih => exact ih.trans (List.suffix_cons c rest)
  | case5 => exact List.suffix_refl _

theorem readQuoted_suffix {s text rest : List Char} (h : readQuoted s = some (text, rest)) :
    rest <:+ s := by
  fun_induction readQuoted s generalizing text with
  | case1 after =>
    obtain ⟨-, rfl⟩ := Prod.mk.inj (Option.some.inj h)
    exact List.suffix_cons '"' after
  | case2 after ih =>
    obtain ⟨⟨_, _⟩, hread, hprepend⟩ := Option.map_eq_some_iff.1 h
    obtain ⟨-, rfl⟩ := Prod.mk.inj hprepend
    exact (ih hread).trans (List.suffix_append ['\\', '\\'] after)
  | case3 after ih =>
    obtain ⟨⟨_, _⟩, hread, hprepend⟩ := Option.map_eq_some_iff.1 h
    obtain ⟨-, rfl⟩ := Prod.mk.inj hprepend
    exact (ih hread).trans (List.suffix_append ['\\', '"'] after)
  | case4 c after _ _ _ ih =>
    obtain ⟨⟨_, _⟩, hread, hprepend⟩ := Option.map_eq_some_iff.1 h
    obtain ⟨-, rfl⟩ := Prod.mk.inj hprepend
    exact (ih hread).trans (List.suffix_cons c after)
  | case5 => exact absurd h (by simp)

/-- Reads an item at the front of a text. What follows the item is less than the text. -/
structure ItemReader (α : Type) where
  read? : List Char → Option (α × List Char)
  length_lt : ∀ {s item rest}, read? s = some (item, rest) → rest.length < s.length

namespace ItemReader
variable {α β : Type}

def many (r : ItemReader α) (s : List Char) : List α × List Char :=
  match h : r.read? s with
  | none => ([], s)
  | some (item, rest) =>
    have := r.length_lt h
    let more := r.many rest
    (item :: more.1, more.2)
termination_by s.length

theorem many_of_none {r : ItemReader α} {s : List Char} (h : r.read? s = none) :
    r.many s = ([], s) := by
  rw [many]
  split
  · rfl
  · rename_i hsome
    exact absurd (h.symm.trans hsome) (by simp)

theorem many_of_some {r : ItemReader α} {s rest : List Char} {item : α}
    (h : r.read? s = some (item, rest)) :
    r.many s = (item :: (r.many rest).1, (r.many rest).2) := by
  rw [many]
  split
  · rename_i hnone
    exact absurd (h.symm.trans hnone) (by simp)
  · rename_i hsome
    obtain ⟨rfl, rfl⟩ := Prod.mk.inj (Option.some.inj (h.symm.trans hsome))
    rfl

/-- Items are read one after the other if each ends where the next begins. -/
theorem many_append {r : ItemReader α} {text : β → List Char} {value : β → α}
    {stops : List Char → Prop} {items : List β} {rest : List Char}
    (hread : ∀ b ∈ items, ∀ after, stops after → r.read? (text b ++ after) = some (value b, after))
    (hnext : ∀ b after, stops (text b ++ after)) (hstops : stops rest)
    (hrest : r.read? rest = none) :
    r.many (items.flatMap text ++ rest) = (items.map value, rest) := by
  induction items with
  | nil => exact many_of_none hrest
  | cons b items ih =>
    have after : stops (items.flatMap text ++ rest) := by
      cases items with
      | nil => exact hstops
      | cons c items =>
        rw [List.flatMap_cons, List.append_assoc]
        exact hnext c _
    have first := hread b (by simp) _ after
    rw [List.flatMap_cons, List.append_assoc, many_of_some first,
      ih fun c hc => hread c (by simp [hc])]
    rfl

end ItemReader

def readKey? (s : List Char) : Option (List Char × List Char) :=
  match readName endsKey s with
  | (key, '=' :: rest) => some (key, rest)
  | _ => none

def readTag? : List Char → Option ((String × String) × List Char)
  | ',' :: s =>
    (readKey? s).map fun key =>
      let value := readName endsKey key.2
      ((String.ofList key.1, String.ofList value.1), value.2)
  | _ => none

def readValue? : List Char → Option (Shown × List Char)
  | '"' :: s => (readQuoted s).map fun text => (.quoted (String.ofList text.1), text.2)
  | s => some (.bare (String.ofList (s.takeWhile fun c => !endsValue c)),
      s.dropWhile fun c => !endsValue c)

def readField? (separator : Char) : List Char → Option ((String × Shown) × List Char)
  | c :: s =>
    if c = separator then
      (readKey? s).bind fun key =>
        (readValue? key.2).map fun value => ((String.ofList key.1, value.1), value.2)
    else none
  | [] => none

theorem length_lt_of_readKey? {s key rest : List Char} (h : readKey? s = some (key, rest)) :
    rest.length < s.length := by
  unfold readKey? at h
  split at h
  · rename_i name after hname
    obtain ⟨-, rfl⟩ := Prod.mk.inj (Option.some.inj h)
    have suffix := readName_suffix endsKey s
    rw [hname] at suffix
    exact suffix.length_le
  · exact absurd h (by simp)

theorem length_le_of_readValue? {s rest : List Char} {value : Shown}
    (h : readValue? s = some (value, rest)) : rest.length ≤ s.length := by
  unfold readValue? at h
  split at h
  · rename_i s'
    obtain ⟨⟨_, _⟩, hread, hvalue⟩ := Option.map_eq_some_iff.1 h
    obtain ⟨-, rfl⟩ := Prod.mk.inj hvalue
    exact Nat.le_succ_of_le (readQuoted_suffix hread).length_le
  · obtain ⟨-, rfl⟩ := Prod.mk.inj (Option.some.inj h)
    exact (List.dropWhile_suffix _).length_le

def tagReader : ItemReader (String × String) where
  read? := readTag?
  length_lt := by
    intro s item rest h
    unfold readTag? at h
    split at h
    · rename_i s'
      obtain ⟨⟨key, afterKey⟩, hkey, hitem⟩ := Option.map_eq_some_iff.1 h
      obtain ⟨-, rfl⟩ := Prod.mk.inj hitem
      have hlt := length_lt_of_readKey? hkey
      have hle := (readName_suffix endsKey afterKey).length_le
      rw [List.length_cons]
      exact Nat.lt_succ_of_le (Nat.le_trans hle (Nat.le_of_lt hlt))
    · exact absurd h (by simp)

def fieldReader (separator : Char) : ItemReader (String × Shown) where
  read? := readField? separator
  length_lt := by
    intro s item rest h
    unfold readField? at h
    split at h
    · rename_i c s'
      obtain ⟨-, h⟩ := Option.ite_none_right_eq_some.1 h
      obtain ⟨⟨key, afterKey⟩, hkey, h⟩ := Option.bind_eq_some_iff.1 h
      obtain ⟨⟨value, afterValue⟩, hvalue, hitem⟩ := Option.map_eq_some_iff.1 h
      obtain ⟨-, rfl⟩ := Prod.mk.inj hitem
      have hlt := length_lt_of_readKey? hkey
      have hle := length_le_of_readValue? hvalue
      rw [List.length_cons]
      exact Nat.lt_succ_of_le (Nat.le_trans hle (Nat.le_of_lt hlt))
    · exact absurd h (by simp)

def readEnd? : List Char → Option (Option Int)
  | ['\n'] => some none
  | ' ' :: s =>
    if s.dropWhile (· != '\n') = ['\n'] then
      (readInt minTimestamp.natAbs maxTimestamp.natAbs
        (s.takeWhile (· != '\n'))).toOption.map some
    else none
  | _ => none

/-- Reads a line that fills the text. It has a field at least. -/
def Line.read? (s : List Char) : Option Line := do
  let (measurement, s) := readName endsMeasurement s
  let (tags, s) := tagReader.many s
  let (first, s) ← readField? ' ' s
  let (more, s) := (fieldReader ',').many s
  let time? ← readEnd? s
  return ⟨String.ofList measurement, tags, first :: more, time?⟩

def Line.ofBytes? (bytes : List UInt8) : Option Line := (ofUtf8? bytes).bind Line.read?

end SeriesBench.LineProtocol
