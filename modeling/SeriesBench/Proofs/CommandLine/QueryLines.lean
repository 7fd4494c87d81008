import SeriesBench.CommandLine.Job
import SeriesBench.Proofs.Query.Encoding
import SeriesBench.Proofs.Text.Bytes
import SeriesBench.Proofs.Text.Utf8

set_option autoImplicit false

namespace SeriesBench.CommandLine
open SeriesBench.Text

def queryText (queries : List Query) : List UInt8 := queries.flatMap fun q => utf8 (queryLine q)

def queriesOf? (lines : List (List UInt8)) : Option (List Query) := do
  let texts ← lines.mapM ofUtf8?
  (texts.filter fun s => !allBlank s).mapM Query.readJson?

def untilError {ε α : Type} : List (Except ε α) → List α
  | .ok a :: rest => a :: untilError rest
  | _ => []

/-- What a line can consist of that is cut off unchanged. -/
def IsLine (line : List UInt8) : Prop := 0x0A ∉ line ∧ line.getLast? ≠ some 0x0D

theorem inputLines_append {line : List UInt8} (h : 0x0A ∉ line) (rest front : List UInt8)
    (done : List (List UInt8)) :
    inputLines (line ++ rest) front done = inputLines rest (line.reverse ++ front) done := by
  induction line generalizing front with
  | nil => rfl
  | cons b line ih =>
    have hb : b ≠ 0x0A := (List.ne_of_not_mem_cons h).symm
    rw [List.cons_append, inputLines, if_neg hb, ih (List.not_mem_of_not_mem_cons h),
      List.reverse_cons, List.append_assoc]
    rfl

theorem inputLines_line {line : List UInt8} (h : IsLine line) (rest : List UInt8)
    (done : List (List UInt8)) :
    inputLines (line ++ 0x0A :: rest) [] done = inputLines rest [] (line :: done) := by
  -- a carriage return at the end would be cut off with the line feed
  have last : line.reverse.head? ≠ some 0x0D := by
    rw [List.head?_reverse]
    exact h.2
  rw [inputLines_append h.1, List.append_nil, inputLines, if_pos rfl, if_neg last]
  change inputLines rest [] (line.reverse.reverse :: done) = _
  rw [List.reverse_reverse]

theorem inputLines_lines {lines : List (List UInt8)} (h : ∀ line ∈ lines, IsLine line)
    (done : List (List UInt8)) :
    inputLines (lines.flatMap (· ++ [0x0A])) [] done = done.reverse ++ lines := by
  induction lines generalizing done with
  | nil => simp [inputLines]
  | cons line lines ih =>
    have hrest := ih (fun l hl => h l (List.mem_cons_of_mem line hl)) (line :: done)
    rw [List.flatMap_cons, List.append_assoc, List.singleton_append,
      inputLines_line (h line List.mem_cons_self), hrest, List.reverse_cons, List.append_assoc]
    rfl

theorem jsonChars_eq (q : Query) : ∃ inner, q.jsonChars = '\x7b' :: inner ++ ['\x7d'] :=
  ⟨_, rfl⟩

theorem allBlank_jsonChars (q : Query) : allBlank q.jsonChars = false := by
  obtain ⟨inner, hq⟩ := jsonChars_eq q
  have first : isBlank '\x7b' = false := by decide
  rw [hq, List.cons_append, allBlank, List.all_cons, first, Bool.false_and]

theorem isLine_jsonChars (q : Query) : IsLine (utf8 q.jsonChars) := by
  constructor
  · have ascii : IsAscii '\n' := by decide
    exact asciiByte_not_mem_utf8 ascii (Json.WellFormed.newline_not_mem q.wellFormed_json)
  · obtain ⟨inner, hq⟩ := jsonChars_eq q
    have last : utf8 ['\x7d'] = [0x7D] := by decide
    rw [hq, utf8_append, last, List.getLast?_concat]
    decide

theorem queryText_eq (queries : List Query) :
    queryText queries = (queries.map fun q => utf8 q.jsonChars).flatMap (· ++ [0x0A]) := by
  have feed : utf8 ['\n'] = [0x0A] := by decide
  simp only [queryText, queryLine, utf8_append, feed, List.flatMap_map]

theorem inputLines_queryText (queries : List Query) :
    inputLines (queryText queries) [] [] = queries.map fun q => utf8 q.jsonChars := by
  rw [queryText_eq]
  apply inputLines_lines
  intro line hline
  obtain ⟨q, -, rfl⟩ := List.mem_map.1 hline
  exact isLine_jsonChars q

theorem queriesOf?_map (queries : List Query) :
    queriesOf? (queries.map fun q => utf8 q.jsonChars) = some (queries.map Query.onClock) := by
  have texts : (queries.map fun q => utf8 q.jsonChars).mapM ofUtf8? =
      some (queries.map Query.jsonChars) := by
    rw [← Json.mapM_map_eq_some ofUtf8?_utf8 (queries.map Query.jsonChars), List.map_map]
    rfl
  have kept : (queries.map Query.jsonChars).filter (fun s => !allBlank s) =
      queries.map Query.jsonChars := by
    apply List.filter_eq_self.2
    intro s hs
    obtain ⟨q, -, rfl⟩ := List.mem_map.1 hs
    rw [allBlank_jsonChars, Bool.not_false]
  rw [queriesOf?, texts, Option.bind_eq_bind, Option.bind_some, kept,
    Json.mapM_map Query.readJson?_jsonChars]

theorem queriesOf?_cons {line : List UInt8} {lines : List (List UInt8)} {queries : List Query}
    (h : queriesOf? (line :: lines) = some queries) : ∃ s, ofUtf8? line = some s ∧
      ((allBlank s = true ∧ queriesOf? lines = some queries) ∨
        (allBlank s = false ∧ ∃ q rest, Query.readJson? s = some q ∧ queriesOf? lines = some rest ∧
          queries = q :: rest)) := by
  simp only [queriesOf?, List.mapM_cons, Option.bind_eq_bind, Option.bind_assoc,
    Option.bind_eq_some_iff, Option.pure_def, Option.bind_some] at h
  obtain ⟨s, hs, texts, htexts, h⟩ := h
  refine ⟨s, hs, ?_⟩
  cases hblank : allBlank s with
  | true =>
    refine .inl ⟨rfl, ?_⟩
    rw [List.filter_cons_of_neg (by simp [hblank])] at h
    rw [queriesOf?, htexts]
    exact h
  | false =>
    refine .inr ⟨rfl, ?_⟩
    rw [List.filter_cons_of_pos (by simp [hblank]), List.mapM_cons] at h
    simp only [Option.bind_eq_bind, Option.bind_eq_some_iff] at h
    obtain ⟨q, hq, rest, hrest, h⟩ := h
    refine ⟨q, rest, hq, ?_, (Option.some.inj h).symm⟩
    rw [queriesOf?, htexts]
    exact hrest

def PlanTally.complaint? (t : PlanTally) : Option String :=
  if t.refused = 0 then none
  else some (toString t.refused ++ " of " ++ toString (t.planned + t.refused)
    ++ " queries could not be planned")

section Lines
variable {planner : Planner} {line : List UInt8} {s : List Char}

theorem planLines_blank (hs : ofUtf8? line = some s) (hblank : allBlank s = true)
    (lines : List (List UInt8)) (n : Nat) (t : PlanTally) :
    planLines planner (line :: lines) n t = planLines planner lines (n + 1) t := by
  rw [planLines.eq_2, hs]
  simp only [hblank, if_true]

theorem planLines_query (hs : ofUtf8? line = some s) (hblank : allBlank s = false) {q : Query}
    (hq : Query.readJson? s = some q) (lines : List (List UInt8)) (n : Nat) (t : PlanTally) :
    planLines planner (line :: lines) n t = planLines planner lines (n + 1) (t.add planner q) := by
  rw [planLines.eq_2, hs]
  simp only [hblank, hq, Bool.false_eq_true, if_false]

end Lines

theorem planLines_append (planner : Planner) {lines : List (List UInt8)} {queries : List Query}
    (h : queriesOf? lines = some queries) (rest : List (List UInt8)) (n : Nat) (t : PlanTally) :
    planLines planner (lines ++ rest) n t =
      planLines planner rest (n + lines.length) (queries.foldl (·.add planner ·) t) := by
  induction lines generalizing queries n t with
  | nil =>
    obtain rfl : [] = queries := Option.some.inj h
    rfl
  | cons line lines ih =>
    have number : n + 1 + lines.length = n + (line :: lines).length := by
      rw [List.length_cons]
      omega
    obtain ⟨s, hs, ⟨hblank, hrest⟩ | ⟨hblank, q, queries, hq, hrest, rfl⟩⟩ := queriesOf?_cons h
    · rw [List.cons_append, planLines_blank hs hblank, ih hrest, number]
    · rw [List.cons_append, planLines_query hs hblank hq, ih hrest, List.foldl_cons, number]

theorem planLines_of_queriesOf? (planner : Planner) {lines : List (List UInt8)}
    {queries : List Query} (h : queriesOf? lines = some queries) (n : Nat) (t : PlanTally) :
    planLines planner lines n t =
      let t := queries.foldl (·.add planner ·) t
      t.produced (.complete t.complaint?) := by
  have whole := planLines_append planner h [] n t
  rwa [List.append_nil] at whole

theorem bytes_writeQueries (count : Nat) (g : QueryGenerator Sampler) (done : List ByteArray) :
    (writeQueries count g done).bytes =
      done.reverse.flatMap (·.data.toList) ++ queryText (untilError (g.take count).1) := by
  induction count generalizing g done with
  | zero => simp [writeQueries, Produced.bytes, QueryGenerator.take, untilError, queryText]
  | succ count ih =>
    rw [writeQueries, QueryGenerator.take]
    cases hnext : g.next with
    | mk result g' =>
      cases result with
      | ok q =>
        change (writeQueries count g' (piece (queryLine q) :: done)).bytes = _
        rw [ih g']
        simp [untilError, queryText, piece]
      | error e => cases e <;> simp [Produced.bytes, untilError, queryText]

theorem queriesOf?_queryText (queries : List Query) :
    queriesOf? (inputLines (queryText queries) [] []) = some (queries.map Query.onClock) := by
  rw [inputLines_queryText, queriesOf?_map]

theorem map_onClock_eq_self_iff {queries : List Query} : queries.map Query.onClock = queries ↔
    ∀ q ∈ queries, q.timeStart.LeapEndsMinute ∧ q.timeEnd.LeapEndsMinute := by
  have fixed : queries.map Query.onClock = queries.map id ↔ ∀ q ∈ queries, q.onClock = id q :=
    List.map_inj_left
  rw [List.map_id] at fixed
  simpa only [id_eq, Query.onClock_eq_self_iff] using fixed

/-- Queries written line by line are read back in the same order, with the times that a clock shows,
and planned one after the other. So they are the same ones just when no time is in a leap second
that does not end a minute. What is written for a generator is the text of the queries that it
makes. -/
theorem queryText_read_back (queries : List Query) :
    queriesOf? (inputLines (queryText queries) [] []) = some (queries.map Query.onClock) ∧
      (queriesOf? (inputLines (queryText queries) [] []) = some queries ↔
        ∀ q ∈ queries, q.timeStart.LeapEndsMinute ∧ q.timeEnd.LeapEndsMinute) ∧
      (∀ planner : Planner, planLines planner (inputLines (queryText queries) [] []) 1 {} =
        let t := (queries.map Query.onClock).foldl (·.add planner ·) ({} : PlanTally)
        t.produced (.complete t.complaint?)) ∧
      ∀ (count : Nat) (g : QueryGenerator Sampler),
        (writeQueries count g []).bytes = queryText (untilError (g.take count).1) := by
  have read := queriesOf?_queryText queries
  refine ⟨read, ?_, ?_, ?_⟩
  · rw [read, Option.some.injEq]
    exact map_onClock_eq_self_iff
  · intro planner
    exact planLines_of_queriesOf? planner read 1 {}
  · intro count g
    rw [bytes_writeQueries]
    rfl

/-- A query from half a second into a leap second in the middle of the first minute. -/
def midMinuteQuery : Query :=
  { Query.blank with timeStart := (Time.Instant.ofParts? 30 1500000000).getD .epoch }

theorem midMinuteQuery_not_read_back :
    queriesOf? (inputLines (queryText [midMinuteQuery]) [] []) ≠ some [midMinuteQuery] := by
  intro h
  rw [queriesOf?_queryText, Option.some.injEq, map_onClock_eq_self_iff] at h
  exact absurd ((h midMinuteQuery List.mem_cons_self).1 rfl) (by decide)

end SeriesBench.CommandLine
