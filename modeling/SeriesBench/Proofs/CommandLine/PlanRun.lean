import SeriesBench.CommandLine.Session
import SeriesBench.Proofs.CommandLine.QueryLines
import SeriesBench.Proofs.Workload.Planned

set_option autoImplicit false

namespace SeriesBench.CommandLine
open SeriesBench.Text

def withoutReturn (line : List Char) : List Char :=
  if line.getLast? = some '\r' then line.dropLast else line

/-- The lines that the pieces between line feeds are. Nothing after the last line feed is no line,
and something there has no line feed that a carriage return could belong to. -/
def linesOfPieces : List (List Char) → List (List Char)
  | [] => []
  | [last] => if last.isEmpty then [] else [last]
  | piece :: rest => withoutReturn piece :: linesOfPieces rest

def textLines (text : List Char) : List (List Char) := linesOfPieces (split '\n' text)

theorem textLines_of_not_mem {text : List Char} (h : '\n' ∉ text) :
    textLines text = if text.isEmpty then [] else [text] := by
  rw [textLines, split_of_not_mem h, linesOfPieces]

theorem textLines_append {line : List Char} (h : '\n' ∉ line) (rest : List Char) :
    textLines (line ++ '\n' :: rest) = withoutReturn line :: textLines rest := by
  rw [textLines, split_append h, linesOfPieces, textLines]
  exact split_ne_nil '\n' rest

theorem utf8_withoutReturn (line : List Char) : utf8 (withoutReturn line) =
    if (utf8 line).getLast? = some 0x0D then (utf8 line).dropLast else utf8 line := by
  have ascii : IsAscii '\r' := by decide
  have ends : (utf8 line).getLast? = some 0x0D ↔ line.getLast? = some '\r' :=
    getLast?_utf8 ascii line
  unfold withoutReturn
  by_cases h : line.getLast? = some '\r'
  · rw [if_pos h, if_pos (ends.2 h)]
    obtain ⟨front, rfl⟩ := List.getLast?_eq_some_iff.1 h
    have last : utf8 ['\r'] = [0x0D] := by decide
    rw [List.dropLast_concat, utf8_append, last, List.dropLast_concat]
  · rw [if_neg h, if_neg (mt ends.1 h)]

theorem inputLines_nil (line : List UInt8) (done : List (List UInt8)) :
    inputLines [] line done = done.reverse ++ if line.isEmpty then [] else [line.reverse] := by
  cases line <;> simp [inputLines]

theorem inputLines_utf8 (text : List Char) (done : List (List UInt8)) :
    inputLines (utf8 text) [] done = done.reverse ++ (textLines text).map utf8 := by
  have ascii : IsAscii '\n' := by decide
  induction hn : text.length using Nat.strong_induction_on generalizing text done with
  | _ n ih =>
    cases hcut : splitOnce '\n' text with
    | none =>
      have whole := splitOnce_eq_none.1 hcut
      have bytes := inputLines_append (asciiByte_not_mem_utf8 ascii whole) [] [] done
      rw [List.append_nil, List.append_nil] at bytes
      rw [bytes, textLines_of_not_mem whole, inputLines_nil, List.isEmpty_reverse, isEmpty_utf8,
        List.reverse_reverse]
      split <;> rfl
    | some cut =>
      obtain ⟨line, rest⟩ := cut
      obtain ⟨rfl, hline⟩ := eq_of_splitOnce hcut
      have shorter : rest.length < n := by
        rw [← hn, List.length_append, List.length_cons]
        omega
      have cut : (if (utf8 line).reverse.head? = some 0x0D then (utf8 line).reverse.tail
          else (utf8 line).reverse).reverse = utf8 (withoutReturn line) := by
        rw [utf8_withoutReturn, List.head?_reverse]
        split
        · rw [List.tail_reverse, List.reverse_reverse]
        · rw [List.reverse_reverse]
      have feed : utf8 (line ++ '\n' :: rest) = utf8 line ++ 0x0A :: utf8 rest := by
        rw [utf8_append, utf8_ascii_cons ascii]
        rfl
      rw [feed, inputLines_append (asciiByte_not_mem_utf8 ascii hline), List.append_nil, inputLines,
        if_pos rfl]
      dsimp only
      rw [cut, ih rest.length shorter rest _ rfl, textLines_append hline, List.reverse_cons,
        List.append_assoc]
      rfl

def isLegible (line : List Char) : Bool := allBlank line || (Query.readJson? line).isSome

def legibleQueries (lines : List (List Char)) : List Query :=
  ((lines.takeWhile isLegible).filter fun line => !allBlank line).filterMap Query.readJson?

section Legible
variable {lines front back : List (List Char)} {line : List Char}

theorem takeWhile_of_legible (h : ∀ line ∈ lines, isLegible line = true) :
    lines.takeWhile isLegible = lines := by
  rw [List.takeWhile_eq_self_iff]
  exact h

theorem legibleQueries_append (hfront : ∀ line ∈ front, isLegible line = true)
    (hline : isLegible line = false) :
    legibleQueries (front ++ line :: back) = legibleQueries front := by
  rw [legibleQueries, legibleQueries, takeWhile_of_legible hfront,
    List.takeWhile_append_of_pos hfront, List.takeWhile_cons_of_neg (by simp [hline]),
    List.append_nil]

theorem legible_or_first (lines : List (List Char)) : (∀ line ∈ lines, isLegible line = true) ∨
    ∃ front line back, lines = front ++ line :: back ∧ (∀ l ∈ front, isLegible l = true) ∧
      isLegible line = false := by
  cases h : lines.find? fun line => !isLegible line with
  | none =>
    rw [List.find?_eq_none] at h
    exact .inl (by simpa using h)
  | some line =>
    obtain ⟨hline, front, back, rfl, hfront⟩ := List.find?_eq_some_iff_append.1 h
    exact .inr ⟨front, line, back, rfl, by simpa using hfront, by simpa using hline⟩

theorem length_legibleQueries (h : ∀ line ∈ lines, isLegible line = true) :
    (legibleQueries lines).length = lines.countP fun line => !allBlank line := by
  rw [legibleQueries, takeWhile_of_legible h, List.length_filterMap_eq_countP, List.countP_filter]
  apply List.countP_congr
  intro line hline
  have legible := h line hline
  rw [isLegible, Bool.or_eq_true] at legible
  cases hblank : allBlank line with
  | true => simp
  | false => simpa [hblank] using legible

theorem queriesOf?_utf8 (h : ∀ line ∈ lines, isLegible line = true) :
    queriesOf? (lines.map utf8) = some (legibleQueries lines) := by
  have read (texts : List (List Char)) (htexts : ∀ s ∈ texts, (Query.readJson? s).isSome = true) :
      texts.mapM Query.readJson? = some (texts.filterMap Query.readJson?) := by
    induction texts with
    | nil => rfl
    | cons s texts ih =>
      rw [List.forall_mem_cons] at htexts
      obtain ⟨q, hq⟩ := Option.isSome_iff_exists.1 htexts.1
      rw [List.mapM_cons, hq, ih htexts.2, List.filterMap_cons_some hq]
      rfl
  rw [queriesOf?, Json.mapM_map_eq_some ofUtf8?_utf8, Option.bind_eq_bind, Option.bind_some,
    legibleQueries, takeWhile_of_legible h]
  apply read
  intro s hs
  obtain ⟨hmem, hblank⟩ := List.mem_filter.1 hs
  have legible := h s hmem
  rw [Bool.not_eq_true'] at hblank
  rwa [isLegible, hblank, Bool.false_or] at legible

end Legible

section Plans
variable (planner : Planner)

def hasPlan (q : Query) : Bool := (planner.plan q).isOk

def sectionOf (q : Query) : List Char :=
  match planner.plan q with
  | .ok plan => planSection q plan
  | .error _ => []

def refusals (queries : List Query) : Nat := queries.countP fun q => !hasPlan planner q

theorem add_spec (q : Query) (t : PlanTally) (ending : Ending) :
    ((t.add planner q).produced ending).bytes =
        (t.produced ending).bytes ++ utf8 (sectionOf planner q) ∧
      (t.add planner q).planned = t.planned + [q].countP (hasPlan planner) ∧
      (t.add planner q).refused = t.refused + refusals planner [q] := by
  cases h : planner.plan q with
  | ok plan =>
    have planned : hasPlan planner q = true := by simp [hasPlan, h, Except.isOk, Except.toBool]
    simp [PlanTally.add, PlanTally.produced, Produced.bytes, sectionOf, piece, refusals, planned, h]
  | error e =>
    have refused : hasPlan planner q = false := by simp [hasPlan, h, Except.isOk, Except.toBool]
    simp [PlanTally.add, PlanTally.produced, Produced.bytes, sectionOf, refusals, refused, h, utf8]

theorem foldl_add (queries : List Query) (t : PlanTally) (ending : Ending) :
    let last := queries.foldl (·.add planner ·) t
    (last.produced ending).bytes =
        (t.produced ending).bytes ++ utf8 (queries.flatMap (sectionOf planner)) ∧
      last.planned = t.planned + queries.countP (hasPlan planner) ∧
      last.refused = t.refused + refusals planner queries := by
  induction queries generalizing t with
  | nil => simp [refusals, utf8]
  | cons q queries ih =>
    obtain ⟨hbytes, hplanned, hrefused⟩ := ih (t.add planner q)
    obtain ⟨hbytes', hplanned', hrefused'⟩ := add_spec planner q t ending
    rw [← List.singleton_append, refusals, List.countP_append, List.countP_append]
    refine ⟨?_, ?_, ?_⟩
    · rw [List.singleton_append, List.foldl_cons, hbytes, hbytes', List.flatMap_cons, utf8_append,
        List.append_assoc]
    · rw [List.singleton_append, List.foldl_cons, hplanned, hplanned', Nat.add_assoc]
    · rw [List.singleton_append, List.foldl_cons, hrefused, hrefused', Nat.add_assoc]
      rfl

theorem planLines_fault {line : List Char} (hline : isLegible line = false)
    (back : List (List UInt8)) (n : Nat) (t : PlanTally) :
    planLines planner (utf8 line :: back) n t = t.produced
      (if Query.overruns line then .broken else .failed ("invalid query on line " ++ toString n)) := by
  rw [isLegible, Bool.or_eq_false_iff, Option.isSome_eq_false_iff, Option.isNone_iff_eq_none] at hline
  rw [planLines.eq_2, ofUtf8?_utf8]
  simp only [hline.1, hline.2, Bool.false_eq_true, if_false]

theorem complaint?_of_queries (queries : List Query) :
    (queries.foldl (·.add planner ·) ({} : PlanTally)).complaint? =
      if refusals planner queries = 0 then none
      else some (toString (refusals planner queries) ++ " of " ++ toString queries.length
        ++ " queries could not be planned") := by
  obtain ⟨-, hplanned, hrefused⟩ := foldl_add planner queries {} (.complete none)
  rw [Nat.zero_add] at hplanned hrefused
  have all : queries.length = queries.countP (hasPlan planner) + refusals planner queries := by
    simpa [refusals] using List.length_eq_countP_add_countP (hasPlan planner) (l := queries)
  rw [PlanTally.complaint?, hplanned, hrefused, ← all]

theorem planLines_of_legible {lines : List (List Char)}
    (h : ∀ line ∈ lines, isLegible line = true) (n : Nat) (t : PlanTally) :
    planLines planner (lines.map utf8) n t =
      let t := (legibleQueries lines).foldl (·.add planner ·) t
      t.produced (.complete t.complaint?) :=
  planLines_of_queriesOf? planner (queriesOf?_utf8 h) n t

theorem planLines_of_illegible {front back : List (List Char)} {line : List Char}
    (hfront : ∀ l ∈ front, isLegible l = true) (hline : isLegible line = false) (t : PlanTally) :
    planLines planner ((front ++ line :: back).map utf8) 1 t =
      ((legibleQueries (front ++ line :: back)).foldl (·.add planner ·) t).produced
        (if Query.overruns line then .broken
        else .failed ("invalid query on line " ++ toString (front.length + 1))) := by
  rw [List.map_append, List.map_cons, planLines_append planner (queriesOf?_utf8 hfront),
    planLines_fault planner hline, legibleQueries_append hfront hline, List.length_map, Nat.add_comm]

theorem bytes_planLines (lines : List (List Char)) :
    (planLines planner (lines.map utf8) 1 {}).bytes =
      utf8 ((legibleQueries lines).flatMap (sectionOf planner)) := by
  rcases legible_or_first lines with h | ⟨front, line, back, rfl, hfront, hline⟩
  · rw [planLines_of_legible planner h]
    exact (foldl_add planner _ {} _).1
  · rw [planLines_of_illegible planner hfront hline]
    exact (foldl_add planner _ {} _).1

end Plans

def planFailure (text : String) : String := "Plan command failed: " ++ text ++ "\n"

/-- What comes of planning what is on the lines, if the plans go to standard output. -/
structure PlanOutcome (planner : Planner) (lines : List (List Char)) (o : Outcome) : Prop where
  output : o.output.flatMap (·.data.toList) =
    utf8 ((legibleQueries lines).flatMap (sectionOf planner))
  status_eq_zero_iff : o.status = 0 ↔ (∀ line ∈ lines, isLegible line = true) ∧
    ∀ q ∈ legibleQueries lines, ∃ plan, planner.plan q = .ok plan
  illegible : ∀ front line back, lines = front ++ line :: back →
    (∀ l ∈ front, isLegible l = true) → isLegible line = false →
    if Query.overruns line then o.status = 101 ∧ o.message = ""
    else o.status = 1 ∧
      o.message = planFailure ("invalid query on line " ++ toString (front.length + 1))
  refused : (∀ line ∈ lines, isLegible line = true) → 0 < refusals planner (legibleQueries lines) →
    o.status = 1 ∧ o.message = planFailure
      (toString (refusals planner (legibleQueries lines)) ++ " of " ++
        toString (lines.countP fun line => !allBlank line) ++ " queries could not be planned")

def planned (p : Produced) : Outcome :=
  { Outcome.ended "Plan command failed: " p.ending with output := p.pieces }

theorem refusals_eq_zero_iff {planner : Planner} {queries : List Query} :
    refusals planner queries = 0 ↔ ∀ q ∈ queries, ∃ plan, planner.plan q = .ok plan := by
  rw [refusals, List.countP_eq_zero]
  apply forall₂_congr
  intro q _
  cases h : planner.plan q <;> simp [hasPlan, h, Except.isOk, Except.toBool]

theorem planOutcome_planned (planner : Planner) (lines : List (List Char)) :
    PlanOutcome planner lines (planned (planLines planner (lines.map utf8) 1 {})) := by
  constructor
  case output => exact bytes_planLines planner lines
  case status_eq_zero_iff =>
    rcases legible_or_first lines with h | ⟨front, line, back, rfl, hfront, hline⟩
    · rw [planLines_of_legible planner h, and_iff_right h, ← refusals_eq_zero_iff]
      dsimp only [planned, PlanTally.produced]
      rw [complaint?_of_queries]
      split <;> simp_all [Outcome.ended, Outcome.failed]
    · have some_illegible : ¬ ∀ l ∈ front ++ line :: back, isLegible l = true := by
        intro h
        exact absurd (h line (by simp)) (by simp [hline])
      rw [planLines_of_illegible planner hfront hline, iff_false_right (mt And.left some_illegible)]
      dsimp only [planned, PlanTally.produced]
      split <;> simp [Outcome.ended, Outcome.failed, Outcome.broken]
  case illegible =>
    rintro front line back rfl hfront hline
    rw [planLines_of_illegible planner hfront hline]
    dsimp only [planned, PlanTally.produced]
    split <;> exact ⟨rfl, rfl⟩
  case refused =>
    intro h hrefused
    rw [planLines_of_legible planner h]
    dsimp only [planned, PlanTally.produced]
    rw [complaint?_of_queries, if_neg (by omega), length_legibleQueries h]
    exact ⟨rfl, rfl⟩

section Job
variable {s : PlanQueries} {fleet : Fleet} {catalog : List Series}

theorem perform_plan (houtput : s.output = none) (hfleet : fleetOf s.dataset = .ok fleet)
    (hcatalog : fleet.catalog s.dataset.start s.dataset.stop = .ok catalog) :
    ∃ job, (Command.plan s).job = .ok job ∧
      job.source = (s.file.map Source.file).getD .standardInput ∧
      ∀ (session : Session) place text, session.input? job = .ok (place, .ok (utf8 text)) →
        (session.perform job).1 = planned
          (planLines ⟨Index.ofList catalog, {}, s.side⟩ ((textLines text).map utf8) 1 {}) := by
  obtain ⟨produce, hproduce, hplan⟩ : ∃ produce, s.producer = .ok produce ∧ ∀ bytes,
      produce (.ok bytes) =
        planLines ⟨Index.ofList catalog, {}, s.side⟩ (inputLines bytes [] []) 1 {} := by
    rw [PlanQueries.producer, hfleet]
    dsimp only [bind, Except.bind, ofBoth]
    rw [hcatalog]
    exact ⟨_, rfl, fun _ => rfl⟩
  refine ⟨_, by rw [Command.job, hproduce]; rfl, rfl, ?_⟩
  intro session place text hinput
  have cut : inputLines (utf8 text) [] [] = (textLines text).map utf8 := inputLines_utf8 text []
  rw [Session.perform, hinput, ← cut, ← hplan]
  simp only [Session.target, houtput]
  rfl

/-- The plans of the queries that have one are written in the order of the queries, each under a
line with its query's id and label, up to the first line that is neither blank nor a query, or to
the end. All is well only if there is no such line and each query has a plan. Otherwise the failure
gives the number of that line, counted from one with blank lines, unless the line overruns its
reader, so that the program comes to grief and tells no failure; or it gives the number of queries
without a plan and that of all lines that are not blank. -/
theorem plan_line_by_line (houtput : s.output = none) (hfleet : fleetOf s.dataset = .ok fleet)
    (hcatalog : fleet.catalog s.dataset.start s.dataset.stop = .ok catalog) :
    ∃ job, (Command.plan s).job = .ok job ∧
      job.source = (s.file.map Source.file).getD .standardInput ∧
      ∀ (session : Session) place text, session.input? job = .ok (place, .ok (utf8 text)) →
        PlanOutcome ⟨Index.ofList catalog, {}, s.side⟩ (textLines text)
          (session.perform job).1 := by
  obtain ⟨job, hjob, hsource, hperform⟩ := perform_plan houtput hfleet hcatalog
  refine ⟨job, hjob, hsource, ?_⟩
  intro session place text hinput
  rw [hperform session place text hinput]
  exact planOutcome_planned _ (textLines text)

end Job

def defaultPlan : PlanQueries where
  dataset := ⟨defaultStart, defaultStop, 1, 0⟩
  output := none
  file := none
  side := .server

theorem exists_catalog_defaultPlan : ∃ catalog,
    (Fleet.generate 1 0).catalog defaultPlan.dataset.start defaultPlan.dataset.stop = .ok catalog :=
  Fleet.exists_catalog 1 0 (by decide) (by decide)

def planSession (text : List Char) : Session where
  args := ["plan"]
  environment := StringMap.empty
  input := utf8 text
  files := StringMap.empty

theorem input_planSession (text : List Char) {job : Job} (h : job.source = .standardInput) :
    (planSession text).input? job = .ok (none, .ok (utf8 text)) := by
  rw [Session.input?, h]
  rfl

theorem textLines_queryLine (q : Query) (rest : List Char) :
    textLines (queryLine q ++ rest) = q.jsonChars :: textLines rest := by
  have kept : withoutReturn q.jsonChars = q.jsonChars := by
    obtain ⟨inner, hq⟩ := jsonChars_eq q
    rw [withoutReturn, hq, List.getLast?_concat, if_neg (by decide)]
  have cut := textLines_append (Json.WellFormed.newline_not_mem q.wellFormed_json) rest
  rw [queryLine, List.append_assoc]
  exact cut.trans (congrArg (· :: textLines rest) kept)

def hourQuery : Query :=
  { Query.blank with
    id := 7
    label := "first hour"
    measurementName := "cpu"
    fieldNames := "usage_user"
    timeStart := defaultStart
    timeEnd := Time.Timestamp.instant ⟨1451610000000000000, by decide⟩ }

def fieldlessQuery : Query := { hourQuery with fieldNames := "" }

/-- Blank lines before a query with a plan and after it, and one without a plan. -/
def mixedText (rest : List Char) : List Char :=
  '\n' :: (queryLine hourQuery ++ ' ' :: '\n' :: (queryLine fieldlessQuery ++ rest))

def mixedLines : List (List Char) :=
  [[], hourQuery.jsonChars, [' '], fieldlessQuery.jsonChars]

theorem textLines_mixedText (rest : List Char) :
    textLines (mixedText rest) = mixedLines ++ textLines rest := by
  have empty (back : List Char) : textLines ('\n' :: back) = [] :: textLines back :=
    @textLines_append [] (by decide) back
  have blank (back : List Char) : textLines (' ' :: '\n' :: back) = [' '] :: textLines back :=
    @textLines_append [' '] (by decide) back
  rw [mixedText, empty, textLines_queryLine, blank, textLines_queryLine]
  rfl

theorem legible_mixedLines : ∀ line ∈ mixedLines, isLegible line = true := by
  have blanks : allBlank [] = true ∧ allBlank [' '] = true := by decide
  simp [mixedLines, isLegible, blanks, Query.readJson?_jsonChars]

theorem legibleQueries_mixedLines : legibleQueries mixedLines = [hourQuery, fieldlessQuery] := by
  have blanks : allBlank [] = true ∧ allBlank [' '] = true := by decide
  have clocks : hourQuery.onClock = hourQuery ∧ fieldlessQuery.onClock = fieldlessQuery :=
    ⟨rfl, rfl⟩
  rw [legibleQueries, takeWhile_of_legible legible_mixedLines]
  simp [mixedLines, blanks, allBlank_jsonChars, Query.readJson?_jsonChars, clocks]

theorem asks_hourQuery : hourQuery.Asks defaultPlan.dataset 1 [] where
  measurement_eq := rfl
  metrics_pos := by decide
  metrics_le := by decide
  fields_eq := by decide
  window := ⟨by decide, by decide, by decide, by decide, by decide⟩
  tagSets_eq := rfl
  nodup_ids := .nil
  ids_lt := by simp
  width := by decide
  forEvery := fun h => absurd h (by decide)

theorem exists_plan_hourQuery {catalog : List Series}
    (h : (Fleet.generate 1 0).catalog defaultPlan.dataset.start defaultPlan.dataset.stop =
      .ok catalog) : ∃ plan,
      Planner.plan ⟨Index.ofList catalog, {}, defaultPlan.side⟩ hourQuery = .ok plan := by
  have known : Catalogued defaultPlan.dataset catalog := ⟨rfl, rfl, by decide, by decide, h⟩
  obtain ⟨s, hs⟩ := asks_hourQuery.selects (by decide) (by decide)
  obtain ⟨plan, hplan, -⟩ :=
    known.exists_plan (p := ⟨Index.ofList catalog, {}, defaultPlan.side⟩) asks_hourQuery hs rfl
  exact ⟨plan, hplan⟩

/-- With an object without members on a last line, the failure is about that line. -/
theorem mixedText_outcome : ∃ job catalog plan, (Command.plan defaultPlan).job = .ok job ∧
    Planner.plan ⟨Index.ofList catalog, {}, defaultPlan.side⟩ hourQuery = .ok plan ∧
    (let o := ((planSession (mixedText [])).perform job).1;
      o.output.flatMap (·.data.toList) = utf8 (planSection hourQuery plan) ∧ o.status = 1 ∧
        o.message = planFailure "1 of 2 queries could not be planned") ∧
    (let o := ((planSession (mixedText "\x7b\x7d\n".toList)).perform job).1;
      o.output.flatMap (·.data.toList) = utf8 (planSection hourQuery plan) ∧ o.status = 1 ∧
        o.message = planFailure "invalid query on line 5") := by
  obtain ⟨catalog, hcatalog⟩ := exists_catalog_defaultPlan
  obtain ⟨plan, hplan⟩ := exists_plan_hourQuery hcatalog
  obtain ⟨job, hjob, hsource, houtcome⟩ := plan_line_by_line (s := defaultPlan) rfl rfl hcatalog
  have refused : Planner.plan ⟨Index.ofList catalog, {}, defaultPlan.side⟩ fieldlessQuery =
      .error .noField := rfl
  have sections : [hourQuery, fieldlessQuery].flatMap
      (sectionOf ⟨Index.ofList catalog, {}, defaultPlan.side⟩) = planSection hourQuery plan := by
    simp [sectionOf, hplan, refused]
  have count :
      refusals ⟨Index.ofList catalog, {}, defaultPlan.side⟩ [hourQuery, fieldlessQuery] = 1 := by
    simp [refusals, hasPlan, hplan, refused, Except.isOk, Except.toBool]
  refine ⟨job, catalog, plan, hjob, hplan, ?_, ?_⟩
  · have outcome := houtcome _ _ _ (input_planSession (mixedText []) hsource)
    have lines : textLines (mixedText []) = mixedLines := textLines_mixedText []
    have filled : (mixedLines.countP fun line => !allBlank line) = 2 := by
      rw [← length_legibleQueries legible_mixedLines, legibleQueries_mixedLines]
      rfl
    rw [lines] at outcome
    have some_refused : 0 < refusals ⟨Index.ofList catalog, {}, defaultPlan.side⟩
        (legibleQueries mixedLines) := by
      rw [legibleQueries_mixedLines, count]
      exact Nat.one_pos
    have told := outcome.refused legible_mixedLines some_refused
    rw [legibleQueries_mixedLines, count, filled] at told
    have written := outcome.output
    rw [legibleQueries_mixedLines, sections] at written
    exact ⟨written, told⟩
  · have outcome := houtcome _ _ _ (input_planSession (mixedText "\x7b\x7d\n".toList) hsource)
    have lines : textLines (mixedText "\x7b\x7d\n".toList) =
        mixedLines ++ "\x7b\x7d".toList :: [] := textLines_mixedText _
    have illegible : isLegible "\x7b\x7d".toList = false := by decide +kernel
    have told := outcome.illegible _ _ _ lines legible_mixedLines illegible
    rw [if_neg (by decide +kernel)] at told
    have written := outcome.output
    rw [lines, legibleQueries_append legible_mixedLines illegible, legibleQueries_mixedLines,
      sections] at written
    exact ⟨written, told⟩

/-- A query by the longest time that can be counted, and a second more. -/
def overrunLine : List Char :=
  ("\x7b\"measurement_name\":\"cpu\",\"field_name\":\"usage_user\","
    ++ "\"time_start\":\"2016-01-01T00:00:00Z\",\"time_end\":\"2016-01-01T01:00:00Z\","
    ++ "\"group_by_duration\":\"18446744073709551615s 1000000000ns\"\x7d").toList

theorem overrunLine_overruns : textLines (overrunLine ++ ['\n']) = [overrunLine] ∧
    isLegible overrunLine = false ∧ Query.overruns overrunLine = true := by
  decide +kernel

/-- No failure names the line, though it has no query. -/
theorem overrunLine_unnamed : textLines (overrunLine ++ ['\n']) = [overrunLine] ∧
    isLegible overrunLine = false ∧ ∃ job, (Command.plan defaultPlan).job = .ok job ∧
      ((planSession (overrunLine ++ ['\n'])).perform job).1.status = 101 ∧
      ((planSession (overrunLine ++ ['\n'])).perform job).1.message = "" := by
  obtain ⟨lines, illegible, overruns⟩ := overrunLine_overruns
  refine ⟨lines, illegible, ?_⟩
  obtain ⟨catalog, hcatalog⟩ := exists_catalog_defaultPlan
  obtain ⟨job, hjob, hsource, hperform⟩ := perform_plan (s := defaultPlan) rfl rfl hcatalog
  refine ⟨job, hjob, ?_⟩
  rw [hperform _ _ _ (input_planSession _ hsource), lines]
  have fails := (planOutcome_planned ⟨Index.ofList catalog, {}, .server⟩
    [overrunLine]).illegible [] overrunLine [] rfl (by simp) illegible
  rwa [if_pos overruns] at fails

end SeriesBench.CommandLine
