import SeriesBench.Json.Basic
import SeriesBench.Query.Basic

set_option autoImplicit false

/-!
# Queries as JSON

`Query.json` is an object with all members; `Query.ofJson?` takes an object in which any members but
four may be missing and others may stand, or an array of the members' values in their order.
-/
namespace SeriesBench
open SeriesBench.Time

namespace Query

def members (q : Query) : List (String × Json) :=
  [("id", .ofNat q.id.toNat),
    ("human_label", .ofString q.label),
    ("human_description", .ofString q.description),
    ("measurement_name", .ofString q.measurementName),
    ("field_name", .ofString q.fieldNames),
    ("aggregation_type", .ofString q.aggregation),
    ("time_start", .ofString q.timeStart.zuluText),
    ("time_end", .ofString q.timeEnd.zuluText),
    ("group_by_duration", .ofString q.groupBy.text),
    ("tag_sets", .array (q.tagSets.map Json.ofStrings)),
    ("order_by", .ofString q.orderBy),
    ("limit", match q.limit with
      | none => .null
      | some n => .ofNat n.toNat),
    ("for_every_n", .ofString q.forEverySpec),
    ("where_clause", .ofString q.whereClause)]

def memberNames : List String := blank.members.map (·.1)

def json (q : Query) : Json :=
  .object (q.members.map fun m => (m.1.toList.map Char.toNat, m.2))

def jsonChars (q : Query) : List Char := q.json.render

def jsonText (q : Query) : String := String.ofList q.jsonChars

/-- The value of the member, which is `none` if it is missing or occurs twice. -/
def member? (name : String) (given : List (String × Json)) : Option Json :=
  match given.filter fun m => m.1 == name with
  | [m] => some m.2
  | _ => none

def optionalMember? {α : Type} (read? : Json → Option α) (absent : α) (name : String)
    (given : List (String × Json)) : Option α :=
  match given.filter fun m => m.1 == name with
  | [] => some absent
  | [m] => read? m.2
  | _ => none

/-- The given members under their names. A name has to be text, and an array may not be longer than
the list of names. -/
def given? : Json → Option (List (String × Json))
  | .object members => members.mapM fun m => (Json.stringOfUnits? m.1).map fun name => (name, m.2)
  | .array items => if items.length ≤ memberNames.length then some (memberNames.zip items) else none
  | _ => none

def instant? (v : Json) : Option Instant := v.string?.bind fun s => Instant.read? s.toList

def duration? (v : Json) : Option Duration :=
  v.string?.bind fun s => (Duration.readChars s.toList).toOption

def limit? : Json → Option (Option UInt64)
  | .null => some none
  | v => v.word?.map some

def ofJson? (v : Json) : Option Query := do
  let given ← given? v
  let string? name := (member? name given).bind Json.string?
  let optional? name := optionalMember? Json.string? "" name given
  let id ← optionalMember? Json.word? 0 "id" given
  let label ← optional? "human_label"
  let description ← optional? "human_description"
  let measurementName ← string? "measurement_name"
  let fieldNames ← string? "field_name"
  let aggregation ← optional? "aggregation_type"
  let timeStart ← (member? "time_start" given).bind instant?
  let timeEnd ← (member? "time_end" given).bind instant?
  let groupBy ← optionalMember? duration? Duration.zero "group_by_duration" given
  let tagSets ← optionalMember? (Json.list? (Json.list? Json.string?)) [] "tag_sets" given
  let orderBy ← optional? "order_by"
  let limit ← optionalMember? limit? none "limit" given
  let forEverySpec ← optional? "for_every_n"
  let whereClause ← optional? "where_clause"
  return {
    id, label, description, measurementName, fieldNames, aggregation, timeStart, timeEnd, groupBy
    tagSets, orderBy, limit, forEverySpec, whereClause }

def readJson? (s : List Char) : Option Query := (Json.read? s).bind ofJson?

def isOverrun (v : Json) : Bool :=
  v.string?.any fun s => Duration.readChars s.toList matches .error .overrun

def isReadable (member : String × Json) : Bool :=
  let (name, v) := member
  if name = "id" then v.word?.isSome
  else if name = "time_start" ∨ name = "time_end" then (instant? v).isSome
  else if name = "group_by_duration" then (duration? v).isSome
  else if name = "tag_sets" then (Json.list? (Json.list? Json.string?) v).isSome
  else if name = "limit" then (limit? v).isSome
  else !memberNames.contains name || v.string?.isSome

def endsInOverrun (given : List (String × Json)) : Bool :=
  match given.reverse with
  | (name, v) :: before =>
    name == "group_by_duration" && isOverrun v && before.all isReadable
      && memberNames.all fun known => (given.filter fun m => m.1 == known).length ≤ 1
  | [] => false

/-- Whether reading a query meets an overrun before anything that is wrong. Members are read in the
order in which they stand, so each front part of the text that ends in a text is looked at as if it
were the whole object or array. -/
def overruns (s : List Char) : Bool :=
  let tokens := Json.leadingTokens s
  tokens.zipIdx.any fun (token, index) =>
    match token with
    | .text units =>
      isOverrun (.text units) && [Json.Token.rightBrace, .rightBracket].any fun closing =>
        ((Json.build [] none (tokens.take (index + 1) ++ [closing])).bind given?).any endsInOverrun
    | _ => false

end Query
end SeriesBench
