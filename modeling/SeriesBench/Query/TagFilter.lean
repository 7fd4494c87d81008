import SeriesBench.PlanError
import SeriesBench.StringMap
import SeriesBench.Text.Split

set_option autoImplicit false

namespace SeriesBench

structure TagTerm where
  key : String
  value : String
deriving DecidableEq, Repr

/-- Reads `key=value`, where the value may hold further equals signs. -/
def TagTerm.read (term : String) : Except PlanError TagTerm :=
  match Text.splitOnce '=' term.toList with
  | some (k :: key, value) => .ok ⟨String.ofList (k :: key), String.ofList value⟩
  | _ => .error (.tagTerm term)

def TagTerm.Holds (t : TagTerm) (tags : StringMap String) : Prop :=
  tags.get? t.key = some t.value

instance (t : TagTerm) (tags : StringMap String) : Decidable (t.Holds tags) :=
  inferInstanceAs (Decidable (_ = _))

structure TagFilter where
  clauses : List (List TagTerm)
deriving DecidableEq, Repr

namespace TagFilter

def all : TagFilter := ⟨[]⟩

def readClauses (clauses : List (List String)) : Except PlanError TagFilter :=
  (clauses.mapM (List.mapM TagTerm.read)).map TagFilter.mk

def isEmpty (f : TagFilter) : Bool := f.clauses.isEmpty

def accepts (f : TagFilter) (tags : StringMap String) : Bool :=
  f.isEmpty || f.clauses.any fun clause => clause.all fun t => decide (t.Holds tags)

end TagFilter
end SeriesBench
