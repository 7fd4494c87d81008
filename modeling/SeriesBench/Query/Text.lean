import SeriesBench.Query.Basic
import SeriesBench.Text.Quoted

set_option autoImplicit false

namespace SeriesBench

def Query.text (q : Query) : String :=
  "ID: " ++ toString q.id.toNat ++ ", HumanLabel: " ++ q.label ++ ", HumanDescription: "
    ++ q.description ++ ", MeasurementName: " ++ q.measurementName ++ ", FieldName: "
    ++ q.fieldNames ++ ", AggregationType: " ++ q.aggregation ++ ", TimeStart: "
    ++ q.timeStart.offsetText ++ ", TimeEnd: " ++ q.timeEnd.offsetText ++ ", GroupByDuration: "
    ++ q.groupBy.text ++ ", TagSets: "
    ++ Text.bracketed (q.tagSets.map fun clause => Text.bracketed (clause.map Text.quoted))

end SeriesBench
