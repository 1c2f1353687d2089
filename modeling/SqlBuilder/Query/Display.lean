import SqlBuilder.Query
import SqlBuilder.Text.Quoted

/-! Short descriptions of `WITH` clauses: the declared names only, since the queries may be large. -/

namespace SqlBuilder

def With.describe (w : With) : String :=
  "With \x7b ctes: " ++ Text.quotedList w.names ++ " \x7d"

def With.describeComposed (w : With) : String :=
  "ComposedQuery \x7b with: " ++ w.describe ++ ", .. \x7d"

end SqlBuilder
