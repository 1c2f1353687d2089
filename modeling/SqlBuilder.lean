import SqlBuilder.Expr.Equality
import SqlBuilder.Expr.Step
import SqlBuilder.Query.Compile
import SqlBuilder.Query.Display
import SqlBuilder.Query.Step
import SqlBuilder.Value.Conversion
import SqlBuilder.Value.Literal
import SqlBuilder.Window.Call
import SqlBuilder.Proofs.Alignment
import SqlBuilder.Proofs.Column.Path
import SqlBuilder.Proofs.Column.Reading
import SqlBuilder.Proofs.Condition
import SqlBuilder.Proofs.Condition.Reading
import SqlBuilder.Proofs.Emission
import SqlBuilder.Proofs.Expr.Composition
import SqlBuilder.Proofs.Faults
import SqlBuilder.Proofs.Frame.Order
import SqlBuilder.Proofs.Frame.Position
import SqlBuilder.Proofs.Frame.Reading
import SqlBuilder.Proofs.Identifier.Containment
import SqlBuilder.Proofs.Identifier.Doubling
import SqlBuilder.Proofs.Lexical.Aligned
import SqlBuilder.Proofs.Lexical.Comment
import SqlBuilder.Proofs.Lexical.Depth
import SqlBuilder.Proofs.Lexical.Grammar
import SqlBuilder.Proofs.Lexical.Grammar.Reading
import SqlBuilder.Proofs.Lexical.Junction
import SqlBuilder.Proofs.Lexical.Keyword
import SqlBuilder.Proofs.Lexical.Positions
import SqlBuilder.Proofs.Lexical.SelfContained
import SqlBuilder.Proofs.Lexical.Sheltered
import SqlBuilder.Proofs.Lexical.Weave
import SqlBuilder.Proofs.Lexical.Word
import SqlBuilder.Proofs.Numbering
import SqlBuilder.Proofs.Pieces
import SqlBuilder.Proofs.Pieces.Compiled
import SqlBuilder.Proofs.Pieces.Parametric
import SqlBuilder.Proofs.Pieces.Phrase
import SqlBuilder.Proofs.Pieces.Related
import SqlBuilder.Proofs.Pieces.Spaced
import SqlBuilder.Proofs.Pieces.Written
import SqlBuilder.Proofs.Placeholders
import SqlBuilder.Proofs.Placeholders.Concatenation
import SqlBuilder.Proofs.Placeholders.Finished
import SqlBuilder.Proofs.Placeholders.References
import SqlBuilder.Proofs.Portability
import SqlBuilder.Proofs.Select.Clauses
import SqlBuilder.Proofs.Select.Filters
import SqlBuilder.Proofs.Select.Steps
import SqlBuilder.Proofs.Values
import SqlBuilder.Proofs.Values.Independence
import SqlBuilder.Proofs.Values.Literal
import SqlBuilder.Proofs.Window.Call
import SqlBuilder.Proofs.Window.Steps
import SqlBuilder.Proofs.With.Assembled
import SqlBuilder.Proofs.With.Binding
import SqlBuilder.Proofs.With.Composition
import SqlBuilder.Proofs.With.Defects
import SqlBuilder.Proofs.With.Leading
import SqlBuilder.Proofs.With.Site
import SqlBuilder.Proofs.With.Source
import SqlBuilder.Proofs.With.Windowed
