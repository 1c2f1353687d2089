import SqlBuilder.Error
import SqlBuilder.Fragment
import SqlBuilder.Lexical.Marker

/-!
Finished statements. A fragment is finished when its text ends outside quotes and block comments and has as many
markers as there are values; only then are the markers written in the dialect's style.
-/

namespace SqlBuilder

def Mode.close : Mode → Except BuildError Unit
  | .quoted q => .error (.unterminatedQuote q)
  | .blockComment | .star => .error .unterminatedComment
  | .code | .dash | .slash | .lineComment => .ok ()

def placeMarkers (style : PlaceholderStyle) (sql : String) : Except BuildError (String × Nat) := do
  let cs := sql.toList
  (Mode.code.after cs).close
  return (String.ofList (Mode.code.placeMarkers style 1 cs), Mode.code.markers cs)

structure Statement where
  sql : String
  params : List Value
deriving BEq, Inhabited

def Fragment.place (style : PlaceholderStyle) (f : Fragment) : Except BuildError Statement := do
  let (sql, markers) ← placeMarkers style f.sql
  if markers = f.params.length then return ⟨sql, f.params⟩
  else throw (.parameterMismatch markers f.params.length)

def Fragment.finish (d : Dialect) (f : Fragment) : Except BuildError Statement :=
  f.place d.placeholders

def Fragment.checkAligned (f : Fragment) : Except BuildError Unit := do
  let _ ← f.place .question

end SqlBuilder
