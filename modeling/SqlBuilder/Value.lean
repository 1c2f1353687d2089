namespace SqlBuilder

/-- Comparison by `==` is numeric on floats: `NaN` differs from itself and the two zeros agree. -/
inductive Value
  | null
  | bool (b : Bool)
  | int (n : Int64)
  | float (x : Float)
  | text (s : String)
  | bytes (bs : List UInt8)
deriving BEq, Inhabited

def Value.isNull : Value → Bool
  | .null => true
  | _ => false

end SqlBuilder
