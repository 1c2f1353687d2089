import SqlBuilder.Proofs.Pieces

namespace SqlBuilder

/-- The name as it is written; a name that the dialect cannot write stands for itself. -/
def Dialect.spelling (d : Dialect) (name : String) : String :=
  match d.identifier name with
  | .ok s => s
  | .error _ => name

namespace Piece

def text (d : Dialect) : Piece → String
  | word s => s
  | function name => name
  | identifier name => d.spelling name
  | value _ => "?"
  | raw f => f.sql

def fragment (d : Dialect) (p : Piece) : Fragment := ⟨p.text d, p.values⟩

def fragments (d : Dialect) : List Piece → Fragment
  | [] => .empty
  | p :: ps => p.fragment d ++ fragments d ps

lemma fragments_append (d : Dialect) (ps qs : List Piece) :
    fragments d (ps ++ qs) = fragments d ps ++ fragments d qs := by
  induction ps with
  | nil => simp [fragments]
  | cons p ps ih => simp [fragments, ih, Fragment.append_assoc]

lemma fragments_singleton (d : Dialect) (p : Piece) : fragments d [p] = p.fragment d := by
  simp [fragments]

lemma fragments_params (d : Dialect) (ps : List Piece) : (fragments d ps).params = ps.flatMap values := by
  induction ps with
  | nil => rfl
  | cons p ps ih => simp [fragments, fragment, ih]

lemma fragments_words (d : Dialect) (ss : List String) : fragments d (ss.map word) = .ofText (String.join ss) := by
  induction ss with
  | nil => rfl
  | cons s ss ih =>
    rw [List.map_cons, fragments, ih]
    ext <;> simp [fragment, text, values, Fragment.ofText]

end Piece

end SqlBuilder
