/-!
Quoted names. A quote character inside a name is written twice; one that is already doubled stays doubled, and one that
follows a backslash is kept, however many of them follow.
-/

namespace SqlBuilder.Identifier

inductive Position
  | plain
  | escaped
  | paired
deriving DecidableEq, Repr

namespace Position

def next (q : Char) : Position → Char → Position
  | plain, c => if c = q then paired else if c = '\\' then escaped else plain
  | escaped, c => if c = q ∨ c = '\\' then escaped else plain
  | paired, c => if c = '\\' then escaped else plain

def write (q : Char) : Position → Char → List Char
  | plain, c => if c = q then [q, q] else [c]
  | escaped, c => [c]
  | paired, c => if c = q then [] else [c]

def body (q : Char) (p : Position) : List Char → List Char
  | [] => []
  | c :: cs => p.write q c ++ (p.next q c).body q cs

end Position

def enclose (q : Char) (name : List Char) : List Char :=
  q :: Position.plain.body q name ++ [q]

theorem body_eq_self {q : Char} {p : Position} {name : List Char} (h : q ∉ name) : p.body q name = name := by
  induction name generalizing p with
  | nil => rfl
  | cons c cs ih =>
    have hc : c ≠ q := by grind
    have hw : p.write q c = [c] := by cases p <;> simp [Position.write, hc]
    simp [Position.body, hw, ih (p := p.next q c) (by grind)]

end SqlBuilder.Identifier
