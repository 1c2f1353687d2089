/-!
Where a reader of SQL text stands between two characters: in code, inside quotes or inside a comment. The
characters `-` and `/` are remembered because the next one may complete the opening of a comment.
-/

namespace SqlBuilder

inductive Mode
  | code
  | dash
  | slash
  | quoted (quote : Char)
  | lineComment
  | blockComment
  | star
deriving DecidableEq, Repr

namespace Mode

def isQuote (c : Char) : Bool :=
  c = '\'' || c = '"' || c = '\x60'

def ofCode (c : Char) : Mode :=
  if isQuote c then quoted c
  else if c = '-' then dash
  else if c = '/' then slash
  else code

/-- A quote closes at the next quote of its kind, so a doubled one closes and opens again. -/
def next : Mode → Char → Mode
  | code, c => ofCode c
  | dash, c => if c = '-' then lineComment else ofCode c
  | slash, c => if c = '*' then blockComment else ofCode c
  | quoted q, c => if c = q then code else quoted q
  | lineComment, c => if c = '\n' then code else lineComment
  | blockComment, c => if c = '*' then star else blockComment
  | star, c => if c = '/' then code else if c = '*' then star else blockComment

def isCode : Mode → Bool
  | code | dash | slash => true
  | _ => false

def after (m : Mode) (cs : List Char) : Mode :=
  cs.foldl next m

@[simp] theorem after_nil (m : Mode) : m.after [] = m := rfl

@[simp] theorem after_cons (m : Mode) (c : Char) (cs : List Char) : m.after (c :: cs) = (m.next c).after cs := rfl

theorem after_append (m : Mode) (cs ds : List Char) : m.after (cs ++ ds) = (m.after cs).after ds :=
  List.foldl_append

end Mode

end SqlBuilder
