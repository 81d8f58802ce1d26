import Quarry.Sql.Statement
import Quarry.Text.Abbreviated

/-!
# Queries

A query is the text of a statement in a dialect with the values of its parameters, in
the order of their marks. A draft is a text under way: statements are added to it one
per line, and their parameters are numbered on.
-/
namespace Quarry

structure Query where
  sql : String
  parameters : List Value

def Query.summary (q : Query) : String := Text.abbreviate 497 q.sql

structure Draft where
  text : String
  parameters : List Value

namespace Draft

def empty : Draft := ⟨"", []⟩

def ofText (text : String) : Draft := ⟨text, []⟩

def addText (d : Draft) (s : String) : Draft := { d with text := d.text ++ s }

def bind (d : Draft) (v : Value) : Draft := { d with parameters := d.parameters ++ [v] }

def addTokens (dialect : Dialect) (d : Draft) (tokens : List Token) : Draft :=
  ⟨d.text ++ Token.render dialect d.parameters.length tokens,
    d.parameters ++ Token.parameters tokens⟩

/-- Write a script; what it wrote before it failed stays. -/
def addScript (dialect : Dialect) (d : Draft) (s : Script) : Draft × Option CompileError :=
  (d.addTokens dialect s.tokens, s.failure)

/-- Write a statement, on a line of its own once it writes anything. -/
def addStatement (dialect : Dialect) (d : Draft) (s : Statement) : Draft × Option CompileError :=
  let script := dialect.script s
  let d := if d.text.isEmpty || script.tokens.isEmpty then d else d.addText "\n"
  d.addScript dialect script

def toQuery (d : Draft) : Query := ⟨d.text, d.parameters⟩

end Draft

def Statement.compile (s : Statement) (dialect : Dialect) : Except ErrorKind Query :=
  match s.validate with
  | .error e => .error (.build e)
  | .ok () =>
    match Draft.empty.addStatement dialect s with
    | (_, some e) => .error (.compile dialect.name e)
    | (d, none) => .ok d.toQuery

end Quarry
