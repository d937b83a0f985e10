import DocQuery.Compile.Basic
import DocQuery.Compile.Error
import DocQuery.Expr.Decode
import DocQuery.Script.Convert
import DocQuery.Tables.Load
import DocQuery.Tables.Standard

/-!
# DocQuery.Query

The library in three functions: `Query.parse` reads an expression, `Query.compileTree` turns a tree
into a filter or update document, and `Query.compile` does both.
-/

namespace DocQuery

/-- Why an expression has no document. -/
inductive QueryError where
  /-- It cannot be compiled. -/
  | rejected (diagnostic : Diagnostic)
  /-- It is no expression. -/
  | malformed (error : SourceError)
deriving Repr, DecidableEq

namespace QueryError

/-- The kind of a failure. -/
def kind : QueryError → Option ErrorKind
  | .rejected d => d.kind
  | .malformed _ => some .malformedSource

/-- The text of a failure. -/
def text : QueryError → String
  | .rejected d => d.text
  | .malformed e => e.text

/-- The failure of a source that has no tree. -/
def ofParseError : Script.ParseError → QueryError
  | .syntaxError e =>
    .malformed
      { message := e.message, line := e.place.line, column := e.place.column, offset := e.offset
        sourceLine := e.sourceLine }
  | .unsupported u =>
    .rejected
      { kind := some (if u.kind = .unary then .unaryForm else .nodeKind)
        subject := u.construct, message := u.text, supported := [] }

end QueryError

namespace Query

/-- Parse a source into a program. -/
def parse (src : String) : Except QueryError Expr :=
  (Script.parse src).mapError .ofParseError

/-- Compile a tree. -/
def compileTree (t : Tables) (e : Expr) : Except QueryError Document :=
  (e.toDocument t).mapError fun cause => .rejected cause.diagnostic

/-- Compile a source. -/
def compile (t : Tables) (src : String) : Except QueryError Document :=
  parse src >>= compileTree t

end Query

end DocQuery
