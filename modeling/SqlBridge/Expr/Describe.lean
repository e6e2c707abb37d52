import SqlBridge.Descriptor.Describe
import SqlBridge.Expr.Printer

/-!
# Views of expressions

An expression as a JSON document: its tree, and beside it the SQL text and what is known of its root.
-/

namespace SqlBridge.Expr

/-- The fields that tell what a node is. -/
def kindFields : ExprKind → List (String × Json)
  | .constant value => [("kind", .string "Constant"), ("value", .string value.text)]
  | .parameter name => [("kind", .string "Parameter"), ("name", .string name)]
  | .column table name nullable =>
    [("kind", .string "Column"), ("table", .option .string table), ("name", .string name),
      ("nullable", .bool nullable)]
  | .function name aggregate nullable =>
    [("kind", .string "Function"), ("name", .string name), ("aggregate", .bool aggregate),
      ("nullable", .bool nullable)]
  | .binary op => [("kind", .string "Binary"), ("operator", .string op.name)]
  | .unary op => [("kind", .string "Unary"), ("operator", .string op.name)]
  | .cast => [("kind", .string "Cast")]
  | .row => [("kind", .string "RowValue")]
  | .subscript => [("kind", .string "ArrayIndex")]
  | .anyOf op => [("kind", .string "ArrayAny"), ("operator", .string op.name)]
  | .position => [("kind", .string "Position")]
  | .arrayOf => [("kind", .string "ArrayLiteral")]

mutual

/-- The tree of an expression. A node shows its operands and null flags if it has any. -/
def tree : Expr → Json
  | .node kind es flags hostType mapping =>
    .object (kindFields kind
      ++ [("host", .string hostType.text),
        ("store", .option (fun d : Descriptor => .string d.storeType) mapping)]
      ++ (if es.isEmpty && flags.isEmpty then []
        else [("propagates_null", .array (flags.map .bool)), ("operands", .array (trees es))]))

/-- The trees of several expressions. -/
def trees : List Expr → List Json
  | [] => []
  | e :: es => tree e :: trees es

end

/-- The document of an expression. -/
def toJson (e : Expr) : Json :=
  .object
    [("sql", .string e.text),
      ("node", e.tree),
      ("well_formed", .bool e.isWellFormed),
      ("function", .option .string e.functionName?),
      ("row", .bool e.isRow),
      ("mapping", .option Descriptor.toJson e.mapping)]

end SqlBridge.Expr
