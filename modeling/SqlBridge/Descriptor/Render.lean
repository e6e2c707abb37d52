import SqlBridge.Descriptor.Basic
import SqlBridge.Literal.Scalar

/-!
# Literals of values

A descriptor renders a value in three ways: `toplevel` as a whole literal that can stand in SQL,
`embedded` as an item inside another literal, and `uncast` as an element of an array constructor. Each of
them writes a null as `NULL`.
-/

namespace SqlBridge.Descriptor

/-- The label of a variant, which may be given by its name or by the label itself. -/
def labelOf (s : Signature) (labels : List (String × String)) (variant : String) :
    Except Fault String :=
  match Entries.get? variant labels with
  | some label => .ok label
  | none =>
    if labels.any (·.2 == variant) then .ok variant
    else .error (.unknownLabel variant s.storeType)

/-- The label of a value of an enumeration. -/
def valueLabel (s : Signature) (labels : List (String × String)) (v : HostValue) :
    Except Fault String :=
  match v with
  | .enumeration variant => labelOf s labels variant
  | .scalar (.string variant) => labelOf s labels variant
  | _ => s.unwritable v

/-- One side of a range: nothing when it is infinite. -/
def boundLiteral (render : HostValue → Except Fault String) (b : Bound HostValue) :
    Except Fault String :=
  match b.value? with
  | some v => render v
  | none => .ok ""

/-- A range whose boundary values are rendered by `render`. -/
def spanLiteral (render : HostValue → Except Fault String) : Span HostValue → Except Fault String
  | .empty => .ok "empty"
  | .bounds lower upper => do
    let l ← boundLiteral render lower
    let u ← boundLiteral render upper
    return Span.bracket lower.isInclusive l u upper.isInclusive

/-- The value as an item inside another literal. -/
def embedded : Descriptor → HostValue → Except Fault String
  | .scalar s, v => if v.isNull then .ok "NULL" else (s.rawText v).map s.itemOfRaw
  | .enumeration s labels, v =>
    if v.isNull then .ok "NULL" else (valueLabel s labels v).map (Literal.item false)
  | .array s element _, v =>
    match v with
    | .null => .ok "NULL"
    | .array vs => do
      let items ← vs.mapM (embedded element)
      return "\x7b" ++ ",".intercalate items ++ "\x7d"
    | v => s.unwritable v
  | .range s subtype, v =>
    match v with
    | .null => .ok "NULL"
    | .range r => spanLiteral (embedded subtype) r
    | v => s.unwritable v
  | .multirange s (.range _ subtype), v =>
    match v with
    | .null => .ok "NULL"
    | .multirange rs => do
      let items ← rs.mapM (spanLiteral (embedded subtype))
      return "\x7b" ++ ", ".intercalate items ++ "\x7d"
    | v => s.unwritable v
  | .multirange s _, v => if v.isNull then .ok "NULL" else s.unwritable v

/-- The value as an element of an array constructor. -/
def uncast (d : Descriptor) (v : HostValue) : Except Fault String :=
  if v.isNull then .ok "NULL"
  else
    match d with
    | .scalar s => (s.rawText v).map s.elementOfRaw
    | .enumeration s labels => (valueLabel s labels v).map Literal.quoteSql
    | d => (d.embedded v).map Literal.quoteSql

/-- The value as a whole literal. -/
def toplevel (d : Descriptor) (v : HostValue) : Except Fault String :=
  if v.isNull then .ok "NULL"
  else
    match d with
    | .scalar s => (s.rawText v).map s.literalOfRaw
    | .enumeration s labels =>
      (valueLabel s labels v).map fun label => s.casting (Literal.quoteSql label)
    | .array s element _ =>
      match v with
      | .array vs => do
        let items ← vs.mapM element.uncast
        return s.casting ("ARRAY[" ++ ",".intercalate items ++ "]")
      | v => s.unwritable v
    | d => (d.embedded v).map fun literal => d.signature.casting (Literal.quoteSql literal)

end SqlBridge.Descriptor
