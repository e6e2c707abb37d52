import SqlBridge.HostValue.ScalarForm

/-!
# The JSON form of host values

A value is written as an object of its type's name and its content, the content depending on the type.
A null may leave its content out. Both may also be written as a list, the name first. Other fields are
passed over. Content that stands before the name has to be readable as a whole, and is kept until the name
is known. In it an empty object counts as no content, and a type may be told by its place.
-/

namespace SqlBridge.HostValue

/-- The key stands at most once among the fields. -/
def atMostOnce (key : String) (fields : List (String × Json)) : Bool :=
  (fields.filter (·.1 == key)).length ≤ 1

/-- What a reader of values lets pass. -/
structure FormRules where
  /-- Words stand for the floating-point values without digits. -/
  floatWords : Bool := false
  /-- The two sides of a range may stand in a list. -/
  sideLists : Bool := true
  /-- The document was kept until its type was known. -/
  kept : Bool := false

/-- The rules for content that stands before the name of its type. -/
def FormRules.keep (rules : FormRules) : FormRules :=
  { rules with sideLists := true, kept := true }

/-- The names of the types of values, in their order. -/
def typeNames : List String :=
  "Null" :: Scalar.all.map Scalar.name ++ ["Array", "Range", "Multirange", "Tuple", "Enum", "Record"]

/-- The name of a type at the head of a list; in kept content also the place of the type. -/
def headName? (rules : FormRules) : Json → Option String
  | .string s => some s
  | .number (.integer i) => if rules.kept ∧ 0 ≤ i then typeNames[i.toNat]? else none
  | _ => none

/-- A value of a type that is neither a container nor null: a scalar, or a variant by its name. -/
def leafOfJson? (rules : FormRules) (type : String) (content : Json) : Option HostValue :=
  if type = "Enum" then content.asString?.map .enumeration
  else (Scalar.ofName? type).bind fun s => (ScalarValue.ofJson? rules.floatWords s content).map .scalar

mutual

/-- Reads the JSON form of a value. -/
def ofJson? (rules : FormRules) : Json → Option HostValue
  | .object fields =>
    match (Entries.get? "type" fields).bind (Json.asVariant? rules.kept) with
    | some type =>
      if atMostOnce "type" fields && atMostOnce "value" fields then
        ofFields? rules type false fields
      else none
    | none => none
  | .array [type, content] =>
    match headName? rules type with
    | some type => ofContent? rules type content
    | none => none
  | _ => none

/-- Reads a value of a type from the fields that hold its content; `named` tells whether the name of the
type stands before them. -/
def ofFields? (rules : FormRules) (type : String) (named : Bool) :
    List (String × Json) → Option HostValue
  | [] => if type = "Null" then some .null else none
  | (key, content) :: rest =>
    if key = "value" then
      if named then ofContent? rules type content
      else if content.isReadable then ofContent? rules.keep type content
      else none
    else ofFields? rules type (named || key == "type") rest

/-- Reads a value of a type from its content. -/
def ofContent? (rules : FormRules) (type : String) : Json → Option HostValue
  | .null => if type = "Null" then some .null else leafOfJson? rules type .null
  | .array items =>
    if type = "Array" then (ofJsonAll? rules items).map .array
    else if type = "Tuple" then (ofJsonAll? rules items).map .tuple
    else if type = "Multirange" then (spansOfJson? rules items).map .multirange
    else leafOfJson? rules type (.array items)
  | .object fields =>
    if type = "Record" then
      (recordOfJson? rules fields).map fun fs => .record (Entries.ofList fs)
    else if type = "Range" then (spanOfFields? rules fields).map .range
    else leafOfJson? rules type (.object fields)
  | .string s =>
    if type = "Range" then (if s = "Empty" then some (.range .empty) else none)
    else leafOfJson? rules type (.string s)
  | content => leafOfJson? rules type content

/-- Reads the values of a list. -/
def ofJsonAll? (rules : FormRules) : List Json → Option (List HostValue)
  | [] => some []
  | j :: rest =>
    match ofJson? rules j, ofJsonAll? rules rest with
    | some v, some vs => some (v :: vs)
    | _, _ => none

/-- Reads the fields of a record. -/
def recordOfJson? (rules : FormRules) : List (String × Json) → Option (List (String × HostValue))
  | [] => some []
  | (name, j) :: rest =>
    match ofJson? rules j, recordOfJson? rules rest with
    | some v, some vs => some ((name, v) :: vs)
    | _, _ => none

/-- Reads a range: the word for the empty one, or an object. -/
def spanOfJson? (rules : FormRules) : Json → Option (Span HostValue)
  | .string s => if s = "Empty" then some .empty else none
  | .object fields => spanOfFields? rules fields
  | _ => none

/-- Reads a range from the only field of its object. -/
def spanOfFields? (rules : FormRules) : List (String × Json) → Option (Span HostValue)
  | [(key, content)] =>
    if key = "Bounds" then boundsOfJson? rules content
    else if key = "Empty" then
      if content.isNothing rules.kept then some .empty else none
    else none
  | _ => none

/-- Reads the two sides of a range. -/
def boundsOfJson? (rules : FormRules) : Json → Option (Span HostValue)
  | .object fields =>
    if atMostOnce "lower" fields && atMostOnce "upper" fields then
      match boundOfFields? rules "lower" fields, boundOfFields? rules "upper" fields with
      | some l, some u => some (.bounds l u)
      | _, _ => none
    else none
  | .array [lower, upper] =>
    if rules.sideLists then
      match boundOfJson? rules lower, boundOfJson? rules upper with
      | some l, some u => some (.bounds l u)
      | _, _ => none
    else none
  | _ => none

/-- Reads the side of a range that stands under a key. -/
def boundOfFields? (rules : FormRules) (key : String) :
    List (String × Json) → Option (Bound HostValue)
  | [] => none
  | (k, j) :: rest =>
    if k = key then boundOfJson? rules j else boundOfFields? rules key rest

/-- Reads one side of a range. -/
def boundOfJson? (rules : FormRules) : Json → Option (Bound HostValue)
  | .string s => if s = "Infinite" then some .infinite else none
  | .object [(key, content)] =>
    if key = "Inclusive" then (ofJson? rules content).map .inclusive
    else if key = "Exclusive" then (ofJson? rules content).map .exclusive
    else if key = "Infinite" then
      if content.isNothing rules.kept then some .infinite else none
    else none
  | _ => none

/-- Reads the ranges of a list. -/
def spansOfJson? (rules : FormRules) : List Json → Option (List (Span HostValue))
  | [] => some []
  | j :: rest =>
    match spanOfJson? rules j, spansOfJson? rules rest with
    | some r, some rs => some (r :: rs)
    | _, _ => none

end

/-- The name of a value's type together with its content. -/
def tagged (type : String) (content : Json) : Json :=
  .object [("type", .string type), ("value", content)]

mutual

/-- The JSON form of a value. -/
def toForm : HostValue → Json
  | .null => .object [("type", .string "Null")]
  | .scalar v => tagged v.type.name v.toForm
  | .array elements => tagged "Array" (.array (toFormAll elements))
  | .range r => tagged "Range" (spanForm r)
  | .multirange rs => tagged "Multirange" (.array (spanForms rs))
  | .tuple elements => tagged "Tuple" (.array (toFormAll elements))
  | .enumeration variant => tagged "Enum" (.string variant)
  | .record fields => tagged "Record" (.object (fieldForms fields))

/-- The JSON forms of several values. -/
def toFormAll : List HostValue → List Json
  | [] => []
  | v :: rest => toForm v :: toFormAll rest

/-- The JSON forms of the fields of a record. -/
def fieldForms : List (String × HostValue) → List (String × Json)
  | [] => []
  | (name, v) :: rest => (name, toForm v) :: fieldForms rest

/-- The JSON form of a side of a range. -/
def boundForm : Bound HostValue → Json
  | .infinite => .string "Infinite"
  | .inclusive v => .object [("Inclusive", toForm v)]
  | .exclusive v => .object [("Exclusive", toForm v)]

/-- The JSON form of a range. -/
def spanForm : Span HostValue → Json
  | .empty => .string "Empty"
  | .bounds l u => .object [("Bounds", .object [("lower", boundForm l), ("upper", boundForm u)])]

/-- The JSON forms of several ranges. -/
def spanForms : List (Span HostValue) → List Json
  | [] => []
  | r :: rest => spanForm r :: spanForms rest

end

end SqlBridge.HostValue
