import SqlBridge.Registry.Basic
import SqlBridge.Registry.Request
import SqlBridge.StoreType.Parse

/-!
# Resolution

How a registry answers a request. The first of these that applies decides:

1. a single character under a name of fixed-length characters;
2. a registered name, in the given spelling or in lower case; documents take any host type;
3. the base name of a name with modifiers, in the same way;
4. without a name, the default of the host type, strings and bit strings by their size;
5. an array, when brackets end the name and the host type is a sequence: its element is resolved in turn;
6. a range of the user's own.

A known name that does not store the host type is refused, and nothing further is tried.
-/

namespace SqlBridge

/-- What the tables say about a request before arrays and the user's ranges are tried. -/
inductive Decision where
  | found (d : Descriptor)
  | refused
  | unsettled

namespace Registry

/-- The largest size of a string or bit string; larger ones are stored without a bound. -/
def maxBoundedSize : UInt32 := 10485760

/-- The descriptor among those of one name that stores the host type: the first one without a host
type, else the one of the host type. Documents store every host type. -/
def choose (candidates : List Descriptor) (host : Option HostType) : Decision :=
  match candidates, host with
  | [], _ => .unsettled
  | d :: _, none => .found d
  | d :: rest, some host =>
    match (d :: rest).find? fun c => c.hostType == host with
    | some c => .found c
    | none =>
      if Builtin.documentStores.contains d.storeType then .found (d.withHostType host) else .refused

/-- The descriptors that a name stands for, in the given spelling or in lower case. -/
def candidates (r : Registry) (name : String) : List Descriptor :=
  if r.isNamed name then r.named name else r.named (Text.lower name)

/-- The descriptor of a name for a host type. -/
def byName (r : Registry) (name : String) (host : Option HostType) : Decision :=
  choose (r.candidates name) host

/-- The request asks for a single character under a name of fixed-length characters. -/
def asksForCharacter (store : String) (q : Request) : Bool :=
  let parsed := StoreType.parse store
  q.host == some (.scalar .char)
    && Builtin.fixedCharacterStores.contains (Text.lower parsed.baseName)
    && [none, some 1].contains (parsed.size <|> q.size)

/-- A descriptor with the requested modifiers, if there are any and it takes them. -/
def refine (d : Descriptor) (f : Facets) : Descriptor :=
  if f.isEmpty || !d.acceptsFacets then d
  else d.withFacets (f.or { fixedLength := d.facets.fixedLength })

/-- A descriptor with the modifiers that its name was written with, and those of the request where the
name has none. -/
def refineParsed (d : Descriptor) (parsed : ParsedStoreType) (q : Request) : Descriptor :=
  d.withFacets ((parsed.facets d.facets.fixedLength).or q.facets)

/-- The answer for a request with a name, from the names alone. -/
def decideByStore (r : Registry) (store : String) (q : Request) : Decision :=
  if asksForCharacter store q then .found (Builtin.singleCharacter r.literals)
  else
    match r.byName store q.host with
    | .found d => .found (refine d q.facets)
    | .refused => .refused
    | .unsettled =>
      let parsed := StoreType.parse store
      if parsed.baseName = store then .unsettled
      else
        match r.byName parsed.baseName q.host with
        | .found d => .found (refineParsed d parsed q)
        | .refused => .refused
        | .unsettled => .unsettled

/-- The size that is asked for, or the one that the options give to parts of keys. -/
def sizeFor (r : Registry) (q : Request) : Option UInt32 :=
  q.size <|> (if q.isKey then r.options.keySize else none)

/-- The store types for a size and without bound of a host type that is stored by size. -/
def sizedStores? (host : HostType) (fixedLength : Bool) : Option (String × String) :=
  if host = .scalar .string then
    some (if fixedLength then "character" else "character varying", "text")
  else if host = .scalar .bitString then
    some (if fixedLength then "bit" else "bit varying", "bit varying")
  else none

/-- The default descriptor of a host type that is stored by size, for a request. -/
def sized (r : Registry) (q : Request) (default : Descriptor) (bounded unbounded : String) :
    Option Descriptor :=
  match r.sizeFor q with
  | none => if q.fixedLength then r.first? bounded else some default
  | some size =>
    if size > maxBoundedSize then r.first? unbounded
    else
      (r.first? bounded).map fun d => d.withFacets { size := some size, fixedLength := q.fixedLength }

/-- The answer for a request by host type, from the defaults alone. -/
def decideByHost (r : Registry) (host : HostType) (q : Request) : Decision :=
  if host = .scalar .char then .found (Builtin.singleCharacter r.literals)
  else
    match Entries.get? host r.hosts with
    | none => .unsettled
    | some d =>
      match sizedStores? host q.fixedLength with
      | none => .found (refine d q.facets)
      | some (bounded, unbounded) =>
        match r.sized q d bounded unbounded with
        | some d => .found d
        | none => .unsettled

/-- The answer for a request before arrays and the user's ranges are tried. -/
def decide (r : Registry) (q : Request) : Decision :=
  match q.store, q.host with
  | some store, _ => r.decideByStore store q
  | none, some host => r.decideByHost host q
  | none, none => .unsettled

/-- The elements of a host type may be null unless something else is said. -/
def elementsNullable : HostType → Bool
  | .scalar s =>
    [.string, .bytes, .ipAddress, .macAddress, .bitString, .json, .tsVector, .tsQuery, .regConfig,
      .dictionary, .lTree].contains s
  | .array _ | .list _ | .record _ => true
  | _ => false

/-- The array over a resolved element, as the requested host type. There is none over an array. -/
def arrayOver (host : Option HostType) (element : Descriptor) : Option Descriptor :=
  (element.arrayOf host (elementsNullable element.hostType)).toOption

/-- The part of a name after the last point. -/
def unqualified (name : String) : String :=
  String.ofList (name.toList.reverse.takeWhile (· != '.')).reverse

/-- A range of the user's own answers the request: by its name, with or without its schema, or, when
the request has no name, by its host type. -/
def isAnswer (q : Request) (range : Descriptor) : Bool :=
  match q.store, q.host with
  | none, none => false
  | none, some host => host == range.hostType
  | some store, host =>
    (range.storeType == store || unqualified range.storeType == store)
      && host.all (· == range.hostType)

/-- The first range of the user's own that answers the request. -/
def userRange? (r : Registry) (q : Request) : Option Descriptor :=
  r.userRanges.find? (isAnswer q)

/-- The answer for a request that the names and defaults leave open, from the descriptor of the element
that it asks for. -/
def settle (r : Registry) (q : Request) (element : Option Descriptor) : Option Descriptor :=
  element.bind (arrayOver q.host) <|> r.userRange? q

/-- The answer for a request. -/
def find (r : Registry) (q : Request) : Option Descriptor :=
  match r.decide q with
  | .found d => some d
  | .refused => none
  | .unsettled =>
    match _h : q.element? with
    | some e => r.settle q (find r e)
    | none => r.settle q none
termination_by q.measure
decreasing_by exact Request.measure_lt_of_element? _h

/-- The answer for a host type alone. -/
def findHost (r : Registry) (host : HostType) : Option Descriptor :=
  r.find (.forHost host)

/-- The answer for a store type alone. -/
def findStore (r : Registry) (store : String) : Option Descriptor :=
  r.find (.forStore store)

/-- A missing answer as a failure. -/
def orFault {α : Type} (fault : Fault) : Option α → Except Fault α
  | some a => .ok a
  | none => .error fault

/-- The answer for a request, or a failure without one. -/
def require (r : Registry) (q : Request) : Except Fault Descriptor :=
  orFault (.noMapping q.store q.host) (r.find q)

/-- The answer for a store type, or a failure without one. -/
def requireStore (r : Registry) (store : String) : Except Fault Descriptor :=
  orFault (.noStoreMapping store) (r.findStore store)

/-- The answer for a host type, or a failure without one. -/
def requireHost (r : Registry) (host : HostType) : Except Fault Descriptor :=
  orFault (.noHostMapping host) (r.findHost host)

end Registry

end SqlBridge
