import SqlBridge.HostType.Basic
import SqlBridge.StoreType.Facets

/-!
# Requests

What a caller knows of the store type it wants: any of its name, the host type and the modifiers.
-/

namespace SqlBridge

/-- A request for a descriptor. -/
structure Request where
  store : Option String := none
  host : Option HostType := none
  /-- Wanted by some callers; all character types hold Unicode, so that it decides nothing. -/
  unicode : Option Bool := none
  size : Option UInt32 := none
  precision : Option UInt32 := none
  scale : Option UInt32 := none
  fixedLength : Bool := false
  /-- The value is part of a key or an index. -/
  isKey : Bool := false
deriving DecidableEq

namespace Request

/-- A request by host type alone. -/
def forHost (host : HostType) : Request := { host := some host }

/-- A request by store type alone. -/
def forStore (store : String) : Request := { store := some store }

/-- The modifiers asked for. -/
def facets (r : Request) : Facets where
  size := r.size
  precision := r.precision
  scale := r.scale
  fixedLength := r.fixedLength

/-- The name of the element's store type, when square brackets end the name. -/
def elementName? (store : String) : Option String :=
  match store.toList.reverse with
  | ']' :: '[' :: rest => some (String.ofList rest.reverse)
  | _ => none

/-- A request for the element of the array that is asked for: brackets end the store type, and the host
type is a sequence, as far as the request names them. -/
def element? (r : Request) : Option Request :=
  match r.store, r.host with
  | none, none => none
  | some store, none => (elementName? store).map fun s => { r with store := some s }
  | none, some host => host.element?.map fun h => { r with host := some h }
  | some store, some host =>
    match host.element?, elementName? store with
    | some h, some s => some { r with store := some s, host := some h }
    | _, _ => none

/-- The length of the store type's name and the depth of the host type, which bound how often an element
can be asked for. -/
def measure (r : Request) : Nat :=
  (r.store.map fun s => s.toList.length).getD 0 + (r.host.map HostType.depth).getD 0

theorem length_lt_of_elementName? {store s : String} (h : elementName? store = some s) :
    s.toList.length < store.toList.length := by
  unfold elementName? at h
  split at h
  · rename_i rest heq
    obtain rfl := Option.some.inj h
    have := congrArg List.length heq
    simp at this
    simp
    omega
  · cases h

theorem measure_lt_of_element? {r e : Request} (h : r.element? = some e) :
    e.measure < r.measure := by
  unfold element? at h
  split at h
  · cases h
  · rename_i store hs hh
    obtain ⟨s, h1, rfl⟩ := Option.map_eq_some_iff.1 h
    have := length_lt_of_elementName? h1
    simp [measure, hs, hh]
    omega
  · rename_i host hs hh
    obtain ⟨t, h1, rfl⟩ := Option.map_eq_some_iff.1 h
    have := HostType.depth_lt_of_element? h1
    simp [measure, hs, hh]
    omega
  · rename_i store host hs hh
    split at h
    · rename_i t s h1 h2
      obtain rfl := Option.some.inj h
      have := HostType.depth_lt_of_element? h1
      have := length_lt_of_elementName? h2
      simp [measure, hs, hh]
      omega
    · cases h

end Request

end SqlBridge
