import SqlBridge.HostType.Form
import SqlBridge.Proofs.HostType.Grammar
import SqlBridge.Proofs.Json.Compact

/-!
# Host types as documents

A host type is read back from its document, however deep types are nested in it.
-/

namespace SqlBridge.HostType

mutual

lemma ofJson?_toJson : (t : HostType) → ofJson? t.toJson = some t
  | .scalar s => by
    rw [toJson, ofJson?, ofName?_eq_some.2 rfl, Option.map_some]
  | .array e => by simp [toJson, ofJson?, ofJson?_toJson e]
  | .list e => by simp [toJson, ofJson?, ofJson?_toJson e]
  | .range t => by simp [toJson, ofJson?, ofJson?_toJson t]
  | .multirange t => by simp [toJson, ofJson?, ofJson?_toJson t]
  | .tuple ts => by simp [toJson, ofJson?, ofJsonAll?_toJsonAll ts]
  | .enumeration n => by simp [toJson, ofJson?, Json.asString?]
  | .record n => by simp [toJson, ofJson?, Json.asString?]

lemma ofJsonAll?_toJsonAll : (ts : List HostType) → ofJsonAll? (toJsonAll ts) = some ts
  | [] => rfl
  | t :: ts => by rw [toJsonAll, ofJsonAll?, ofJson?_toJson t, ofJsonAll?_toJsonAll ts]

end

mutual

lemma isWhole_toJson : (t : HostType) → t.toJson.IsWhole
  | .scalar _ => trivial
  | .array e => ⟨isWhole_toJson e, trivial⟩
  | .list e => ⟨isWhole_toJson e, trivial⟩
  | .range t => ⟨isWhole_toJson t, trivial⟩
  | .multirange t => ⟨isWhole_toJson t, trivial⟩
  | .tuple ts => ⟨itemsWhole_toJsonAll ts, trivial⟩
  | .enumeration _ => ⟨trivial, trivial⟩
  | .record _ => ⟨trivial, trivial⟩

lemma itemsWhole_toJsonAll : (ts : List HostType) → Json.ItemsWhole (toJsonAll ts)
  | [] => trivial
  | t :: ts => ⟨isWhole_toJson t, itemsWhole_toJsonAll ts⟩

end

end SqlBridge.HostType
