import Mathlib.Data.List.Nodup
import SqlBridge.Options.Form
import SqlBridge.Proofs.Entries
import SqlBridge.Proofs.HostType.Form

/-!
# Options as documents

Options are read back from their document as they were, with the labels of enumerations in their order: the
keys of each record stand once, an optional field that is left out is read as absent, and the variants
of an enumeration stand once each. The check of the values comes after reading and refuses what it refuses
of the options themselves.
-/

namespace SqlBridge

variable {α β : Type} {key : String} {entries : List (String × Json)} {s : Option String}

lemma mapM_map {read : β → Option α} {write : α → β} {xs : List α}
    (h : ∀ x ∈ xs, read (write x) = some x) : (xs.map write).mapM read = some xs := by
  induction xs with
  | nil => rfl
  | cons x xs ih =>
    obtain ⟨hx, hxs⟩ := List.forall_mem_cons.1 h
    rw [List.map_cons, List.mapM_cons, hx, ih hxs]
    rfl

/-! ## Parts of documents -/

namespace Json

/-- An object whose keys stand once each is a record of any names. -/
lemma asRecord?_object (h : (entries.map (·.1)).Nodup) (names : List String) :
    (Json.object entries).asRecord? names = some entries := by
  have hcount : ∀ n, (entries.filter (·.1 == n)).length ≤ 1 := by
    intro n
    have hkeys := List.nodup_iff_count.1 h n
    rwa [List.count_eq_countP, List.countP_map, List.countP_eq_length_filter] at hkeys
  rw [asRecord?, if_pos]
  simp only [hcount, decide_true, List.all_eq_true, implies_true]

lemma asUInt32?_uint32 (n : UInt32) : (uint32 n).asUInt32? = some n := by
  have hn : (n.toNat : Int) < (UInt32.size : Int) := Int.ofNat_lt.2 n.toNat_lt_size
  rw [asUInt32?, asNatBelow?, uint32, nat, asInt?, Option.bind_some,
    if_pos ⟨Int.natCast_nonneg _, hn⟩, Int.toNat_natCast, Option.map_some, UInt32.ofNat_toNat]

lemma isWhole_uint32 (n : UInt32) : (uint32 n).IsWhole := by
  have hsize : UInt32.size ≤ twoTo 64 := by decide
  have hn := n.toNat_lt_size
  exact ⟨by omega, by omega⟩

end Json

lemma nullable?_option {read : Json → Option α} {write : α → Json}
    (hread : ∀ a, read (write a) = some a) (hnull : ∀ a, write a ≠ .null) (a : Option α) :
    nullable? read (Json.option write a) = some a := by
  cases a with
  | none => rfl
  | some a =>
    have hsome : ∀ j, j ≠ Json.null → nullable? read j = (read j).map some := by
      intro j hj
      cases j with
      | null => exact absurd rfl hj
      | _ => rfl
    rw [Json.option, hsome _ (hnull a), hread, Option.map_some]

lemma get?_textField (key key' : String) (s : Option String) :
    Entries.get? key (textField key' s) = if key' = key then s.map Json.string else none := by
  cases s with
  | none => exact (ite_self none).symm
  | some s => rfl

lemma sublist_textField (key : String) (s : Option String) :
    ((textField key s).map (·.1)).Sublist [key] := by
  cases s with
  | none => exact List.nil_sublist _
  | some s => exact List.Sublist.refl _

lemma isWhole_of_mem_textField {e : String × Json} (he : e ∈ textField key s) : e.2.IsWhole := by
  cases s with
  | none => cases he
  | some s =>
    rw [List.mem_singleton.1 he]
    trivial

/-- A text that is left out or given is read as it is. -/
lemma fieldOr?_text (h : Entries.get? key entries = s.map Json.string) :
    fieldOr? key (nullable? Json.asString?) none entries = some s := by
  rw [fieldOr?, h]
  cases s <;> rfl

/-! ## Definitions -/

namespace RangeDefinition

/-- The fields of the document. -/
def fields (d : RangeDefinition) : List (String × Json) :=
  [("range_name", .string d.name)] ++ textField "schema" d.schema ++ [("subtype", d.subtype.toJson)]
    ++ textField "subtype_store_type" d.subtypeStore

lemma nodup_fields (d : RangeDefinition) : (d.fields.map (·.1)).Nodup := by
  refine List.Sublist.nodup (?_ : List.Sublist _ keys) (by decide)
  simp only [fields, List.map_append]
  exact (((List.Sublist.refl _).append (sublist_textField _ _)).append (.refl _)).append (sublist_textField _ _)

lemma ofJson?_toJson (d : RangeDefinition) : ofJson? d.toJson = some d := by
  have hname : requiredField? "range_name" Json.asString? d.fields = some d.name := rfl
  have hschema : fieldOr? "schema" (nullable? Json.asString?) none d.fields = some d.schema := by
    apply fieldOr?_text
    simp [fields, Entries.get?_append, Entries.get?, get?_textField]
  have hsubtype : requiredField? "subtype" HostType.ofJson? d.fields = some d.subtype := by
    simp [requiredField?, fields, Entries.get?_append, Entries.get?, get?_textField, HostType.ofJson?_toJson]
  have hstore : fieldOr? "subtype_store_type" (nullable? Json.asString?) none d.fields =
      some d.subtypeStore := by
    apply fieldOr?_text
    simp [fields, Entries.get?_append, Entries.get?, get?_textField]
  have hdoc : d.toJson.asRecord? keys = some d.fields := Json.asRecord?_object d.nodup_fields keys
  simp only [ofJson?, hdoc, hname, hschema, hsubtype, hstore, Option.bind_eq_bind, Option.bind_some,
    Option.pure_def]

lemma isWhole_toJson (d : RangeDefinition) : d.toJson.IsWhole := by
  rw [toJson, Json.isWhole_object]
  simp only [List.forall_mem_append, List.forall_mem_singleton]
  exact ⟨⟨⟨trivial, fun e => isWhole_of_mem_textField⟩, d.subtype.isWhole_toJson⟩,
    fun e => isWhole_of_mem_textField⟩

end RangeDefinition

namespace EnumDefinition

/-- No variant is declared twice. -/
def HasDistinctVariants (d : EnumDefinition) : Prop :=
  (d.labels.map (·.1)).Nodup

/-- The fields of the document. -/
def fields (d : EnumDefinition) : List (String × Json) :=
  [("name", .string d.name)] ++ textField "schema" d.schema ++ textField "host_name" d.hostName
    ++ [("labels", .object (d.labels.map fun e => (e.1, .string e.2)))]

lemma nodup_fields (d : EnumDefinition) : (d.fields.map (·.1)).Nodup := by
  refine List.Sublist.nodup (?_ : List.Sublist _ keys) (by decide)
  simp only [fields, List.map_append]
  exact (((List.Sublist.refl _).append (sublist_textField _ _)).append (sublist_textField _ _)).append (.refl _)

/-- Labels of different variants are read in the order in which they are written. -/
lemma labelsOfJson?_object {labels : List (String × String)} (h : (labels.map (·.1)).Nodup) :
    labelsOfJson? (.object (labels.map fun e => (e.1, .string e.2))) = some labels := by
  have hread : (labels.map fun e => (e.1, Json.string e.2)).mapM
      (fun (e : String × Json) => e.2.asString?.map fun label => (e.1, label)) = some labels :=
    mapM_map fun e _ => rfl
  rw [labelsOfJson?, hread, Option.map_some, Entries.ofList_eq h]

lemma ofJson?_toJson {d : EnumDefinition} (h : d.HasDistinctVariants) : ofJson? d.toJson = some d := by
  have hname : requiredField? "name" Json.asString? d.fields = some d.name := rfl
  have hschema : fieldOr? "schema" (nullable? Json.asString?) none d.fields = some d.schema := by
    apply fieldOr?_text
    simp [fields, Entries.get?_append, Entries.get?, get?_textField]
  have hhost : fieldOr? "host_name" (nullable? Json.asString?) none d.fields = some d.hostName := by
    apply fieldOr?_text
    simp [fields, Entries.get?_append, Entries.get?, get?_textField]
  have hlabels : requiredField? "labels" labelsOfJson? d.fields = some d.labels := by
    simp [requiredField?, fields, Entries.get?_append, Entries.get?, get?_textField, labelsOfJson?_object h]
  have hdoc : d.toJson.asRecord? keys = some d.fields := Json.asRecord?_object d.nodup_fields keys
  simp only [ofJson?, hdoc, hname, hschema, hhost, hlabels, Option.bind_eq_bind, Option.bind_some,
    Option.pure_def]

lemma isWhole_toJson (d : EnumDefinition) : d.toJson.IsWhole := by
  have hlabels : (Json.object (d.labels.map fun e => (e.1, .string e.2))).IsWhole :=
    Json.isWhole_object.2 (List.forall_mem_map.2 fun e _ => trivial)
  rw [toJson, Json.isWhole_object]
  simp only [List.forall_mem_append, List.forall_mem_singleton]
  exact ⟨⟨⟨trivial, fun e => isWhole_of_mem_textField⟩, fun e => isWhole_of_mem_textField⟩, hlabels⟩

end EnumDefinition

/-! ## Options -/

namespace MappingOptions

variable {o : MappingOptions}

/-- The fields of the document. -/
def fields (o : MappingOptions) : List (String × Json) :=
  [("legacy_timestamp_behavior", .bool o.legacyTimestamps),
    ("disable_date_time_infinity_conversions", .bool o.writesExtremes),
    ("key_string_default_size", .option .uint32 o.keySize),
    ("user_ranges", .array (o.ranges.map RangeDefinition.toJson)),
    ("enums", .array (o.enums.map EnumDefinition.toJson))]

lemma ofJson?_toJson (h : ∀ d ∈ o.enums, d.HasDistinctVariants) : ofJson? o.toJson = some o := by
  have hlegacy : fieldOr? "legacy_timestamp_behavior" Json.asBool? false o.fields =
      some o.legacyTimestamps := rfl
  have hextremes : fieldOr? "disable_date_time_infinity_conversions" Json.asBool? false o.fields =
      some o.writesExtremes := rfl
  have hsize : fieldOr? "key_string_default_size" (nullable? Json.asUInt32?) none o.fields =
      some o.keySize :=
    nullable?_option Json.asUInt32?_uint32 (fun _ => Json.noConfusion) o.keySize
  have hranges : fieldOr? "user_ranges" (items? RangeDefinition.ofJson?) [] o.fields = some o.ranges :=
    mapM_map fun d _ => d.ofJson?_toJson
  have henums : fieldOr? "enums" (items? EnumDefinition.ofJson?) [] o.fields = some o.enums :=
    mapM_map fun d hd => EnumDefinition.ofJson?_toJson (h d hd)
  have hkeys : (o.fields.map (·.1)).Nodup := by
    show keys.Nodup
    decide
  have hdoc : o.toJson.asRecord? keys = some o.fields := Json.asRecord?_object hkeys keys
  simp only [ofJson?, hdoc, hlegacy, hextremes, hsize, hranges, henums, Option.bind_eq_bind,
    Option.bind_some, Option.pure_def]

lemma isWhole_toJson (o : MappingOptions) : o.toJson.IsWhole := by
  have hsize : (Json.option .uint32 o.keySize).IsWhole := by
    cases o.keySize with
    | none => trivial
    | some n => exact Json.isWhole_uint32 n
  have hranges : (Json.array (o.ranges.map RangeDefinition.toJson)).IsWhole :=
    Json.isWhole_array.2 (List.forall_mem_map.2 fun d _ => d.isWhole_toJson)
  have henums : (Json.array (o.enums.map EnumDefinition.toJson)).IsWhole :=
    Json.isWhole_array.2 (List.forall_mem_map.2 fun d _ => d.isWhole_toJson)
  exact ⟨trivial, trivial, hsize, hranges, henums, trivial⟩

lemma code_of_validate {f : Fault} (h : o.validate = .error f) : f.report.code = ⟨303⟩ := by
  rw [validate] at h
  split at h
  · cases h
    rfl
  · split at h <;> cases h
    rfl

lemma ofDocument_toJson (h : ∀ d ∈ o.enums, d.HasDistinctVariants) :
    ofDocument o.toJson = o.validate.map fun _ => o := by
  rw [ofDocument, ofJson?_toJson h]
  rfl

/-- Options that pass the check are read back from every text of their document as they were, the order of
labels included, and for options that do not, reading fails as the check does, with code 303. One text of the
document is the compact one, if nothing in it is nested too deep for the reader. -/
theorem ofText_of_toJson (hvariants : ∀ d ∈ o.enums, d.HasDistinctVariants) :
    (o.toJson.nesting ≤ Json.maxDepth → Json.read? o.toJson.compact = some o.toJson) ∧
      ∀ text, Json.read? text = some o.toJson →
        (o.validate = .ok () → ofText text = .ok o) ∧
        ∀ f, o.validate = .error f → ofText text = .error f ∧ f.report.code = ⟨303⟩ := by
  refine ⟨Json.read?_compact o.isWhole_toJson, fun text htext => ?_⟩
  have hread : ofText text = o.validate.map fun _ => o := by
    rw [ofText, htext]
    exact ofDocument_toJson hvariants
  rw [hread]
  refine ⟨fun h => ?_, fun f h => ⟨?_, code_of_validate h⟩⟩
  · rw [h]
    rfl
  · rw [h]
    rfl

/-- Options with a nested subtype and labels that are not in the order of the alphabet, and options with an
enumeration without labels. -/
theorem ofText_of_toJson_of_moods :
    let range : RangeDefinition :=
      { name := "spans", schema := some "app"
        subtype := .array (.tuple [.scalar .int32, .enumeration "Mood"]) }
    let mood : EnumDefinition :=
      { name := "mood", hostName := some "Mood", labels := [("Sad", "sad"), ("Happy", "\"ok\"")] }
    let o : MappingOptions := { keySize := some 64, ranges := [range], enums := [mood] }
    let o' : MappingOptions := { enums := [{ mood with labels := [] }] }
    (∀ d ∈ o.enums, d.HasDistinctVariants) ∧ ofText o.toJson.compact = .ok o ∧
      (∀ d ∈ o'.enums, d.HasDistinctVariants) ∧ ofText o'.toJson.compact = .error (.noLabels "mood") := by
  intro range mood o o'
  have hvariants : ∀ d ∈ o.enums, d.HasDistinctVariants :=
    List.forall_mem_singleton.2 (by decide : (mood.labels.map (·.1)).Nodup)
  have hvariants' : ∀ d ∈ o'.enums, d.HasDistinctVariants := List.forall_mem_singleton.2 List.nodup_nil
  obtain ⟨hcompact, hread⟩ := ofText_of_toJson hvariants
  obtain ⟨hcompact', hread'⟩ := ofText_of_toJson hvariants'
  exact ⟨hvariants, (hread _ (hcompact (by decide))).1 rfl, hvariants',
    ((hread' _ (hcompact' (by decide))).2 _ rfl).1⟩

end MappingOptions

end SqlBridge
