import SqlBridge.Descriptor.Render
import SqlBridge.Proofs.Literal.Field
import SqlBridge.Proofs.Outcome

/-!
# Contents of literals

What a literal says of a value, apart from quotes, casts and separators. Each of the three literals is the
content in a form of its own; the whole literal of an array is made of elements.
-/

namespace SqlBridge.Descriptor

lemma isNull_iff {v : HostValue} : v.isNull = true ↔ v = .null := by
  cases v <;> simp [HostValue.isNull]

/-- What a literal says of a value that is not null: the raw text of a scalar, the label of an enumeration,
and of a container the literal that its parts make. -/
def content : Descriptor → HostValue → Except Fault String
  | .scalar s, v => s.rawText v
  | .enumeration s labels, v => valueLabel s labels v
  | d, v => d.embedded v

/-- A descriptor that holds no other. -/
def isLeaf : Descriptor → Bool
  | .scalar _ => true
  | .enumeration _ _ => true
  | _ => false

/-- The descriptor at the bottom: that of the scalars or labels which containers are made of. -/
def innermost : Descriptor → Descriptor
  | .array _ element _ => innermost element
  | .range _ subtype => innermost subtype
  | .multirange _ inner => innermost inner
  | d => d

lemma embedded_null (d : Descriptor) : d.embedded .null = .ok "NULL" := by
  cases d with
  | multirange s inner => cases inner <;> simp [embedded, HostValue.isNull]
  | _ => simp [embedded, HostValue.isNull]

/-- An item of a leaf is its content, in quotes where it needs them. -/
lemma embedded_leaf {d : Descriptor} (hd : d.isLeaf = true) {v : HostValue} (hv : v ≠ .null) :
    ∃ always, d.embedded v = (d.content v).map (Literal.item always) := by
  have hnull : v.isNull = false := Bool.eq_false_iff.2 fun h => hv (isNull_iff.1 h)
  cases d with
  | scalar s =>
    refine ⟨Literal.alwaysQuotesItems s.dbType, ?_⟩
    rw [embedded, hnull]
    rfl
  | enumeration s labels =>
    refine ⟨false, ?_⟩
    rw [embedded, hnull]
    rfl
  | _ => cases hd

lemma embedded_leaf_ok {d : Descriptor} (hd : d.isLeaf = true) {v : HostValue} (hv : v ≠ .null)
    {t : String} (h : d.embedded v = .ok t) :
    ∃ raw always, d.content v = .ok raw ∧ t = Literal.item always raw := by
  obtain ⟨always, e⟩ := embedded_leaf hd hv
  rw [e] at h
  obtain ⟨raw, hraw, rfl⟩ := ok_of_map h
  exact ⟨raw, always, hraw, rfl⟩

/-- The element of an array constructor that a content makes. -/
def elementOf : Descriptor → String → String
  | .scalar s, raw => s.elementOfRaw raw
  | _, raw => Literal.quoteSql raw

/-- The whole literal that a content makes, for descriptors other than arrays. -/
def literalOf : Descriptor → String → String
  | .scalar s, raw => s.literalOfRaw raw
  | d, raw => d.signature.casting (Literal.quoteSql raw)

lemma uncast_null (d : Descriptor) : d.uncast .null = .ok "NULL" := by
  cases d <;> rfl

/-- An element of an array constructor is made of the content. -/
lemma uncast_of_ne_null (d : Descriptor) {v : HostValue} (hv : v ≠ .null) :
    d.uncast v = (d.content v).map d.elementOf := by
  have hnull : v.isNull = false := Bool.eq_false_iff.2 fun h => hv (isNull_iff.1 h)
  cases d with
  | scalar s => simp only [uncast, hnull]; rfl
  | enumeration s labels => simp only [uncast, hnull]; rfl
  | array s element nullable => simp only [uncast, hnull]; rfl
  | range s subtype => simp only [uncast, hnull]; rfl
  | multirange s inner => simp only [uncast, hnull]; rfl

/-- A whole literal other than an array's is made of the content. -/
lemma toplevel_of_ne_null {d : Descriptor} (hd : d.isArray = false) {v : HostValue} (hv : v ≠ .null) :
    d.toplevel v = (d.content v).map d.literalOf := by
  have hnull : v.isNull = false := Bool.eq_false_iff.2 fun h => hv (isNull_iff.1 h)
  cases d with
  | scalar s => simp only [toplevel, hnull]; rfl
  | enumeration s labels => simp only [toplevel, hnull]; rfl
  | array s element nullable => cases hd
  | range s subtype => simp only [toplevel, hnull]; rfl
  | multirange s inner => simp only [toplevel, hnull]; rfl

lemma toplevel_array_ok {s : Signature} {element : Descriptor} {nullable : Bool} {v : HostValue}
    (hv : v ≠ .null) {t : String} (h : (Descriptor.array s element nullable).toplevel v = .ok t) :
    ∃ vs texts, v = .array vs ∧ List.Forall₂ (fun v t => element.uncast v = .ok t) vs texts ∧
      t = s.casting ("ARRAY[" ++ ",".intercalate texts ++ "]") := by
  cases v with
  | null => exact absurd rfl hv
  | array vs =>
    simp only [toplevel, HostValue.isNull, Bool.false_eq_true, if_false] at h
    obtain ⟨texts, htexts, h⟩ := ok_of_bind h
    cases h
    exact ⟨vs, texts, rfl, forall₂_of_mapM htexts, rfl⟩
  | _ => cases h

/-- The literals of the value are the text as it is: bare, in quotes, and in quotes with a cast. -/
structure WritesPlainly (d : Descriptor) (v : HostValue) (text : String) : Prop where
  embedded : d.embedded v = .ok text
  uncast : d.uncast v = .ok ("'" ++ text ++ "'")
  toplevel : d.toplevel v = .ok (d.signature.casting ("'" ++ text ++ "'"))

/-- Where literals are quoted with a cast, a raw text without marks is not changed by any of them. -/
lemma writesPlainly_of_rawText {s : Signature} {v : HostValue} {raw : String}
    (hspelling : Literal.spelling s.dbType = .quoted) (hbare : Literal.alwaysQuotesItems s.dbType = false)
    (hv : v ≠ .null) (hraw : s.rawText v = .ok raw) (hitem : Literal.item false raw = raw)
    (hquote : '\'' ∉ raw.toList) : (Descriptor.scalar s).WritesPlainly v raw := by
  have hnull : v.isNull = false := Bool.eq_false_iff.2 fun h => hv (isNull_iff.1 h)
  have hsql := Literal.quoteSql_of_not_mem hquote
  have hcontent : (Descriptor.scalar s).content v = .ok raw := hraw
  constructor
  · have hembedded : (Descriptor.scalar s).embedded v = (s.rawText v).map s.itemOfRaw := by
      rw [Descriptor.embedded, hnull]
      rfl
    have hplain : s.itemOfRaw raw = raw := by rw [Signature.itemOfRaw, hbare, hitem]
    rw [hembedded, hraw]
    exact congrArg Except.ok hplain
  · have helement : s.elementOfRaw raw = "'" ++ raw ++ "'" := by rw [Signature.elementOfRaw, hspelling, ← hsql]
    rw [uncast_of_ne_null _ hv, hcontent]
    exact congrArg Except.ok helement
  · have hliteral : s.literalOfRaw raw = s.casting ("'" ++ raw ++ "'") := by
      rw [Signature.literalOfRaw, hspelling, ← hsql]
    rw [toplevel_of_ne_null rfl hv, hcontent]
    exact congrArg Except.ok hliteral

end SqlBridge.Descriptor
