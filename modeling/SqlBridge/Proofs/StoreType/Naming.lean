import Mathlib.Tactic.Lemma
import SqlBridge.Descriptor.Basic
import SqlBridge.Registry.Request
import SqlBridge.StoreType.Parse

/-!
# Names of store types

How the store type of a descriptor comes of a name: the modifiers of the descriptor are folded into the name,
and changing the modifiers or the host type keeps the name. Brackets at the end of a store type do not change
the modifiers that are read from it.
-/

namespace SqlBridge

namespace Facets

/-- The numbers that are set. -/
def values (f : Facets) : List UInt32 :=
  f.size.toList ++ f.precision.toList ++ f.scale.toList

lemma applyTo_of_numbers_nil {f : Facets} (h : f.numbers = []) (base : String) :
    f.applyTo base = base := by
  have hmod : f.modifier = "" := by rw [modifier, h]
  rw [applyTo, hmod]
  by_cases hz : isZoned base = true
  · rw [if_pos hz, String.append_empty, ← String.ofList_append, List.takeWhile_append_dropWhile,
      String.ofList_toList]
  · rw [if_neg hz, String.append_empty]

lemma numbers_of_values_nil {f : Facets} (h : f.values = []) : f.numbers = [] := by
  obtain ⟨size, precision, scale, fixedLength⟩ := f
  cases size <;> cases precision <;> simp_all [values, numbers]

lemma mem_values_or {f g : Facets} {k : UInt32} (h : k ∈ (f.or g).values) :
    k ∈ f.values ∨ k ∈ g.values := by
  obtain ⟨fs, fp, fc, ff⟩ := f
  obtain ⟨gs, gp, gc, gf⟩ := g
  cases fs <;> cases fp <;> cases fc <;> simp_all [values, Facets.or] <;> grind

end Facets

namespace Descriptor

/-- The store type is the name with the modifiers folded into it. -/
def IsNamed (name : String) (d : Descriptor) : Prop :=
  d.storeType = d.facets.applyTo name ∧ d.baseStoreType = name

variable {name : String} {d : Descriptor}

/-- A descriptor of a single name without modifiers. -/
def IsPlain (d : Descriptor) : Prop :=
  d.baseStoreType = d.storeType ∧ d.facets.values = [] ∧ d.isArray = false

lemma IsPlain.isNamed (h : d.IsPlain) : d.IsNamed d.storeType :=
  ⟨(Facets.applyTo_of_numbers_nil (Facets.numbers_of_values_nil h.2.1) _).symm, h.1⟩

lemma IsNamed.withHostType (h : d.IsNamed name) (host : HostType) :
    (d.withHostType host).IsNamed name := by
  cases d <;> exact h

lemma isArray_withHostType (d : Descriptor) (host : HostType) :
    (d.withHostType host).isArray = d.isArray := by
  cases d <;> rfl

lemma facets_withHostType (d : Descriptor) (host : HostType) :
    (d.withHostType host).facets = d.facets := by
  cases d <;> rfl

lemma storeType_withHostType (d : Descriptor) (host : HostType) :
    (d.withHostType host).storeType = d.storeType := by
  cases d <;> rfl

lemma withHostType_hostType (d : Descriptor) : d.withHostType d.hostType = d := by
  cases d <;> rfl

lemma IsNamed.withFacets (h : d.IsNamed name) (hd : d.isArray = false) (f : Facets) :
    (d.withFacets f).IsNamed name := by
  cases d with
  | scalar s => exact ⟨congrArg f.applyTo h.2, h.2⟩
  | enumeration s labels => exact ⟨congrArg f.applyTo h.2, h.2⟩
  | array s element nullable => cases hd
  | range s subtype => exact h
  | multirange s inner => exact h

lemma isArray_withFacets (d : Descriptor) (f : Facets) : (d.withFacets f).isArray = d.isArray := by
  cases d <;> rfl

/-- The modifiers after a change are the new ones, or those before where the store type takes none. -/
lemma facets_withFacets (hd : d.isArray = false) (f : Facets) :
    (d.withFacets f).facets = f ∨ (d.withFacets f).facets = d.facets := by
  cases d with
  | scalar s => exact .inl rfl
  | enumeration s labels => exact .inl rfl
  | array s element nullable => cases hd
  | range s subtype => exact .inr rfl
  | multirange s inner => exact .inr rfl

/-- The brackets that end the store type of an array. -/
def brackets (d : Descriptor) : String :=
  if d.isArray then "[]" else ""

lemma brackets_mem (d : Descriptor) : d.brackets ∈ ["", "[]"] := by
  rw [brackets]
  cases d.isArray <;> decide

/-- The array of an element, which is no array itself, goes by the element's names. -/
lemma arrayOf_ok {element : Descriptor} {host : Option HostType} {nullable : Bool}
    (h : element.arrayOf host nullable = .ok d) :
    element.isArray = false ∧ d.isArray = true ∧ d.storeType = element.storeType ++ "[]" ∧
      d.baseStoreType = element.baseStoreType ++ "[]" ∧ d.facets = element.facets := by
  rw [arrayOf] at h
  by_cases he : element.isArray = true
  · rw [if_pos he] at h
    cases h
  · rw [if_neg he] at h
    cases h
    exact ⟨Bool.eq_false_iff.2 he, rfl, rfl, rfl, rfl⟩

end Descriptor

/-- The modifiers that were read from a store type. -/
def ParsedStoreType.values (p : ParsedStoreType) : List UInt32 :=
  (p.facets false).values

namespace StoreType

/-- What stands after the first mark of a text does not change where that mark stands. -/
lemma span_append {p : Char → Bool} {cs rest : List Char} {c : Char} (h : cs.dropWhile p = c :: rest)
    (more : List Char) :
    (cs ++ more).takeWhile p = cs.takeWhile p ∧ (cs ++ more).dropWhile p = c :: (rest ++ more) := by
  induction cs with
  | nil => cases h
  | cons d cs ih =>
    by_cases hd : p d = true
    · rw [List.dropWhile_cons_of_pos hd] at h
      obtain ⟨htake, hdrop⟩ := ih h
      simp [hd, htake, hdrop]
    · rw [List.dropWhile_cons_of_neg hd] at h
      cases h
      simp [hd]

/-- What ends in brackets has the parentheses of what stands before them. -/
lemma splitParentheses?_brackets (cs : List Char) :
    splitParentheses? (cs ++ ['[', ']'])
      = (splitParentheses? cs).map fun p => (p.1, p.2.1, p.2.2 ++ ['[', ']']) := by
  rw [splitParentheses?, splitParentheses?]
  cases hopen : cs.dropWhile (· != '(') with
  | nil =>
    have hnone : (cs ++ ['[', ']']).dropWhile (· != '(') = [] := by
      rw [List.dropWhile_append, hopen]
      rfl
    rw [hnone]
    rfl
  | cons c tail =>
    -- brackets come after the mark that ends each run, so that both runs end where they did
    obtain ⟨htake, hdrop⟩ := span_append hopen ['[', ']']
    rw [hdrop, htake]
    simp only
    cases hclose : tail.dropWhile (· != ')') with
    | nil =>
      have hnone : (tail ++ ['[', ']']).dropWhile (· != ')') = [] := by
        rw [List.dropWhile_append, hclose]
        rfl
      rw [hnone]
      rfl
    | cons c' after =>
      obtain ⟨htake', hdrop'⟩ := span_append hclose ['[', ']']
      rw [hdrop', htake']
      rfl

lemma eq_of_elementName? {store name : String} (h : Request.elementName? store = some name) :
    store = name ++ "[]" := by
  rw [Request.elementName?] at h
  split at h
  · rename_i rest hrest
    cases h
    have e := congrArg List.reverse hrest
    apply String.toList_injective
    simpa using e
  · cases h

/-- Brackets after a store type stand after its base name, and change no modifier. -/
lemma parse_brackets (name : String) : ∃ unicode, parse (name ++ "[]") =
    { parse name with baseName := (parse name).baseName ++ "[]", isUnicode := unicode } := by
  have hlist : (name ++ "[]").toList = name.toList ++ ['[', ']'] := String.toList_append
  rw [parse, parse, hlist, parseModified?, parseModified?, splitParentheses?_brackets]
  cases splitParentheses? name.toList with
  | none => exact ⟨_, rfl⟩
  | some p =>
    obtain ⟨before, inside, after⟩ := p
    simp only [Option.map_some, Option.bind_eq_bind, Option.bind_some]
    cases readModifiers? inside with
    | none => exact ⟨_, rfl⟩
    | some m =>
      obtain ⟨first, second⟩ := m
      have hbase : String.ofList (Text.trimEnd before ++ (after ++ ['[', ']'])) =
          String.ofList (Text.trimEnd before ++ after) ++ "[]" := by
        rw [← List.append_assoc, String.ofList_append]
      simp only [Option.bind_some, hbase]
      cases second with
      | some scale => exact ⟨_, rfl⟩
      | none =>
        by_cases hp : takesPrecision (Text.trimEnd before) = true
        · rw [if_pos hp, if_pos hp]
          exact ⟨_, rfl⟩
        · rw [if_neg hp, if_neg hp]
          exact ⟨_, rfl⟩

lemma facets_parse_brackets {store name : String} (h : Request.elementName? store = some name) :
    (parse store).facets = (parse name).facets := by
  obtain ⟨unicode, e⟩ := parse_brackets name
  rw [eq_of_elementName? h, e]
  rfl

lemma values_parse_brackets {store name : String} (h : Request.elementName? store = some name) :
    (parse store).values = (parse name).values := by
  rw [ParsedStoreType.values, ParsedStoreType.values, facets_parse_brackets h]

end StoreType

end SqlBridge
