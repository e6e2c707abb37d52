import SqlBridge.Proofs.Descriptor.Content
import SqlBridge.Proofs.Literal.Braces
import SqlBridge.Proofs.Literal.Field

/-!
# Reading array literals

The grammar of array literals: items in braces with commas between them, an item being a field, and a bare
field that spells null in any case being the null. An array of leaves is read back item by item: a null for
every null and the content for every other element, whatever characters it has.
-/

namespace SqlBridge

namespace ArrayText

open Literal

/-- The characters that only stand in a bare item's place as marks of the grammar. -/
def reserved : List Char := ['"', '\\', ',', '\x7b', '\x7d']

/-- The item that a field stands for. There is no item of no characters. -/
def itemOf? : Field → Option (Option String)
  | .quoted s => some (some s)
  | .bare s => if s = "" then none else if Text.lower s = "null" then some none else some (some s)

/-- The item at the start of a text, and what stands after it. -/
def readItem? (cs : List Char) : Option (Option String × List Char) :=
  (Field.read? reserved cs).bind fun p => (itemOf? p.1).map (·, p.2)

/-- The items of an array literal, `none` for the null. -/
def read? (s : String) : Option (List (Option String)) :=
  readBraced? readItem? ",".toList s

lemma stops_of_head? {rest : List Char} (h : rest.head? = some ',' ∨ rest.head? = some '\x7d') :
    Field.Stops reserved rest := by
  intro c hc
  rcases h with h | h
  · rw [Option.mem_def, h] at hc
    cases hc
    decide
  · rw [Option.mem_def, h] at hc
    cases hc
    decide

lemma readsAs_null : ReadsAs readItem? "NULL".toList none := by
  intro rest hrest
  have hbare : ∀ c ∈ "NULL".toList, Field.isBare reserved c = true := List.all_eq_true.1 (by decide)
  have hread := Field.read?_bare (by decide) hbare (stops_of_head? hrest)
  have hitem : itemOf? (.bare "NULL") = some none := by decide
  rw [readItem?, hread, Option.bind_some, hitem]
  rfl

/-- A text made an item is read as that text. -/
lemma readsAs_item (always : Bool) (s : String) :
    ReadsAs readItem? (item always s).toList (some s) := by
  intro rest hrest
  have hmarks : ∀ c ∈ reserved, isItemMark c = true := List.all_eq_true.1 (by decide)
  obtain ⟨f, hread, hf⟩ := Field.read?_item hmarks (by decide) always s (stops_of_head? hrest)
  rw [readItem?, hread]
  rcases hf with rfl | ⟨rfl, hempty, hnull⟩
  · rfl
  · simp [itemOf?, hempty, hnull]

end ArrayText

namespace Descriptor

/-- An item of an array literal stands for an element: the null for the null only, and any other item
for its content. -/
def HasItem (element : Descriptor) (v : HostValue) (item : Option String) : Prop :=
  (item = none ↔ v = .null) ∧ ∀ raw, item = some raw → element.content v = .ok raw

/-- What a leaf writes of an element is read as the item that stands for it. -/
lemma readsAs_embedded {element : Descriptor} (hd : element.isLeaf = true) {v : HostValue} {t : String}
    (h : element.embedded v = .ok t) :
    ∃ item, Literal.ReadsAs ArrayText.readItem? t.toList item ∧ element.HasItem v item := by
  by_cases hv : v = .null
  · subst hv
    rw [embedded_null] at h
    cases h
    exact ⟨none, ArrayText.readsAs_null, by simp [HasItem]⟩
  · obtain ⟨raw, always, hraw, rfl⟩ := embedded_leaf_ok hd hv h
    refine ⟨some raw, ArrayText.readsAs_item always raw, by simp [hv], ?_⟩
    intro raw' e
    cases e
    exact hraw

lemma readsAs_elements {element : Descriptor} (hd : element.isLeaf = true) {vs : List HostValue}
    {texts : List String} (h : List.Forall₂ (fun v t => element.embedded v = .ok t) vs texts) :
    ∃ items, List.Forall₂ (fun t item => Literal.ReadsAs ArrayText.readItem? t.toList item) texts items ∧
      List.Forall₂ element.HasItem vs items := by
  induction h with
  | nil => exact ⟨[], .nil, .nil⟩
  | cons hv _ ih =>
    obtain ⟨item, hread, hitem⟩ := readsAs_embedded hd hv
    obtain ⟨items, hreads, hitems⟩ := ih
    exact ⟨item :: items, .cons hread hreads, .cons hitem hitems⟩

lemma embedded_array_ok {s : Signature} {element : Descriptor} {nullable : Bool} {vs : List HostValue}
    {t : String} (h : (Descriptor.array s element nullable).embedded (.array vs) = .ok t) :
    ∃ texts, List.Forall₂ (fun v t => element.embedded v = .ok t) vs texts ∧
      t = "\x7b" ++ ",".intercalate texts ++ "\x7d" := by
  rw [embedded] at h
  obtain ⟨texts, htexts, h⟩ := ok_of_bind h
  cases h
  exact ⟨texts, forall₂_of_mapM htexts, rfl⟩

/-- The literal of an array of leaves is read back as one item for each element in order: the null exactly
for nulls, and the content of every other element. -/
theorem read_embedded_array {s : Signature} {element : Descriptor} {nullable : Bool}
    (hd : element.isLeaf = true) {vs : List HostValue} {t : String}
    (h : (Descriptor.array s element nullable).embedded (.array vs) = .ok t) :
    ∃ items, ArrayText.read? t = some items ∧ List.Forall₂ element.HasItem vs items := by
  obtain ⟨texts, htexts, rfl⟩ := embedded_array_ok h
  obtain ⟨items, hreads, hitems⟩ := readsAs_elements hd htexts
  have hnone : ArrayText.readItem? ['\x7d'] = none := by decide
  exact ⟨items, Literal.readBraced?_braced rfl hnone hreads, hitems⟩

/-- Texts that spell null, are empty or hold marks stand beside a null. -/
theorem read_embedded_array_of_words :
    (ofScalar "tsquery" (.scalar .tsQuery) (.plain .tsQuery)).isLeaf = true ∧
    (array (.plain "tsquery[]" (.array (.scalar .tsQuery)) (.array (.plain .tsQuery)))
        (ofScalar "tsquery" (.scalar .tsQuery) (.plain .tsQuery)) true).embedded
      (.array [.string "nUll", .null, .string "", .string "a,\\\""])
      = .ok "\x7b\"nUll\",NULL,\"\",\"a,\\\\\\\"\"\x7d" ∧
    ∃ items,
      ArrayText.read? "\x7b\"nUll\",NULL,\"\",\"a,\\\\\\\"\"\x7d" = some items ∧
      List.Forall₂ (ofScalar "tsquery" (.scalar .tsQuery) (.plain .tsQuery)).HasItem
        [.string "nUll", .null, .string "", .string "a,\\\""] items := by
  have h : (array (.plain "tsquery[]" (.array (.scalar .tsQuery)) (.array (.plain .tsQuery)))
        (ofScalar "tsquery" (.scalar .tsQuery) (.plain .tsQuery)) true).embedded
      (.array [.string "nUll", .null, .string "", .string "a,\\\""])
      = .ok "\x7b\"nUll\",NULL,\"\",\"a,\\\\\\\"\"\x7d" := by
    rfl
  exact ⟨rfl, h, read_embedded_array rfl h⟩

end Descriptor

end SqlBridge
