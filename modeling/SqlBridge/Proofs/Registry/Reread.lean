import SqlBridge.Proofs.Descriptor.Reread
import SqlBridge.Proofs.Registry.Modifiers

/-!
# Asking again

An answer's store type and host type are asked for again, as when they were stored and read back. Where
the user's own types have plain names in small letters, and no two of them the same, the answer is the
same descriptor but for its modifiers, which are those that its text tells.
-/

namespace SqlBridge

/-- A character of plain names in small letters, with no blank among them. -/
def isLowerNameChar (c : Char) : Bool :=
  isNameChar c && !Text.isBlank c && c.toLower == c

/-- A plain identifier in small letters, or one behind the name of its schema. -/
def IsLowerName (name : String) : Prop :=
  ∀ c ∈ name.toList, isLowerNameChar c = true

namespace Registry

variable {admits : String → Prop} {r : Registry} {q : Request} {d e m : Descriptor} {name : String}
  {f : Facets} {host : Option HostType}

/-! ## Names -/

lemma IsLowerName.isClean (h : IsLowerName name) : Facets.IsClean name := by
  have hparts : ∀ c ∈ name.toList,
      isNameChar c = true ∧ Text.isBlank c = false ∧ (c.toLower == c) = true := by
    intro c hc
    have hchar := h c hc
    rw [isLowerNameChar, Bool.and_eq_true, Bool.and_eq_true, Bool.not_eq_true'] at hchar
    exact ⟨hchar.1.1, hchar.1.2, hchar.2⟩
  refine ⟨?_, Text.trimEnd_eq fun c hc => ?_, fun c hc => (hparts c hc).2.2⟩
  · intro hmem
    have hchar := (hparts _ hmem).1
    revert hchar
    decide
  · have hmem : c ∈ name.toList := by
      rw [← Facets.stem_append_ending name]
      exact List.mem_append_left _ (List.mem_of_getLast? hc)
    exact (hparts c hmem).2.1

lemma ReachableBy.isClean_of_mem_names (h : r.ReachableBy IsLowerName) (hname : name ∈ r.names) :
    Facets.IsClean name := by
  rcases h.names_spec.2 name hname with hbuiltin | hlower
  · exact isClean_of_mem_builtinNames hbuiltin
  · exact IsLowerName.isClean hlower

lemma ReachableBy.isUnbracketed_of_isLowerName (h : r.ReachableBy IsLowerName) : r.IsUnbracketed := by
  apply h.isUnbracketed
  intro name hname hsuffix
  have hchar := hname ']' (hsuffix.subset (by decide))
  revert hchar
  decide

/-! ## Descriptors of a name -/

lemma IsAdapted.mem_names (h : r.ReachableBy admits) (he : r.IsAdapted host e) :
    e.storeType ∈ r.names := by
  cases he with
  | stored hmem _ => exact (h.linked.isRegistered hmem).mem_names
  | @document name e host' hfirst _ _ =>
    rw [Descriptor.storeType_withHostType]
    exact (h.linked.isRegistered_of_first? hfirst).mem_names

lemma storeType_singleCharacter (o : LiteralOptions) :
    (Builtin.singleCharacter o).storeType = "character(1)" := by
  have htext : Facets.applyTo { size := some 1, fixedLength := true } "character" = "character(1)" := by
    decide
  exact (isNamed_singleCharacter o).1.trans htext

end Registry

namespace Catalog

end Catalog

end SqlBridge
