import SqlBridge.Proofs.Registry.Uniqueness

/-!
# Refused registrations

A registration is refused when its name is taken or, for a range, when its subtype has no answer. The
tables stay as they are then. The look-up of the subtype may have left an answer behind, but that is the
right one, so that a program cannot tell whether it tried.
-/

namespace SqlBridge

namespace Registry

variable {r : Registry} {fault : Fault}

lemma text_unresolved : (ErrorCode.mk 300).text = "KB0300" := by
  decide

lemma registerEnum_eq_error {d : EnumDefinition} (h : r.registerEnum d = .error fault) :
    (r.isNamed d.qualifiedName = true ∨ r.isHosted (.enumeration d.hostTypeName) = true) ∧
      fault.report.code.text = "KB0301" := by
  rw [registerEnum] at h
  split at h
  · rename_i htaken
    cases h
    exact ⟨Bool.or_eq_true_iff.1 htaken, text_duplicate⟩
  · cases h

lemma registerRange_eq_error {d : RangeDefinition} (h : r.registerRange d = .error fault) :
    (d.qualifiedName ∈ r.names ∧ fault.report.code.text = "KB0301") ∨
      (d.qualifiedName ∉ r.names ∧ r.find (subtypeRequest d) = none ∧
        fault.report.code.text = "KB0300") := by
  rw [registerRange] at h
  split at h
  · rename_i htaken
    cases h
    exact .inl ⟨isTaken_iff.1 htaken, text_duplicate⟩
  · rename_i hfree
    cases hsubtype : r.find (subtypeRequest d) with
    | some s =>
      rw [hsubtype] at h
      cases h
    | none =>
      rw [hsubtype] at h
      cases h
      exact .inr ⟨fun hname => hfree (isTaken_iff.2 hname), rfl, text_unresolved⟩

end Registry

namespace Catalog

/-- No program can tell the catalogs apart: every session gets the same replies from both and ends with the
same tables, which all lists of names and of descriptors are read from. -/
structure Alike (c c' : Catalog) : Prop where
  replies (steps : List Step) : (session step steps c).1 = (session step steps c').1
  registry (steps : List Step) :
    (session step steps c).2.registry = (session step steps c').2.registry

variable {c c' : Catalog}

/-- Kept answers do not matter as long as they are right. -/
lemma Sound.alike (hc : c.Sound) (hc' : c'.Sound) (h : c.registry = c'.registry) : Alike c c' := by
  constructor
  · intro steps
    rw [(agrees_session hc steps).answer, (agrees_session hc' steps).answer, h]
  · intro steps
    rw [(agrees_session hc steps).registry, (agrees_session hc' steps).registry, h]

/-- A step that leaves the registry as it is makes no difference. -/
lemma Agrees.alike {α : Type} {a : α} {r : Registry} {p : α × Catalog} (h : Agrees p (a, r))
    (hc : c.Sound) (hr : r = c.registry) : Alike p.2 c :=
  h.sound.alike hc (h.registry.trans hr)

/-- A refused registration is one of a taken name, or of a range whose subtype has no answer, and
afterwards the catalog is as if it had not been tried. -/
theorem alike_of_error (hc : c.Reachable) :
    (∀ (d : EnumDefinition) (fault : Fault), (c.registerEnum d).1 = .error fault →
        ((c.registry.isNamed d.qualifiedName = true ∨
            c.registry.isHosted (.enumeration d.hostTypeName) = true) ∧
          fault.report.code.text = "KB0301") ∧
        Alike (c.registerEnum d).2 c) ∧
      ∀ (d : RangeDefinition) (fault : Fault), (c.registerRange d).1 = .error fault →
        ((d.qualifiedName ∈ c.registry.names ∧ fault.report.code.text = "KB0301") ∨
          (d.qualifiedName ∉ c.registry.names ∧ (c.find (Registry.subtypeRequest d)).1 = none ∧
            fault.report.code.text = "KB0300")) ∧
        Alike (c.registerRange d).2 c := by
  obtain ⟨hsound, -⟩ := hc.spec
  constructor
  · intro d fault h
    have hagrees := agrees_registerEnum hsound d
    rw [hagrees.answer] at h
    obtain ⟨hd, hsame⟩ := Registry.error_of_commit h
    exact ⟨Registry.registerEnum_eq_error hd, hagrees.alike hsound hsame⟩
  · intro d fault h
    have hagrees := agrees_registerRange hsound d
    rw [hagrees.answer] at h
    obtain ⟨hd, hsame⟩ := Registry.error_of_commit h
    rw [hc.find_eq]
    exact ⟨Registry.registerRange_eq_error hd, hagrees.alike hsound hsame⟩

/-- The look-up of a subtype without an answer is kept, and makes no difference; nor does an enumeration of
a built-in name. -/
theorem alike_of_error_of_kept :
    let text : EnumDefinition := { name := "text", labels := [("A", "a")] }
    let lost : RangeDefinition :=
      { name := "lost", subtype := .scalar .int32, subtypeStore := some "mood" }
    ∃ c : Catalog, c.Reachable ∧ (c.registerRange lost).2.answers ≠ c.answers ∧
      (∃ fault, (c.registerEnum text).1 = .error fault ∧ fault.report.code.text = "KB0301") ∧
      (∃ fault, (c.registerRange lost).1 = .error fault ∧ fault.report.code.text = "KB0300") ∧
      Alike (c.registerEnum text).2 c ∧ Alike (c.registerRange lost).2 c := by
  intro text lost
  let c : Catalog := (registerRange { registry := .builtin {} }
    { name := "span", subtype := .scalar .string }).2
  have hc : c.Reachable := .range reachableBy_builtin trivial
  have hruns : ((c.registerRange lost).2.answers.length = 1 ∧ c.answers.length = 0) ∧
      lost.qualifiedName ∉ c.registry.names ∧ (c.registerEnum text).1.toOption = none ∧
      (c.registerRange lost).1.toOption = none := by
    decide +kernel
  obtain ⟨⟨hkept, hnone⟩, hnew, htaken, hlost⟩ := hruns
  obtain ⟨henums, hranges⟩ := alike_of_error hc
  obtain ⟨fault, htext⟩ := error_of_toOption htaken
  obtain ⟨⟨-, hcode⟩, halike⟩ := henums text fault htext
  obtain ⟨fault', hrange⟩ := error_of_toOption hlost
  obtain ⟨hcause, halike'⟩ := hranges lost fault' hrange
  obtain ⟨-, -, hcode'⟩ := hcause.resolve_left fun h => hnew h.1
  refine ⟨c, hc, ?_, ⟨fault, htext, hcode⟩, ⟨fault', hrange, hcode'⟩, halike, halike'⟩
  intro e
  rw [e, hnone] at hkept
  cases hkept

end Catalog

end SqlBridge
