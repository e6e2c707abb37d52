import SqlBridge.Proofs.Descriptor.DateTimes
import SqlBridge.Proofs.Entries
import SqlBridge.Proofs.Sql.Scan

/-!
# Labels of enumerations

A value of an enumeration is given by the name of a variant or by a label, and the names of variants go first.
So what is rendered is always one of the labels, and a label stands for itself unless it is the name of a
variant with another label.
-/

namespace SqlBridge

/-- Texts with equal SQL strings are equal. -/
lemma Literal.quoteSql_inj {s s' : String} : quoteSql s = quoteSql s' ↔ s = s' := by
  refine ⟨fun h => ?_, congrArg quoteSql⟩
  have hscan := (Sql.scans_quoteSql s).scan?
  rw [h, (Sql.scans_quoteSql s').scan?] at hscan
  exact String.toList_inj.1 (by simpa using hscan.symm)

namespace Descriptor

/-- The literals of a value are all made of the label. -/
structure ShowsLabel (d : Descriptor) (v : HostValue) (label : String) : Prop where
  toplevel : d.toplevel v = .ok (d.signature.casting (Literal.quoteSql label))
  embedded : d.embedded v = .ok (Literal.item false label)
  uncast : d.uncast v = .ok (Literal.quoteSql label)

/-- The text is no name of a variant, or that of one which it is the label of. -/
def IsOwnLabel (labels : List (String × String)) (text : String) : Prop :=
  ∀ label, Entries.get? text labels = some label → label = text

/-- The values that a text gives: the variant of that name, or the text as it is. -/
def givenBy (text : String) : List HostValue :=
  [.enumeration text, .string text]

variable {s : Signature} {labels : List (String × String)} {v : HostValue} {text label : String}

/-! ## Labels of texts -/

/-- A text stands for the label of the variant of that name, or else for itself as a label. -/
lemma labelOf_eq_ok : labelOf s labels text = .ok label ↔
    Entries.get? text labels = some label ∨
      (Entries.get? text labels = none ∧ text ∈ labels.map (·.2) ∧ text = label) := by
  have hany : labels.any (·.2 == text) = true ↔ text ∈ labels.map (·.2) := by
    simp
  rw [labelOf]
  cases hget : Entries.get? text labels with
  | some found => simp
  | none =>
    by_cases hmem : text ∈ labels.map (·.2)
    · simp [hany.2 hmem, hmem]
    · have hnot : labels.any (·.2 == text) = false := Bool.eq_false_iff.2 fun h => hmem (hany.1 h)
      simp [hnot, hmem]

lemma mem_of_labelOf (h : labelOf s labels text = .ok label) : label ∈ labels.map (·.2) := by
  rcases labelOf_eq_ok.1 h with hget | ⟨-, hmem, rfl⟩
  · exact List.mem_map_of_mem (f := (·.2)) (Entries.mem_of_get? hget)
  · exact hmem

/-- A label stands for itself exactly if no variant of that name has another one. -/
lemma labelOf_self_iff (h : label ∈ labels.map (·.2)) :
    labelOf s labels label = .ok label ↔ IsOwnLabel labels label := by
  rw [labelOf_eq_ok, IsOwnLabel]
  cases hget : Entries.get? label labels with
  | some found => simp
  | none => simp [h]

/-! ## Literals of labels -/

lemma valueLabel_of_givenBy (h : v ∈ givenBy text) : valueLabel s labels v = labelOf s labels text := by
  rcases List.mem_pair.1 h with rfl | rfl
  · rfl
  · rfl

/-- A value with a label is given by some text. -/
lemma exists_givenBy (h : valueLabel s labels v = .ok label) : ∃ text, v ∈ givenBy text := by
  cases v with
  | enumeration variant => exact ⟨variant, by simp [givenBy]⟩
  | scalar a =>
    cases a with
    | string text => exact ⟨text, by simp [givenBy, HostValue.string]⟩
    | _ => cases h
  | _ => cases h

lemma showsLabel_iff (hv : v ≠ .null) :
    (enumeration s labels).ShowsLabel v label ↔ valueLabel s labels v = .ok label := by
  have hnull : v.isNull = false := Bool.eq_false_iff.2 fun h => hv (isNull_iff.1 h)
  have huncast := uncast_of_ne_null (enumeration s labels) hv
  refine ⟨fun h => ?_, fun h => ⟨?_, ?_, ?_⟩⟩
  · have hok := h.uncast
    rw [huncast] at hok
    obtain ⟨raw, hraw, hquoted⟩ := ok_of_map hok
    rw [← Literal.quoteSql_inj.1 hquoted]
    exact hraw
  · rw [toplevel_of_ne_null rfl hv, content, h]
    rfl
  · rw [embedded, hnull, h]
    rfl
  · rw [huncast, content, h]
    rfl

lemma ne_null_of_givenBy (h : v ∈ givenBy text) : v ≠ .null := by
  rcases List.mem_pair.1 h with rfl | rfl
  · exact nofun
  · exact nofun

lemma showsLabel_givenBy (h : v ∈ givenBy text) :
    (enumeration s labels).ShowsLabel v label ↔ labelOf s labels text = .ok label := by
  rw [showsLabel_iff (ne_null_of_givenBy h), valueLabel_of_givenBy h]

/-- The name of a variant gives the label of the variant. Whatever an enumeration renders, apart from a null, is
one of its labels and no other. A label that is rendered itself, by whichever of the two ways to give it, gives
that label again exactly if it is not the name of a variant with another one. -/
theorem label_of_rendered (s : Signature) (labels : List (String × String)) :
    (∀ name label, Entries.get? name labels = some label → ∀ v ∈ givenBy name,
      (enumeration s labels).ShowsLabel v label) ∧
    (∀ label ∈ labels.map (·.2), ∀ v ∈ givenBy label,
      ((enumeration s labels).ShowsLabel v label ↔ IsOwnLabel labels label)) ∧
    ∀ v, v ≠ .null → (enumeration s labels).IsRendered v →
      ∃ label ∈ labels.map (·.2), (enumeration s labels).ShowsLabel v label ∧
        (∀ other, (enumeration s labels).ShowsLabel v other → other = label) ∧
        ∀ w ∈ givenBy label, ((enumeration s labels).ShowsLabel w label ↔ IsOwnLabel labels label) := by
  have hself : ∀ label ∈ labels.map (·.2), ∀ v ∈ givenBy label,
      ((enumeration s labels).ShowsLabel v label ↔ IsOwnLabel labels label) := by
    intro label hlabel v hv
    rw [showsLabel_givenBy hv, labelOf_self_iff hlabel]
  refine ⟨?_, hself, ?_⟩
  · intro name label hget v hv
    exact (showsLabel_givenBy hv).2 (labelOf_eq_ok.2 (.inl hget))
  · intro v hv hrendered
    obtain ⟨label, hlabel⟩ := content_of_isRendered rfl hv hrendered
    change valueLabel s labels v = .ok label at hlabel
    obtain ⟨text, htext⟩ := exists_givenBy hlabel
    have hmem : label ∈ labels.map (·.2) := by
      rw [valueLabel_of_givenBy htext] at hlabel
      exact mem_of_labelOf hlabel
    refine ⟨label, hmem, (showsLabel_iff hv).2 hlabel, ?_, hself label hmem⟩
    intro other hother
    have hsame := (showsLabel_iff hv).1 hother
    rw [hlabel] at hsame
    exact (Except.ok.inj hsame).symm

/-- A label of two variants, one of which goes by the label itself. -/
theorem label_of_rendered_of_shared :
    let labels := [("Happy", "happy"), ("sad", "sad"), ("Low", "sad")]
    let d := ofLabels "mood" "Mood" labels
    "sad" ∈ labels.map (·.2) ∧ IsOwnLabel labels "sad" ∧ HostValue.enumeration "Low" ≠ .null ∧
      d.IsRendered (.enumeration "Low") ∧ d.ShowsLabel (.enumeration "Low") "sad" ∧
      ∀ w ∈ givenBy "sad", d.ShowsLabel w "sad" := by
  intro labels d
  obtain ⟨hvariant, hself, hall⟩ := label_of_rendered d.signature labels
  have hmem : "sad" ∈ labels.map (·.2) := by decide
  have hown : IsOwnLabel labels "sad" := by
    rintro label ⟨⟩
    rfl
  have hlow := hvariant "Low" "sad" rfl (.enumeration "Low") List.mem_cons_self
  exact ⟨hmem, hown, nofun, ⟨_, .inl hlow.toplevel⟩, hlow, fun w hw => (hself "sad" hmem w hw).2 hown⟩

/-- A label that is the name of a variant with another label gives that other label. -/
theorem label_hidden_by_variant :
    let labels := [("A", "B"), ("B", "C")]
    let d := ofLabels "mood" "Mood" labels
    "B" ∈ labels.map (·.2) ∧ d.ShowsLabel (.enumeration "A") "B" ∧
      ∀ v ∈ givenBy "B", d.ShowsLabel v "C" ∧ ¬ d.ShowsLabel v "B" := by
  intro labels d
  refine ⟨by decide, ⟨rfl, rfl, rfl⟩, fun v hv => ?_⟩
  have hlabel : d.ShowsLabel v "C" := by
    rcases List.mem_pair.1 hv with rfl | rfl
    · exact ⟨rfl, rfl, rfl⟩
    · exact ⟨rfl, rfl, rfl⟩
  refine ⟨hlabel, fun hself => ?_⟩
  have hsame := hlabel.uncast.symm.trans hself.uncast
  exact absurd (Literal.quoteSql_inj.1 (Except.ok.inj hsame)) (by decide)

end Descriptor

end SqlBridge
