import SqlBridge.Proofs.Descriptor.Labels
import SqlBridge.Proofs.Descriptor.WellTyped
import SqlBridge.Proofs.Literal.Field
import SqlBridge.Proofs.StoreType.Naming

/-!
# Switches of containers

Every descriptor has switches for its literals, but only those of a leaf are looked at. A container that is
given other switches is rendered as before, while the container that is made anew of parts with these
switches is not, wherever its leaf is of dates or date-times that the switches are about.
-/

namespace SqlBridge

namespace Signature

open Literal

/-- Some literals of the store type are other ones with the switches `o`. -/
def changesWith (o : LiteralOptions) (s : Signature) : Bool :=
  match s.dbType with
  | .plain .date => s.literals.infinityWords != o.infinityWords
  | .plain .timestamp => s.literals != o
  | .plain .timestampTz => s.literals != o
  | _ => false

variable {s s' : Signature} {o : LiteralOptions}

lemma casting_injective (s : Signature) : Function.Injective s.casting := by
  intro literal literal' h
  simpa [casting] using h

lemma unwritable_of_storeType {α : Type} (h : s.storeType = s'.storeType) (v : HostValue) :
    (s.unwritable v : Except Fault α) = s'.unwritable v := by
  rw [unwritable, unwritable, h]

/-- Only dates and date-times look at the switches. -/
lemma rawText_of_changesWith_eq_false (h : s.changesWith o = false) (v : HostValue) :
    { s with literals := o }.rawText v = s.rawText v := by
  obtain ⟨storeType, baseStoreType, hostType, dbType, facets, literals⟩ := s
  cases dbType with
  | plain tag =>
    cases v with
    | scalar a =>
      cases a with
      | dateTime t =>
        cases tag with
        | timestamp | timestampTz =>
          obtain rfl : literals = o := by simpa [changesWith] using h
          rfl
        | _ => rfl
      | dateTimeUtc t =>
        cases tag with
        | timestamp | timestampTz =>
          obtain rfl : literals = o := by simpa [changesWith] using h
          rfl
        | _ => rfl
      | date d =>
        cases tag with
        | date =>
          have hwords : literals.infinityWords = o.infinityWords := by simpa [changesWith] using h
          show Except.ok (infinityOr o .first .last d d.text) =
            Except.ok (infinityOr literals .first .last d d.text)
          rw [infinityOr, infinityOr, hwords]
        | _ => rfl
      | _ => rfl
    | _ => rfl
  | _ => rfl

/-- The first value of all shows whether there are words for the extremes. -/
lemma infinityOr_first_ne {α : Type} [DecidableEq α] {o o' : LiteralOptions} {first last : α}
    {usual : String} (husual : "-infinity" ≠ usual) (h : o.infinityWords ≠ o'.infinityWords) :
    infinityOr o first last first usual ≠ infinityOr o' first last first usual := by
  obtain ⟨legacy, words⟩ := o
  obtain ⟨legacy', words'⟩ := o'
  cases words with
  | false =>
    cases words' with
    | false => exact absurd rfl h
    | true => simpa [infinityOr] using husual.symm
  | true =>
    cases words' with
    | false => simpa [infinityOr] using husual
    | true => exact absurd rfl h

/-- The words for the extremes show at the first value, and legacy mode at a value with a zone where the
store type has none or the other way round. -/
lemma exists_rawText_ne (h : s.changesWith o = true) :
    ∃ a, { s with literals := o }.rawText (.scalar a) ≠ s.rawText (.scalar a) := by
  obtain ⟨storeType, baseStoreType, hostType, dbType, facets, ⟨legacy, words⟩⟩ := s
  obtain ⟨legacy', words'⟩ := o
  have hcases (h : (⟨legacy, words⟩ : LiteralOptions) ≠ ⟨legacy', words'⟩) :
      words' ≠ words ∨ legacy' ≠ legacy := by
    by_contra hsame
    rw [not_or, not_not, not_not] at hsame
    exact h (by rw [hsame.1, hsame.2])
  cases dbType with
  | plain tag =>
    cases tag with
    | date =>
      have hwords : words ≠ words' := by simpa [changesWith] using h
      refine ⟨.date .first, fun e => ?_⟩
      exact infinityOr_first_ne (o := ⟨legacy', words'⟩) (by decide) hwords.symm (Except.ok.inj e)
    | timestamp =>
      rcases hcases (by simpa [changesWith] using h) with hwords | hlegacy
      · refine ⟨.dateTime .first, fun e => ?_⟩
        exact infinityOr_first_ne (o := ⟨legacy', words'⟩) (by decide) hwords (Except.ok.inj e)
      · refine ⟨.dateTimeUtc ⟨.first, 0⟩, fun e => ?_⟩
        cases legacy <;> cases legacy' <;> first | exact absurd rfl hlegacy | cases e
    | timestampTz =>
      rcases hcases (by simpa [changesWith] using h) with hwords | hlegacy
      · refine ⟨.dateTimeUtc ⟨.first, 0⟩, fun e => ?_⟩
        exact infinityOr_first_ne (o := ⟨legacy', words'⟩) (by decide) hwords (Except.ok.inj e)
      · refine ⟨.dateTime .first, fun e => ?_⟩
        cases legacy <;> cases legacy' <;> first | exact absurd rfl hlegacy | cases e
    | _ => cases h
  | _ => cases h

lemma elementOfRaw_of_changesWith (h : s.changesWith o = true) : s.elementOfRaw = Literal.quoteSql := by
  obtain ⟨storeType, baseStoreType, hostType, dbType, facets, literals⟩ := s
  cases dbType with
  | plain tag => cases tag <;> first | rfl | cases h
  | _ => cases h

end Signature

namespace Descriptor

/-- The descriptor with the switches, and with it all descriptors inside. -/
def carrying (o : LiteralOptions) : Descriptor → Descriptor
  | .scalar s => .scalar { s with literals := o }
  | .enumeration s labels => .enumeration { s with literals := o } labels
  | .array s element nullable => .array { s with literals := o } (carrying o element) nullable
  | .range s subtype => .range { s with literals := o } (carrying o subtype)
  | .multirange s inner => .multirange { s with literals := o } (carrying o inner)

/-- Some literals are other ones when the leaf has the switches `o`. -/
def changesWith (o : LiteralOptions) : Descriptor → Bool
  | .scalar s => s.changesWith o
  | .enumeration _ _ => false
  | .array _ element _ => changesWith o element
  | .range _ subtype => changesWith o subtype
  | .multirange _ (.range _ subtype) => changesWith o subtype
  | .multirange _ _ => false

/-- Two descriptors render every value alike in all three ways. -/
structure RendersAlike (d d' : Descriptor) : Prop where
  toplevel (v : HostValue) : d.toplevel v = d'.toplevel v
  embedded (v : HostValue) : d.embedded v = d'.embedded v
  uncast (v : HostValue) : d.uncast v = d'.uncast v

/-- A way to make a container of what is inside it. -/
inductive Wrapping where
  | array (host : Option HostType) (nullable : Bool)
  | range (storeType : String)
  | multirange (storeType : String)

/-- The container around a descriptor. -/
def Wrapping.of : Wrapping → Descriptor → Except Fault Descriptor
  | .array host nullable, d => d.arrayOf host nullable
  | .range storeType, d => .ok (Descriptor.rangeOver storeType d)
  | .multirange storeType, d => Descriptor.multirangeOver storeType d

variable {d d' d'' e e' : Descriptor} {s s' : Signature} {o : LiteralOptions} {nullable nullable' : Bool}

/-! ## Containers made anew -/

lemma signature_carrying (o : LiteralOptions) (d : Descriptor) :
    (d.carrying o).signature = { d.signature with literals := o } := by
  cases d <;> rfl

lemma isArray_carrying (o : LiteralOptions) (d : Descriptor) : (d.carrying o).isArray = d.isArray := by
  cases d <;> rfl

lemma isRange_carrying (o : LiteralOptions) (d : Descriptor) : (d.carrying o).isRange = d.isRange := by
  cases d <;> rfl

lemma isLeaf_carrying (o : LiteralOptions) (d : Descriptor) : (d.carrying o).isLeaf = d.isLeaf := by
  cases d <;> rfl

/-- A container of parts that carry the switches carries them itself. -/
lemma Wrapping.of_carrying {w : Wrapping} (h : w.of e = .ok d) (o : LiteralOptions) :
    w.of (e.carrying o) = .ok (d.carrying o) := by
  cases w with
  | array host nullable =>
    have harray : e.isArray = false := (arrayOf_ok h).1
    have harray' : (e.carrying o).isArray = false := (isArray_carrying o e).trans harray
    rw [Wrapping.of, arrayOf, if_neg (Bool.eq_false_iff.1 harray)] at h
    cases h
    rw [Wrapping.of, arrayOf, if_neg (Bool.eq_false_iff.1 harray')]
    simp only [storeType, baseStoreType, hostType, dbType, facets, literals, signature_carrying]
    rfl
  | range name =>
    cases h
    simp only [Wrapping.of, rangeOver, hostType, dbType, literals, signature_carrying]
    rfl
  | multirange name =>
    cases e with
    | range s subtype =>
      cases h
      simp only [Wrapping.of, carrying, multirangeOver, hostType, dbType, signature_carrying]
    | _ => cases h

/-! ## Descriptors that render alike -/

lemma RendersAlike.refl (d : Descriptor) : d.RendersAlike d :=
  ⟨fun _ => rfl, fun _ => rfl, fun _ => rfl⟩

lemma RendersAlike.symm (h : d.RendersAlike d') : d'.RendersAlike d :=
  ⟨fun v => (h.toplevel v).symm, fun v => (h.embedded v).symm, fun v => (h.uncast v).symm⟩

lemma RendersAlike.trans (h : d.RendersAlike d') (h' : d'.RendersAlike d'') : d.RendersAlike d'' :=
  ⟨fun v => (h.toplevel v).trans (h'.toplevel v), fun v => (h.embedded v).trans (h'.embedded v),
    fun v => (h.uncast v).trans (h'.uncast v)⟩

/-- Arrays are rendered by the items and elements of what they hold. -/
lemma RendersAlike.array (h : e.RendersAlike e') (hstore : s.storeType = s'.storeType) :
    (Descriptor.array s e nullable).RendersAlike (.array s' e' nullable') := by
  have hitems : e.embedded = e'.embedded := funext h.embedded
  have helements : e.uncast = e'.uncast := funext h.uncast
  have hembedded :
      (Descriptor.array s e nullable).embedded = (Descriptor.array s' e' nullable').embedded := by
    funext v
    cases v <;> simp only [Descriptor.embedded, hitems, Signature.unwritable_of_storeType hstore]
  refine ⟨fun v => ?_, congrFun hembedded, fun v => ?_⟩
  · cases v <;>
      simp only [Descriptor.toplevel, helements, Signature.unwritable_of_storeType hstore,
        Signature.casting, hstore]
  · simp only [Descriptor.uncast, hembedded]

lemma RendersAlike.range (h : e.RendersAlike e') (hstore : s.storeType = s'.storeType) :
    (Descriptor.range s e).RendersAlike (.range s' e') := by
  have hitems : e.embedded = e'.embedded := funext h.embedded
  have hembedded : (Descriptor.range s e).embedded = (Descriptor.range s' e').embedded := by
    funext v
    cases v <;> simp only [Descriptor.embedded, hitems, Signature.unwritable_of_storeType hstore]
  refine ⟨fun v => ?_, congrFun hembedded, fun v => ?_⟩
  · simp only [Descriptor.toplevel, hembedded, Signature.casting, signature, hstore]
  · simp only [Descriptor.uncast, hembedded]

/-- Multiranges are rendered by the literals of their ranges. One over anything else writes no value. -/
lemma RendersAlike.multirange (hrange : e.isRange = e'.isRange)
    (h : e.isRange = true → e.RendersAlike e') (hstore : s.storeType = s'.storeType) :
    (Descriptor.multirange s e).RendersAlike (.multirange s' e') := by
  have hembedded : (Descriptor.multirange s e).embedded = (Descriptor.multirange s' e').embedded := by
    funext v
    cases e with
    | range s₁ subtype =>
      cases e' with
      | range s₁' subtype' =>
        have hitems : spanLiteral subtype.embedded = spanLiteral subtype'.embedded :=
          funext fun r => (h rfl).embedded (.range r)
        cases v <;> simp only [Descriptor.embedded, hitems, Signature.unwritable_of_storeType hstore]
      | _ => cases hrange
    | _ =>
      cases e' with
      | range s₁' subtype' => cases hrange
      | _ => simp only [Descriptor.embedded, Signature.unwritable_of_storeType hstore]
  refine ⟨fun v => ?_, congrFun hembedded, fun v => ?_⟩
  · simp only [Descriptor.toplevel, hembedded, Signature.casting, signature, hstore]
  · simp only [Descriptor.uncast, hembedded]

lemma rendersAlike_withLiterals (hd : d.isLeaf = false) (o : LiteralOptions) :
    (d.withLiterals o).RendersAlike d := by
  cases d with
  | scalar _ | enumeration _ _ => cases hd
  | array s element nullable => exact (RendersAlike.refl element).array rfl
  | range s subtype => exact (RendersAlike.refl subtype).range rfl
  | multirange s inner => exact RendersAlike.multirange rfl (fun _ => .refl inner) rfl

lemma rendersAlike_carrying (h : d.changesWith o = false) : (d.carrying o).RendersAlike d := by
  induction d using changesWith.induct with
  | case1 s =>
    have hraw := Signature.rawText_of_changesWith_eq_false h
    refine ⟨fun v => ?_, fun v => ?_, fun v => ?_⟩
    · exact congrArg (fun x => if v.isNull then .ok "NULL" else x.map s.literalOfRaw) (hraw v)
    · exact congrArg (fun x => if v.isNull then .ok "NULL" else x.map s.itemOfRaw) (hraw v)
    · exact congrArg (fun x => if v.isNull then .ok "NULL" else x.map s.elementOfRaw) (hraw v)
  | case2 s labels => exact ⟨fun _ => rfl, fun _ => rfl, fun _ => rfl⟩
  | case3 s element nullable ih => exact (ih h).array rfl
  | case4 s subtype ih => exact (ih h).range rfl
  | case5 s s' subtype ih =>
    have hinner : ((range s' subtype).carrying o).RendersAlike (range s' subtype) := (ih h).range rfl
    exact RendersAlike.multirange rfl (fun _ => hinner) rfl
  | case6 s inner hinner =>
    refine RendersAlike.multirange (isRange_carrying o inner) (fun hrange => ?_) rfl
    cases inner with
    | range s' subtype => exact absurd rfl (hinner s' subtype)
    | scalar _ | enumeration _ _ | array _ _ _ | multirange _ _ => cases hrange

/-! ## Values that tell the switches -/

/-- Outside a leaf an element of an array constructor is the item as a text. -/
lemma uncast_of_container (hd : d.isLeaf = false) {v : HostValue} (hv : v ≠ .null) :
    d.uncast v = (d.embedded v).map Literal.quoteSql := by
  rw [uncast_of_ne_null d hv, content_of_isLeaf_eq_false hd]
  cases d with
  | scalar _ | enumeration _ _ => cases hd
  | _ => rfl

/-- A whole literal of a range or multirange is the item as a text, with a cast. -/
lemma toplevel_of_container (harray : d.isArray = false) (hd : d.isLeaf = false) {v : HostValue}
    (hv : v ≠ .null) :
    d.toplevel v = (d.embedded v).map fun item => d.signature.casting (Literal.quoteSql item) := by
  rw [toplevel_of_ne_null harray hv, content_of_isLeaf_eq_false hd]
  cases d with
  | scalar _ | enumeration _ _ => cases hd
  | _ => rfl

lemma framed_injective (before after : String) :
    Function.Injective fun text => before ++ text ++ after := by
  intro text text' h
  simpa using h

lemma embedded_singleton (s : Signature) (e : Descriptor) (nullable : Bool) (v : HostValue) :
    (array s e nullable).embedded (.array [v]) =
      (e.embedded v).map fun item => "\x7b" ++ item ++ "\x7d" := by
  rw [embedded, List.mapM_cons, List.mapM_nil]
  cases e.embedded v <;> rfl

lemma toplevel_singleton (s : Signature) (e : Descriptor) (nullable : Bool) (v : HostValue) :
    (array s e nullable).toplevel (.array [v]) =
      (e.uncast v).map fun element => s.casting ("ARRAY[" ++ element ++ "]") := by
  rw [toplevel]
  simp only [HostValue.isNull, List.mapM_cons, List.mapM_nil]
  cases e.uncast v <;> rfl

lemma embedded_from (s : Signature) (subtype : Descriptor) (v : HostValue) :
    (range s subtype).embedded (.range (.bounds (.inclusive v) .infinite)) =
      (subtype.embedded v).map fun lower => "[" ++ lower ++ ",)" := by
  rw [embedded]
  simp only [spanLiteral, boundLiteral, Bound.value?, Span.bracket, Bound.isInclusive]
  cases subtype.embedded v with
  | error f => rfl
  | ok lower =>
    simp only [Except.map, if_true, String.append_assoc]
    rfl

lemma embedded_multirange_singleton (s s' : Signature) (subtype : Descriptor) (r : Span HostValue) :
    (multirange s (.range s' subtype)).embedded (.multirange [r]) =
      ((range s' subtype).embedded (.range r)).map fun item => "\x7b" ++ item ++ "\x7d" := by
  rw [embedded, embedded, List.mapM_cons, List.mapM_nil]
  cases spanLiteral subtype.embedded r <;> rfl

lemma uncast_ne (hd : d.isLeaf = false) (hd' : d'.isLeaf = false) {v : HostValue} (hv : v ≠ .null)
    (h : d.embedded v ≠ d'.embedded v) : d.uncast v ≠ d'.uncast v := by
  intro e
  rw [uncast_of_container hd hv, uncast_of_container hd' hv] at e
  exact h (eq_of_map_eq (fun _ _ => Literal.quoteSql_inj.1) e)

/-- An array of one item shows what the item shows. -/
lemma embedded_singleton_ne (s : Signature) (nullable : Bool) {v : HostValue}
    (h : (e.carrying o).embedded v ≠ e.embedded v) :
    ((array s e nullable).carrying o).embedded (.array [v]) ≠ (array s e nullable).embedded (.array [v]) := by
  intro heq
  rw [carrying, embedded_singleton, embedded_singleton] at heq
  exact h (eq_of_map_eq (framed_injective _ _) heq)

/-- A range shows what its lower bound shows. -/
lemma embedded_from_ne (s : Signature) {v : HostValue} (h : (e.carrying o).embedded v ≠ e.embedded v) :
    ((range s e).carrying o).embedded (.range (.bounds (.inclusive v) .infinite)) ≠
      (range s e).embedded (.range (.bounds (.inclusive v) .infinite)) := by
  intro heq
  rw [carrying, embedded_from, embedded_from] at heq
  exact h (eq_of_map_eq (framed_injective _ _) heq)

/-- A leaf that changes with the switches shows it at some value, and each container shows it at the value
that holds just one that shows it. -/
lemma exists_parts_ne (h : d.changesWith o = true) :
    ∃ v, v ≠ .null ∧ (d.carrying o).embedded v ≠ d.embedded v ∧
      (d.carrying o).uncast v ≠ d.uncast v := by
  induction d using changesWith.induct with
  | case1 s =>
    obtain ⟨a, hraw⟩ := Signature.exists_rawText_ne h
    refine ⟨.scalar a, HostValue.noConfusion, fun e => hraw ?_, fun e => hraw ?_⟩
    · exact eq_of_map_eq (Literal.item_injective _) e
    · refine eq_of_map_eq (f := s.elementOfRaw) ?_ e
      rw [Signature.elementOfRaw_of_changesWith h]
      exact fun _ _ => Literal.quoteSql_inj.1
  | case2 s labels => cases h
  | case3 s element nullable ih =>
    obtain ⟨v, -, hitem, -⟩ := ih h
    have hne := embedded_singleton_ne s nullable hitem
    exact ⟨.array [v], HostValue.noConfusion, hne, uncast_ne rfl rfl HostValue.noConfusion hne⟩
  | case4 s subtype ih =>
    obtain ⟨v, -, hitem, -⟩ := ih h
    have hne := embedded_from_ne s hitem
    exact ⟨.range _, HostValue.noConfusion, hne, uncast_ne rfl rfl HostValue.noConfusion hne⟩
  | case5 s s' subtype ih =>
    obtain ⟨v, -, hitem, -⟩ := ih h
    let r : Span HostValue := .bounds (.inclusive v) .infinite
    have hne : ((multirange s (.range s' subtype)).carrying o).embedded (.multirange [r]) ≠
        (multirange s (.range s' subtype)).embedded (.multirange [r]) := by
      intro heq
      rw [carrying, carrying, embedded_multirange_singleton, embedded_multirange_singleton] at heq
      exact embedded_from_ne s' hitem (eq_of_map_eq (framed_injective _ _) heq)
    exact ⟨.multirange [r], HostValue.noConfusion, hne, uncast_ne rfl rfl HostValue.noConfusion hne⟩
  | case6 s inner hinner =>
    rw [changesWith] at h
    · cases h
    · exact hinner

lemma exists_literals_ne (hd : d.isLeaf = false) (h : d.changesWith o = true) :
    ∃ v, (d.carrying o).toplevel v ≠ d.toplevel v ∧ (d.carrying o).embedded v ≠ d.embedded v ∧
      (d.carrying o).uncast v ≠ d.uncast v := by
  cases harray : d.isArray with
  | false =>
    obtain ⟨v, hv, hitem, helement⟩ := exists_parts_ne h
    refine ⟨v, fun heq => hitem ?_, hitem, helement⟩
    have harray' : (d.carrying o).isArray = false := (isArray_carrying o d).trans harray
    have hd' : (d.carrying o).isLeaf = false := (isLeaf_carrying o d).trans hd
    rw [toplevel_of_container harray hd hv, toplevel_of_container harray' hd' hv, signature_carrying] at heq
    refine eq_of_map_eq (fun text text' htext => ?_) heq
    exact Literal.quoteSql_inj.1 (Signature.casting_injective d.signature htext)
  | true =>
    cases d with
    | array s element nullable =>
      obtain ⟨v, -, hitem, helement⟩ := exists_parts_ne (d := element) h
      have hne := embedded_singleton_ne s nullable hitem
      refine ⟨.array [v], fun heq => helement ?_, hne, uncast_ne rfl rfl HostValue.noConfusion hne⟩
      rw [carrying, toplevel_singleton, toplevel_singleton] at heq
      refine eq_of_map_eq (fun text text' htext => ?_) heq
      exact framed_injective _ _ (Signature.casting_injective s htext)
    | scalar _ | enumeration _ _ | range _ _ | multirange _ _ => cases harray

/-- The switches that a container is given leave its literals as they were. So they are those of the container
that is made anew of parts with these switches exactly if no literal changes with the switches, and
else some value is written in other ways by the two. -/
theorem literals_of_container (hd : d.isLeaf = false) (o : LiteralOptions) :
    (∀ (w : Wrapping) (e : Descriptor), w.of e = .ok d → w.of (e.carrying o) = .ok (d.carrying o)) ∧
      (d.withLiterals o).RendersAlike d ∧
      (d.changesWith o = false → (d.withLiterals o).RendersAlike (d.carrying o)) ∧
      (d.changesWith o = true → ∃ v, (d.withLiterals o).toplevel v ≠ (d.carrying o).toplevel v ∧
        (d.withLiterals o).embedded v ≠ (d.carrying o).embedded v ∧
        (d.withLiterals o).uncast v ≠ (d.carrying o).uncast v) := by
  have hkept : (d.withLiterals o).RendersAlike d := rendersAlike_withLiterals hd o
  refine ⟨fun w e h => Wrapping.of_carrying h o, hkept, ?_, ?_⟩
  · intro h
    exact hkept.trans (rendersAlike_carrying h).symm
  · intro h
    obtain ⟨v, hwhole, hitem, helement⟩ := exists_literals_ne hd h
    refine ⟨v, ?_, ?_, ?_⟩
    · rw [hkept.toplevel]
      exact hwhole.symm
    · rw [hkept.embedded]
      exact hitem.symm
    · rw [hkept.uncast]
      exact helement.symm

/-- Ranges of date-times in arrays, with legacy mode set. -/
theorem literals_of_container_of_spans :
    let t := ofScalar "timestamp" (.scalar .dateTime) (.plain .timestamp)
    let o : LiteralOptions := { legacyTimestamps := true }
    ∃ d, (rangeOver "tsrange" t).arrayOf none false = .ok d ∧ d.isLeaf = false ∧
      d.changesWith o = true ∧
      (rangeOver "tsrange" (t.withLiterals o)).arrayOf none false = .ok (d.carrying o) ∧
      ∃ v, (d.withLiterals o).embedded v ≠ (d.carrying o).embedded v := by
  intro t o
  refine ⟨_, rfl, rfl, rfl, ?_⟩
  obtain ⟨hmade, -, -, hne⟩ := literals_of_container (d := .array _ (rangeOver "tsrange" t) false) rfl o
  obtain ⟨v, -, hitem, -⟩ := hne rfl
  exact ⟨hmade (.array none false) (rangeOver "tsrange" t) rfl, v, hitem⟩

/-- An array of dates that is given switches without words for the extremes has them, and writes the words. -/
theorem switches_unheeded :
    let date := ofScalar "date" (.scalar .date) (.plain .date)
    let o : LiteralOptions := { infinityWords := false }
    let v := HostValue.array [.scalar (.date .last)]
    ∃ d d', date.arrayOf none false = .ok d ∧ (date.withLiterals o).arrayOf none false = .ok d' ∧
      (d.withLiterals o).literals = o ∧
      (d.withLiterals o).toplevel v = .ok "ARRAY['infinity']::date[]" ∧
      d'.toplevel v = .ok "ARRAY['+262142-12-31']::date[]" := by
  intro date o v
  exact ⟨_, _, rfl, rfl, rfl, by decide +kernel, by decide +kernel⟩

end Descriptor

end SqlBridge
