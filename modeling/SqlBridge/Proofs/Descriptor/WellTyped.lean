import SqlBridge.Proofs.Descriptor.DateTimes

/-!
# Well-typed values

A value of a host type has literals by every descriptor that is made for that host type. Outside legacy
mode an instant with an offset from UTC is the one thing in a value that has none.
-/

namespace SqlBridge

/-! ## Values and their parts -/

namespace HostValue

/-- The value is of the host type: scalars are of the type's own variant, and what is not null in a
container is of the inner type. -/
inductive HasType : HostType → HostValue → Prop
  | null {host : HostType} : HasType host .null
  | scalar {s : Scalar} {a : ScalarValue} : a.type = s → HasType (.scalar s) (.scalar a)
  | array {host : HostType} {vs : List HostValue} : (∀ v ∈ vs, HasType host v) →
    HasType (.array host) (.array vs)
  | list {host : HostType} {vs : List HostValue} : (∀ v ∈ vs, HasType host v) →
    HasType (.list host) (.array vs)
  | range {host : HostType} {r : Span HostValue} : (∀ v ∈ r.values, HasType host v) →
    HasType (.range host) (.range r)
  | multirange {host : HostType} {rs : List (Span HostValue)} :
    (∀ r ∈ rs, ∀ v ∈ r.values, HasType host v) → HasType (.multirange host) (.multirange rs)

/-- A value stands in a value, as it is or at any depth. -/
inductive Contains (v : HostValue) : HostValue → Prop
  | whole : Contains v v
  | part {w x : HostValue} : Contains v w → x ∈ w.parts → Contains v x

/-- An instant with an offset from UTC stands in the value. -/
def HasOffset (v : HostValue) : Prop :=
  ∃ t, v.Contains (.scalar (.dateTimeUtc t)) ∧ t.offset ≠ 0

variable {v w x : HostValue}

lemma Contains.of_part (hw : w ∈ v.parts) (h : w.Contains x) : v.Contains x := by
  induction h with
  | whole => exact .part .whole hw
  | part _ hx ih => exact .part ih hx

lemma HasOffset.of_part (hw : w ∈ v.parts) (h : w.HasOffset) : v.HasOffset := by
  obtain ⟨t, ht, hoffset⟩ := h
  exact ⟨t, ht.of_part hw, hoffset⟩

/-- The values in a sequence are of the element type of its host type. -/
lemma HasType.elements {host element : HostType} (h : HasType host v)
    (hhost : host.element? = some element) :
    v = .null ∨ ∃ vs, v = .array vs ∧ ∀ w ∈ vs, HasType element w := by
  cases h with
  | null => exact .inl rfl
  | array hvs =>
    cases hhost
    exact .inr ⟨_, rfl, hvs⟩
  | list hvs =>
    cases hhost
    exact .inr ⟨_, rfl, hvs⟩
  | _ => cases hhost

end HostValue

/-! ## Literals of typed values -/

/-- The failure tells of an instant in the value that is not given in UTC, outside legacy mode. -/
structure IsOffsetFault (o : LiteralOptions) (v : HostValue) (fault : Fault) : Prop where
  legacy : o.legacyTimestamps = false
  offset : v.HasOffset
  code : fault.report.code = ⟨201⟩

/-- The text of a value is there, or the value has an offset that it cannot have. -/
def IsWritten (o : LiteralOptions) (v : HostValue) : Except Fault String → Prop :=
  Meets (fun _ => True) (IsOffsetFault o v)

variable {o : LiteralOptions} {v w : HostValue}

lemma IsOffsetFault.of_part {fault : Fault} (hw : w ∈ v.parts) (h : IsOffsetFault o w fault) :
    IsOffsetFault o v fault :=
  ⟨h.legacy, h.offset.of_part hw, h.code⟩

lemma IsWritten.map {text : Except Fault String} (h : IsWritten o v text) (f : String → String) :
    IsWritten o v (text.map f) :=
  Meets.map h fun _ _ => trivial

/-- A container of parts that are written is written. -/
lemma meets_mapM_parts {α : Type} {f : α → Except Fault String} {xs : List α}
    (h : ∀ x ∈ xs, IsWritten o v (f x)) :
    Meets (fun _ => True) (IsOffsetFault o v) (xs.mapM f) := by
  induction xs with
  | nil => trivial
  | cons x xs ih =>
    rw [List.forall_mem_cons] at h
    rw [List.mapM_cons]
    refine Meets.bind h.1 fun text _ => ?_
    exact Meets.bind (ih h.2) fun texts _ => trivial

lemma IsWritten.of_part {text : Except Fault String} (hw : w ∈ v.parts) (h : IsWritten o w text) :
    IsWritten o v text := by
  cases text with
  | ok text => trivial
  | error fault => exact IsOffsetFault.of_part hw h

/-- The store types of the tag write all values of the scalar, up to offsets: outside legacy mode a
date-time has a zone exactly if the store type has one. -/
structure DbTag.WritesAll (o : LiteralOptions) (tag : DbTag) (host : Scalar) : Prop where
  writes : tag.writes.contains host = true
  unzoned : host = .dateTime → tag = .timestamp ∨ o.legacyTimestamps = true
  zoned : host = .dateTimeUtc → tag = .timestampTz ∨ o.legacyTimestamps = true

namespace Signature

variable {s : Signature} {tag : DbTag} {a : ScalarValue}

lemma isWritten_scalarText (h : tag.WritesAll s.literals a.type) :
    IsWritten s.literals (.scalar a) (s.scalarText tag a) := by
  cases a with
  | dateTime t =>
    rw [scalarText]
    rcases h.unzoned rfl with rfl | hlegacy
    · rw [if_neg (by simp)]
      trivial
    · rw [if_neg (by simp [hlegacy])]
      trivial
  | dateTimeUtc t =>
    rw [scalarText]
    rcases h.zoned rfl with rfl | hlegacy
    · rw [if_neg (by simp)]
      by_cases hoffset : t.offset ≠ 0 ∧ (!s.literals.legacyTimestamps) = true
      · rw [if_pos hoffset]
        exact ⟨by simpa using hoffset.2, ⟨t, .whole, hoffset.1⟩, rfl⟩
      · rw [if_neg hoffset]
        trivial
    · rw [hlegacy]
      by_cases htag : tag = .timestamp
      · rw [if_pos htag]
        trivial
      · rw [if_neg htag, if_neg (by simp)]
        trivial
  | _ => trivial

lemma isWritten_rawText (hdb : s.dbType = .plain tag) (h : tag.WritesAll s.literals a.type) :
    IsWritten s.literals (.scalar a) (s.rawText (.scalar a)) := by
  rw [rawText, hdb]
  by_cases hdoc : tag.isDocument = true
  · simp only [hdoc, if_true]
    trivial
  · simp only [if_neg hdoc, h.writes, if_true]
    exact isWritten_scalarText h

lemma isWritten_rawText_of_document (hdoc : (Descriptor.scalar s).isDocument = true) :
    IsWritten o v (s.rawText v) := by
  rw [Descriptor.isDocument] at hdoc
  rw [rawText]
  cases hdb : s.dbType with
  | plain tag =>
    rw [hdb] at hdoc
    simp only at hdoc ⊢
    rw [if_pos hdoc]
    trivial
  | _ =>
    rw [hdb] at hdoc
    cases hdoc

end Signature

namespace Descriptor

/-- The descriptor is made for its host type: the store type writes the values of the host type, and the
descriptors inside a container are made for the inner types. -/
inductive IsTyped (o : LiteralOptions) : Descriptor → Prop
  | scalar {s : Signature} {tag : DbTag} {host : Scalar} : s.literals = o → s.dbType = .plain tag →
    s.hostType = .scalar host → tag.WritesAll o host → IsTyped o (.scalar s)
  | document {s : Signature} : (Descriptor.scalar s).isDocument = true → IsTyped o (.scalar s)
  | enumeration {s : Signature} {labels : List (String × String)} {name : String} :
    s.hostType = .enumeration name → IsTyped o (.enumeration s labels)
  | array {s : Signature} {element : Descriptor} {nullable : Bool} :
    s.hostType.element? = some element.hostType → IsTyped o element →
    IsTyped o (.array s element nullable)
  | range {s : Signature} {subtype : Descriptor} : s.hostType = .range subtype.hostType →
    IsTyped o subtype → IsTyped o (.range s subtype)
  | multirange {s s' : Signature} {subtype : Descriptor} :
    s.hostType = .multirange subtype.hostType → IsTyped o subtype →
    IsTyped o (.multirange s (.range s' subtype))

variable {d : Descriptor}

lemma content_of_isLeaf_eq_false (h : d.isLeaf = false) (v : HostValue) :
    d.content v = d.embedded v := by
  cases d with
  | scalar s | enumeration s labels => cases h
  | _ => rfl

/-- An item is written when its content is. -/
lemma isWritten_embedded (h : v ≠ .null → IsWritten o v (d.content v)) :
    IsWritten o v (d.embedded v) := by
  by_cases hv : v = .null
  · rw [hv, embedded_null]
    trivial
  · cases d with
    | scalar s =>
      obtain ⟨always, e⟩ := embedded_leaf (d := .scalar s) rfl hv
      rw [e]
      exact (h hv).map _
    | enumeration s labels =>
      obtain ⟨always, e⟩ := embedded_leaf (d := .enumeration s labels) rfl hv
      rw [e]
      exact (h hv).map _
    | _ => exact h hv

/-- A range is written when its finite boundary values are. -/
lemma isWritten_spanLiteral {r : Span HostValue}
    (h : ∀ w ∈ r.values, IsWritten o v (d.embedded w)) : IsWritten o v (spanLiteral d.embedded r) := by
  have hbound : ∀ b : Bound HostValue, (∀ w ∈ b.value?.toList, IsWritten o v (d.embedded w)) →
      IsWritten o v (boundLiteral d.embedded b) := by
    intro b hb
    rw [boundLiteral]
    cases hvalue : b.value? with
    | none => trivial
    | some w => exact hb w (by rw [hvalue]; exact List.mem_singleton_self w)
  cases r with
  | empty => trivial
  | bounds lower upper =>
    rw [Span.values, List.forall_mem_append] at h
    refine Meets.bind (hbound lower h.1) fun l _ => ?_
    exact Meets.bind (hbound upper h.2) fun u _ => trivial

/-- The content of a typed value is written. -/
lemma IsTyped.isWritten_content (h : d.IsTyped o) (hv : v.HasType d.hostType) (hnull : v ≠ .null) :
    IsWritten o v (d.content v) := by
  induction h generalizing v with
  | @scalar s tag host hliterals hdb hhost hwrites =>
    subst hliterals
    rw [hostType, signature, hhost] at hv
    cases hv with
    | null => exact absurd rfl hnull
    | scalar ha =>
      subst ha
      exact Signature.isWritten_rawText hdb hwrites
  | document hdoc => exact Signature.isWritten_rawText_of_document hdoc
  | enumeration hhost =>
    rw [hostType, signature, hhost] at hv
    cases hv
    exact absurd rfl hnull
  | @array s element nullable hhost _ ih =>
    rcases hv.elements hhost with rfl | ⟨vs, rfl, hvs⟩
    · exact absurd rfl hnull
    · rw [content_of_isLeaf_eq_false rfl, embedded]
      refine Meets.bind (meets_mapM_parts fun w hw => ?_) fun texts _ => trivial
      exact (isWritten_embedded (ih (hvs w hw))).of_part hw
  | @range s subtype hhost _ ih =>
    rw [hostType, signature, hhost] at hv
    cases hv with
    | null => exact absurd rfl hnull
    | range hr =>
      rw [content_of_isLeaf_eq_false rfl, embedded]
      apply isWritten_spanLiteral
      exact fun w hw => (isWritten_embedded (ih (hr w hw))).of_part hw
  | @multirange s s' subtype hhost _ ih =>
    rw [hostType, signature, hhost] at hv
    cases hv with
    | null => exact absurd rfl hnull
    | multirange hrs =>
      rw [content_of_isLeaf_eq_false rfl, embedded]
      refine Meets.bind (meets_mapM_parts fun r hr => ?_) fun texts _ => trivial
      apply isWritten_spanLiteral
      intro w hw
      exact (isWritten_embedded (ih (hrs r hr w hw))).of_part (List.mem_flatMap.2 ⟨r, hr, hw⟩)

lemma IsTyped.isWritten_uncast (h : d.IsTyped o) (hv : v.HasType d.hostType) :
    IsWritten o v (d.uncast v) := by
  by_cases hnull : v = .null
  · rw [hnull, uncast_null]
    trivial
  · rw [uncast_of_ne_null d hnull]
    exact (h.isWritten_content hv hnull).map _

lemma IsTyped.isWritten_toplevel (h : d.IsTyped o) (hv : v.HasType d.hostType) :
    IsWritten o v (d.toplevel v) := by
  by_cases hnull : v = .null
  · rw [hnull]
    trivial
  cases harray : d.isArray with
  | false =>
    rw [toplevel_of_ne_null harray hnull]
    exact (h.isWritten_content hv hnull).map _
  | true =>
    cases h with
    | array hhost helement =>
      rcases hv.elements hhost with rfl | ⟨vs, rfl, hvs⟩
      · exact absurd rfl hnull
      · simp only [toplevel, HostValue.isNull]
        refine Meets.bind (meets_mapM_parts fun w hw => ?_) fun texts _ => trivial
        exact (helement.isWritten_uncast (hvs w hw)).of_part hw
    | _ => cases harray

end Descriptor

end SqlBridge
