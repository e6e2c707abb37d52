import SqlBridge.Proofs.Descriptor.Content

/-!
# Date-times inside rendered values

A container renders its parts by the descriptor inside its own, so that every part of a rendered value is
rendered too, until a document takes a part whole. Outside legacy mode a date-time is rendered with a
zone exactly if it has one, and in UTC only.
-/

namespace SqlBridge

/-- The finite boundary values of a range. -/
def Span.values {α : Type} : Span α → List α
  | .empty => []
  | .bounds lower upper => lower.value?.toList ++ upper.value?.toList

/-- The values right inside a value. -/
def HostValue.parts : HostValue → List HostValue
  | .array vs => vs
  | .range r => r.values
  | .multirange rs => rs.flatMap Span.values
  | .tuple vs => vs
  | .record fields => fields.map (·.2)
  | _ => []

namespace Descriptor

/-- The descriptor that parts of a value are rendered by. -/
def forParts : Descriptor → Descriptor
  | .array _ element _ => element
  | .range _ subtype => subtype
  | .multirange _ (.range _ subtype) => subtype
  | d => d

/-- A descriptor of JSON documents. -/
def isDocument : Descriptor → Bool
  | .scalar s =>
    match s.dbType with
    | .plain tag => tag.isDocument
    | _ => false
  | _ => false

/-- Within a value that `d` renders, a value and the descriptor that renders it. -/
inductive Within (d : Descriptor) (v : HostValue) : Descriptor → HostValue → Prop
  | whole : Within d v d v
  | part {d' : Descriptor} {w x : HostValue} : Within d v d' w → x ∈ w.parts →
    Within d v d'.forParts x

/-- The value has a literal of some kind. -/
def IsRendered (d : Descriptor) (v : HostValue) : Prop :=
  ∃ t, d.toplevel v = .ok t ∨ d.embedded v = .ok t ∨ d.uncast v = .ok t

variable {d d' : Descriptor} {v w : HostValue} {s : Signature}

/-! ## Parts of rendered values -/

lemma content_of_isRendered (hd : d.isArray = false) (hv : v ≠ .null) (h : d.IsRendered v) :
    ∃ raw, d.content v = .ok raw := by
  obtain ⟨t, h | h | h⟩ := h
  · rw [toplevel_of_ne_null hd hv] at h
    obtain ⟨raw, hraw, -⟩ := ok_of_map h
    exact ⟨raw, hraw⟩
  · cases d with
    | scalar s | enumeration s labels =>
      obtain ⟨raw, -, hraw, -⟩ := embedded_leaf_ok rfl hv h
      exact ⟨raw, hraw⟩
    | _ => exact ⟨t, h⟩
  · rw [uncast_of_ne_null d hv] at h
    obtain ⟨raw, hraw, -⟩ := ok_of_map h
    exact ⟨raw, hraw⟩

lemma isRendered_elements {element : Descriptor} {nullable : Bool} (hv : v ≠ .null)
    (h : (Descriptor.array s element nullable).IsRendered v) :
    ∃ vs, v = .array vs ∧ ∀ w ∈ vs, element.IsRendered w := by
  have hembedded : ∀ t, (Descriptor.array s element nullable).embedded v = .ok t →
      ∃ vs, v = .array vs ∧ ∀ w ∈ vs, element.IsRendered w := by
    intro t h
    cases v with
    | null => exact absurd rfl hv
    | array vs =>
      rw [embedded] at h
      obtain ⟨texts, htexts, -⟩ := ok_of_bind h
      refine ⟨vs, rfl, fun w hw => ?_⟩
      obtain ⟨t, ht⟩ := exists_of_forall₂ (forall₂_of_mapM htexts) hw
      exact ⟨t, .inr (.inl ht)⟩
    | _ => cases h
  obtain ⟨t, h | h | h⟩ := h
  · obtain ⟨vs, texts, rfl, htexts, -⟩ := toplevel_array_ok hv h
    refine ⟨vs, rfl, fun w hw => ?_⟩
    obtain ⟨t, ht⟩ := exists_of_forall₂ htexts hw
    exact ⟨t, .inr (.inr ht)⟩
  · exact hembedded t h
  · rw [uncast_of_ne_null _ hv] at h
    obtain ⟨raw, hraw, -⟩ := ok_of_map h
    exact hembedded raw hraw

lemma isRendered_values {r : Span HostValue} {t : String} (h : spanLiteral d.embedded r = .ok t) :
    ∀ w ∈ r.values, d.IsRendered w := by
  have hbound : ∀ (b : Bound HostValue) t, boundLiteral d.embedded b = .ok t →
      ∀ w ∈ b.value?.toList, d.IsRendered w := by
    intro b t h w hw
    rw [Option.mem_toList] at hw
    rw [boundLiteral, hw] at h
    exact ⟨t, .inr (.inl h)⟩
  cases r with
  | empty => nofun
  | bounds lower upper =>
    obtain ⟨l, hlower, h⟩ := ok_of_bind h
    obtain ⟨u, hupper, -⟩ := ok_of_bind h
    rw [Span.values, List.forall_mem_append]
    exact ⟨hbound lower l hlower, hbound upper u hupper⟩

lemma isRendered_span (hv : v ≠ .null) (h : (Descriptor.range s d).IsRendered v) :
    ∃ r, v = .range r ∧ ∀ w ∈ r.values, d.IsRendered w := by
  obtain ⟨raw, hraw⟩ := content_of_isRendered rfl hv h
  cases v with
  | null => exact absurd rfl hv
  | range r => exact ⟨r, rfl, isRendered_values hraw⟩
  | _ => cases hraw

/-- A multirange that is rendered has ranges, each of which its range descriptor renders. -/
lemma isRendered_spans {inner : Descriptor} (hv : v ≠ .null)
    (h : (Descriptor.multirange s inner).IsRendered v) :
    ∃ m subtype rs, inner = .range m subtype ∧ v = .multirange rs ∧ ∀ r ∈ rs, inner.IsRendered (.range r) := by
  obtain ⟨raw, hraw⟩ := content_of_isRendered rfl hv h
  cases inner with
  | range m subtype =>
    cases v with
    | null => exact absurd rfl hv
    | multirange rs =>
      refine ⟨m, subtype, rs, rfl, rfl, fun r hr => ?_⟩
      obtain ⟨texts, htexts, -⟩ := ok_of_bind hraw
      obtain ⟨t, ht⟩ := exists_of_forall₂ (forall₂_of_mapM htexts) hr
      exact ⟨t, .inr (.inl ht)⟩
    | _ => cases hraw
  | _ => cases v <;> first | exact absurd rfl hv | cases hraw

/-- Only documents take values that are no scalars of the store type. -/
lemma scalar_of_rawText {raw : String} (hdoc : (Descriptor.scalar s).isDocument = false)
    (h : s.rawText v = .ok raw) :
    ∃ tag a, s.dbType = .plain tag ∧ v = .scalar a ∧ tag.writes.contains a.type = true ∧
      s.scalarText tag a = .ok raw := by
  rw [Signature.rawText] at h
  cases hdb : s.dbType with
  | plain tag =>
    rw [isDocument, hdb] at hdoc
    rw [hdb] at h
    simp only at hdoc h
    rw [hdoc, if_neg Bool.false_ne_true] at h
    cases v with
    | scalar a =>
      simp only at h
      by_cases hwrites : tag.writes.contains a.type = true
      · rw [if_pos hwrites] at h
        exact ⟨tag, a, rfl, rfl, hwrites, h⟩
      · rw [if_neg hwrites] at h
        cases h
    | _ => cases h
  | _ =>
    rw [hdb] at h
    cases h

/-- Parts of a rendered value are rendered, except for those inside documents. -/
lemma isRendered_parts (hdoc : d.isDocument = false) (h : d.IsRendered v) :
    ∀ w ∈ v.parts, d.forParts.IsRendered w := by
  by_cases hv : v = .null
  · subst hv
    nofun
  cases d with
  | scalar s =>
    obtain ⟨raw, hraw⟩ := content_of_isRendered rfl hv h
    obtain ⟨_, a, -, rfl, -⟩ := scalar_of_rawText hdoc hraw
    nofun
  | enumeration s labels =>
    obtain ⟨raw, hraw⟩ := content_of_isRendered rfl hv h
    cases v with
    | enumeration _ | scalar _ => nofun
    | _ => cases hraw
  | array s element nullable =>
    obtain ⟨vs, rfl, hvs⟩ := isRendered_elements hv h
    exact hvs
  | range s subtype =>
    obtain ⟨r, rfl, hr⟩ := isRendered_span hv h
    exact hr
  | multirange s inner =>
    obtain ⟨m, subtype, rs, rfl, rfl, hrs⟩ := isRendered_spans hv h
    intro w hw
    obtain ⟨r, hr, hw⟩ := List.mem_flatMap.1 hw
    obtain ⟨r', hr', hvalues⟩ := isRendered_span (by simp) (hrs r hr)
    cases hr'
    exact hvalues w hw

/-- Everything within a rendered value is rendered or belongs to a document. -/
lemma Within.isRendered (hw : Within d v d' w) (h : d.IsRendered v) :
    d'.isDocument = true ∨ d'.IsRendered w := by
  induction hw with
  | whole => exact .inr h
  | @part d' w x _ hx ih =>
    cases hdoc : d'.isDocument with
    | true =>
      left
      cases d' with
      | scalar s => exact hdoc
      | _ => cases hdoc
    | false =>
      rcases ih with hd' | hd'
      · rw [hdoc] at hd'
        cases hd'
      · exact .inr (isRendered_parts hdoc hd' x hx)

/-! ## Date-times -/

/-- The descriptor is of the family of store types with time zone. -/
def IsZoned (d : Descriptor) : Prop :=
  d.dbType = .plain .timestampTz ∧ d.baseStoreType ∈ ["timestamp with time zone", "timestamptz"]

/-- The descriptor is of the family of store types without time zone. -/
def IsUnzoned (d : Descriptor) : Prop :=
  d.dbType = .plain .timestamp ∧ d.baseStoreType ∈ ["timestamp without time zone", "timestamp"]

end Descriptor

namespace Signature

/-- Literals follow the switches, and the store types of date-times go by their own names. -/
structure IsTimed (o : LiteralOptions) (s : Signature) : Prop where
  literals : s.literals = o
  zoned : s.dbType = .plain .timestampTz →
    s.baseStoreType ∈ ["timestamp with time zone", "timestamptz"]
  unzoned : s.dbType = .plain .timestamp →
    s.baseStoreType ∈ ["timestamp without time zone", "timestamp"]

variable {s : Signature} {o : LiteralOptions} {tag : DbTag} {raw : String}

/-- Only the store types of date-times write them. -/
lemma timestamp_of_writes {tag : DbTag} {a : Scalar} (ha : a = .dateTime ∨ a = .dateTimeUtc)
    (h : tag.writes.contains a = true) : tag = .timestamp ∨ tag = .timestampTz := by
  rcases ha with rfl | rfl
  all_goals
    cases tag with
    | timestamp => exact .inl rfl
    | timestampTz => exact .inr rfl
    | _ => exact absurd h (by decide)

lemma zoned_of_scalarText (hlegacy : s.literals.legacyTimestamps = false) {t : Instant}
    (hwrites : tag.writes.contains .dateTimeUtc = true)
    (h : s.scalarText tag (.dateTimeUtc t) = .ok raw) : tag = .timestampTz ∧ t.offset = 0 := by
  rw [scalarText, hlegacy] at h
  rcases timestamp_of_writes (.inr rfl) hwrites with rfl | rfl
  · cases h
  · by_cases hoffset : t.offset = 0
    · exact ⟨rfl, hoffset⟩
    · rw [if_neg (by decide), if_pos ⟨hoffset, rfl⟩] at h
      cases h

lemma unzoned_of_scalarText (hlegacy : s.literals.legacyTimestamps = false) {t : DateTime}
    (hwrites : tag.writes.contains .dateTime = true)
    (h : s.scalarText tag (.dateTime t) = .ok raw) : tag = .timestamp := by
  rw [scalarText, hlegacy] at h
  rcases timestamp_of_writes (.inl rfl) hwrites with rfl | rfl
  · rfl
  · cases h

end Signature

namespace Descriptor

/-- The signatures of the descriptor and of all descriptors inside it have the property. -/
inductive Each (P : Signature → Prop) : Descriptor → Prop
  | scalar {s : Signature} : P s → Each P (.scalar s)
  | enumeration {s : Signature} {labels : List (String × String)} : P s →
    Each P (.enumeration s labels)
  | array {s : Signature} {element : Descriptor} {nullable : Bool} : P s → Each P element →
    Each P (.array s element nullable)
  | range {s : Signature} {subtype : Descriptor} : P s → Each P subtype → Each P (.range s subtype)
  | multirange {s : Signature} {inner : Descriptor} : P s → Each P inner →
    Each P (.multirange s inner)

variable {P : Signature → Prop} {d d' : Descriptor} {v w : HostValue} {o : LiteralOptions}

lemma Each.signature (h : d.Each P) : P d.signature := by
  cases h <;> assumption

lemma Each.mono {Q : Signature → Prop} (h : d.Each P) (hPQ : ∀ s, P s → Q s) : d.Each Q := by
  induction h with
  | scalar hs => exact .scalar (hPQ _ hs)
  | enumeration hs => exact .enumeration (hPQ _ hs)
  | array hs _ ih => exact .array (hPQ _ hs) ih
  | range hs _ ih => exact .range (hPQ _ hs) ih
  | multirange hs _ ih => exact .multirange (hPQ _ hs) ih

lemma Each.innermost (h : d.Each P) : P d.innermost.signature := by
  induction h with
  | scalar hs => exact hs
  | enumeration hs => exact hs
  | array _ _ ih => exact ih
  | range _ _ ih => exact ih
  | multirange _ _ ih => exact ih

lemma Each.forParts (h : d.Each P) : d.forParts.Each P := by
  cases h with
  | array _ helement => exact helement
  | range _ hsubtype => exact hsubtype
  | scalar hs => exact .scalar hs
  | enumeration hs => exact .enumeration hs
  | multirange hs hinner =>
    cases hinner with
    | range _ hsubtype => exact hsubtype
    | scalar hs' => exact .multirange hs (.scalar hs')
    | enumeration hs' => exact .multirange hs (.enumeration hs')
    | array hs' helement => exact .multirange hs (.array hs' helement)
    | multirange hs' hinner => exact .multirange hs (.multirange hs' hinner)

lemma Within.each (hw : Within d v d' w) (h : d.Each P) : d'.Each P := by
  induction hw with
  | whole => exact h
  | part _ _ ih => exact ih.forParts

/-- A scalar value is only rendered by a leaf, from its raw text or as a label. -/
lemma scalarText_of_isRendered {a : ScalarValue} (hdoc : d.isDocument = false)
    (ha : ∀ text, a ≠ .string text) (h : d.IsRendered (.scalar a)) :
    ∃ tag raw, d.dbType = .plain tag ∧ tag.writes.contains a.type = true ∧
      d.signature.scalarText tag a = .ok raw := by
  have hv : HostValue.scalar a ≠ .null := nofun
  cases d with
  | scalar s =>
    obtain ⟨raw, hraw⟩ := content_of_isRendered rfl hv h
    obtain ⟨tag, a', hdb, ha', hwrites, htext⟩ := scalar_of_rawText hdoc hraw
    cases ha'
    exact ⟨tag, raw, hdb, hwrites, htext⟩
  | enumeration s labels =>
    obtain ⟨raw, hraw⟩ := content_of_isRendered rfl hv h
    cases a with
    | string text => exact absurd rfl (ha text)
    | _ => cases hraw
  | array s element nullable =>
    obtain ⟨vs, hvs, -⟩ := isRendered_elements hv h
    cases hvs
  | range s subtype =>
    obtain ⟨raw, hraw⟩ := content_of_isRendered rfl hv h
    cases hraw
  | multirange s inner =>
    obtain ⟨raw, hraw⟩ := content_of_isRendered rfl hv h
    cases inner <;> cases hraw

/-- Outside legacy mode an instant within a rendered value is in UTC and goes to a store type with time
zone, and a date-time without zone to one without, unless a document takes them. -/
lemma Within.dateTimes (hw : Within d v d' w) (hd : d.Each (Signature.IsTimed o))
    (hlegacy : o.legacyTimestamps = false) (h : d.IsRendered v) (hdoc : d'.isDocument = false) :
    (∀ t, w = .scalar (.dateTimeUtc t) → t.offset = 0 ∧ d'.IsZoned) ∧
      ∀ t, w = .scalar (.dateTime t) → d'.IsUnzoned := by
  have hs : d'.signature.IsTimed o := (hw.each hd).signature
  have hlegacy' : d'.signature.literals.legacyTimestamps = false := by rw [hs.literals, hlegacy]
  have hrendered : d'.IsRendered w := by
    rcases hw.isRendered h with hdoc' | hrendered
    · rw [hdoc] at hdoc'
      cases hdoc'
    · exact hrendered
  constructor
  · rintro t rfl
    obtain ⟨tag, raw, hdb, hwrites, htext⟩ := scalarText_of_isRendered hdoc (by simp) hrendered
    obtain ⟨rfl, hoffset⟩ := Signature.zoned_of_scalarText hlegacy' hwrites htext
    exact ⟨hoffset, hdb, hs.zoned hdb⟩
  · rintro t rfl
    obtain ⟨tag, raw, hdb, hwrites, htext⟩ := scalarText_of_isRendered hdoc (by simp) hrendered
    obtain rfl := Signature.unzoned_of_scalarText hlegacy' hwrites htext
    exact ⟨hdb, hs.unzoned hdb⟩

end Descriptor

end SqlBridge
