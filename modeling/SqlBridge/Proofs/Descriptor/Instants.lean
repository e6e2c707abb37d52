import SqlBridge.Proofs.Registry.Switches

/-!
# Instants in legacy mode

In legacy mode an instant may have any offset, and no literal shows which one it was written with: values that
show the same instants have the same literals, whatever the depth that the instants stand at. Documents are the
one exception, as they keep the offset.
-/

namespace SqlBridge

/-! ## Values without offsets -/

/-- The value with an instant moved to UTC. -/
def ScalarValue.inUtc : ScalarValue → ScalarValue
  | .dateTimeUtc t => .dateTimeUtc { t with offset := 0 }
  | a => a

lemma ScalarValue.type_inUtc (a : ScalarValue) : a.inUtc.type = a.type := by
  cases a <;> rfl

namespace HostValue

mutual

/-- The value with all instants in it moved to UTC. -/
def inUtc : HostValue → HostValue
  | .null => .null
  | .scalar a => .scalar a.inUtc
  | .array elements => .array (allInUtc elements)
  | .range r => .range (spanInUtc r)
  | .multirange rs => .multirange (spansInUtc rs)
  | .tuple elements => .tuple (allInUtc elements)
  | .enumeration variant => .enumeration variant
  | .record fields => .record (fieldsInUtc fields)

/-- The values of a list with all instants moved to UTC. -/
def allInUtc : List HostValue → List HostValue
  | [] => []
  | v :: rest => inUtc v :: allInUtc rest

/-- The side of a range with all instants moved to UTC. -/
def boundInUtc : Bound HostValue → Bound HostValue
  | .infinite => .infinite
  | .inclusive v => .inclusive (inUtc v)
  | .exclusive v => .exclusive (inUtc v)

/-- The range with all instants moved to UTC. -/
def spanInUtc : Span HostValue → Span HostValue
  | .empty => .empty
  | .bounds lower upper => .bounds (boundInUtc lower) (boundInUtc upper)

/-- The ranges of a list with all instants moved to UTC. -/
def spansInUtc : List (Span HostValue) → List (Span HostValue)
  | [] => []
  | r :: rest => spanInUtc r :: spansInUtc rest

/-- The fields of a record with all instants moved to UTC. -/
def fieldsInUtc : List (String × HostValue) → List (String × HostValue)
  | [] => []
  | (name, v) :: rest => (name, inUtc v) :: fieldsInUtc rest

end

/-- The values differ at most in the offsets that their instants were written with. -/
def SameInstants (v w : HostValue) : Prop :=
  v.inUtc = w.inUtc

lemma allInUtc_eq (vs : List HostValue) : allInUtc vs = vs.map inUtc := by
  induction vs with
  | nil => rfl
  | cons v vs ih => exact congrArg (inUtc v :: ·) ih

lemma spansInUtc_eq (rs : List (Span HostValue)) : spansInUtc rs = rs.map spanInUtc := by
  induction rs with
  | nil => rfl
  | cons r rs ih => exact congrArg (spanInUtc r :: ·) ih

/-- What shows no offsets is alike for values that show the same instants. -/
lemma SameInstants.alike {α ε : Type} {v w : HostValue} (h : v.SameInstants w)
    {f : HostValue → Except ε α} (hf : ∀ v, (f v.inUtc).toOption = (f v).toOption) :
    (f v).toOption = (f w).toOption := by
  calc (f v).toOption = (f v.inUtc).toOption := (hf v).symm
    _ = (f w.inUtc).toOption := congrArg (fun x => (f x).toOption) h
    _ = (f w).toOption := hf w

lemma isNull_inUtc (v : HostValue) : v.inUtc.isNull = v.isNull := by
  cases v <;> rfl

end HostValue

open HostValue

/-! ## Literals without offsets -/

variable {s : Signature} {d : Descriptor}

/-- In legacy mode a store type writes an instant as it writes it in UTC. -/
lemma Signature.scalarText_inUtc (hlegacy : s.literals.legacyTimestamps = true) (tag : DbTag)
    (a : ScalarValue) : s.scalarText tag a.inUtc = s.scalarText tag a := by
  cases a with
  | dateTimeUtc t =>
    simp only [ScalarValue.inUtc, scalarText, hlegacy, if_true, Bool.not_true, Bool.false_eq_true,
      and_false, if_false]
    rfl
  | _ => rfl

lemma Signature.toOption_rawText_inUtc (hlegacy : s.literals.legacyTimestamps = true)
    (hdoc : (Descriptor.scalar s).isDocument = false) (v : HostValue) :
    (s.rawText v.inUtc).toOption = (s.rawText v).toOption := by
  rw [Descriptor.isDocument] at hdoc
  rw [rawText, rawText]
  cases hdb : s.dbType with
  | plain tag =>
    rw [hdb] at hdoc
    simp only at hdoc
    simp only [hdoc, Bool.false_eq_true, if_false]
    cases v with
    | scalar a =>
      simp only [inUtc, ScalarValue.type_inUtc, scalarText_inUtc hlegacy]
      split
      · rfl
      · rfl
    | _ => rfl
  | _ => rfl

namespace Descriptor

lemma toOption_valueLabel_inUtc (labels : List (String × String)) (v : HostValue) :
    (valueLabel s labels v.inUtc).toOption = (valueLabel s labels v).toOption := by
  cases v with
  | scalar a =>
    cases a with
    | _ => simp [valueLabel, inUtc, ScalarValue.inUtc, Signature.unwritable, Except.toOption]
  | _ => rfl

/-- A range over values that are written alike is written alike. -/
lemma toOption_spanLiteral_inUtc {render : HostValue → Except Fault String}
    (h : ∀ v, (render v.inUtc).toOption = (render v).toOption) (r : Span HostValue) :
    (spanLiteral render (spanInUtc r)).toOption = (spanLiteral render r).toOption := by
  have hbound : ∀ b : Bound HostValue,
      (boundLiteral render (boundInUtc b)).toOption = (boundLiteral render b).toOption ∧
        (boundInUtc b).isInclusive = b.isInclusive := by
    intro b
    cases b with
    | infinite => exact ⟨rfl, rfl⟩
    | inclusive v => exact ⟨h v, rfl⟩
    | exclusive v => exact ⟨h v, rfl⟩
  cases r with
  | empty => rfl
  | bounds lower upper =>
    obtain ⟨hlower, hlower'⟩ := hbound lower
    obtain ⟨hupper, hupper'⟩ := hbound upper
    simp only [spanInUtc, spanLiteral, toOption_bind, hlower, hupper, hlower', hupper']

section

variable (hlegacy : d.innermost.literals.legacyTimestamps = true) (hdoc : d.innermost.isDocument = false)
include hlegacy hdoc

/-- An item shows no offsets. -/
lemma toOption_embedded_inUtc (v : HostValue) :
    (d.embedded v.inUtc).toOption = (d.embedded v).toOption := by
  induction d generalizing v with
  | scalar s =>
    have hraw := Signature.toOption_rawText_inUtc (s := s) hlegacy hdoc v
    simp only [embedded, isNull_inUtc]
    split
    · rfl
    · rw [toOption_map, toOption_map, hraw]
  | enumeration s labels =>
    have hlabel := toOption_valueLabel_inUtc (s := s) labels v
    simp only [embedded, isNull_inUtc]
    split
    · rfl
    · rw [toOption_map, toOption_map, hlabel]
  | array s element nullable ih =>
    cases v with
    | array vs =>
      have hitems := toOption_mapM_map fun w (_ : w ∈ vs) => ih hlegacy hdoc w
      simp only [inUtc, allInUtc_eq, embedded, toOption_bind, hitems]
    | _ => rfl
  | range s subtype ih =>
    cases v with
    | range r => exact toOption_spanLiteral_inUtc (ih hlegacy hdoc) r
    | _ => rfl
  | multirange s inner ih =>
    cases inner with
    | range s' subtype =>
      cases v with
      | multirange rs =>
        -- the ranges of a multirange are written as its range descriptor writes them
        have hitems : ∀ r ∈ rs, (spanLiteral subtype.embedded (spanInUtc r)).toOption =
            (spanLiteral subtype.embedded r).toOption := fun r _ => ih hlegacy hdoc (.range r)
        have hitems' : ((rs.map spanInUtc).mapM (spanLiteral subtype.embedded)).toOption =
          (rs.mapM (spanLiteral subtype.embedded)).toOption := toOption_mapM_map hitems
        simp only [inUtc, spansInUtc_eq, embedded, toOption_bind, hitems']
      | _ => rfl
    | _ =>
      simp only [embedded, isNull_inUtc]
      split
      · rfl
      · rfl

/-- An element of an array constructor shows no offsets. -/
lemma toOption_uncast_inUtc (v : HostValue) : (d.uncast v.inUtc).toOption = (d.uncast v).toOption := by
  have hitem := toOption_embedded_inUtc hlegacy hdoc v
  simp only [uncast, isNull_inUtc]
  split
  · rfl
  · cases d with
    | scalar s =>
      have hraw := Signature.toOption_rawText_inUtc (s := s) hlegacy hdoc v
      simp only [toOption_map, hraw]
    | enumeration s labels => simp only [toOption_map, toOption_valueLabel_inUtc]
    | _ => simp only [toOption_map, hitem]

/-- A whole literal shows no offsets. -/
lemma toOption_toplevel_inUtc (v : HostValue) :
    (d.toplevel v.inUtc).toOption = (d.toplevel v).toOption := by
  have hitem := toOption_embedded_inUtc hlegacy hdoc v
  simp only [toplevel, isNull_inUtc]
  split
  · rfl
  · cases d with
    | scalar s =>
      have hraw := Signature.toOption_rawText_inUtc (s := s) hlegacy hdoc v
      simp only [toOption_map, hraw]
    | enumeration s labels => simp only [toOption_map, toOption_valueLabel_inUtc]
    | array s element nullable =>
      cases v with
      | array vs =>
        have hitems := toOption_mapM_map fun w (_ : w ∈ vs) => toOption_uncast_inUtc (d := element) hlegacy hdoc w
        simp only [inUtc, allInUtc_eq, toOption_bind, hitems]
      | _ => rfl
    | range s subtype => simp only [toOption_map, hitem]
    | multirange s inner => simp only [toOption_map, hitem]

end

end Descriptor

namespace Catalog

/-- In legacy mode only the instant matters. Whatever a catalog gives out, unless it is made for documents,
renders values that show the same instants alike in each of the three ways: with the same text, or with
none. -/
theorem Offers.literals_of_sameInstants {c : Catalog} {d : Descriptor} (hd : c.Offers d)
    (hc : c.Reachable) (hlegacy : c.registry.options.legacyTimestamps = true)
    (hdoc : d.innermost.isDocument = false) {v w : HostValue} (h : v.SameInstants w) :
    (d.toplevel v).toOption = (d.toplevel w).toOption ∧
      (d.embedded v).toOption = (d.embedded w).toOption ∧
      (d.uncast v).toOption = (d.uncast w).toOption := by
  have hswitches : d.innermost.literals = c.registry.options.literals := (hd.each_literals hc).innermost
  have hleaf : d.innermost.literals.legacyTimestamps = true := by
    rw [hswitches]
    exact hlegacy
  exact ⟨h.alike (Descriptor.toOption_toplevel_inUtc hleaf hdoc),
    h.alike (Descriptor.toOption_embedded_inUtc hleaf hdoc),
    h.alike (Descriptor.toOption_uncast_inUtc hleaf hdoc)⟩

/-- A bound of a range without time zone, in an array and with any offset. -/
theorem Offers.literals_of_sameInstants_of_spans :
    let span (offset : Int) : HostValue := .array [.range (.bounds
      (.inclusive (.scalar (.dateTimeUtc ⟨⟨⟨2024, 1, 31⟩, ⟨0, 0⟩⟩, offset⟩))) .infinite)]
    ∃ c : Catalog, ofOptions { legacyTimestamps := true } = .ok c ∧ c.Reachable ∧
      c.registry.options.legacyTimestamps = true ∧ ∃ d, c.Offers d ∧ d.innermost.isDocument = false ∧
      ∀ offset, (span offset).SameInstants (span 0) ∧
        (d.toplevel (span offset)).toOption = some "ARRAY['[2024-01-31T00:00:00,)']::tsrange[]" := by
  intro span
  let o : MappingOptions := { legacyTimestamps := true }
  let c : Catalog := { registry := .builtin o }
  have hc : c.Reachable := .start (o := o) nofun nofun rfl
  have hfind : (c.find (.forStore "tsrange[]")).1.map
      (fun d => (d.toplevel (span 0), d.innermost.isDocument))
      = some (.ok "ARRAY['[2024-01-31T00:00:00,)']::tsrange[]", false) := by
    decide +kernel
  obtain ⟨d, hd, hpair⟩ := Option.map_eq_some_iff.1 hfind
  obtain ⟨htext, hdoc⟩ := Prod.mk.inj hpair
  have hlegacy : c.registry.options.legacyTimestamps = true := by
    rw [Registry.options_builtin]
  refine ⟨c, rfl, hc, hlegacy, d, .found hd, hdoc, fun offset => ?_⟩
  have hsame : (span offset).SameInstants (span 0) := rfl
  have halike := (Offers.literals_of_sameInstants (.found hd) hc hlegacy hdoc hsame).1
  exact ⟨hsame, by rw [halike, htext]; rfl⟩

end Catalog

end SqlBridge
