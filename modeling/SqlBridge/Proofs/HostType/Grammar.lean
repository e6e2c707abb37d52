import Mathlib.Tactic.Lemma
import Mathlib.Tactic.SplitIfs
import SqlBridge.HostType.Notation
import SqlBridge.Proofs.Text.Runs

/-!
# The grammar of host types

The notation of host types as a grammar, apart from its reader. The reader accepts exactly what the grammar
derives, and nesting never exhausts it.
-/

namespace SqlBridge.HostType

open Text (IsGap IsRun)

variable {name kind : String} {wrap : HostType → HostType} {named : String → HostType} {s : Scalar}
  {cs rest : List Char} {t : HostType} {ts : List HostType}

/-- The containers of one type, by name. -/
def containers : List (String × (HostType → HostType)) :=
  [("Array", .array), ("List", .list), ("Range", .range), ("Multirange", .multirange)]

/-- The types that go by a name of their own, by kind. -/
def labelled : List (String × (String → HostType)) :=
  [("Enum", .enumeration), ("Record", .record)]

mutual

/-- The text derives the host type where the other text follows it. What follows only matters to labels,
which reach as far as they can. -/
inductive Derives : List Char → HostType → List Char → Prop
  | scalar {s : Scalar} {rest : List Char} : Derives s.name.toList (.scalar s) rest
  | container {name : String} {wrap : HostType → HostType} {b cs b' rest : List Char} {t : HostType} :
    (name, wrap) ∈ containers → IsGap b → Derives cs t (b' ++ '>' :: rest) → IsGap b' →
    Derives (name.toList ++ '<' :: (b ++ (cs ++ (b' ++ ['>'])))) (wrap t) rest
  | tuple {b cs b' rest : List Char} {ts : List HostType} :
    IsGap b → DerivesAll cs ts (b' ++ '>' :: rest) → IsGap b' →
    Derives ("Tuple".toList ++ '<' :: (b ++ (cs ++ (b' ++ ['>'])))) (.tuple ts) rest
  | label {kind : String} {named : String → HostType} {label rest : List Char} :
    (kind, named) ∈ labelled → label ≠ [] → IsRun isLabelChar label rest →
    Derives (kind.toList ++ ':' :: label) (named (String.ofList label)) rest

/-- The text derives one or more host types with commas between them. -/
inductive DerivesAll : List Char → List HostType → List Char → Prop
  | last {cs rest : List Char} {t : HostType} : Derives cs t rest → DerivesAll cs [t] rest
  | more {cs b b' cs' rest : List Char} {t : HostType} {ts : List HostType} :
    Derives cs t (b ++ ',' :: (b' ++ (cs' ++ rest))) → IsGap b → IsGap b' →
    DerivesAll cs' ts rest → DerivesAll (cs ++ (b ++ ',' :: (b' ++ cs'))) (t :: ts) rest

end

/-! ## Names -/

lemma container?_eq_some :
    container? name = some wrap ↔ (name, wrap) ∈ containers := by
  rw [container?]
  split_ifs with h₁ h₂ h₃ h₄ <;> simp_all [containers, eq_comm]

lemma ofName?_eq_some : Scalar.ofName? name = some s ↔ s.name = name := by
  constructor
  · intro h
    simpa using List.find?_some h
  · rintro rfl
    cases s <;> rfl

lemma readLabel?_eq_some :
    readLabel? cs = some (name, rest) ↔ ∃ label, name = String.ofList label ∧
      cs = ':' :: (label ++ rest) ∧ label ≠ [] ∧ IsRun isLabelChar label rest := by
  constructor
  · intro h
    rw [readLabel?] at h
    obtain ⟨more, hmore, h⟩ := Option.bind_eq_some_iff.1 h
    rw [Text.expect?_eq_some] at hmore
    simp only at h
    split_ifs at h with hempty
    cases h
    refine ⟨_, rfl, ?_, by simpa using hempty, Text.isRun_span isLabelChar more⟩
    rw [hmore, List.takeWhile_append_dropWhile]
  · rintro ⟨label, rfl, rfl, hne, hrun⟩
    have hempty : ¬ label.isEmpty = true := by simpa using hne
    rw [readLabel?, Text.expect?_eq_some.2 rfl]
    simp only [Option.bind_eq_bind, Option.bind_some, hrun.takeWhile, hrun.dropWhile, if_neg hempty]

/-! ## The reader -/

/-- What stands in angle brackets with gaps inside them, and the rest. -/
def readBracketed? {α : Type} (read : List Char → Option (α × List Char)) (cs : List Char) :
    Option (α × List Char) := do
  let rest ← Text.expect? '<' cs
  let (a, rest) ← read (Text.skipSpaces rest)
  let rest ← Text.expect? '>' (Text.skipSpaces rest)
  some (a, rest)

section Bracketed

variable {α : Type} {read : List Char → Option (α × List Char)} {a : α} {cs inner b b' rest : List Char}

lemma of_readBracketed? (h : readBracketed? read cs = some (a, rest)) : ∃ b inner b',
    IsGap b ∧ cs = '<' :: (b ++ inner) ∧ read inner = some (a, b' ++ '>' :: rest) ∧ IsGap b' := by
  obtain ⟨more, hopen, h⟩ := Option.bind_eq_some_iff.1 h
  obtain ⟨⟨a', more'⟩, hread, h⟩ := Option.bind_eq_some_iff.1 h
  obtain ⟨more'', hclose, h⟩ := Option.bind_eq_some_iff.1 h
  cases h
  rw [Text.expect?_eq_some] at hopen hclose
  obtain ⟨b, hb, hmore⟩ := Text.exists_gap more
  obtain ⟨b', hb', hmore'⟩ := Text.exists_gap more'
  refine ⟨b, Text.skipSpaces more, b', hb, ?_, ?_, hb'⟩
  · rw [hopen, ← hmore]
  · rw [hclose] at hmore'
    rw [hread, hmore']

lemma readBracketed?_gaps (hb : IsGap b) (hinner : ∀ c ∈ inner.head?, Text.isSpaceOrTab c = false)
    (hread : read inner = some (a, b' ++ '>' :: rest)) (hb' : IsGap b') :
    readBracketed? read ('<' :: (b ++ inner)) = some (a, rest) := by
  have hclose : Text.skipSpaces (b' ++ '>' :: rest) = '>' :: rest :=
    Text.skipSpaces_gap hb' fun _ => by rintro ⟨⟩; rfl
  rw [readBracketed?, Text.expect?_eq_some.2 rfl]
  simp only [Option.bind_eq_bind, Option.bind_some, Text.skipSpaces_gap hb hinner, hread, hclose]
  rfl

lemma map_readBracketed? {β : Type} (make : α → β) :
    (readBracketed? read cs).map (fun p => (make p.1, p.2)) =
      (do
        let more ← Text.expect? '<' cs
        let (a, more) ← read (Text.skipSpaces more)
        let more ← Text.expect? '>' (Text.skipSpaces more)
        some (make a, more)) := by
  rw [readBracketed?]
  cases Text.expect? '<' cs with
  | none => rfl
  | some more =>
    simp only [Option.bind_eq_bind, Option.bind_some]
    cases read (Text.skipSpaces more) with
    | none => rfl
    | some p =>
      simp only [Option.bind_some]
      cases Text.expect? '>' (Text.skipSpaces p.2) with
      | none => rfl
      | some more' => rfl

end Bracketed

/-- A name tells how the text goes on. -/
lemma readType?_of_run (h : IsRun Char.isAlphanum name.toList rest)
    (fuel : Nat) : readType? (fuel + 1) (name.toList ++ rest) =
      match container? name with
      | some wrap => (readBracketed? (readType? fuel) rest).map fun p => (wrap p.1, p.2)
      | none =>
        if name = "Tuple" then (readBracketed? (readTypes? fuel) rest).map fun p => (.tuple p.1, p.2)
        else if name = "Enum" then (readLabel? rest).map fun p => (.enumeration p.1, p.2)
        else if name = "Record" then (readLabel? rest).map fun p => (.record p.1, p.2)
        else (Scalar.ofName? name).map fun s => (.scalar s, rest) := by
  rw [readType?]
  simp only [h.takeWhile, h.dropWhile, String.ofList_toList]
  cases container? name with
  | none => simp only [map_readBracketed?]
  | some wrap => simp only [map_readBracketed?]

/-! ## Soundness -/

/-- The reader splits off only what is derived. -/
def Splits {α : Type} (derives : List Char → α → List Char → Prop)
    (read : List Char → Option (α × List Char)) : Prop :=
  ∀ {cs a rest}, read cs = some (a, rest) → ∃ pre, cs = pre ++ rest ∧ derives pre a rest

lemma Splits.bracketed {α : Type} {derives : List Char → α → List Char → Prop}
    {read : List Char → Option (α × List Char)} {a : α} (hsplits : Splits derives read)
    (h : readBracketed? read cs = some (a, rest)) : ∃ b pre b', IsGap b ∧ IsGap b' ∧
      derives pre a (b' ++ '>' :: rest) ∧ cs = '<' :: (b ++ (pre ++ (b' ++ ['>']))) ++ rest := by
  obtain ⟨b, inner, b', hb, rfl, hread, hb'⟩ := of_readBracketed? h
  obtain ⟨pre, rfl, hpre⟩ := hsplits hread
  exact ⟨b, pre, b', hb, hb', hpre, by simp⟩

lemma derives_of_readLabel? (hkind : (kind, named) ∈ labelled)
    (h : (readLabel? cs).map (fun p => (named p.1, p.2)) = some (t, rest)) :
    ∃ pre, kind.toList ++ cs = pre ++ rest ∧ Derives pre t rest := by
  obtain ⟨⟨name, rest⟩, hread, heq⟩ := Option.map_eq_some_iff.1 h
  cases heq
  obtain ⟨label, rfl, rfl, hne, hlabel⟩ := readLabel?_eq_some.1 hread
  exact ⟨_, (List.append_assoc _ (':' :: label) _).symm, .label hkind hne hlabel⟩

lemma derives_of_readType?_succ {fuel : Nat} (htype : Splits Derives (readType? fuel))
    (htypes : Splits DerivesAll (readTypes? fuel)) : Splits Derives (readType? (fuel + 1)) := by
  intro cs t rest h
  obtain ⟨name, more, hrun, rfl⟩ : ∃ (name : String) (more : List Char),
      IsRun Char.isAlphanum name.toList more ∧ cs = name.toList ++ more :=
    ⟨String.ofList (cs.takeWhile Char.isAlphanum), cs.dropWhile Char.isAlphanum, by
      rw [String.toList_ofList]
      exact ⟨Text.isRun_span _ cs, List.takeWhile_append_dropWhile.symm⟩⟩
  rw [readType?_of_run hrun] at h
  cases hwrap : container? name with
  | some wrap =>
    simp only [hwrap, Option.map_eq_some_iff] at h
    obtain ⟨⟨t, rest⟩, hread, heq⟩ := h
    cases heq
    obtain ⟨b, pre, b', hb, hb', hpre, rfl⟩ := htype.bracketed hread
    exact ⟨_, (List.append_assoc _ _ _).symm, .container (container?_eq_some.1 hwrap) hb hpre hb'⟩
  | none =>
    simp only [hwrap] at h
    split_ifs at h with htuple henum hrecord
    · obtain ⟨⟨ts, rest⟩, hread, heq⟩ := Option.map_eq_some_iff.1 h
      cases heq
      obtain ⟨b, pre, b', hb, hb', hpre, rfl⟩ := htypes.bracketed hread
      subst htuple
      exact ⟨_, (List.append_assoc _ _ _).symm, .tuple hb hpre hb'⟩
    · subst henum
      exact derives_of_readLabel? (.head _) h
    · subst hrecord
      exact derives_of_readLabel? (.tail _ (.head _)) h
    · obtain ⟨s, hs, heq⟩ := Option.map_eq_some_iff.1 h
      cases heq
      rw [ofName?_eq_some] at hs
      subst hs
      exact ⟨_, rfl, .scalar⟩

lemma derivesAll_of_readTypes?_succ {fuel : Nat} (htype : Splits Derives (readType? fuel))
    (htypes : Splits DerivesAll (readTypes? fuel)) : Splits DerivesAll (readTypes? (fuel + 1)) := by
  intro cs ts rest h
  rw [readTypes?] at h
  obtain ⟨⟨t, more⟩, hread, hnext⟩ := Option.bind_eq_some_iff.1 h
  obtain ⟨pre, rfl, hpre⟩ := htype hread
  cases hcomma : Text.expect? ',' (Text.skipSpaces more) with
  | none =>
    simp only [hcomma] at hnext
    cases hnext
    exact ⟨pre, rfl, .last hpre⟩
  | some more' =>
    simp only [hcomma] at hnext
    obtain ⟨⟨ts', rest'⟩, hread', heq⟩ := Option.bind_eq_some_iff.1 hnext
    cases heq
    obtain ⟨pre', hmore', hpre'⟩ := htypes hread'
    obtain ⟨b, hb, hmore⟩ := Text.exists_gap more
    obtain ⟨b', hb', hskip⟩ := Text.exists_gap more'
    rw [Text.expect?_eq_some] at hcomma
    rw [hcomma, hskip, hmore'] at hmore
    subst hmore
    exact ⟨_, by simp, .more hpre hb hb' hpre'⟩

theorem splits_readType? (fuel : Nat) :
    Splits Derives (readType? fuel) ∧ Splits DerivesAll (readTypes? fuel) := by
  induction fuel with
  | zero => exact ⟨nofun, nofun⟩
  | succ fuel ih =>
    obtain ⟨htype, htypes⟩ := ih
    exact ⟨derives_of_readType?_succ htype htypes, derivesAll_of_readTypes?_succ htype htypes⟩

/-! ## Completeness -/

/-- A name that the reader takes as a whole. -/
structure IsName (name : String) : Prop where
  nonempty : name.toList ≠ []
  all : name.toList.all Char.isAlphanum = true

lemma IsName.isRun (h : IsName name)
    (hrest : ∀ c ∈ rest.head?, c.isAlphanum = false) : IsRun Char.isAlphanum name.toList rest where
  all := List.all_eq_true.1 h.all
  stops := hrest

lemma isName_scalar (s : Scalar) : IsName s.name := by
  cases s <;> exact ⟨by decide, by decide⟩

lemma isName_of_containers (h : (name, wrap) ∈ containers) : IsName name := by
  simp only [containers, List.mem_cons, List.not_mem_nil, Prod.mk.injEq, or_false] at h
  obtain ⟨rfl, -⟩ | ⟨rfl, -⟩ | ⟨rfl, -⟩ | ⟨rfl, -⟩ := h <;> exact ⟨by decide, by decide⟩

lemma isName_of_labelled (h : (kind, named) ∈ labelled) : IsName kind := by
  simp only [labelled, List.mem_cons, List.not_mem_nil, Prod.mk.injEq, or_false] at h
  obtain ⟨rfl, -⟩ | ⟨rfl, -⟩ := h <;> exact ⟨by decide, by decide⟩

lemma exists_name_of_derives (h : Derives cs t rest) :
    ∃ name more, IsName name ∧ cs = name.toList ++ more := by
  cases h with
  | @scalar s => exact ⟨s.name, [], isName_scalar s, (List.append_nil _).symm⟩
  | container hwrap => exact ⟨_, _, isName_of_containers hwrap, rfl⟩
  | tuple => exact ⟨"Tuple", _, ⟨by decide, by decide⟩, rfl⟩
  | label hkind => exact ⟨_, _, isName_of_labelled hkind, rfl⟩

lemma exists_head_of_derives (h : Derives cs t rest) :
    ∃ c more, c.isAlphanum = true ∧ cs = c :: more := by
  obtain ⟨name, more, ⟨hne, hall⟩, rfl⟩ := exists_name_of_derives h
  obtain ⟨c, cs, hname⟩ := List.exists_cons_of_ne_nil hne
  rw [hname] at hall ⊢
  exact ⟨c, cs ++ more, List.all_eq_true.1 hall c List.mem_cons_self, rfl⟩

lemma Derives.no_gap {more : List Char} (h : Derives cs t rest) :
    ∀ c ∈ (cs ++ more).head?, Text.isSpaceOrTab c = false := by
  obtain ⟨c, cs, hc, rfl⟩ := exists_head_of_derives h
  rintro _ ⟨⟩
  exact Text.isSpaceOrTab_eq_false (p := Char.isAlphanum) rfl rfl hc

lemma DerivesAll.no_gap {more : List Char} (h : DerivesAll cs ts rest) :
    ∀ c ∈ (cs ++ more).head?, Text.isSpaceOrTab c = false := by
  cases h with
  | last h => exact h.no_gap
  | more h =>
    rw [List.append_assoc]
    exact h.no_gap

/-- What follows a text does not go on with a name. -/
def EndsName (rest : List Char) : Prop :=
  ∀ c ∈ rest.head?, c.isAlphanum = false

lemma endsName_gap {b : List Char} {mark : Char} (hb : IsGap b) (hmark : mark.isAlphanum = false) :
    EndsName (b ++ mark :: rest) := by
  apply Text.head?_gap rfl rfl hb
  rintro _ ⟨⟩
  exact hmark

lemma readType?_container {fuel : Nat} (hwrap : (name, wrap) ∈ containers) :
    readType? (fuel + 1) (name.toList ++ '<' :: rest) =
      (readBracketed? (readType? fuel) ('<' :: rest)).map fun p => (wrap p.1, p.2) := by
  rw [readType?_of_run ((isName_of_containers hwrap).isRun (by rintro _ ⟨⟩; rfl)),
    container?_eq_some.2 hwrap]

lemma readType?_tuple {fuel : Nat} :
    readType? (fuel + 1) ("Tuple".toList ++ '<' :: rest) =
      (readBracketed? (readTypes? fuel) ('<' :: rest)).map fun p => (.tuple p.1, p.2) :=
  readType?_of_run (IsName.isRun ⟨by decide, by decide⟩ (by rintro _ ⟨⟩; rfl)) fuel

lemma readType?_label {fuel : Nat} (hkind : (kind, named) ∈ labelled) :
    readType? (fuel + 1) (kind.toList ++ ':' :: rest) =
      (readLabel? (':' :: rest)).map fun p => (named p.1, p.2) := by
  rw [readType?_of_run ((isName_of_labelled hkind).isRun (by rintro _ ⟨⟩; rfl))]
  simp only [labelled, List.mem_cons, List.not_mem_nil, Prod.mk.injEq, or_false] at hkind
  obtain ⟨rfl, rfl⟩ | ⟨rfl, rfl⟩ := hkind <;> rfl

lemma readType?_scalar {fuel : Nat} (hrest : EndsName rest) :
    readType? (fuel + 1) (s.name.toList ++ rest) = some (.scalar s, rest) := by
  rw [readType?_of_run ((isName_scalar s).isRun hrest)]
  cases s <;> rfl

lemma expect?_comma_close {b : List Char} (hb : IsGap b) :
    Text.expect? ',' (Text.skipSpaces (b ++ '>' :: rest)) = none := by
  rw [Text.skipSpaces_gap hb (by rintro _ ⟨⟩; rfl)]
  rfl

-- every container has characters of its own, so that the length of a text bounds its nesting
mutual

lemma readType?_of_derives : ∀ {cs t rest fuel}, Derives cs t rest → EndsName rest → cs.length < fuel →
    readType? fuel (cs ++ rest) = some (t, rest)
  | _, _, _, 0, _, _, hfuel => absurd hfuel (Nat.not_lt_zero _)
  | _, _, rest, fuel + 1, .scalar, hrest, _ => readType?_scalar hrest
  | _, _, rest, fuel + 1, @Derives.container name wrap b cs b' _ t hwrap hb h hb', _, hfuel => by
    have hlength : cs.length < fuel := by simp at hfuel; omega
    have hinner := readType?_of_derives h (endsName_gap hb' rfl) hlength
    have hread := readBracketed?_gaps hb h.no_gap hinner hb'
    simp only [List.append_assoc, List.cons_append, List.nil_append, readType?_container hwrap, hread,
      Option.map_some]
  | _, _, rest, fuel + 1, @Derives.tuple b cs b' _ ts hb h hb', _, hfuel => by
    have hlength : cs.length + 1 < fuel := by simp at hfuel; omega
    have hinner := readTypes?_of_derivesAll h (endsName_gap hb' rfl) (expect?_comma_close hb') hlength
    have hread := readBracketed?_gaps hb h.no_gap hinner hb'
    simp only [List.append_assoc, List.cons_append, List.nil_append, readType?_tuple, hread, Option.map_some]
  | _, _, rest, fuel + 1, @Derives.label kind named label _ hkind hne hlabel, _, _ => by
    have hread : readLabel? (':' :: (label ++ rest)) = some (String.ofList label, rest) :=
      readLabel?_eq_some.2 ⟨label, rfl, rfl, hne, hlabel⟩
    simp only [List.append_assoc, List.cons_append, readType?_label hkind, hread, Option.map_some]

lemma readTypes?_of_derivesAll : ∀ {cs ts rest fuel}, DerivesAll cs ts rest → EndsName rest →
    Text.expect? ',' (Text.skipSpaces rest) = none → cs.length + 1 < fuel →
    readTypes? fuel (cs ++ rest) = some (ts, rest)
  | _, _, _, 0, _, _, _, hfuel => absurd hfuel (Nat.not_lt_zero _)
  | _, _, rest, fuel + 1, @DerivesAll.last cs _ t h, hrest, hstop, hfuel => by
    have hread := readType?_of_derives h hrest (Nat.lt_of_succ_lt_succ hfuel)
    rw [readTypes?, hread]
    simp only [Option.bind_eq_bind, Option.bind_some, hstop]
  | _, _, rest, fuel + 1, @DerivesAll.more cs b b' cs' _ t ts h hb hb' h', hrest, hstop, hfuel => by
    have hlength : cs.length < fuel ∧ cs'.length + 1 < fuel := by simp at hfuel; omega
    have hread := readType?_of_derives h (endsName_gap hb rfl) hlength.1
    have hread' := readTypes?_of_derivesAll h' hrest hstop hlength.2
    have hcomma : Text.skipSpaces (b ++ ',' :: (b' ++ (cs' ++ rest))) = ',' :: (b' ++ (cs' ++ rest)) :=
      Text.skipSpaces_gap hb (by rintro _ ⟨⟩; rfl)
    rw [readTypes?]
    simp only [List.append_assoc, List.cons_append, hread, Option.bind_eq_bind, Option.bind_some, hcomma,
      Text.expect?_eq_some.2 rfl, Text.skipSpaces_gap hb' h'.no_gap, hread']

end

theorem readAll?_eq_some : readAll? cs = some t ↔ Derives cs t [] := by
  constructor
  · intro h
    rw [readAll?] at h
    split at h
    · next hread =>
      cases h
      obtain ⟨pre, hcs, hpre⟩ := (splits_readType? _).1 hread
      rw [List.append_nil] at hcs
      exact hcs ▸ hpre
    · cases h
  · intro h
    have hread := readType?_of_derives h nofun (Nat.lt_succ_self cs.length)
    rw [List.append_nil] at hread
    rw [readAll?, hread]

lemma parse_eq_ok {text : String} : parse text = .ok t ↔ Derives (Text.trim text.toList) t [] := by
  rw [← readAll?_eq_some, parse]
  cases readAll? (Text.trim text.toList) with
  | none => exact ⟨nofun, nofun⟩
  | some t' => simp only [Except.ok.injEq, Option.some.injEq]

/-- A text is read as a host type if and only if the grammar derives that type from the text without the
white space around it. Where the grammar derives none, the refusal names the trimmed text. -/
theorem parse_eq_ok_iff_derives (text : String) :
    (∀ t, parse text = .ok t ↔ Derives (Text.trim text.toList) t []) ∧
      ((¬ ∃ t, Derives (Text.trim text.toList) t []) → ∃ f, parse text = .error f ∧ f.report.code = ⟨3⟩ ∧
        f.report.subject = some (String.ofList (Text.trim text.toList))) := by
  refine ⟨fun t => parse_eq_ok, ?_⟩
  intro h
  refine ⟨.unknownHostType (String.ofList (Text.trim text.toList)), ?_, rfl, rfl⟩
  cases hread : readAll? (Text.trim text.toList) with
  | none => simp only [parse, hread]
  | some t => exact absurd ⟨t, readAll?_eq_some.1 hread⟩ h

end SqlBridge.HostType
