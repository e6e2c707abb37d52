import SqlBridge.Proofs.HostType.Grammar

/-!
# Spelling host types

The host types that their own text spells: tuples have elements, and labels are names that the notation can
hold. Those are also all the types that the notation stands for.
-/

namespace SqlBridge.HostType

open Text (IsGap)

variable {name kind : String} {wrap : HostType → HostType} {named : String → HostType}
  {cs rest : List Char} {t : HostType} {ts : List HostType}

/-- No tuple in the type is empty, and every enumeration and record in it has a name, without commas, angle
brackets and white space. -/
inductive IsSpellable : HostType → Prop
  | scalar (s : Scalar) : IsSpellable (.scalar s)
  | container {name : String} {wrap : HostType → HostType} {t : HostType} :
    (name, wrap) ∈ containers → IsSpellable t → IsSpellable (wrap t)
  | tuple {ts : List HostType} : ts ≠ [] → (∀ t ∈ ts, IsSpellable t) → IsSpellable (.tuple ts)
  | label {kind : String} {named : String → HostType} {name : String} :
    (kind, named) ∈ labelled → name ≠ "" → (∀ c ∈ name.toList, isLabelChar c = true) →
    IsSpellable (named name)

/-- What follows a text does not go on with a label. -/
def EndsLabel (rest : List Char) : Prop :=
  ∀ c ∈ rest.head?, isLabelChar c = false

/-! ## The text derives the type -/

lemma text_container (h : (name, wrap) ∈ containers) (t : HostType) :
    (wrap t).text.toList = name.toList ++ '<' :: ([] ++ (t.text.toList ++ ([] ++ ['>']))) := by
  simp only [containers, List.mem_cons, List.not_mem_nil, Prod.mk.injEq, or_false] at h
  obtain ⟨rfl, rfl⟩ | ⟨rfl, rfl⟩ | ⟨rfl, rfl⟩ | ⟨rfl, rfl⟩ := h <;> simp [text]

lemma text_tuple (ts : List HostType) :
    (tuple ts).text.toList = "Tuple".toList ++ '<' :: ([] ++ ((texts ts).toList ++ ([] ++ ['>']))) := by
  simp [text]

lemma text_label (h : (kind, named) ∈ labelled) (name : String) :
    (named name).text.toList = kind.toList ++ ':' :: name.toList := by
  simp only [labelled, List.mem_cons, List.not_mem_nil, Prod.mk.injEq, or_false] at h
  obtain ⟨rfl, rfl⟩ | ⟨rfl, rfl⟩ := h <;> simp [text]

lemma texts_cons_cons (t u : HostType) (ts : List HostType) :
    (texts (t :: u :: ts)).toList = t.text.toList ++ ([] ++ ',' :: ([] ++ (texts (u :: ts)).toList)) := by
  simp [texts]

lemma isGap_nil : IsGap [] :=
  nofun

lemma derivesAll_texts (hrest : EndsLabel rest) (hne : ts ≠ [])
    (h : ∀ t ∈ ts, ∀ {rest}, EndsLabel rest → Derives t.text.toList t rest) :
    DerivesAll (texts ts).toList ts rest := by
  induction ts with
  | nil => exact absurd rfl hne
  | cons t ts ih =>
    cases ts with
    | nil => exact .last (h t List.mem_cons_self hrest)
    | cons u ts =>
      have hmore := ih (List.cons_ne_nil u ts) fun t ht => h t (List.mem_cons_of_mem _ ht)
      have ht : Derives t.text.toList t ([] ++ ',' :: ([] ++ ((texts (u :: ts)).toList ++ rest))) :=
        h t List.mem_cons_self (by rintro _ ⟨⟩; rfl)
      rw [texts_cons_cons]
      exact .more ht isGap_nil isGap_nil hmore

theorem IsSpellable.derives (h : t.IsSpellable) (hrest : EndsLabel rest) :
    Derives t.text.toList t rest := by
  induction h generalizing rest with
  | scalar s => exact .scalar
  | container hwrap _ ih =>
    rw [text_container hwrap]
    exact .container hwrap isGap_nil (ih (by rintro _ ⟨⟩; rfl)) isGap_nil
  | tuple hne _ ih =>
    rw [text_tuple]
    exact .tuple isGap_nil (derivesAll_texts (by rintro _ ⟨⟩; rfl) hne ih) isGap_nil
  | @label kind named name hkind hne hname =>
    have hderives : Derives (kind.toList ++ ':' :: name.toList) (named (String.ofList name.toList)) rest :=
      .label hkind (by simpa using hne) ⟨hname, hrest⟩
    rw [text_label hkind]
    rwa [String.ofList_toList] at hderives

/-! ## Only spellable types are derived -/

mutual

lemma isSpellable_of_derives : ∀ {cs t rest}, Derives cs t rest → t.IsSpellable
  | _, _, _, .scalar => .scalar _
  | _, _, _, @Derives.container _ wrap _ _ _ _ t hwrap _ h _ => .container hwrap (isSpellable_of_derives h)
  | _, _, _, .tuple _ h _ =>
    have ⟨hne, hall⟩ := isSpellable_of_derivesAll h
    .tuple hne hall
  | _, _, _, @Derives.label _ named label _ hkind hne hlabel => by
    refine .label hkind (by simpa using hne) ?_
    rw [String.toList_ofList]
    exact hlabel.all

lemma isSpellable_of_derivesAll : ∀ {cs ts rest}, DerivesAll cs ts rest → ts ≠ [] ∧ ∀ t ∈ ts, t.IsSpellable
  | _, _, _, .last h => ⟨List.cons_ne_nil _ _, List.forall_mem_singleton.2 (isSpellable_of_derives h)⟩
  | _, _, _, .more h _ _ h' =>
    have ⟨_, hall⟩ := isSpellable_of_derivesAll h'
    ⟨List.cons_ne_nil _ _, List.forall_mem_cons.2 ⟨isSpellable_of_derives h, hall⟩⟩

end

/-! ## White space -/

lemma isBlank_of_isLabelChar {c : Char} (h : isLabelChar c = true) : Text.isBlank c = false := by
  rw [isLabelChar, Bool.and_eq_true] at h
  simpa using h.2

lemma last_of_append {init : List Char} {last : Char} (hcs : cs = init ++ [last])
    (hlast : Text.isBlank last = false) : ∀ c ∈ cs.getLast?, Text.isBlank c = false := by
  rw [hcs, List.getLast?_concat]
  rintro _ ⟨⟩
  exact hlast

lemma last_of_derives (h : Derives cs t rest) :
    ∀ c ∈ cs.getLast?, Text.isBlank c = false := by
  cases h with
  | @scalar s =>
    intro c hc
    exact Text.isBlank_of_isAlphanum (List.all_eq_true.1 (isName_scalar s).all c (List.mem_of_getLast? hc))
  | @container name _ b cs b' =>
    exact @last_of_append _ (name.toList ++ '<' :: (b ++ (cs ++ b'))) '>' (by simp) rfl
  | @tuple b cs b' =>
    exact @last_of_append _ ("Tuple".toList ++ '<' :: (b ++ (cs ++ b'))) '>' (by simp) rfl
  | @label kind _ label _ _ hne hlabel =>
    obtain ⟨init, last, rfl⟩ := (List.eq_nil_or_concat label).resolve_left hne
    have hlast : isLabelChar last = true := hlabel.all last (by simp)
    exact @last_of_append _ (kind.toList ++ ':' :: init) last (by simp) (isBlank_of_isLabelChar hlast)

theorem trim_text (h : t.IsSpellable) : Text.trim t.text.toList = t.text.toList := by
  have hderives : Derives t.text.toList t [] := h.derives nofun
  refine Text.trim_eq ?_ (last_of_derives hderives)
  obtain ⟨c, cs, hc, hcs⟩ := exists_head_of_derives hderives
  rw [hcs]
  rintro _ ⟨⟩
  exact Text.isBlank_of_isAlphanum hc

/-- The text of a host type reads back as that type, however deep the type is nested, if and only if the
notation can spell the type. -/
theorem parse_text_iff_isSpellable (t : HostType) : parse t.text = .ok t ↔ t.IsSpellable := by
  rw [parse_eq_ok]
  constructor
  · exact isSpellable_of_derives
  · intro h
    rw [trim_text h]
    exact h.derives nofun

end SqlBridge.HostType
