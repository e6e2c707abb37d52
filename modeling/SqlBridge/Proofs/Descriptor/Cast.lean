import SqlBridge.Proofs.Descriptor.Content

/-!
# Casts of literals

Where the names of store types stand in literals. Only the cast at the end of a whole literal holds one, that
of the descriptor itself: under other names the same literal is written with another cast.
-/

namespace SqlBridge

/-- The signature with its names changed. -/
def Signature.renamed (f : String → String) (s : Signature) : Signature :=
  { s with storeType := f s.storeType, baseStoreType := f s.baseStoreType }

namespace Signature

lemma scalarText_renamed (f : String → String) {s : Signature} {tag : DbTag} {a : ScalarValue}
    {raw : String} (h : s.scalarText tag a = .ok raw) : (s.renamed f).scalarText tag a = .ok raw := by
  cases a with
  | dateTime t =>
    rw [scalarText] at h ⊢
    by_cases hzone : tag = .timestampTz ∧ !s.literals.legacyTimestamps
    · rw [if_pos hzone] at h
      cases h
    · rw [if_neg hzone] at h
      exact (if_neg hzone).trans h
  | dateTimeUtc t =>
    rw [scalarText] at h ⊢
    by_cases htag : tag = .timestamp
    · rw [if_pos htag] at h ⊢
      by_cases hlegacy : s.literals.legacyTimestamps = true
      · rw [if_pos hlegacy] at h
        exact (if_pos hlegacy).trans h
      · rw [if_neg hlegacy] at h
        cases h
    · rw [if_neg htag] at h ⊢
      by_cases hoffset : t.offset ≠ 0 ∧ !s.literals.legacyTimestamps
      · rw [if_pos hoffset] at h
        cases h
      · rw [if_neg hoffset] at h
        exact (if_neg hoffset).trans h
  | _ => exact h

lemma rawText_renamed (f : String → String) {s : Signature} {v : HostValue} {raw : String}
    (h : s.rawText v = .ok raw) : (s.renamed f).rawText v = .ok raw := by
  have hdb : (s.renamed f).dbType = s.dbType := rfl
  have hdoc : (s.renamed f).documentText v = s.documentText v := by
    cases v with
    | scalar a => cases a <;> rfl
    | _ => rfl
  simp only [rawText, hdb, hdoc] at h ⊢
  cases hplain : s.dbType with
  | plain tag =>
    simp only [hplain] at h ⊢
    by_cases hd : tag.isDocument = true
    · rw [if_pos hd] at h ⊢
      exact h
    · rw [if_neg hd] at h ⊢
      cases v with
      | scalar a =>
        simp only at h ⊢
        by_cases hw : tag.writes.contains a.type = true
        · rw [if_pos hw] at h ⊢
          exact scalarText_renamed f h
        · rw [if_neg hw] at h
          cases h
      | _ => cases h
  | _ =>
    simp only [hplain] at h
    cases h

lemma literalOfRaw_renamed (s : Signature) (raw : String) : ∃ body,
    (∀ f, (s.renamed f).literalOfRaw raw = body) ∨
      ∀ f, (s.renamed f).literalOfRaw raw = body ++ "::" ++ f s.storeType := by
  have hdb : ∀ f, (s.renamed f).dbType = s.dbType := fun _ => rfl
  simp only [literalOfRaw, hdb]
  cases Literal.spelling s.dbType with
  | textual => exact ⟨_, .inl fun _ => rfl⟩
  | quoted => exact ⟨_, .inr fun _ => rfl⟩
  | bare =>
    by_cases hbool : s.dbType = .plain .boolean
    · simp only [if_pos hbool]
      exact ⟨_, .inl fun _ => rfl⟩
    · simp only [if_neg hbool]
      by_cases hword : Literal.isNumberWord raw = true
      · simp only [if_pos hword]
        exact ⟨_, .inr fun _ => rfl⟩
      · simp only [if_neg hword]
        by_cases hcast : Literal.castsNumbers s.dbType = true
        · simp only [if_pos hcast]
          exact ⟨_, .inr fun _ => rfl⟩
        · simp only [if_neg hcast]
          exact ⟨_, .inl fun _ => rfl⟩

end Signature

namespace Descriptor

/-- The descriptor with its names and those of the descriptors inside it changed. -/
def renamed (f : String → String) : Descriptor → Descriptor
  | .scalar s => .scalar (s.renamed f)
  | .enumeration s labels => .enumeration (s.renamed f) labels
  | .array s element nullable => .array (s.renamed f) (renamed f element) nullable
  | .range s subtype => .range (s.renamed f) (renamed f subtype)
  | .multirange s inner => .multirange (s.renamed f) (renamed f inner)

lemma valueLabel_renamed (f : String → String) {s : Signature} {labels : List (String × String)}
    {v : HostValue} {label : String} (h : valueLabel s labels v = .ok label) :
    valueLabel (s.renamed f) labels v = .ok label := by
  have hlabel : ∀ variant, labelOf s labels variant = .ok label →
      labelOf (s.renamed f) labels variant = .ok label := by
    intro variant h
    rw [labelOf] at h ⊢
    cases hget : Entries.get? variant labels with
    | some l =>
      rw [hget] at h
      exact h
    | none =>
      rw [hget] at h
      simp only at h ⊢
      by_cases hany : labels.any (·.2 == variant) = true
      · rw [if_pos hany] at h ⊢
        exact h
      · rw [if_neg hany] at h
        cases h
  cases v with
  | enumeration variant => exact hlabel variant h
  | scalar a =>
    cases a with
    | string variant => exact hlabel variant h
    | _ => cases h
  | _ => cases h

lemma spanLiteral_imp {render render' : HostValue → Except Fault String}
    (himp : ∀ v t, render v = .ok t → render' v = .ok t) (r : Span HostValue) (t : String)
    (h : spanLiteral render r = .ok t) : spanLiteral render' r = .ok t := by
  have hbound : ∀ b t, boundLiteral render b = .ok t → boundLiteral render' b = .ok t := by
    intro b t h
    rw [boundLiteral] at h ⊢
    cases hv : b.value? with
    | none =>
      rw [hv] at h
      exact h
    | some v =>
      rw [hv] at h
      exact himp v t h
  cases r with
  | empty => exact h
  | bounds l u =>
    rw [spanLiteral] at h ⊢
    obtain ⟨lower, hl, h⟩ := ok_of_bind h
    obtain ⟨upper, hu, h⟩ := ok_of_bind h
    rw [hbound _ _ hl, hbound _ _ hu]
    exact h

lemma embedded_renamed (f : String → String) (d : Descriptor) (v : HostValue) (t : String)
    (h : d.embedded v = .ok t) : (d.renamed f).embedded v = .ok t := by
  induction d generalizing v t with
  | scalar s =>
    rw [embedded] at h
    rw [renamed, embedded]
    by_cases hv : v.isNull = true
    · rw [if_pos hv] at h ⊢
      exact h
    · rw [if_neg hv] at h ⊢
      obtain ⟨raw, hraw, rfl⟩ := ok_of_map h
      rw [Signature.rawText_renamed f hraw]
      rfl
  | enumeration s labels =>
    rw [embedded] at h
    rw [renamed, embedded]
    by_cases hv : v.isNull = true
    · rw [if_pos hv] at h ⊢
      exact h
    · rw [if_neg hv] at h ⊢
      obtain ⟨label, hlabel, rfl⟩ := ok_of_map h
      rw [valueLabel_renamed f hlabel]
      rfl
  | array s element nullable ih =>
    cases v with
    | null => exact h
    | array vs =>
      rw [embedded] at h
      rw [renamed, embedded]
      obtain ⟨items, hitems, h⟩ := ok_of_bind h
      rw [mapM_ok_of_imp ih hitems]
      exact h
    | _ => cases h
  | range s subtype ih =>
    cases v with
    | null => exact h
    | range r =>
      rw [embedded] at h
      rw [renamed, embedded]
      exact spanLiteral_imp ih r t h
    | _ => cases h
  | multirange s inner ih =>
    cases inner with
    | range s' subtype =>
      cases v with
      | null => exact h
      | multirange rs =>
        rw [embedded] at h
        rw [renamed, renamed, embedded]
        obtain ⟨items, hitems, h⟩ := ok_of_bind h
        -- the inner range renders one range as the multirange renders each of its own
        have hspan : ∀ r t, spanLiteral subtype.embedded r = .ok t →
            spanLiteral (subtype.renamed f).embedded r = .ok t := fun r t h => ih (.range r) t h
        rw [mapM_ok_of_imp hspan hitems]
        exact h
      | _ => cases h
    | _ =>
      cases v with
      | null => exact h
      | _ => cases h

lemma content_renamed (f : String → String) (d : Descriptor) (v : HostValue) (raw : String)
    (h : d.content v = .ok raw) : (d.renamed f).content v = .ok raw := by
  cases d with
  | scalar s => exact Signature.rawText_renamed f h
  | enumeration s labels => exact valueLabel_renamed f h
  | array s element nullable => exact embedded_renamed f _ v raw h
  | range s subtype => exact embedded_renamed f _ v raw h
  | multirange s inner => exact embedded_renamed f _ v raw h

lemma uncast_renamed (f : String → String) (d : Descriptor) (v : HostValue) (t : String)
    (h : d.uncast v = .ok t) : (d.renamed f).uncast v = .ok t := by
  by_cases hv : v = .null
  · subst hv
    rw [uncast_null] at h ⊢
    exact h
  · rw [uncast_of_ne_null d hv] at h
    obtain ⟨raw, hraw, rfl⟩ := ok_of_map h
    rw [uncast_of_ne_null _ hv, content_renamed f d v raw hraw]
    cases d <;> rfl

/-- The names only stand in the cast of a literal. -/
lemma literalOf_renamed (d : Descriptor) (raw : String) : ∃ body,
    (∀ f, (d.renamed f).literalOf raw = body) ∨
      ∀ f, (d.renamed f).literalOf raw = body ++ "::" ++ f d.storeType := by
  cases d with
  | scalar s => exact s.literalOfRaw_renamed raw
  | enumeration s labels => exact ⟨_, .inr fun _ => rfl⟩
  | array s element nullable => exact ⟨_, .inr fun _ => rfl⟩
  | range s subtype => exact ⟨_, .inr fun _ => rfl⟩
  | multirange s inner => exact ⟨_, .inr fun _ => rfl⟩

lemma renamed_id (d : Descriptor) : d.renamed id = d := by
  induction d with
  | scalar s => rfl
  | enumeration s labels => rfl
  | array s element nullable ih => rw [renamed, ih]; rfl
  | range s subtype ih => rw [renamed, ih]; rfl
  | multirange s inner ih => rw [renamed, ih]; rfl

/-- A whole literal has no name in it but that of a cast at its end: under other names it is written in
the same way with another cast. -/
theorem toplevel_renamed {d : Descriptor} {v : HostValue} {t : String} (h : d.toplevel v = .ok t) :
    ∃ body, (t = body ∧ ∀ f, (d.renamed f).toplevel v = .ok body) ∨
      (t = body ++ "::" ++ d.storeType ∧
        ∀ f, (d.renamed f).toplevel v = .ok (body ++ "::" ++ f d.storeType)) := by
  by_cases hv : v = .null
  · subst hv
    have hnull : ∀ d : Descriptor, d.toplevel .null = .ok "NULL" := fun d => rfl
    rw [hnull] at h
    cases h
    exact ⟨"NULL", .inl ⟨rfl, fun f => hnull _⟩⟩
  · cases hd : d.isArray with
    | true =>
      cases d with
      | array s element nullable =>
        obtain ⟨vs, texts, rfl, htexts, rfl⟩ := toplevel_array_ok hv h
        refine ⟨"ARRAY[" ++ ",".intercalate texts ++ "]", .inr ⟨rfl, fun f => ?_⟩⟩
        have hitems : vs.mapM (element.renamed f).uncast = .ok texts :=
          mapM_of_forall₂ (htexts.imp (uncast_renamed f element))
        simp only [renamed, toplevel, HostValue.isNull, Bool.false_eq_true, if_false, hitems]
        rfl
      | _ => cases hd
    | false =>
      have hd' : ∀ f, (d.renamed f).isArray = false := by
        intro f
        cases d with
        | array s element nullable => cases hd
        | _ => rfl
      rw [toplevel_of_ne_null hd hv] at h
      obtain ⟨raw, hraw, rfl⟩ := ok_of_map h
      -- the content is the same under all names, so that the names are in the form of it alone
      have htop : ∀ f, (d.renamed f).toplevel v = .ok ((d.renamed f).literalOf raw) := by
        intro f
        rw [toplevel_of_ne_null (hd' f) hv, content_renamed f d v raw hraw]
        rfl
      have hself : d.literalOf raw = (d.renamed id).literalOf raw := by rw [renamed_id]
      obtain ⟨body, hbody | hbody⟩ := d.literalOf_renamed raw
      · exact ⟨body, .inl ⟨hself.trans (hbody id), fun f => by rw [htop, hbody]⟩⟩
      · exact ⟨body, .inr ⟨hself.trans (hbody id), fun f => by rw [htop, hbody]⟩⟩

end Descriptor

end SqlBridge
