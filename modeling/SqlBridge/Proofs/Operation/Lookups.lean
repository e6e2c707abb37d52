import SqlBridge.Operation.Documents
import SqlBridge.Proofs.Expr.Sharing
import SqlBridge.Proofs.Operation.Chain
import SqlBridge.Proofs.Registry.Modifiers

/-!
# Lookups in documents

A lookup has a document and a key as operands, and the two share a descriptor like the operands of any other
operation. A document can be stored for a host type other than its own. Keys of that host type can then become
documents, and where it is that of strings, so does the text that is looked up.
-/

namespace SqlBridge

variable {admits : String → Prop} {r : Registry} {d : Descriptor} {document key e : Expr} {rest : List Expr}

/-- Strings are no documents by default. -/
lemma Registry.ReachableBy.exists_textDefault (hr : r.ReachableBy admits) :
    ∃ c, r.findHost (.scalar .string) = some c ∧ c.storeType ∉ Builtin.documentStores := by
  obtain ⟨c, hget⟩ := Option.isSome_iff_exists.1 (hr.isHosted (s := .string) nofun)
  refine ⟨c, findHost_of_get? nofun hget, ?_⟩
  have hdefaults : ∀ legacy, ∀ entry ∈ Builtin.defaultStores legacy,
      entry.1 = .string → entry.2 ∉ Builtin.documentStores := by
    decide
  exact hdefaults _ _ (hr.mem_defaultStores hget) rfl

namespace Expr

/-! ## Inferred descriptors -/

section

variable {t : HostType}

lemma resultMapping_of_hostType (h : e.mapping = some d) (hhost : d.hostType = t) (es : List Expr) :
    resultMapping r t (e :: es) = some d := by
  rw [resultMapping, List.filterMap_cons_some h, List.find?_cons_of_pos (by rw [hhost, beq_self_eq_true])]
  rfl

/-- An operand without a descriptor of the host type has no say. -/
lemma resultMapping_of_ne (h : ¬ ∃ d, e.mapping = some d ∧ d.hostType = t) (es : List Expr) :
    resultMapping r t (e :: es) = resultMapping r t es := by
  rw [resultMapping, resultMapping]
  cases hd : e.mapping with
  | none => rw [List.filterMap_cons_none hd]
  | some d =>
    have hne : ¬ (d.hostType == t) = true := fun hhost => h ⟨d, hd, beq_iff_eq.1 hhost⟩
    rw [List.filterMap_cons_some hd, List.find?_cons_of_neg (p := fun c : Descriptor => c.hostType == t) hne]

end

/-- The descriptor is that of a document that is stored for strings. -/
def IsTextDocument (e : Expr) : Prop :=
  ∃ d, e.mapping = some d ∧ d.hostType = .scalar .string ∧ d.storeType ∈ Builtin.documentStores

lemma isTextDocument_iff (hd : e.mapping = some d) :
    e.IsTextDocument ↔ d.hostType = .scalar .string ∧ d.storeType ∈ Builtin.documentStores := by
  rw [IsTextDocument, hd]
  constructor
  · rintro ⟨_, ⟨⟩, h⟩
    exact h
  · intro h
    exact ⟨d, rfl, h⟩

/-- A string that is made of other expressions always has a descriptor. It is that of a document if the first operand
with a descriptor for strings is a document. -/
lemma exists_resultMapping (hr : r.ReachableBy admits) (hd : e.mapping = some d) (x : Expr) :
    ∃ c, resultMapping r (.scalar .string) [e, x] = some c ∧
      (c.storeType ∈ Builtin.documentStores ↔
        e.IsTextDocument ∨ d.hostType ≠ .scalar .string ∧ x.IsTextDocument) := by
  rw [isTextDocument_iff hd]
  by_cases hhost : d.hostType = .scalar .string
  · exact ⟨d, resultMapping_of_hostType hd hhost _, by simp [hhost]⟩
  · have hskip : ¬ ∃ c, e.mapping = some c ∧ c.hostType = .scalar .string := by
      rintro ⟨c, hc, hchost⟩
      rw [hd] at hc
      cases hc
      exact hhost hchost
    rw [resultMapping_of_ne hskip]
    by_cases hx : ∃ c, x.mapping = some c ∧ c.hostType = .scalar .string
    · obtain ⟨c, hc, hchost⟩ := hx
      refine ⟨c, resultMapping_of_hostType hc hchost _, ?_⟩
      rw [isTextDocument_iff hc]
      simp [hhost, hchost]
    · obtain ⟨c, hc, hplain⟩ := hr.exists_textDefault
      refine ⟨c, (resultMapping_of_ne hx _).trans hc, iff_of_false hplain ?_⟩
      rintro (⟨hhost', -⟩ | ⟨-, c, hc, hchost, -⟩)
      · exact hhost hhost'
      · exact hx ⟨c, hc, hchost⟩

/-! ## Descriptors of texts -/

/-- The text that is looked up has the descriptor of a document: that of the document, which is stored for strings
and keeps that, or that of the key, which is so itself. -/
inductive LabelsAsDocument (r : Registry) (d : Descriptor) (document key : Expr) : Prop
  | document : document.IsTextDocument → (∀ c, chosenMapping? r key = some c → ¬ document.Takes r c) →
    LabelsAsDocument r d document key
  | key : key.IsTextDocument → ¬ key.Takes r d → LabelsAsDocument r d document key

/-- Where the document takes the descriptor of the key, that one tells. -/
lemma labelsAsDocument_of_takes {c : Descriptor} (hc : chosenMapping? r key = some c) (htakes : document.Takes r c) :
    LabelsAsDocument r d document key ↔ key.IsTextDocument := by
  constructor
  · rintro (⟨-, hkeeps⟩ | ⟨hkey, -⟩)
    · exact absurd htakes (hkeeps c hc)
    · exact hkey
  · intro hkey
    exact .key hkey fun h => (chosenMapping?_eq_some.1 hc).2 h.unchosen

/-- Where the document keeps its descriptor, the first of both that is for strings tells. -/
lemma labelsAsDocument_of_keeps (hd : document.mapping = some d) (hstore : d.storeType ∈ Builtin.documentStores)
    (hkeeps : ∀ c, chosenMapping? r key = some c → ¬ document.Takes r c) :
    LabelsAsDocument r d document key ↔ document.IsTextDocument ∨
      d.hostType ≠ .scalar .string ∧ (retype r d key).IsTextDocument := by
  by_cases htext : document.IsTextDocument
  · exact iff_of_true (.document htext hkeeps) (.inl htext)
  · have hhost : d.hostType ≠ .scalar .string := fun h => htext ((isTextDocument_iff hd).2 ⟨h, hstore⟩)
    constructor
    · rintro (⟨htext', -⟩ | ⟨hkey, hnot⟩)
      · exact absurd htext' htext
      · rw [retype_of_not_takes hnot]
        exact .inr ⟨hhost, hkey⟩
    · rintro (htext' | ⟨-, hkey⟩)
      · exact absurd htext' htext
      · by_cases htakes : key.Takes r d
        · rw [retype_of_takes htakes, isTextDocument_iff (mapping_withMapping d key)] at hkey
          exact absurd hkey.1 hhost
        · rw [retype_of_not_takes htakes] at hkey
          exact .key hkey htakes

/-- A text that is looked up has a descriptor, which can be that of a document. -/
lemma exists_textMapping (hr : r.ReachableBy admits) (hd : document.mapping = some d)
    (hstore : d.storeType ∈ Builtin.documentStores) (key : Expr) :
    ∃ c, resultMapping r (.scalar .string) (share r document key) = some c ∧
      (c.storeType ∈ Builtin.documentStores ↔ LabelsAsDocument r d document key) := by
  rw [share_of_mapping hd]
  -- a descriptor that the key has chosen is the only one that the document can take
  by_cases htakes : ∃ c, chosenMapping? r key = some c ∧ document.Takes r c
  · obtain ⟨c, hc, htakes⟩ := htakes
    have hkey := (chosenMapping?_eq_some.1 hc).1
    obtain ⟨c', hc', hdoc⟩ := exists_resultMapping hr (mapping_withMapping c document) key
    rw [retype_of_chosen hc, hc, Option.elim_some, retype_of_takes htakes, labelsAsDocument_of_takes hc htakes]
    refine ⟨c', hc', hdoc.trans ?_⟩
    rw [isTextDocument_iff hkey, isTextDocument_iff (mapping_withMapping c document)]
    exact or_iff_left_of_imp And.right
  · push Not at htakes
    have hl : (chosenMapping? r key).elim document (retype r · document) = document := by
      cases hc : chosenMapping? r key with
      | none => rfl
      | some c => exact retype_of_not_takes (htakes c hc)
    rw [hl]
    obtain ⟨c, hc, hdoc⟩ := exists_resultMapping hr hd (retype r d key)
    exact ⟨c, hc, hdoc.trans (labelsAsDocument_of_keeps hd hstore htakes).symm⟩

/-- The operand of a cast; any other expression is its own. -/
def castOperand : Expr → Expr
  | .node .cast [operand] _ _ _ => operand
  | e => e

end Expr

open SqlBridge.Expr

namespace DocumentOperation

/-- The operator of an operation that looks up a key, keys or a path. -/
def lookup? : DocumentOperation → Option BinaryOp
  | .property => some .jsonGet
  | .text | .typed _ => some .jsonGetText
  | .path => some .jsonGetPath
  | .pathText => some .jsonGetPathText
  | .compare op => if op ∈ [.jsonExists, .jsonExistsAny, .jsonExistsAll] then some op else none
  | .arrayLength | .typeOf => none

/-- The operators that give the text of what they look up. -/
def textLookups : List BinaryOp :=
  [.jsonGetText, .jsonGetPathText]

/-- The operators that look up a path. -/
def pathLookups : List BinaryOp :=
  [.jsonGetPath, .jsonGetPathText]

/-- What the operands behind a document stand for: the only one is the key, but the steps of a path make an array,
unless the only one is a sequence. -/
inductive IsKey (r : Registry) (b : BinaryOp) : List Expr → Expr → Prop
  | given {key : Expr} : b ∉ pathLookups ∨ key.hostType.isSequence = true → IsKey r b [key] key
  | path {steps : List Expr} : b ∈ pathLookups → (∀ step, steps = [step] → step.hostType.isSequence = false) →
    IsKey r b steps (.node .arrayOf steps (steps.map fun _ => false) (.array (.scalar .string))
      (r.findHost (.array (.scalar .string))))

lemma isKey_of_pathOf {b : BinaryOp} (hb : b ∈ pathLookups) (h : pathOf r rest = .ok key) : IsKey r b rest key := by
  unfold pathOf at h
  split at h
  · split at h
    · rename_i hsequence
      cases h
      exact .given (.inr hsequence)
    · rename_i step hsequence
      rw [of_compose h]
      refine .path hb ?_
      rintro _ ⟨⟩
      exact Bool.eq_false_iff.2 hsequence
  · rename_i hsteps
    rw [of_compose h]
    exact .path hb fun step hstep => absurd hstep (hsteps step)

variable {op : DocumentOperation} {b : BinaryOp} {o : Operation}

lemma castOperand_of_binary {l x : Expr} {flags : List Bool} {t : HostType} {m : Option Descriptor}
    (h : binary r b l x flags t m = .ok e) : e.castOperand = e := by
  obtain ⟨-, rfl⟩ := binary_eq_ok.1 h
  rfl

/-- A lookup is the operation on the document and the key. A text is a string, and its descriptor is inferred. -/
lemma of_build (hb : op.lookup? = some b) (h : build r op o (document :: rest) = .ok (some e)) :
    ∃ key t m, IsKey r b rest key ∧ binary r b document key [true, true] t m = .ok e.castOperand ∧
      (b ∈ textLookups → t = .scalar .string ∧ m = none) := by
  have hbinary : ∀ {key t m}, binary r b document key [true, true] t m = .ok e →
      binary r b document key [true, true] t m = .ok e.castOperand := by
    intro key t m h
    rw [castOperand_of_binary h, h]
  cases op with
  | property =>
    cases hb
    match rest, h with
    | [key], h =>
      obtain ⟨_, hn, ⟨⟩⟩ := ok_of_map h
      exact ⟨key, _, _, .given (.inl (by decide)), hbinary hn, fun htext => absurd htext (by decide)⟩
  | text =>
    cases hb
    match rest, h with
    | [key], h =>
      obtain ⟨_, hn, ⟨⟩⟩ := ok_of_map h
      exact ⟨key, _, _, .given (.inl (by decide)), hbinary hn, fun _ => ⟨rfl, rfl⟩⟩
  | typed target =>
    cases hb
    match rest, h with
    | [key], h =>
      obtain ⟨_, hn, ⟨⟩⟩ := ok_of_map h
      obtain ⟨d, -, hn⟩ := ok_of_bind hn
      -- the cast goes around the text, which is what its operand gives back
      obtain ⟨text, htext, hn⟩ := ok_of_bind hn
      rw [of_compose hn]
      exact ⟨key, _, _, .given (.inl (by decide)), htext, fun _ => ⟨rfl, rfl⟩⟩
  | arrayLength => cases hb
  | typeOf => cases hb
  | compare op =>
    have hexists : ∀ op ∈ [BinaryOp.jsonExists, .jsonExistsAny, .jsonExistsAll],
        op ∉ pathLookups ∧ op ∉ textLookups := by
      decide
    rw [lookup?] at hb
    split at hb
    · rename_i hop
      cases hb
      match rest, h with
      | [key], h =>
        rw [build] at h
        split at h
        · obtain ⟨_, hn, ⟨⟩⟩ := ok_of_map h
          obtain ⟨hpath, htext⟩ := hexists _ hop
          exact ⟨key, _, _, .given (.inl hpath), hbinary hn, fun h => absurd h htext⟩
        · cases h
    · cases hb
  | path =>
    cases hb
    match rest, h with
    | step :: steps, h =>
      obtain ⟨_, hn, ⟨⟩⟩ := ok_of_map h
      obtain ⟨key, hkey, hn⟩ := ok_of_bind hn
      exact ⟨key, _, _, isKey_of_pathOf (by decide) hkey, hbinary hn, fun htext => absurd htext (by decide)⟩
  | pathText =>
    cases hb
    match rest, h with
    | step :: steps, h =>
      obtain ⟨_, hn, ⟨⟩⟩ := ok_of_map h
      obtain ⟨key, hkey, hn⟩ := ok_of_bind hn
      exact ⟨key, _, _, isKey_of_pathOf (by decide) hkey, hbinary hn, fun _ => ⟨rfl, rfl⟩⟩

end DocumentOperation

/-- An expression whose properties are those of a run has been made. -/
lemma Lowered.exists_of_toOption_map {α : Type} {x : Lowered} {f : Expr → α} {a : α}
    (h : x.toOption.map (·.map f) = some (some a)) : ∃ e, x = .ok (some e) ∧ f e = a := by
  obtain ⟨answer, hx, ha⟩ := Option.map_eq_some_iff.1 h
  obtain ⟨e, rfl, rfl⟩ := Option.map_eq_some_iff.1 ha
  exact ⟨e, ok_of_toOption hx, rfl⟩

namespace Lowering

open DocumentOperation

variable {op : DocumentOperation} {b : BinaryOp} {o : Operation}

/-- A lookup has the key as its operand, except that a constant or parameter whose store type nobody chose takes the
descriptor of a document for its host type. Its text has a descriptor, which is that of a document exactly if the
document or the key is stored for strings as one and keeps that. -/
theorem lookup_of_documents (hr : r.ReachableBy admits) (hd : document.mapping = some d)
    (hstore : d.storeType ∈ Builtin.documentStores) (hop : Entries.get? o.name DocumentOperation.table = some op)
    (hb : op.lookup? = some b) (he : (documents r).lower o (document :: rest) = .ok (some e)) :
    ∃ key l x t m, IsKey r b rest key ∧ e.castOperand = .node (.binary b) [l, x] [true, true] t m ∧
      Retyped r (· = d) key x ∧
      (x.mapping = key.mapping ↔ (key.Takes r d → key.mapping = some d)) ∧
      (b ∈ textLookups → ∃ c, m = some c ∧
        (c.storeType ∈ Builtin.documentStores ↔ LabelsAsDocument r d document key)) := by
  have hbuild : build r op o (document :: rest) = .ok (some e) := by
    have haccepts : (documents r).lower o (document :: rest) ≠ .declined := by
      rw [he]
      nofun
    obtain ⟨op', -, hop', -, hlower⟩ := lower_ofTable.resolve_left haccepts
    rw [hop] at hop'
    cases hop'
    exact hlower.symm.trans he
  obtain ⟨key, t, m, hkey, hn, htext⟩ := of_build hb hbuild
  obtain ⟨-, hn⟩ := binary_eq_ok.1 hn
  rw [share_of_mapping hd] at hn
  refine ⟨key, _, _, _, _, hkey, hn, retyped_retype rfl, ?_, ?_⟩
  · by_cases htakes : key.Takes r d
    · rw [retype_of_takes htakes, mapping_withMapping, eq_comm]
      exact ⟨fun h _ => h, fun h => h htakes⟩
    · rw [retype_of_not_takes htakes]
      exact iff_of_true rfl fun h => absurd h htakes
  · intro hb
    obtain ⟨rfl, rfl⟩ := htext hb
    rw [← share_of_mapping hd]
    exact exists_textMapping hr hd hstore key

/-- A number by its name, in a document that is stored for values of its own host type. -/
theorem lookup_of_documents_of_age :
    ∃ (r : Registry) (document key e l x : Expr) (t : HostType) (m : Option Descriptor) (c : Descriptor),
      document.storeType? = some "jsonb" ∧ key.storeType? = some "text" ∧
      (documents r).lower (.method .json "GetInt32" 2) [document, key] = .ok (some e) ∧
      e.text = "(c.data ->> 'age')::integer" ∧
      e.castOperand = .node (.binary .jsonGetText) [l, x] [true, true] t m ∧ x.mapping = key.mapping ∧
      m = some c ∧ c.storeType ∉ Builtin.documentStores := by
  let r := Registry.builtin {}
  let document := column (some "c") "data" false (.scalar .json) (r.findHost (.scalar .json))
  let key := constantOf r (.string "age")
  have hr : r.ReachableBy fun _ => True := .builtin {}
  have hruns : document.mapping.map (fun d => (d.storeType, d.hostType)) = some ("jsonb", .scalar .json) ∧
      key.storeType? = some "text" ∧
      ((documents r).lower (.method .json "GetInt32" 2) [document, key]).toOption.map (·.map Expr.text) =
        some (some "(c.data ->> 'age')::integer") := by
    decide +kernel
  obtain ⟨hdocument, hkey, hrun⟩ := hruns
  obtain ⟨d, hd, hparts⟩ := Option.map_eq_some_iff.1 hdocument
  obtain ⟨hdstore, hdhost⟩ := Prod.mk.inj hparts
  obtain ⟨k, hk, hkstore⟩ := Option.map_eq_some_iff.1 hkey
  obtain ⟨e, he, htext⟩ := Lowered.exists_of_toOption_map hrun
  have hstore : d.storeType ∈ Builtin.documentStores := by
    rw [hdstore]
    decide
  have hkeeps : ¬ key.Takes r d := by
    intro h
    have hhost := h.hostType
    rw [hdhost] at hhost
    cases hhost
  have hplain : ¬ LabelsAsDocument r d document key := by
    rintro (⟨hdoc, -⟩ | ⟨hdoc, -⟩)
    · rw [isTextDocument_iff hd, hdhost] at hdoc
      cases hdoc.1
    · rw [isTextDocument_iff hk, hkstore] at hdoc
      exact absurd hdoc.2 (by decide)
  obtain ⟨key', l, x, t, m, hkey', hn, -, hx, hm⟩ := lookup_of_documents hr hd hstore rfl rfl he
  cases hkey' with
  | path hpath => exact absurd hpath (by decide)
  | given =>
    obtain ⟨c, hc, hlabel⟩ := hm (by decide)
    exact ⟨r, document, key, e, l, x, t, m, c, by rw [storeType?, hd, Option.map_some, hdstore], hkey, he, htext, hn,
      hx.2 fun h => absurd h hkeeps, hc, fun hdoc => hplain (hlabel.1 hdoc)⟩

/-- A text by its name, in a document that is stored for strings, is a document itself, and so is the name. A path in a
document that is stored for arrays becomes a document, and is not written as an array. -/
theorem lookup_as_document :
    ∃ (r : Registry) (texts arrays name path e e' : Expr), r.ReachableBy (fun _ => True) ∧
      texts.storeType? = some "jsonb" ∧ arrays.storeType? = some "jsonb" ∧
      name.storeType? = some "text" ∧ path.storeType? = some "text[]" ∧
      (documents r).lower (.method .json "GetString" 2) [texts, name] = .ok (some e) ∧
      (e.text, e.storeType?, e.operands.map storeType?) =
        ("doc ->> 'name'", some "jsonb", [some "jsonb", some "jsonb"]) ∧
      (documents r).lower (.method .json "JsonPathText" 2) [arrays, path] = .ok (some e') ∧
      (e'.text, e'.storeType?, e'.operands.map storeType?) =
        ("doc #>> '[\"a\"]'", some "text", [some "jsonb", some "jsonb"]) := by
  let r := Registry.builtin {}
  let document (host : HostType) := column none "doc" true host (r.find { store := some "jsonb", host := some host })
  let texts := document (.scalar .string)
  let arrays := document (.array (.scalar .string))
  let name := constantOf r (.string "name")
  let path := constantOf r (.array [.string "a"])
  let stores (e : Expr) := (e.text, e.storeType?, e.operands.map storeType?)
  have hruns : texts.storeType? = some "jsonb" ∧ arrays.storeType? = some "jsonb" ∧
      name.storeType? = some "text" ∧ path.storeType? = some "text[]" ∧
      ((documents r).lower (.method .json "GetString" 2) [texts, name]).toOption.map (·.map stores) =
        some (some ("doc ->> 'name'", some "jsonb", [some "jsonb", some "jsonb"])) ∧
      ((documents r).lower (.method .json "JsonPathText" 2) [arrays, path]).toOption.map (·.map stores) =
        some (some ("doc #>> '[\"a\"]'", some "text", [some "jsonb", some "jsonb"])) := by
    decide +kernel
  obtain ⟨htexts, harrays, hname, hpath, hrun, hrun'⟩ := hruns
  obtain ⟨e, he, hstores⟩ := Lowered.exists_of_toOption_map hrun
  obtain ⟨e', he', hstores'⟩ := Lowered.exists_of_toOption_map hrun'
  exact ⟨r, texts, arrays, name, path, e, e', .builtin {}, htexts, harrays, hname, hpath, he, hstores, he',
    hstores'⟩

end Lowering

end SqlBridge
