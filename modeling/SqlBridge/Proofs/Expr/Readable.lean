import SqlBridge.Expr.Printer
import SqlBridge.Proofs.Expr.Parser
import SqlBridge.Proofs.Expr.Sharing

/-!
# Readable expressions

Expressions that are built from columns, and what their texts tell apart. The text of an expression is written in
tokens of its shape, so that it is read back as the shape that this settles to. Two expressions have the same text
exactly if their shapes settle to the same one: an operation behind an operand with an operator before it cannot be
told from the operator before the operation, and neither can a row of one comparison from the comparison.
-/

namespace SqlBridge

namespace Expr

open ExprToken (charsOf Flows IsWord)

/-- The expression is built with the registry, from columns and to the shape. Casts are to store types that the
registry answers with. -/
inductive Built (r : Registry) : Expr → Shape → Prop
  | column {name : String} {nullable : Bool} {hostType : HostType} {mapping : Option Descriptor} :
    IsWord name → name ≠ "NOT" → Built r (.column none name nullable hostType mapping) (.column name)
  | call {name : String} {args : List Expr} {shapes : List Shape} {flags : List Bool} {hostType : HostType}
      {mapping : Option Descriptor} {e : Expr} :
    IsWord name → args.length = shapes.length → (∀ p ∈ args.zip shapes, Built r p.1 p.2) →
    function r name args flags hostType mapping = .ok e → Built r e (.call name shapes)
  | row {elements : List Expr} {shapes : List Shape} {flags : List Bool} {e : Expr} :
    elements.length = shapes.length → (∀ p ∈ elements.zip shapes, Built r p.1 p.2) →
    rowOf elements flags = .ok e → Built r e (.row shapes)
  | binary {op : BinaryOp} {left right : Expr} {l l' : Shape} {flags : List Bool} {hostType : HostType}
      {mapping : Option Descriptor} {e : Expr} :
    Built r left l → Built r right l' → binary r op left right flags hostType mapping = .ok e →
    Built r e (.binary op.symbol l l')
  | anyOf {op : BinaryOp} {item array : Expr} {i a : Shape} {flags : List Bool} {e : Expr} :
    Built r item i → Built r array a → anyOf r op item array flags = .ok e → Built r e (.anyOf op.symbol i a)
  | unary {op : UnaryOp} {operand : Expr} {s : Shape} {flags : List Bool} {hostType : HostType}
      {mapping : Option Descriptor} {e : Expr} :
    Built r operand s → unary r op operand flags hostType mapping = .ok e → Built r e (.unary op s)
  | cast {operand : Expr} {s : Shape} {q : Request} {d : Descriptor} {flags : List Bool} {e : Expr} :
    Built r operand s → r.find q = some d → castWith operand d flags = .ok e → Built r e (.cast s d.storeType)
  | subscript {array index : Expr} {a i : Shape} {flags : List Bool} {e : Expr} :
    Built r array a → Built r index i → subscript r array index flags = .ok e → Built r e (.subscript a i)

variable {r : Registry} {e : Expr} {s : Shape} {es : List Expr} {shapes : List Shape}

/-! ## Nodes -/

/-- What is built is no constant and no parameter, and takes parentheses as an operand if its shape does. -/
lemma Built.kind (h : Built r e s) : e.kind.isFree = false ∧ e.kind.isCompound = s.isCompound := by
  cases h with
  | column _ _ => exact ⟨rfl, rfl⟩
  | call _ _ _ h =>
    rw [of_compose h]
    exact ⟨rfl, rfl⟩
  | row _ _ h =>
    rw [rowOf] at h
    split at h
    · cases h
    · rw [of_compose h]
      exact ⟨rfl, rfl⟩
  | binary _ _ h =>
    rw [of_compose h]
    exact ⟨rfl, rfl⟩
  | anyOf _ _ h =>
    rw [of_compose h]
    exact ⟨rfl, rfl⟩
  | unary _ h =>
    rw [of_compose h]
    exact ⟨rfl, rfl⟩
  | cast _ _ h =>
    rw [of_compose h]
    exact ⟨rfl, rfl⟩
  | subscript _ _ h =>
    rw [Expr.subscript] at h
    split at h
    · cases h
    · rw [of_compose h]
      exact ⟨rfl, rfl⟩

/-! ## Texts -/

lemma operandTexts_eq (es : List Expr) : operandTexts es = es.map fun e => ⟨e.text, e.kind.isCompound⟩ := by
  induction es with
  | nil => rfl
  | cons e es ih => rw [operandTexts, ih, List.map_cons]

lemma text_node (kind : ExprKind) (es : List Expr) (flags : List Bool) (hostType : HostType)
    (mapping : Option Descriptor) :
    (Expr.node kind es flags hostType mapping).text =
      nodeText kind (es.map fun e => ⟨e.text, e.kind.isCompound⟩) hostType mapping := by
  rw [text, operandTexts_eq]

/-- The text is that of the tokens of the shape, which stand where they can. -/
structure IsSpelled (e : Expr) (s : Shape) : Prop where
  text : e.text.toList = charsOf s.tokens
  compound : e.kind.isCompound = s.isCompound
  flows : ∀ ts, Flows true ts → Flows false (s.tokens ++ ts)

lemma IsSpelled.enclosed (h : IsSpelled e s) :
    (OperandText.enclosed ⟨e.text, e.kind.isCompound⟩).toList = charsOf (Shape.enclosed s.isCompound s.tokens) := by
  rw [OperandText.enclosed, Shape.enclosed, h.compound]
  cases s.isCompound with
  | true => simp [charsOf, ExprToken.chars, h.text]
  | false => exact h.text

lemma IsSpelled.flows_enclosed (h : IsSpelled e s) {ts : List ExprToken} (hts : Flows true ts) :
    Flows false (Shape.enclosed s.isCompound s.tokens ++ ts) := by
  rw [Shape.enclosed]
  cases s.isCompound with
  | true =>
    rw [if_pos rfl, List.cons_append, List.append_assoc]
    exact .cons rfl (h.flows _ (.cons trivial hts))
  | false => exact h.flows ts hts

lemma charsOf_intercalate (rows : List (List ExprToken)) :
    charsOf ([ExprToken.comma].intercalate rows) = ", ".toList.intercalate (rows.map charsOf) := by
  induction rows with
  | nil => rfl
  | cons row rows ih =>
    cases rows with
    | nil => simp
    | cons row' rows =>
      rw [List.intercalate_cons_cons, ExprToken.charsOf_append, ExprToken.charsOf_append, ih]
      simp only [List.map_cons, List.intercalate_cons_cons]
      rfl

lemma toList_listed (h : List.Forall₂ IsSpelled es shapes) :
    (listed (operandTexts es)).toList = charsOf (Shape.listTokens shapes) := by
  have htexts : es.map (fun e => e.text.toList) = shapes.map (fun s => charsOf s.tokens) := by
    induction h with
    | nil => rfl
    | cons h _ ih => rw [List.map_cons, List.map_cons, ih, h.text]
  rw [listed, operandTexts_eq, String.toList_intercalate, Shape.listTokens_eq, charsOf_intercalate]
  simp only [List.map_map, Function.comp_def]
  rw [htexts]

lemma flows_list (h : List.Forall₂ IsSpelled es shapes) {ts : List ExprToken} (hts : Flows true ts) :
    Flows false (Shape.listTokens shapes ++ .closing :: ts) := by
  induction h with
  | nil => exact .cons trivial hts
  | @cons e s es shapes h hes ih =>
    cases hes with
    | nil => exact h.flows _ (.cons trivial hts)
    | cons h' hes =>
      rw [Shape.listTokens, List.append_assoc]
      exact h.flows _ (.cons rfl ih)

/-- Where the user's own types have plain names, the text of what is built is that of the tokens of its shape. -/
theorem Built.isSpelled (hr : r.ReachableBy IsPlainName) (h : Built r e s) : IsSpelled e s := by
  have hzip : ∀ {es : List Expr} {shapes : List Shape}, es.length = shapes.length →
      (∀ p ∈ es.zip shapes, IsSpelled p.1 p.2) → List.Forall₂ IsSpelled es shapes := by
    intro es shapes hlength hes
    exact List.forall₂_iff_zip.2 ⟨hlength, fun hmem => hes _ hmem⟩
  have hsymbol : ∀ op : BinaryOp, op.symbol ∈ BinaryOp.symbols := by
    intro op
    cases op <;> decide
  -- operands are no constants or parameters, so that none takes a descriptor of the node above it
  induction h with
  | @column name _ _ _ hname hnot =>
    refine ⟨?_, rfl, fun ts hts => .cons ⟨rfl, hname, hnot⟩ hts⟩
    exact (List.append_nil name.toList).symm
  | @call name args shapes _ _ _ e hname hlength _ h ih =>
    have hargs := hzip hlength ih
    obtain rfl := of_compose h
    refine ⟨?_, rfl, fun ts hts => ?_⟩
    · rw [text, nodeText, Shape.tokens]
      simp [toList_listed hargs, charsOf, ExprToken.chars]
    · rw [Shape.tokens, List.cons_append, List.append_assoc]
      exact .cons ⟨rfl, hname⟩ (flows_list hargs hts)
  | @row elements shapes _ e hlength _ h ih =>
    have helements := hzip hlength ih
    rw [rowOf] at h
    split at h
    · cases h
    · obtain rfl := of_compose h
      refine ⟨?_, rfl, fun ts hts => ?_⟩
      · rw [text, nodeText, Shape.tokens]
        simp [toList_listed helements, charsOf, ExprToken.chars]
      · rw [Shape.tokens, List.cons_append, List.append_assoc]
        exact .cons rfl (flows_list helements hts)
  | @binary op left right l l' _ _ _ e hl hr' h ihl ihr =>
    obtain rfl := of_compose h
    refine ⟨?_, rfl, fun ts hts => ?_⟩
    · rw [text_node, nodeText, share_of_kind hl.kind.1 hr'.kind.1, Shape.tokens]
      simp [ihl.enclosed, ihr.enclosed, charsOf, ExprToken.chars]
    · rw [Shape.tokens, List.append_assoc, List.cons_append]
      exact ihl.flows_enclosed (.cons ⟨rfl, hsymbol op⟩ (ihr.flows_enclosed hts))
  | @anyOf op item array i a _ e hi ha h ihi iha =>
    obtain rfl := of_compose h
    refine ⟨?_, rfl, fun ts hts => ?_⟩
    · rw [text_node, retypeElement_of_kind hi.kind.1, Shape.tokens]
      simp [nodeText, ihi.enclosed, iha.text, charsOf, ExprToken.chars]
    · rw [Shape.tokens, List.append_assoc, List.cons_append, List.append_assoc]
      exact ihi.flows_enclosed (.cons ⟨rfl, hsymbol op⟩ (iha.flows _ (.cons trivial hts)))
  | @unary op operand s _ _ _ e hs h ih =>
    obtain rfl := of_compose h
    refine ⟨?_, rfl, fun ts hts => ?_⟩
    · rw [text_node, nodeText, List.map_singleton, unaryText, Shape.tokens]
      by_cases hop : op.isTrailing = true
      · simp [hop, ih.enclosed, charsOf, ExprToken.chars, UnaryOp.mark]
      · by_cases hnot : op = .not
        · subst hnot
          simp [UnaryOp.isTrailing, ih.enclosed, charsOf, ExprToken.chars, UnaryOp.mark]
        · simp [hop, hnot, ih.enclosed, charsOf, ExprToken.chars, UnaryOp.mark]
    · rw [Shape.tokens]
      by_cases hop : op.isTrailing = true
      · rw [if_pos hop, List.append_assoc]
        exact ih.flows_enclosed (.cons hop (by rwa [ExprToken.completes, hop]))
      · rw [if_neg hop, List.cons_append]
        have hop' : op.isTrailing = false := Bool.eq_false_iff.2 hop
        refine .cons hop' ?_
        rw [ExprToken.completes, hop']
        exact ih.flows_enclosed hts
  | @cast operand s q d _ e hs hd h ih =>
    obtain rfl := of_compose h
    refine ⟨?_, rfl, fun ts hts => ?_⟩
    · rw [text_node, Shape.tokens]
      simp [nodeText, ih.enclosed, charsOf, ExprToken.chars]
    · rw [Shape.tokens, List.append_assoc]
      exact ih.flows_enclosed (.cons ⟨rfl, Registry.isDelimited_of_find hr hd⟩ hts)
  | @subscript array index a i _ e ha hi h iha ihi =>
    rw [Expr.subscript] at h
    split at h
    · cases h
    · obtain rfl := of_compose h
      refine ⟨?_, rfl, fun ts hts => ?_⟩
      · rw [text_node, Shape.tokens]
        simp [nodeText, iha.enclosed, ihi.text, charsOf, ExprToken.chars]
      · rw [Shape.tokens, List.append_assoc, List.cons_append, List.append_assoc]
        exact iha.flows_enclosed (.cons rfl (ihi.flows _ (.cons rfl hts)))

/-! ## Reading texts -/

/-- The shape that a text is read as. -/
def readText? (text : String) : Option Shape :=
  (ExprToken.tokens? false text.toList).bind Shape.parse?

/-- The text of what is built is read as the shape that its shape settles to. -/
theorem Built.readText? (hr : r.ReachableBy IsPlainName) (h : Built r e s) : readText? e.text = some s.settle := by
  obtain ⟨htext, -, hflows⟩ := h.isSpelled hr
  have hall := hflows [] .nil
  rw [List.append_nil] at hall
  rw [Expr.readText?, htext, ExprToken.tokens?_charsOf hall]
  exact Shape.parse?_tokens s

/-- What the text of an expression tells. It is read back as the shape of the expression, with every operation
behind an operand done before the operators in front of that operand, and with parentheses around a comparison
read as no row. So two expressions have the same text exactly if they settle to the same shape, and where in both
shapes no operation stands right behind an operator in front, and no comparison alone in a row that is an operand,
only if they are the same. -/
theorem text_eq_iff (hr : r.ReachableBy IsPlainName) {e' : Expr} {s' : Shape} (h : Built r e s)
    (h' : Built r e' s') :
    Expr.readText? e.text = some s.settle ∧ (e.text = e'.text ↔ s.settle = s'.settle) ∧
      (s.isSeparate = true → s'.isSeparate = true → e.text = e'.text → s = s') := by
  have hread := h.readText? hr
  have hread' := h'.readText? hr
  have hsettle : e.text = e'.text → s.settle = s'.settle := by
    intro htext
    rw [htext, hread'] at hread
    exact Option.some.inj hread.symm
  refine ⟨hread, ⟨hsettle, fun heq => ?_⟩, fun hs hs' htext => ?_⟩
  -- a shape keeps its tokens when it settles
  · rw [← String.toList_inj, (h.isSpelled hr).text, (h'.isSpelled hr).text, ← (Shape.tokens_settle s).1, heq,
      (Shape.tokens_settle s').1]
  · rw [← Shape.settle_of_isSeparate hs, ← Shape.settle_of_isSeparate hs', hsettle htext]

lemma Built.exists_unary (h : Built r e s) (op : UnaryOp) (hostType : HostType) :
    ∃ m, Built r (.node (.unary op) [e] [true] hostType m) (.unary op s) := by
  have hunary : Expr.unary r op e [true] hostType none = .ok _ := rfl
  exact ⟨_, .unary h hunary⟩

lemma Built.exists_cast (h : Built r e s) {q : Request} {d : Descriptor} (hd : r.find q = some d) :
    Built r (.node .cast [e] [true] d.hostType (some d)) (.cast s d.storeType) := by
  have hcast : castWith e d [true] = .ok (.node .cast [e] [true] d.hostType (some d)) := rfl
  exact .cast h hd hcast

/-- A minus sign before a cast, and one within it. -/
theorem text_eq_iff_of_cast :
    ∃ r : Registry, r.ReachableBy IsPlainName ∧ ∃ e e' s s', Built r e s ∧ Built r e' s' ∧
      s = .cast (.unary .negate (.column "b")) "timestamp(3) with time zone" ∧
      s' = .unary .negate (.cast (.column "b") "timestamp(3) with time zone") ∧
      e.text = e'.text ∧ readText? e.text = some s' := by
  let c : Catalog := { registry := .builtin {} }
  have hc : c.ReachableBy IsPlainName := Catalog.reachableBy_builtin
  have hr : c.registry.ReachableBy IsPlainName := hc.spec.2
  have hfind : (c.registry.find (.forStore "timestamp(3) with time zone")).map (·.storeType) =
      some "timestamp(3) with time zone" := by
    rw [← hc.find_eq]
    decide +kernel
  obtain ⟨d, hd, hstore⟩ := Option.map_eq_some_iff.1 hfind
  have hb : Built c.registry (.column none "b" false (.scalar .interval) none) (.column "b") :=
    .column ⟨by decide, List.all_eq_true.1 (by decide)⟩ (by decide)
  obtain ⟨m, hnegate⟩ := hb.exists_unary .negate (.scalar .interval)
  have hcast := hnegate.exists_cast hd
  obtain ⟨m', hnegate'⟩ := (hb.exists_cast hd).exists_unary .negate (.scalar .interval)
  rw [hstore] at hcast hnegate'
  obtain ⟨hread, hiff, -⟩ := text_eq_iff hr hcast hnegate'
  exact ⟨_, hr, _, _, _, _, hcast, hnegate', rfl, rfl, hiff.2 rfl, hread⟩

/-- A test for null of a negation and the negation of a test for null have the same text. -/
theorem same_text_of_tests :
    ∃ r : Registry, r.ReachableBy IsPlainName ∧ ∃ e e',
      Built r e (.unary .isNull (.unary .not (.column "b"))) ∧
      Built r e' (.unary .not (.unary .isNull (.column "b"))) ∧
      e.text = "NOT b IS NULL" ∧ e'.text = "NOT b IS NULL" := by
  have hc : Catalog.ReachableBy IsPlainName { registry := .builtin {} } := Catalog.reachableBy_builtin
  obtain ⟨r, hr⟩ : ∃ r : Registry, r.ReachableBy IsPlainName := ⟨_, hc.spec.2⟩
  have hb : Built r (.column none "b" false (.scalar .bool) none) (.column "b") :=
    .column ⟨by decide, List.all_eq_true.1 (by decide)⟩ (by decide)
  obtain ⟨m, hnot⟩ := hb.exists_unary .not (.scalar .bool)
  obtain ⟨m', hnull⟩ := hnot.exists_unary .isNull (.scalar .bool)
  obtain ⟨n, hnull'⟩ := hb.exists_unary .isNull (.scalar .bool)
  obtain ⟨n', hnot'⟩ := hnull'.exists_unary .not (.scalar .bool)
  exact ⟨r, hr, _, _, hnull, hnot', rfl, rfl⟩

end Expr

end SqlBridge
