import SqlBridge.Proofs.Expr.Shape

/-!
# Parsing the tokens of expressions

A row of tokens is parsed from left to right with a stack of what is still open: operators before an operand that is
not complete, left sides of operators between two operands, parentheses and brackets. From the tokens of a shape the
parser gets the shape that it settles to, whatever stands below on the stack and behind in the row.
-/

namespace SqlBridge.Shape

open ExprToken (comma opening closing)

/-- What is open on the stack. -/
inductive Frame where
  | lead (op : UnaryOp)
  | right (symbol : String) (left : Shape)
  | array (symbol : String) (item : Shape)
  /-- The arguments of a call, or the elements of a row, up to the last comma. -/
  | list (name : Option String) (before : List Shape)
  | index (array : Shape)

namespace Frame

/-- What comes next is the whole of an argument, element, index or array, and not an operand. -/
def isWide : Frame → Bool
  | .lead _ | .right _ _ => false
  | _ => true

end Frame

/-- A call with arguments, or a row without a name. -/
def ofList : Option String → List Shape → Shape
  | some name, es => .call name es
  | none, es => .row es

/-- The operators on top of the stack, put before a complete operand. -/
def lead (s : Shape) : List Frame → Shape × List Frame
  | .lead op :: stack => lead (.unary op s.asOperand) stack
  | stack => (s, stack)

/-- What the complete operand is the end of, and the rest of the stack. -/
def finish (s : Shape) (stack : List Frame) : Shape × List Frame :=
  match s.lead stack with
  | (r, .right symbol l :: stack) => (.binary symbol l r.asOperand, stack)
  | p => p

/-- The stack, and the operand that is complete. -/
abbrev State := List Frame × Option Shape

/-- Takes up a token. -/
def step : State → ExprToken → Option State
  | (stack, none), .column name => some (stack, some (.column name))
  | (stack, none), .call name => some (.list (some name) [] :: stack, none)
  | (stack, none), .opening => some (.list none [] :: stack, none)
  | (stack, none), .unary op => some (.lead op :: stack, none)
  | (.list name es :: stack, none), .closing => some (stack, some (ofList name es))
  -- operations behind an operand do not wait for the operators that are open before it
  | (stack, some s), .unary op => some (stack, some (.unary op s.asOperand))
  | (stack, some s), .cast store => some (stack, some (.cast s.asOperand store))
  | (stack, some s), .bracket => some (.index s.asOperand :: stack, none)
  | (stack, some s), .binary symbol =>
    some (.right symbol (s.lead stack).1.asOperand :: (s.lead stack).2, none)
  | (stack, some s), .anyOf symbol =>
    some (.array symbol (s.lead stack).1.asOperand :: (s.lead stack).2, none)
  | (stack, some s), .comma =>
    match s.finish stack with
    | (p, .list name es :: stack) => some (.list name (es ++ [p]) :: stack, none)
    | _ => none
  | (stack, some s), .closing =>
    match s.finish stack with
    | (p, .list name es :: stack) => some (stack, some (ofList name (es ++ [p])))
    | (p, .array symbol item :: stack) => some (stack, some (.anyOf symbol item p))
    | _ => none
  | (stack, some s), .unbracket =>
    match s.finish stack with
    | (p, .index array :: stack) => some (stack, some (.subscript array p))
    | _ => none
  | _, _ => none

def run (σ : State) (ts : List ExprToken) : Option State :=
  ts.foldlM step σ

/-- The shape that a row of tokens is read as. -/
def parse? (ts : List ExprToken) : Option Shape :=
  match run ([], none) ts with
  | some (stack, some s) =>
    match s.finish stack with
    | (p, []) => some p
    | _ => none
  | _ => none

/-! ## Operators before a shape -/

variable {s p c : Shape} {es : List Shape} {ts us rest : List ExprToken} {t : ExprToken} {f : Shape → Shape}
  {σ σ' : State} {stack : List Frame} {ops : List UnaryOp} {op : UnaryOp} {name : Option String} {symbol : String}

/-- The shape with operators before it, the first one outermost. -/
def led (ops : List UnaryOp) (s : Shape) : Shape :=
  ops.foldr (fun op s => .unary op s.asOperand) s

/-- The stack with operators pushed to it, the first one first. -/
def pushed (ops : List UnaryOp) (stack : List Frame) : List Frame :=
  ops.foldl (fun stack op => .lead op :: stack) stack

/-- What is on top of the stack waits for a whole argument, element, index or array, if there is anything. -/
def Waits (stack : List Frame) : Prop :=
  ∀ frame ∈ stack.head?, frame.isWide = true

lemma run_cons (h : step σ t = some σ') : run σ (t :: rest) = run σ' rest := by
  rw [run, List.foldlM_cons, h]
  rfl

lemma lead_pushed (ops : List UnaryOp) (c : Shape) (stack : List Frame) :
    c.lead (pushed ops stack) = (led ops c).lead stack := by
  induction ops generalizing stack with
  | nil => rfl
  | cons op ops ih => exact ih (.lead op :: stack)

lemma lead_of_waits (h : Waits stack) : s.lead stack = (s, stack) := by
  cases stack with
  | nil => rfl
  | cons frame stack =>
    cases frame with
    | lead op => cases h _ rfl
    | _ => rfl

lemma finish_of_waits (h : Waits stack) : s.finish stack = (s, stack) := by
  rw [finish, lead_of_waits h]
  cases stack with
  | nil => rfl
  | cons frame stack =>
    cases frame with
    | right symbol l => cases h _ rfl
    | _ => rfl

lemma isLed_asOperand (h : s.isLed = false) : s.asOperand.isLed = false := by
  rcases asOperand_cases s with e | ⟨t, -, hcompound, e⟩
  · rwa [e]
  · rw [e]
    exact isLed_of_isCompound hcompound

/-- An operation put behind a shape comes right behind what the operators before the shape stand before. -/
lemma behind_led (hops : ∀ op ∈ ops, op.isTrailing = false) (hc : c.isLed = false)
    (hf : ∀ s, (f s).isLoneRow = false) :
    (led ops c).asOperand.behind f = led ops (f c.asOperand) := by
  induction ops with
  | nil => exact behind_of_isLed (isLed_asOperand hc)
  | cons op ops ih =>
    obtain ⟨hop, hops⟩ := List.forall_mem_cons.1 hops
    have hne : ¬ op.isTrailing = true := by
      rw [hop]
      exact Bool.false_ne_true
    have hbehind : (led (op :: ops) c).asOperand.behind f = .unary op ((led ops c).asOperand.behind f) := by
      exact if_neg hne
    -- no row comes about behind the operators, so that nothing more is taken out of parentheses
    have hoperand : (led ops (f c.asOperand)).asOperand = led ops (f c.asOperand) := by
      cases ops with
      | nil => exact asOperand_of_isLoneRow (hf _)
      | cons op ops => rfl
    rw [hbehind, ih hops]
    exact congrArg (Shape.unary op) hoperand.symm

/-! ## Rows that are read as a shape -/

/-- From the tokens, the parser gets the shape as an operand: operators to the stack, and what they stand before. -/
def IsPushed (ts : List ExprToken) (s : Shape) : Prop :=
  ∃ ops c, s = led ops c ∧ (∀ op ∈ ops, op.isTrailing = false) ∧ c.isLed = false ∧
    ∀ stack rest, run (stack, none) (ts ++ rest) = run (pushed ops stack, some c) rest

/-- From the tokens, the parser gets the shape as a whole. -/
def IsParsed (ts : List ExprToken) (s : Shape) : Prop :=
  ∀ stack, Waits stack → ∃ stack' c, c.finish stack' = (s, stack) ∧
    ∀ rest, run (stack, none) (ts ++ rest) = run (stack', some c) rest

lemma IsPushed.parsed (h : IsPushed ts s) : IsParsed ts s := by
  obtain ⟨ops, c, rfl, -, -, hrun⟩ := h
  intro stack hstack
  refine ⟨pushed ops stack, c, ?_, hrun stack⟩
  have hfinish : (led ops c).finish stack = (led ops c, stack) := finish_of_waits hstack
  rw [finish, lead_of_waits hstack] at hfinish
  rw [finish, lead_pushed, lead_of_waits hstack, hfinish]

/-- An operator before an operand goes to the stack. -/
lemma IsPushed.unary (hop : op.isTrailing = false) (h : IsPushed ts s) :
    IsPushed (.unary op :: ts) (.unary op s.asOperand) := by
  obtain ⟨ops, c, rfl, hops, hc, hrun⟩ := h
  refine ⟨op :: ops, c, rfl, List.forall_mem_cons.2 ⟨hop, hops⟩, hc, fun stack rest => ?_⟩
  rw [List.cons_append, run_cons rfl, hrun]
  rfl

/-- An operation behind an operand is done on what the operators before the operand stand before. -/
lemma IsPushed.behind (h : IsPushed ts s) (hf : ∀ s, (f s).isLoneRow = false ∧ (f s).isLed = false)
    (hus : ∀ stack c rest, run (stack, some c) (us ++ rest) = run (stack, some (f c.asOperand)) rest) :
    IsPushed (ts ++ us) (s.asOperand.behind f) := by
  obtain ⟨ops, c, rfl, hops, hc, hrun⟩ := h
  refine ⟨ops, f c.asOperand, behind_led hops hc fun s => (hf s).1, hops, (hf _).2, fun stack rest => ?_⟩
  rw [List.append_assoc, hrun, hus]

/-- An operator between two operands puts the left one on the stack. -/
lemma IsPushed.binary (symbol : String) {l r : Shape} (hl : IsPushed ts l) (hr : IsPushed us r) :
    IsParsed (ts ++ .binary symbol :: us) (.binary symbol l.asOperand r.asOperand) := by
  obtain ⟨ops, c, rfl, -, -, hrun⟩ := hl
  obtain ⟨ops', c', rfl, -, -, hrun'⟩ := hr
  intro stack hstack
  refine ⟨pushed ops' (.right symbol (led ops c).asOperand :: stack), c', ?_, fun rest => ?_⟩
  · rw [finish, lead_pushed]
    rfl
  · rw [List.append_assoc, hrun, List.cons_append, run_cons rfl, lead_pushed, lead_of_waits hstack, hrun']

/-- An array that an item is compared with stands in parentheses of its own. -/
lemma IsPushed.anyOf (symbol : String) {item array : Shape} (hitem : IsPushed ts item) (harray : IsParsed us array) :
    IsParsed (ts ++ .anyOf symbol :: (us ++ [closing])) (.anyOf symbol item.asOperand array) := by
  obtain ⟨ops, c, rfl, -, -, hrun⟩ := hitem
  intro stack hstack
  obtain ⟨stack', c', hfinish, hrun'⟩ := harray (.array symbol (led ops c).asOperand :: stack) (by rintro _ ⟨⟩; rfl)
  refine ⟨stack, .anyOf symbol (led ops c).asOperand array, finish_of_waits hstack, fun rest => ?_⟩
  have hclose : step (stack', some c') closing = some (stack, some (.anyOf symbol (led ops c).asOperand array)) := by
    rw [step, hfinish]
  rw [List.append_assoc, hrun, List.cons_append, run_cons rfl, lead_pushed, lead_of_waits hstack,
    List.append_assoc, hrun', List.singleton_append, run_cons hclose]

/-- Arguments and elements are collected up to the closing parenthesis. -/
lemma run_list (name : Option String) (hes : ∀ s ∈ es, IsParsed s.tokens s.settle) (before : List Shape)
    (hbefore : es = [] → before = []) (stack : List Frame) (rest : List ExprToken) :
    run (.list name before :: stack, none) (listTokens es ++ closing :: rest) =
      run (stack, some (ofList name (before ++ settleAll es))) rest := by
  induction es generalizing before with
  | nil =>
    -- the parenthesis closes an empty list only right behind the one that opens it
    obtain rfl := hbefore rfl
    exact run_cons rfl
  | cons s es ih =>
    obtain ⟨hs, hes⟩ := List.forall_mem_cons.1 hes
    obtain ⟨stack', c, hfinish, hrun⟩ := hs (.list name before :: stack) (by rintro _ ⟨⟩; rfl)
    cases es with
    | nil =>
      have hclose : step (stack', some c) closing = some (stack, some (ofList name (before ++ [s.settle]))) := by
        rw [step, hfinish]
      rw [listTokens, hrun, run_cons hclose]
      rfl
    | cons s' es =>
      have hcomma : step (stack', some c) comma = some (.list name (before ++ [s.settle]) :: stack, none) := by
        rw [step, hfinish]
      rw [listTokens, List.append_assoc, hrun, List.cons_append, run_cons hcomma, ih hes _ (by simp), List.append_assoc]
      rfl

/-! ## Shapes -/

/-- What an operand is read as before the operation that it belongs to: a compound one is a row for that long. -/
def inParentheses (s : Shape) : Shape :=
  if s.isCompound then .row [s.settle] else s.settle

lemma asOperand_inParentheses (s : Shape) : s.inParentheses.asOperand = s.settle.asOperand := by
  rw [inParentheses]
  by_cases h : s.isCompound = true
  · have hsettle : s.settle.isCompound = true := (tokens_settle s).2.trans h
    rw [if_pos h, asOperand, if_pos hsettle, asOperand_of_isLoneRow (isLoneRow_of_isCompound hsettle)]
  · rw [if_neg h]

/-- The tokens of a shape are read as the shape, and its tokens as an operand as that operand. -/
def IsRead (s : Shape) : Prop :=
  IsParsed s.tokens s.settle ∧ IsPushed (enclosed s.isCompound s.tokens) s.inParentheses

lemma IsRead.of_pushed (hs : s.isCompound = false) (h : IsPushed s.tokens s.settle) : IsRead s := by
  refine ⟨h.parsed, ?_⟩
  rw [enclosed, inParentheses, hs]
  exact h

lemma IsRead.of_parsed (hs : s.isCompound = true) (h : IsParsed s.tokens s.settle) : IsRead s := by
  refine ⟨h, ?_⟩
  rw [enclosed, inParentheses, if_pos hs, if_pos hs]
  refine ⟨[], .row [s.settle], rfl, nofun, rfl, fun stack rest => ?_⟩
  have hlist := run_list none (List.forall_mem_singleton.2 h) [] nofun stack rest
  rw [List.cons_append, run_cons rfl, List.append_assoc]
  exact hlist

/-- Arguments of a call and elements of a row are read up to the closing parenthesis. -/
lemma isPushed_list (name : Option String) (hes : ∀ s ∈ es, IsRead s) {t : ExprToken}
    (ht : ∀ stack, step (stack, none) t = some (.list name [] :: stack, none)) :
    IsPushed (t :: (listTokens es ++ [closing])) (ofList name (settleAll es)) := by
  refine ⟨[], ofList name (settleAll es), rfl, nofun, ?_, fun stack rest => ?_⟩
  · cases name <;> rfl
  · rw [List.cons_append, run_cons (ht stack), List.append_assoc]
    exact run_list name (fun s hs => (hes s hs).1) [] (fun _ => rfl) stack rest

/-- An operation behind an operand is read as one on what the operators before the operand stand before. -/
lemma IsRead.behind (h : IsRead s) (hf : ∀ s, (f s).isLoneRow = false ∧ (f s).isLed = false)
    (hus : ∀ stack c rest, run (stack, some c) (us ++ rest) = run (stack, some (f c.asOperand)) rest) :
    IsPushed (enclosed s.isCompound s.tokens ++ us) (s.settle.asOperand.behind f) := by
  rw [← asOperand_inParentheses]
  exact h.2.behind hf hus

lemma isRead (s : Shape) : IsRead s := by
  induction s using Shape.induction with
  | column name =>
    have hpushed : IsPushed [.column name] (.column name) :=
      ⟨[], .column name, rfl, nofun, rfl, fun stack rest => run_cons rfl⟩
    exact .of_pushed rfl hpushed
  | call name args ih =>
    have hpushed : IsPushed (.call name :: (listTokens args ++ [closing])) (.call name (settleAll args)) :=
      isPushed_list (some name) ih fun _ => rfl
    exact .of_pushed rfl hpushed
  | row elements ih =>
    have hpushed : IsPushed (opening :: (listTokens elements ++ [closing])) (.row (settleAll elements)) :=
      isPushed_list none ih fun _ => rfl
    exact .of_pushed rfl hpushed
  | binary symbol l r ihl ihr =>
    have hparsed := ihl.2.binary symbol ihr.2
    rw [asOperand_inParentheses, asOperand_inParentheses] at hparsed
    exact .of_parsed rfl hparsed
  | anyOf symbol item array ihi iha =>
    have hparsed := ihi.2.anyOf symbol iha.1
    rw [asOperand_inParentheses] at hparsed
    exact .of_parsed rfl hparsed
  | unary op s ih =>
    apply IsRead.of_pushed rfl
    rw [tokens, settle]
    by_cases hop : op.isTrailing = true
    · rw [if_pos hop, if_pos hop]
      exact ih.behind (fun s => ⟨rfl, by simp [isLed, hop]⟩) fun stack c rest => run_cons rfl
    · have hpushed := ih.2.unary (Bool.eq_false_iff.2 hop)
      rw [asOperand_inParentheses] at hpushed
      rw [if_neg hop, if_neg hop]
      exact hpushed
  | cast s store ih =>
    apply IsRead.of_pushed rfl
    exact ih.behind (fun s => ⟨rfl, rfl⟩) fun stack c rest => run_cons rfl
  | subscript s index ihs ihi =>
    apply IsRead.of_pushed rfl
    refine ihs.behind (fun s => ⟨rfl, rfl⟩) fun stack c rest => ?_
    -- the index is read as a whole, on a stack that keeps the array
    obtain ⟨stack', c', hfinish, hrun⟩ := ihi.1 (.index c.asOperand :: stack) (by rintro _ ⟨⟩; rfl)
    have hclose : step (stack', some c') .unbracket = some (stack, some (.subscript c.asOperand index.settle)) := by
      rw [step, hfinish]
    rw [List.cons_append, run_cons rfl, List.append_assoc, hrun, List.singleton_append, run_cons hclose]

/-- The tokens of a shape are parsed as the shape that it settles to. -/
theorem parse?_tokens (s : Shape) : parse? s.tokens = some s.settle := by
  obtain ⟨stack, c, hfinish, hrun⟩ := (isRead s).1 [] nofun
  have hend := hrun []
  rw [List.append_nil] at hend
  rw [parse?, hend, run, List.foldlM_nil]
  simp only [Option.pure_def, hfinish]

end SqlBridge.Shape
