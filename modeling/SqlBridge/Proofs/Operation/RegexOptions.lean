import SqlBridge.Proofs.HostValue.Integers
import SqlBridge.Proofs.Operation.References

/-!
# Options of regular expressions

A set of options is a set of bits, and of these some stand for options that databases have letters for or that have
no effect there, and some for options that databases have nothing for. The other bits stand for no option.
An operation is declined for the options that databases have nothing for, and it passes over bits that stand for no
option.
-/

namespace SqlBridge

namespace RegexOptions

variable {o o' f : RegexOptions} {flags : List RegexOptions} {i : Nat}

/-- The options that databases have letters for, and those without effect in a database. -/
def equivalents : List RegexOptions :=
  [ignoreCase, multiline, compiled, singleline, ignorePatternWhitespace, cultureInvariant]

/-- The options that databases have nothing for. -/
def others : List RegexOptions :=
  [explicitCapture, rightToLeft, ecmaScript, nonBacktracking]

/-- The bit is set in the options. -/
def HasBit (o : RegexOptions) (i : Nat) : Prop :=
  o.bits.toNat.testBit i = true

/-- Every bit that is set is that of one of the given options. -/
def IsMadeOf (o : RegexOptions) (flags : List RegexOptions) : Prop :=
  ∀ i, o.HasBit i → ∃ f ∈ flags, f.bits.toNat = 2 ^ i

/-- No bit that is set is that of one of the given options. -/
def IsFreeOf (o : RegexOptions) (flags : List RegexOptions) : Prop :=
  ∀ i, o.HasBit i → ∀ f ∈ flags, f.bits.toNat ≠ 2 ^ i

/-- The same of the given options are contained. -/
def AgreesOn (flags : List RegexOptions) (o o' : RegexOptions) : Prop :=
  ∀ f ∈ flags, o.contains f = o'.contains f

/-! ## Bits -/

lemma HasBit.lt (h : o.HasBit i) : i < 32 := by
  by_contra hi
  have hlt : o.bits.toNat < 2 ^ i :=
    o.bits.toNat_lt.trans_le (Nat.pow_le_pow_right (by decide) (Nat.le_of_not_lt hi))
  rw [HasBit, Nat.testBit_lt_two_pow hlt] at h
  cases h

instance (o : RegexOptions) (i : Nat) : Decidable (o.HasBit i) :=
  inferInstanceAs (Decidable (_ = _))

instance (o : RegexOptions) (flags : List RegexOptions) : Decidable (o.IsMadeOf flags) :=
  decidable_of_iff (∀ i < 32, o.HasBit i → ∃ f ∈ flags, f.bits.toNat = 2 ^ i)
    ⟨fun h i hbit => h i hbit.lt hbit, fun h i _ => h i⟩

instance (o : RegexOptions) (flags : List RegexOptions) : Decidable (o.IsFreeOf flags) :=
  decidable_of_iff (∀ i < 32, o.HasBit i → ∀ f ∈ flags, f.bits.toNat ≠ 2 ^ i)
    ⟨fun h i hbit => h i hbit.lt hbit, fun h i _ => h i⟩

/-- An option of one bit is contained if its bit is set. -/
lemma contains_iff (hf : f.bits.toNat = 2 ^ i) : o.contains f = true ↔ o.HasBit i := by
  rw [contains, HasBit, beq_iff_eq, ← UInt32.toNat_inj, UInt32.toNat_and, hf]
  constructor
  · intro h
    have hbit := Nat.testBit_and o.bits.toNat (2 ^ i) i
    rw [h, Nat.testBit_two_pow_self, Bool.and_true] at hbit
    exact hbit.symm
  · intro h
    apply Nat.eq_of_testBit_eq
    intro j
    rw [Nat.testBit_and, Nat.testBit_two_pow]
    by_cases hj : i = j
    · subst hj
      rw [h, Bool.true_and]
    · rw [decide_eq_false hj, Bool.and_false]

/-- Every option has a bit of its own. -/
lemma bit_of_mem (hf : f ∈ equivalents ++ others) : ∃ i, f.bits.toNat = 2 ^ i := by
  have hbits : ∀ f ∈ equivalents ++ others, ∃ i < 32, f.bits.toNat = 2 ^ i := by decide
  obtain ⟨i, -, hi⟩ := hbits f hf
  exact ⟨i, hi⟩

lemma isFreeOf_iff (hflags : ∀ f ∈ flags, f ∈ equivalents ++ others) :
    o.IsFreeOf flags ↔ ∀ f ∈ flags, o.contains f = false := by
  constructor
  · intro h f hf
    obtain ⟨i, hi⟩ := bit_of_mem (hflags f hf)
    by_contra hcontains
    exact h i ((contains_iff hi).1 (Bool.not_eq_false _ ▸ hcontains)) f hf hi
  · intro h i hbit f hf hi
    have hcontains := (contains_iff hi).2 hbit
    rw [h f hf] at hcontains
    cases hcontains

/-- Options are supported if they are free of those that databases have nothing for. -/
lemma isSupported_iff : o.isSupported = true ↔ o.IsFreeOf others := by
  have hunsupported : ∀ i, unsupported.bits.toNat.testBit i = true ↔ ∃ f ∈ others, f.bits.toNat = 2 ^ i := by
    intro i
    have hbits : unsupported.bits.toNat = 2 ^ 2 ||| (2 ^ 6 ||| (2 ^ 8 ||| 2 ^ 10)) := rfl
    have hothers : (∃ f ∈ others, f.bits.toNat = 2 ^ i) ↔
        2 ^ 2 = 2 ^ i ∨ 2 ^ 6 = 2 ^ i ∨ 2 ^ 8 = 2 ^ i ∨ 2 ^ 10 = 2 ^ i := by
      simp [others, explicitCapture, rightToLeft, ecmaScript, nonBacktracking]
    rw [hbits, hothers]
    simp only [Nat.testBit_or, Nat.testBit_two_pow, Bool.or_eq_true, decide_eq_true_eq,
      Nat.pow_right_inj (Nat.lt_add_one 1)]
  rw [isSupported, beq_iff_eq, ← UInt32.toNat_inj, UInt32.toNat_and]
  constructor
  · intro h i hbit f hf hi
    have hboth := Nat.testBit_and o.bits.toNat unsupported.bits.toNat i
    rw [h, hbit, (hunsupported i).2 ⟨f, hf, hi⟩] at hboth
    exact absurd hboth (by simp)
  · intro h
    apply Nat.eq_of_testBit_eq
    intro i
    rw [Nat.testBit_and, UInt32.toNat_zero, Nat.zero_testBit, Bool.and_eq_false_imp]
    intro hbit
    rw [← Bool.not_eq_true, hunsupported]
    rintro ⟨f, hf, hi⟩
    exact h i hbit f hf hi

/-- Among bits that stand for options, those are free of the ones that databases have nothing for that are made of
the rest. -/
lemma isFreeOf_others_iff (h : o.IsMadeOf (equivalents ++ others)) :
    o.IsFreeOf others ↔ o.IsMadeOf equivalents := by
  constructor
  · intro hfree i hbit
    obtain ⟨f, hf, hi⟩ := h i hbit
    rcases List.mem_append.1 hf with hf | hf
    · exact ⟨f, hf, hi⟩
    · exact absurd hi (hfree i hbit f hf)
  · intro hmade i hbit f hf hi
    obtain ⟨f', hf', hi'⟩ := hmade i hbit
    have hdisjoint : ∀ f ∈ others, ∀ f' ∈ equivalents, f.bits.toNat ≠ f'.bits.toNat := by decide
    exact hdisjoint f hf f' hf' (hi.trans hi'.symm)

/-- The letters only tell options apart that databases have letters for. -/
lemma AgreesOn.letters_eq (h : AgreesOn (equivalents ++ others) o o') : o.letters = o'.letters := by
  rw [letters, letters, h multiline (by decide), h singleline (by decide), h ignorePatternWhitespace (by decide)]

lemma AgreesOn.isSupported_eq (h : AgreesOn (equivalents ++ others) o o') : o.isSupported = o'.isSupported := by
  have hothers : ∀ f ∈ others, f ∈ equivalents ++ others := fun f hf => List.mem_append_right _ hf
  rw [Bool.eq_iff_iff, isSupported_iff, isSupported_iff, isFreeOf_iff hothers, isFreeOf_iff hothers]
  exact forall₂_congr fun f hf => by rw [h f (hothers f hf)]

end RegexOptions

namespace RegexOperation

open SqlBridge.Expr RegexOptions

variable (r : Registry) {subjects rest : List Expr} {e : Expr} {options options' : RegexOptions}

/-- The number of operands that come before the options. -/
def subjectCount : RegexOperation → Nat
  | .replace => 3
  | _ => 2

/-- What comes after the other operands denotes the options: no option if nothing comes, and a constant of an integer
type those with the bits of its value. -/
inductive Denotes : List Expr → RegexOptions → Prop
  | nothing : Denotes [] .none
  | constant {e : Expr} {a : ScalarValue} {options : RegexOptions} : e.value? = some (.scalar a) →
    a.integer? = some (options.bits.toNat : Int) → Denotes [e] options

/-! ## Operands that denote options -/

lemma constantInt?_eq_some {i : Int} :
    constantInt? e = some i ↔ ∃ a, e.value? = some (.scalar a) ∧ a.integer? = some i := by
  rw [constantInt?]
  constructor
  · intro h
    split at h
    case h_4 => cases h
    all_goals
      rename_i hvalue
      exact ⟨_, hvalue, h⟩
  · rintro ⟨a, hvalue, ha⟩
    rw [hvalue]
    cases a with
    | int16 | int32 | int64 => exact ha
    | _ => cases ha

lemma denotes_singleton_iff : Denotes [e] options ↔ constantInt? e = some (options.bits.toNat : Int) := by
  rw [constantInt?_eq_some]
  constructor
  · rintro (_ | ⟨hvalue, ha⟩)
    exact ⟨_, hvalue, ha⟩
  · rintro ⟨a, hvalue, ha⟩
    exact .constant hvalue ha

/-- An operand denotes one set of options at most. -/
lemma Denotes.eq (h : Denotes rest options) (h' : Denotes rest options') : options = options' := by
  match rest, h with
  | [], .nothing =>
    cases h'
    rfl
  | [e], h =>
    rw [denotes_singleton_iff] at h h'
    rw [h, Option.some.injEq, Int.natCast_inj, UInt32.toNat_inj] at h'
    exact congrArg RegexOptions.mk h'

lemma optionsOf?_eq_some : optionsOf? e = some options ↔ Denotes [e] options ∧ options.isSupported = true := by
  rw [denotes_singleton_iff, optionsOf?, Option.bind_eq_some_iff]
  constructor
  · rintro ⟨i, hi, h⟩
    split at h
    · rename_i hrange
      have hbits : (UInt32.ofNat i.toNat).toNat = i.toNat := UInt32.toNat_ofNat_of_lt (by omega)
      by_cases hsupported : isSupported ⟨UInt32.ofNat i.toNat⟩ = true
      · cases (if_pos hsupported).symm.trans h
        rw [hi, hbits, Int.toNat_of_nonneg hrange.1]
        exact ⟨rfl, hsupported⟩
      · cases (if_neg hsupported).symm.trans h
    · cases h
  · rintro ⟨hi, hsupported⟩
    refine ⟨_, hi, ?_⟩
    rw [if_pos ⟨Int.natCast_nonneg _, Int.ofNat_lt.2 options.bits.toNat_lt⟩, Int.toNat_natCast,
      UInt32.ofNat_toNat]
    exact if_pos hsupported

lemma trailingOptions?_eq_some (hrest : rest.length ≤ 1) :
    trailingOptions? rest = some options ↔ Denotes rest options ∧ options.isSupported = true := by
  match rest, hrest with
  | [], _ =>
    rw [trailingOptions?]
    constructor
    · rintro ⟨⟩
      exact ⟨.nothing, by decide⟩
    · rintro ⟨⟨⟩, -⟩
      rfl
  | [e], _ => exact optionsOf?_eq_some

/-! ## Expressions for options -/

/-- An operation has an expression for every set of options, which only tells the options apart that databases
have letters for. -/
lemma exists_expression (op : RegexOperation) (hsubjects : subjects.length = op.subjectCount) :
    ∃ expression : RegexOptions → Except Fault Expr,
      (∀ rest, build r op (subjects ++ rest) = withOptions rest expression) ∧
      (∀ options, ∃ e, expression options = .ok e) ∧
      ∀ options options', AgreesOn (equivalents ++ others) options options' →
        expression options = expression options' := by
  have hsuccess : ∀ {m : Multiset Reference} {x : Except Fault Expr},
      Expr.Refers m (fun _ => False) x → ∃ e, x = .ok e := by
    intro m x hx
    cases x with
    | error f => exact hx.elim
    | ok e => exact ⟨e, rfl⟩
  have hletters : ∀ {options options' : RegexOptions} (leading : String),
      AgreesOn (equivalents ++ others) options options' →
        letterArgument r leading options = letterArgument r leading options' := by
    intro options options' leading h
    rw [letterArgument, letterArgument, h ignoreCase (by decide), h.letters_eq]
  cases op with
  | isMatch =>
    obtain ⟨input, pattern, rfl⟩ := List.length_eq_two.1 hsubjects
    refine ⟨matching r input pattern, fun _ => rfl, fun _ => hsuccess (refers_matching r), ?_⟩
    intro options options' h
    rw [matching, matching, marked, marked, h ignoreCase (by decide), h.letters_eq]
  | replace =>
    obtain ⟨input, pattern, replacement, rfl⟩ := List.length_eq_three.1 hsubjects
    refine ⟨replacing r input pattern replacement, fun _ => rfl,
      fun _ => hsuccess (refers_strictCall r rfl), ?_⟩
    intro options options' h
    rw [replacing, replacing, hletters _ h]
  | count =>
    obtain ⟨input, pattern, rfl⟩ := List.length_eq_two.1 hsubjects
    refine ⟨counting r input pattern, fun _ => rfl, fun _ => hsuccess (refers_strictCall r rfl), ?_⟩
    intro options options' h
    rw [counting, counting, hletters _ h]
  | split =>
    obtain ⟨input, pattern, rfl⟩ := List.length_eq_two.1 hsubjects
    refine ⟨splitting r input pattern, fun _ => rfl, fun _ => hsuccess (refers_strictCall r rfl), ?_⟩
    intro options options' h
    rw [splitting, splitting, hletters _ h]

lemma withOptions_eq {expression : RegexOptions → Except Fault Expr} (hrest : rest.length ≤ 1)
    (h : Denotes rest options) :
    withOptions rest expression = if options.isSupported then .built (expression options) else .declined := by
  rw [withOptions]
  by_cases hsupported : options.isSupported = true
  · rw [(trailingOptions?_eq_some hrest).2 ⟨h, hsupported⟩, if_pos hsupported]
  · cases htrailing : trailingOptions? rest with
    | none => rw [if_neg hsupported]
    | some options' =>
      obtain ⟨h', hsupported'⟩ := (trailingOptions?_eq_some hrest).1 htrailing
      rw [h.eq h'] at hsupported
      exact absurd hsupported' hsupported

lemma withOptions_of_not_denotes {expression : RegexOptions → Except Fault Expr} (hrest : rest.length ≤ 1)
    (hnone : ¬ ∃ options, Denotes rest options ∧ options.IsFreeOf others) :
    withOptions rest expression = .declined := by
  rw [withOptions]
  cases h : trailingOptions? rest with
  | none => rfl
  | some options =>
    obtain ⟨hdenotes, hsupported⟩ := (trailingOptions?_eq_some hrest).1 h
    exact absurd ⟨options, hdenotes, isSupported_iff.1 hsupported⟩ hnone

end RegexOperation

namespace Lowering

open RegexOperation RegexOptions

/-- An operation of regular expressions is lowered if nothing comes after its other operands, or a constant of an
integer type with the bits of options that are free of those that databases have nothing for; otherwise it is
declined. Of options without further bits these are the ones that are made of options with an equivalent. Bits that
stand for no option make no difference to what the operation becomes. -/
theorem lowered_iff_of_options (r : Registry) {o : Operation} {op : RegexOperation} (hdomain : o.domain = .regex)
    (hname : Entries.get? o.name RegexOperation.table = some op) {subjects rest : List Expr}
    (hsubjects : subjects.length = op.subjectCount) (hrest : rest.length ≤ 1)
    (harity : (subjects ++ rest).length = o.arity) :
    ((∃ e, lowerAll (standard r) o (subjects ++ rest) = .ok (some e)) ↔
        ∃ options, Denotes rest options ∧ options.IsFreeOf others) ∧
      ((¬ ∃ options, Denotes rest options ∧ options.IsFreeOf others) →
        lowerAll (standard r) o (subjects ++ rest) = .declined) ∧
      (∀ options, Denotes rest options → options.IsMadeOf (equivalents ++ others) →
        ((∃ e, lowerAll (standard r) o (subjects ++ rest) = .ok (some e)) ↔ options.IsMadeOf equivalents)) ∧
      ∀ rest' options options', rest'.length = rest.length → Denotes rest options → Denotes rest' options' →
        AgreesOn (equivalents ++ others) options options' →
        lowerAll (standard r) o (subjects ++ rest') = lowerAll (standard r) o (subjects ++ rest) := by
  obtain ⟨expression, hbuild, hsuccess, hagree⟩ := exists_expression r op hsubjects
  have hlower : ∀ rest' : List Expr, rest'.length = rest.length →
      lowerAll (standard r) o (subjects ++ rest') = withOptions rest' expression := by
    intro rest' hlength
    have hfirst : ∃ first ∈ (subjects ++ rest').head?, (fun _ : Expr => true) first = true := by
      cases subjects with
      | nil => cases op <;> cases hsubjects
      | cons first others => exact ⟨first, rfl, rfl⟩
    have hbelongs : "regex" = o.loweringName := by
      rw [Operation.loweringName, hdomain]
    have harity' : (subjects ++ rest').length = o.arity := by
      rw [← harity, List.length_append, List.length_append, hlength]
    have hl : regexes r ∈ standard r := by simp [standard]
    rw [lowerAll_ofTable hl hbelongs (by simp [hdomain]) hname hfirst harity', hbuild]
  have hlowered : (∃ e, withOptions rest expression = .ok (some e)) ↔
      ∃ options, Denotes rest options ∧ options.IsFreeOf others := by
    constructor
    · rintro ⟨e, he⟩
      by_contra hnone
      rw [withOptions_of_not_denotes hrest hnone] at he
      cases he
    · rintro ⟨options, hdenotes, hfree⟩
      obtain ⟨e, he⟩ := hsuccess options
      rw [withOptions_eq hrest hdenotes, if_pos (isSupported_iff.2 hfree), he]
      exact ⟨e, rfl⟩
  rw [hlower rest rfl]
  refine ⟨hlowered, withOptions_of_not_denotes hrest, ?_, ?_⟩
  · intro options hdenotes hmade
    rw [hlowered, ← isFreeOf_others_iff hmade]
    constructor
    · rintro ⟨options', hdenotes', hfree⟩
      rw [hdenotes.eq hdenotes']
      exact hfree
    · intro hfree
      exact ⟨options, hdenotes, hfree⟩
  · intro rest' options options' hlength hdenotes hdenotes' hsame
    rw [hlower rest' hlength, withOptions_eq hrest hdenotes, withOptions_eq (hlength.trans_le hrest) hdenotes',
      hsame.isSupported_eq, hagree _ _ hsame]

/-- A replacement with options in 64 bits, and one that is to run from the end. -/
theorem lowered_iff_of_options_of_replace :
    let subjects : List Expr :=
      [.column none "body" true (.scalar .string) none, .parameter "pattern" (.scalar .string) none,
        .parameter "text" (.scalar .string) none]
    let ignoringCase : RegexOptions := ignoreCase.union cultureInvariant
    let fromEnd : RegexOptions := ignoreCase.union rightToLeft
    ignoringCase.IsMadeOf equivalents ∧
      (∃ e, lowerAll (standard (.builtin {})) (.method .regex "Replace" 4)
        (subjects ++ [.constantOf (.builtin {}) (.scalar (.int64 513))]) = .ok (some e)) ∧
      ¬ fromEnd.IsFreeOf others ∧
      lowerAll (standard (.builtin {})) (.method .regex "Replace" 4)
        (subjects ++ [.constantOf (.builtin {}) fromEnd.toValue]) = .declined := by
  intro subjects ignoringCase fromEnd
  have hmade : ignoringCase.IsMadeOf equivalents := by decide
  have hknown : ignoringCase.IsMadeOf (equivalents ++ others) := by decide
  have hforeign : ¬ fromEnd.IsFreeOf others := by decide
  have hdenotes : Denotes [.constantOf (.builtin {}) (.scalar (.int64 513))] ignoringCase := .constant rfl rfl
  have hdenotesEnd : Denotes [.constantOf (.builtin {}) fromEnd.toValue] fromEnd := .constant rfl rfl
  let replace : Operation := .method .regex "Replace" 4
  have hsubjects : subjects.length = RegexOperation.replace.subjectCount := rfl
  have hlowered := lowered_iff_of_options (.builtin {}) (show replace.domain = .regex from rfl) rfl hsubjects
    (show [Expr.constantOf (.builtin {}) (.scalar (.int64 513))].length ≤ 1 from le_rfl) rfl
  have hdeclined := lowered_iff_of_options (.builtin {}) (show replace.domain = .regex from rfl) rfl hsubjects
    (show [Expr.constantOf (.builtin {}) fromEnd.toValue].length ≤ 1 from le_rfl) rfl
  refine ⟨hmade, (hlowered.2.2.1 _ hdenotes hknown).2 hmade, hforeign, hdeclined.2.1 ?_⟩
  rintro ⟨options, hdenotes', hfree⟩
  rw [← hdenotesEnd.eq hdenotes'] at hfree
  exact hforeign hfree

/-- A match with a bit that stands for no option, which is left out. -/
theorem lowered_of_nameless_bit :
    let options : RegexOptions := ⟨128⟩
    let pattern : Expr := .constantOf (.builtin {}) (.string "^a")
    (lowerAll (standard (.builtin {})) (.method .regex "IsMatch" 3)
        [.column none "body" true (.scalar .string) none, pattern,
          .constantOf (.builtin {}) options.toValue]).map (·.map Expr.text) = .ok (some "body ~ '(?p)^a'") ∧
      ¬ options.IsMadeOf equivalents :=
  ⟨by decide +kernel, by decide⟩

end Lowering

end SqlBridge
