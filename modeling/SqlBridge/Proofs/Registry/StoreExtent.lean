import SqlBridge.Proofs.Registry.Offers
import SqlBridge.Proofs.StoreType.Modifiers

/-!
# Where a store type ends

A store type stands bare behind the sign of a cast, and the text goes on behind it. It reaches as far as
characters of names, blanks before small letters, one pair of parentheses and one pair of brackets go. The store
types that a registry answers with are read back up to their ends.
-/

namespace SqlBridge

namespace StoreType

/-- The character belongs to a store type before the characters that follow: it stands between parentheses or
opens them, it is a character of names, or it is a blank before a small letter. -/
def goesOn (inside : Bool) (c : Char) (cs : List Char) : Bool :=
  inside || isNameChar c || c == '(' || (c == ' ' && cs.head?.any Char.isLower)

/-- What belongs to a store type at the start of a text, apart from brackets, and the rest of the text. -/
def splitName (inside : Bool) : List Char → List Char × List Char
  | [] => ([], [])
  | c :: cs =>
    if goesOn inside c cs then
      let p := splitName (c == '(' || (inside && c != ')')) cs
      (c :: p.1, p.2)
    else ([], c :: cs)

/-- The store type at the start of a text, and the rest of the text. -/
def readName (cs : List Char) : String × List Char :=
  match splitName false cs with
  | (name, '[' :: ']' :: rest) => (String.ofList (name ++ ['[', ']']), rest)
  | (name, rest) => (String.ofList name, rest)

/-- Whatever stands behind it, the text belongs to the store type as a whole. -/
def IsPassed (text : List Char) : Prop :=
  ∀ rest, splitName false (text ++ rest) = (text ++ (splitName false rest).1, (splitName false rest).2)

/-- A text that no store type goes on with. -/
structure IsEnd (rest : List Char) : Prop where
  stops : ∀ c cs, rest = c :: cs → goesOn false c cs = false
  noBrackets : ¬ ['[', ']'] <+: rest

/-- The store type is read back from its text before any text that no store type goes on with. -/
def IsDelimited (store : String) : Prop :=
  ∀ rest, IsEnd rest → readName (store.toList ++ rest) = (store, rest)

/-- Words of characters of names, each but the first behind one blank and in a small letter at its start. -/
def isWords : List Char → Bool
  | [] => true
  | c :: cs => (isNameChar c || (c == ' ' && cs.head?.any Char.isLower)) && isWords cs

/-! ## Texts that are passed -/

lemma IsPassed.append {x y : List Char} (hx : IsPassed x) (hy : IsPassed y) : IsPassed (x ++ y) := by
  intro rest
  rw [List.append_assoc, hx, hy, List.append_assoc]

lemma isPassed_nil : IsPassed [] := fun _ => rfl

lemma splitName_cons {inside : Bool} {c : Char} {cs : List Char} (h : goesOn inside c cs = true) :
    splitName inside (c :: cs) =
      (c :: (splitName (c == '(' || (inside && c != ')')) cs).1,
        (splitName (c == '(' || (inside && c != ')')) cs).2) := by
  rw [splitName, if_pos h]

lemma splitName_of_isEnd {rest : List Char} (h : IsEnd rest) : splitName false rest = ([], rest) := by
  cases rest with
  | nil => rfl
  | cons c cs => rw [splitName, h.stops c cs rfl, if_neg Bool.false_ne_true]

lemma isPassed_of_isWords {x : List Char} (h : isWords x = true) : IsPassed x := by
  induction x with
  | nil => exact isPassed_nil
  | cons c cs ih =>
    intro rest
    simp only [isWords, Bool.and_eq_true, Bool.or_eq_true, beq_iff_eq] at h
    obtain ⟨hc, hcs⟩ := h
    have hparen : (c == '(') = false := by
      rw [beq_eq_false_iff_ne]
      rintro rfl
      rcases hc with hc | ⟨hc, -⟩ <;> revert hc <;> decide
    have hgoes : goesOn false c (cs ++ rest) = true := by
      rcases hc with hc | ⟨rfl, hlower⟩
      · simp [goesOn, hc]
      · obtain ⟨d, hd, hlower⟩ := (Option.any_eq_true _ _).1 hlower
        simp [goesOn, List.head?_append, hd, hlower]
    rw [List.cons_append, splitName_cons hgoes, hparen, Bool.false_and, Bool.or_false, ih hcs rest]
    rfl

/-- Between parentheses, all belongs to the store type up to the one that closes. -/
lemma splitName_inside {x : List Char} (h : ')' ∉ x) (rest : List Char) :
    splitName true (x ++ ')' :: rest) = (x ++ ')' :: (splitName false rest).1, (splitName false rest).2) := by
  induction x with
  | nil => rw [List.nil_append, splitName_cons rfl]; rfl
  | cons c cs ih =>
    rw [List.mem_cons, not_or] at h
    obtain ⟨hc, hcs⟩ := h
    have hinside : (c == '(' || (true && c != ')')) = true := by
      simp [Ne.symm hc]
    rw [List.cons_append, splitName_cons rfl, hinside, ih hcs]
    rfl

lemma isPassed_modifier (f : Facets) : IsPassed f.modifier.toList := by
  by_cases hf : f.numbers = []
  · rw [Facets.modifier, hf]
    exact isPassed_nil
  · obtain ⟨first, second, hnumbers⟩ := Facets.exists_numbers hf
    rw [Facets.toList_modifier hnumbers]
    intro rest
    rw [List.cons_append, splitName_cons rfl, List.append_assoc, List.singleton_append]
    have hinside := splitName_inside (not_mem_inside first second) rest
    simp [hinside]

/-! ## Store types of answers -/

lemma isWords_of_nameChars {x : List Char} (h : ∀ c ∈ x, isNameChar c = true) : isWords x = true := by
  induction x with
  | nil => rfl
  | cons c cs ih =>
    obtain ⟨hc, hcs⟩ := List.forall_mem_cons.1 h
    rw [isWords, hc, ih hcs]
    rfl

lemma isWords_of_append {x y : List Char} (h : isWords (x ++ y) = true) : isWords y = true := by
  induction x with
  | nil => exact h
  | cons c cs ih =>
    rw [List.cons_append, isWords, Bool.and_eq_true] at h
    exact ih h.2

lemma isWords_takeWhile {x : List Char} (h : isWords x = true) : isWords (x.takeWhile (· != ' ')) = true := by
  induction x with
  | nil => rfl
  | cons c cs ih =>
    rw [isWords, Bool.and_eq_true] at h
    by_cases hc : c = ' '
    · subst hc
      rfl
    · have hname : isNameChar c = true := by
        simpa [hc] using h.1
      rw [List.takeWhile_cons_of_pos (by simpa using hc), isWords, hname, ih h.2]
      rfl

/-- Both parts of a name, before its modifiers and behind them, are words. -/
lemma isPassed_applyTo {name : String} (h : isWords name.toList = true) (f : Facets) :
    IsPassed (f.applyTo name).toList := by
  have hstem : isWords (Facets.stem name) = true := by
    rw [Facets.stem]
    split
    · exact isWords_takeWhile h
    · exact h
  have hending : isWords (Facets.ending name) = true := by
    rw [← Facets.stem_append_ending name] at h
    exact isWords_of_append h
  rw [Facets.toList_applyTo]
  exact (isPassed_of_isWords hstem).append ((isPassed_modifier f).append (isPassed_of_isWords hending))

lemma isDelimited_of_isPassed {store : String} (h : IsPassed store.toList) : IsDelimited store := by
  intro rest hrest
  rw [readName, h, splitName_of_isEnd hrest, List.append_nil]
  split
  · rename_i name rest' e
    cases e
    exact absurd ⟨rest', rfl⟩ hrest.noBrackets
  · rename_i name rest' _ e
    cases e
    rw [String.ofList_toList]

/-- With brackets behind it, the text ends there whatever comes next. -/
lemma isDelimited_brackets {store : String} (h : IsPassed store.toList) : IsDelimited (store ++ "[]") := by
  intro rest _
  -- what comes next may be brackets again: only the first pair belongs to the store type
  have hgoes : splitName false ('[' :: ']' :: rest) = ([], '[' :: ']' :: rest) := by
    rw [splitName]
    rfl
  have htext : (store ++ "[]").toList ++ rest = store.toList ++ '[' :: ']' :: rest := by
    simp
  rw [htext, readName, h, hgoes, List.append_nil]
  simp

end StoreType

namespace Registry

lemma isWords_of_mem_builtinNames {name : String} (h : name ∈ builtinNames) :
    StoreType.isWords name.toList = true := by
  have hall : ∀ name ∈ builtinNames, StoreType.isWords name.toList = true := by
    decide +kernel
  exact hall name h

/-- Where the user's own types have plain names, the store types of all answers are read back up to their ends. -/
theorem isDelimited_of_find {r : Registry} (h : r.ReachableBy IsPlainName) {q : Request} {d : Descriptor}
    (hd : r.find q = some d) : StoreType.IsDelimited d.storeType := by
  obtain ⟨name, hmem, hstore, -, -⟩ := names_of_find h hd
  have hwords : StoreType.isWords name.toList = true := by
    rcases h.names_spec.2 name hmem with hbuiltin | hplain
    · exact isWords_of_mem_builtinNames hbuiltin
    · exact StoreType.isWords_of_nameChars hplain
  have hpassed := StoreType.isPassed_applyTo hwords d.facets
  rw [hstore, Descriptor.brackets]
  split
  · exact StoreType.isDelimited_brackets hpassed
  · rw [String.append_empty]
    exact StoreType.isDelimited_of_isPassed hpassed

end Registry

end SqlBridge
