import Mathlib.Tactic.SplitIfs
import SqlBridge.Calendar.DateTime
import SqlBridge.Proofs.Descriptor.Content
import SqlBridge.Proofs.Sql.Number

/-!
# Reading offsets from UTC

Behind the time of day, the text of a time with an offset goes on with the offset: a sign, hours of at least two
digits, and minutes and seconds of two digits each behind colons, the latter only behind the former. Read as such it
gives back the offset, for every number of seconds, and the literals of the time hold the text as it is.
-/

namespace SqlBridge.ZonedTime

open Literal Sql Text

/-! ## Written offsets -/

/-- Offsets to the east have a plus sign and offsets to the west a minus sign. -/
def signOf? (mark : Char) : Option Int :=
  if mark = '+' then some 1 else if mark = '-' then some (-1) else none

/-- Two digits that spell a number below sixty. -/
structure IsSixtieth (digits : List Char) (n : Nat) : Prop where
  isDigits : IsDigits digits
  length : digits.length = 2
  value : Nat.ofDigitChars 10 digits 0 = n
  lt : n < 60

/-- Numbers below sixty, each behind a colon, the first of them counting the first unit and so on. There may be fewer
of them than units. -/
inductive SpellsParts : List Nat → List Char → Nat → Prop
  | none {units : List Nat} : SpellsParts units [] 0
  | more {unit k n : Nat} {units : List Nat} {digits cs : List Char} : IsSixtieth digits k →
    SpellsParts units cs n → SpellsParts (unit :: units) (':' :: (digits ++ cs)) (unit * k + n)

/-- A sign and hours, and behind them minutes and seconds, or minutes, or nothing. -/
inductive Spells : List Char → Int → Prop
  | mk {mark : Char} {sign : Int} {hours cs : List Char} {n : Nat} : signOf? mark = some sign → IsDigits hours →
    2 ≤ hours.length → SpellsParts [60, 1] cs n →
    Spells (mark :: (hours ++ cs)) (sign * (3600 * Nat.ofDigitChars 10 hours 0 + n : Nat))

/-- What a text has from its first sign on. -/
def fromSign (cs : List Char) : List Char :=
  cs.dropWhile fun c => (signOf? c).isNone

/-- The number that parts of the units spell together. -/
def readParts? : List Nat → List Char → Option Nat
  | _, [] => some 0
  | [], _ :: _ => none
  | unit :: units, mark :: cs => do
    let (k, rest) ← Instant.readPair? 60 (← expect? ':' (mark :: cs))
    let n ← readParts? units rest
    some (unit * k + n)

/-- The offset that a text spells. -/
def readOffset? : List Char → Option Int
  | [] => none
  | mark :: cs => do
    let sign ← signOf? mark
    let hours := cs.takeWhile Char.isDigit
    let n ← readParts? [60, 1] (cs.dropWhile Char.isDigit)
    if 2 ≤ hours.length then some (sign * (3600 * Nat.ofDigitChars 10 hours 0 + n : Nat)) else none

variable {mark : Char} {sign offset : Int} {digits cs rest : List Char} {n : Nat} {units : List Nat}

lemma signOf?_eq_some : signOf? mark = some sign ↔ mark = '+' ∧ sign = 1 ∨ mark = '-' ∧ sign = -1 := by
  rw [signOf?]
  split_ifs with hplus hminus
  · subst hplus
    simp [eq_comm]
  · subst hminus
    simp [eq_comm]
  · simp [hplus, hminus]

/-- Two digits at the start of a text, whatever comes behind them. -/
lemma readPair?_eq_some :
    Instant.readPair? 60 cs = some (n, rest) ↔ ∃ digits, IsSixtieth digits n ∧ cs = digits ++ rest := by
  constructor
  · intro h
    match cs with
    | a :: b :: cs =>
      obtain ⟨k, hk, h⟩ := Option.bind_eq_some_iff.1 h
      obtain ⟨hne, hdigits, rfl⟩ := readNat?_eq_some.1 hk
      split at h
      · rename_i hlt
        cases h
        exact ⟨[a, b], ⟨⟨hne, hdigits⟩, rfl, rfl, hlt⟩, rfl⟩
      · cases h
  · rintro ⟨digits, h, rfl⟩
    obtain ⟨a, b, rfl⟩ := List.length_eq_two.1 h.length
    have hread : readNat? [a, b] = some n := readNat?_eq_some.2 ⟨h.isDigits.1, h.isDigits.2, h.value⟩
    rw [List.cons_append, List.singleton_append, Instant.readPair?, hread]
    exact if_pos h.lt

lemma readParts?_eq_some : readParts? units cs = some n ↔ SpellsParts units cs n := by
  induction units generalizing cs n with
  | nil =>
    cases cs with
    | nil =>
      constructor
      · rintro ⟨⟩
        exact .none
      · rintro ⟨⟩
        rfl
    | cons mark cs => exact iff_of_false nofun nofun
  | cons unit units ih =>
    constructor
    · intro h
      cases cs with
      | nil =>
        cases h
        exact .none
      | cons mark cs =>
        obtain ⟨more, hmark, h⟩ := Option.bind_eq_some_iff.1 h
        obtain ⟨⟨k, rest⟩, hpair, h⟩ := Option.bind_eq_some_iff.1 h
        obtain ⟨m, hparts, h⟩ := Option.bind_eq_some_iff.1 h
        cases h
        obtain ⟨digits, hdigits, rfl⟩ := readPair?_eq_some.1 hpair
        rw [expect?_eq_some.1 hmark]
        exact .more hdigits (ih.1 hparts)
    · intro h
      cases h with
      | none => rfl
      | more hdigits hparts =>
        rw [readParts?, expect?_eq_some.2 rfl]
        simp only [Option.bind_eq_bind, Option.bind_some, readPair?_eq_some.2 ⟨_, hdigits, rfl⟩, ih.2 hparts]

lemma SpellsParts.stops (h : SpellsParts units cs n) : ∀ c ∈ cs.head?, c.isDigit = false := by
  cases h with
  | none => nofun
  | more _ _ =>
    rintro _ ⟨⟩
    rfl

/-- The reader takes the written offsets and nothing else. -/
lemma readOffset?_eq_some : readOffset? cs = some offset ↔ Spells cs offset := by
  constructor
  · intro h
    cases cs with
    | nil => cases h
    | cons mark cs =>
      obtain ⟨sign, hsign, h⟩ := Option.bind_eq_some_iff.1 h
      obtain ⟨n, hparts, h⟩ := Option.bind_eq_some_iff.1 h
      have hrun := isRun_span Char.isDigit cs
      split at h
      · rename_i hlength
        cases h
        have hne : cs.takeWhile Char.isDigit ≠ [] := by
          intro hnil
          rw [hnil] at hlength
          cases hlength
        have hspells := Spells.mk hsign ⟨hne, hrun.all⟩ hlength (readParts?_eq_some.1 hparts)
        rwa [List.takeWhile_append_dropWhile] at hspells
      · cases h
  · rintro ⟨hsign, hhours, hlength, hparts⟩
    have hrun : IsRun Char.isDigit _ _ := ⟨hhours.2, hparts.stops⟩
    rw [readOffset?, hsign, hrun.dropWhile, hrun.takeWhile, readParts?_eq_some.2 hparts]
    exact if_pos hlength

example : readOffset? "-00:00:01".toList = some (-1) := by
  decide +kernel

lemma Spells.unique {offset' : Int} (h : Spells cs offset) (h' : Spells cs offset') : offset = offset' := by
  rw [← readOffset?_eq_some] at h h'
  exact Option.some.inj (h.symm.trans h')

/-! ## Texts of offsets -/

lemma isSixtieth_paddedDigits (h : n < 60) : IsSixtieth (paddedDigits 2 n) n where
  isDigits := isDigits_paddedDigits 2 n
  length := by
    apply length_paddedDigits
    rw [Nat.length_toDigits_le_iff (by decide) (by decide)]
    omega
  value := ofDigitChars_paddedDigits 2 n
  lt := h

/-- Minutes are written when there are minutes or seconds, and seconds when there are any. -/
lemma spellsParts_text (n : Nat) :
    SpellsParts [60, 1] ((if n % 3600 = 0 then "" else ":" ++ padded 2 (n % 3600 / 60)) ++
      (if n % 60 = 0 then "" else ":" ++ padded 2 (n % 60))).toList (n % 3600) := by
  have hminutes : IsSixtieth (paddedDigits 2 (n % 3600 / 60)) (n % 3600 / 60) := isSixtieth_paddedDigits (by omega)
  have hseconds : IsSixtieth (paddedDigits 2 (n % 60)) (n % 60) := isSixtieth_paddedDigits (by omega)
  by_cases hhours : n % 3600 = 0
  · -- whole hours are whole minutes, so that seconds never stand alone
    have hwhole : n % 60 = 0 := by omega
    rw [if_pos hhours, if_pos hwhole, hhours]
    exact .none
  by_cases hwhole : n % 60 = 0
  · have hvalue : 60 * (n % 3600 / 60) + 0 = n % 3600 := by omega
    have hspells : SpellsParts [60, 1] _ _ := .more hminutes .none
    rw [hvalue] at hspells
    simpa [hhours, hwhole, padded] using hspells
  · have hvalue : 60 * (n % 3600 / 60) + (1 * (n % 60) + 0) = n % 3600 := by omega
    have hspells : SpellsParts [60, 1] _ _ := .more hminutes (.more hseconds .none)
    rw [hvalue] at hspells
    simpa [hhours, hwhole, padded] using hspells

lemma spells_offsetText (offset : Int) : Spells (offsetText offset).toList offset := by
  have hspells {mark : Char} {sign : Int} (h : signOf? mark = some sign) :=
    Spells.mk h (isDigits_paddedDigits 2 (offset.natAbs / 3600)) (le_length_paddedDigits 2 _)
      (spellsParts_text offset.natAbs)
  rw [ofDigitChars_paddedDigits, Nat.div_add_mod] at hspells
  rw [offsetText]
  -- the absolute value is a natural number, which is there for the least offset, too
  by_cases h : offset < 0
  · have hvalue : -1 * (offset.natAbs : Int) = offset := by omega
    have hwest : Spells ('-' :: _) _ := hspells rfl
    rw [hvalue] at hwest
    simpa [h, padded] using hwest
  · have hvalue : 1 * (offset.natAbs : Int) = offset := by omega
    have heast : Spells ('+' :: _) _ := hspells rfl
    rw [hvalue] at heast
    simpa [h, padded] using heast

/-! ## Texts of times -/

/-- The text has digits and the marks only. -/
def IsMadeOf (marks cs : List Char) : Prop :=
  ∀ c ∈ cs, c.isDigit = true ∨ c ∈ marks

section

variable {marks cs' : List Char}

lemma IsMadeOf.append (h : IsMadeOf marks cs) (h' : IsMadeOf marks cs') : IsMadeOf marks (cs ++ cs') :=
  List.forall_mem_append.2 ⟨h, h'⟩

lemma IsMadeOf.cons {c : Char} (hc : c ∈ marks) (h : IsMadeOf marks cs) : IsMadeOf marks (c :: cs) :=
  List.forall_mem_cons.2 ⟨.inr hc, h⟩

lemma IsMadeOf.not_mem {c : Char} (h : IsMadeOf marks cs) (hdigit : c.isDigit = false) (hmark : c ∉ marks) :
    c ∉ cs := by
  intro hc
  rcases h c hc with hdigit' | hmem
  · rw [hdigit] at hdigit'
    cases hdigit'
  · exact hmark hmem

lemma isMadeOf_digits (h : IsDigits digits) : IsMadeOf marks digits :=
  fun c hc => .inl (h.2 c hc)

lemma isMadeOf_padded (width n : Nat) : IsMadeOf marks (padded width n).toList := by
  rw [padded, String.toList_ofList]
  exact isMadeOf_digits (isDigits_paddedDigits width n)

end

lemma isMadeOf_time (t : TimeOfDay) : IsMadeOf [':', '.'] t.text.toList := by
  have hcolon : IsMadeOf [':', '.'] ":".toList := IsMadeOf.cons (by decide) nofun
  have hpoint : IsMadeOf [':', '.'] ".".toList := IsMadeOf.cons (by decide) nofun
  have hfraction (n : Nat) : IsMadeOf [':', '.'] (TimeOfDay.fractionText n).toList := by
    rw [TimeOfDay.fractionText]
    split_ifs
    · exact nofun
    all_goals
      rw [String.toList_append]
      exact hpoint.append (isMadeOf_padded _ _)
  rw [TimeOfDay.text]
  simp only [String.toList_append]
  exact (isMadeOf_padded _ _).append hcolon |>.append (isMadeOf_padded _ _) |>.append hcolon
    |>.append (isMadeOf_padded _ _) |>.append (hfraction _)

lemma Spells.stops (h : Spells cs offset) : ∀ c ∈ cs.head?, (signOf? c).isNone = false := by
  obtain ⟨hsign, -, -, -⟩ := h
  rintro _ ⟨⟩
  rw [hsign]
  rfl

/-- The first sign of a text stands right behind the time of day. -/
lemma fromSign_text (t : ZonedTime) : fromSign t.text.toList = (offsetText t.offset.toInt).toList := by
  have htime := isMadeOf_time t.time
  have hrun : IsRun (fun c => (signOf? c).isNone) t.time.text.toList (offsetText t.offset.toInt).toList := by
    refine ⟨fun c hc => ?_, (spells_offsetText _).stops⟩
    -- the marks of a time of day are colons and a point
    have hplus : c ≠ '+' := by
      rintro rfl
      exact htime.not_mem rfl (by decide) hc
    have hminus : c ≠ '-' := by
      rintro rfl
      exact htime.not_mem rfl (by decide) hc
    rw [signOf?, if_neg hplus, if_neg hminus]
    rfl
  rw [fromSign, text, String.toList_append, hrun.dropWhile]

lemma SpellsParts.isMadeOf {marks : List Char} (hcolon : ':' ∈ marks) (h : SpellsParts units cs n) :
    IsMadeOf marks cs := by
  induction h with
  | none => exact nofun
  | more hdigits _ ih => exact .cons hcolon ((isMadeOf_digits hdigits.isDigits).append ih)

lemma Spells.isMadeOf (h : Spells cs offset) : IsMadeOf [':', '.', '+', '-'] cs := by
  obtain ⟨hsign, hhours, -, hparts⟩ := h
  have hrest : IsMadeOf [':', '.', '+', '-'] _ := hparts.isMadeOf (by decide)
  have htail := (isMadeOf_digits hhours).append hrest
  rcases signOf?_eq_some.1 hsign with ⟨rfl, -⟩ | ⟨rfl, -⟩
  · exact htail.cons (by decide)
  · exact htail.cons (by decide)

lemma isMadeOf_text (t : ZonedTime) : IsMadeOf [':', '.', '+', '-'] t.text.toList := by
  have htime : IsMadeOf [':', '.', '+', '-'] t.time.text.toList := by
    intro c hc
    exact (isMadeOf_time t.time c hc).imp_right fun h => List.mem_append_left ['+', '-'] h
  rw [text, String.toList_append]
  exact htime.append (spells_offsetText _).isMadeOf

/-! ## Literals -/

lemma item_text (t : ZonedTime) : item false t.text = t.text := by
  have hcolon : ':' ∈ t.text.toList := by
    simp [text, TimeOfDay.text]
  refine item_of_not_mark hcolon (by decide) fun c hc => ?_
  rcases isMadeOf_text t c hc with hdigit | hmark
  · exact isItemMark_of_isDigit hdigit
  · have hmarks : [':', '.', '+', '-'].all (!isItemMark ·) = true := by decide
    exact (Bool.not_eq_true' _).mp (List.all_eq_true.1 hmarks c hmark)

lemma writesPlainly {s : Signature} (hdb : s.dbType = .plain .timeTz) (t : ZonedTime) :
    (Descriptor.scalar s).WritesPlainly (.scalar (.timeTz t)) t.text := by
  have hspelling : spelling s.dbType = .quoted := by
    rw [hdb]
    rfl
  have hbare : alwaysQuotesItems s.dbType = false := by
    rw [hdb]
    rfl
  have hraw : s.rawText (.scalar (.timeTz t)) = .ok t.text := by
    rw [Signature.rawText, hdb]
    rfl
  have hquote : '\'' ∉ t.text.toList := (isMadeOf_text t).not_mem rfl (by decide)
  exact Descriptor.writesPlainly_of_rawText hspelling hbare nofun hraw (item_text t) hquote

/-- Behind the time of day, from the first sign on, the text of a time with an offset spells that offset and no other
one. The literals of the time by a store type of such times are the text as it is, in quotes and with a cast. -/
theorem offset_of_text (t : ZonedTime) :
    t.text.toList = t.time.text.toList ++ fromSign t.text.toList ∧
      (∀ offset, Spells (fromSign t.text.toList) offset ↔ offset = t.offset.toInt) ∧
      ∀ s : Signature, s.dbType = .plain .timeTz →
        (Descriptor.scalar s).WritesPlainly (.scalar (.timeTz t)) t.text := by
  have hspells := spells_offsetText t.offset.toInt
  rw [fromSign_text]
  refine ⟨by rw [text, String.toList_append], fun offset => ?_, fun s hdb => writesPlainly hdb t⟩
  constructor
  · exact fun h => h.unique hspells
  · rintro rfl
    exact hspells

/-- The least of all offsets, behind a leap second. -/
theorem offset_of_text_of_limits :
    let s := Signature.plain "time with time zone" (.scalar .timeTz) (.plain .timeTz)
    let t : ZonedTime := ⟨⟨3599, 1500000000⟩, Int32.minValue⟩
    s.dbType = .plain .timeTz ∧ t.text = "00:59:60.500-596523:14:08" ∧
      (∀ offset, Spells "-596523:14:08".toList offset ↔ offset = -2147483648) ∧
      (Descriptor.scalar s).toplevel (.scalar (.timeTz t)) =
        .ok "'00:59:60.500-596523:14:08'::time with time zone" := by
  intro s t
  have htext : t.text = "00:59:60.500-596523:14:08" := by decide +kernel
  obtain ⟨-, hspells, hliterals⟩ := offset_of_text t
  have hsign : fromSign t.text.toList = "-596523:14:08".toList := by
    rw [htext]
    decide +kernel
  rw [hsign] at hspells
  have htop := (hliterals s rfl).toplevel
  rw [htext] at htop
  exact ⟨rfl, htext, hspells, htop⟩

end SqlBridge.ZonedTime
