import SqlBridge.Calendar.Interval
import SqlBridge.Number.Power
import SqlBridge.Proofs.Sql.Number
import SqlBridge.Proofs.Text.Runs

/-!
# Reading intervals

The text of an interval is a duration of numbers with designators: years, months and days, and after a `T` hours,
minutes and seconds. Read as such it gives back the months, the days and the microseconds.
-/

namespace SqlBridge.Interval

open Sql Text

/-! ## Durations -/

/-- The number of a sign and an absolute value. -/
def signed (negative : Bool) (n : Nat) : Int :=
  if negative then -n else n

/-- The number that digits before and behind a point spell, as a multiple of the last place. -/
def inPlaces (places : Nat) (whole fraction : List Char) : Nat :=
  tenTo places * Nat.ofDigitChars 10 whole 0 + tenTo (places - fraction.length) * Nat.ofDigitChars 10 fraction 0

/-- Digits, and behind a point at most as many more as there are places. -/
def readPlaces? (places : Nat) (cs : List Char) : Option (Nat × List Char) :=
  let whole := cs.takeWhile Char.isDigit
  if whole.isEmpty then none
  else
    match cs.dropWhile Char.isDigit with
    | '.' :: rest =>
      let fraction := rest.takeWhile Char.isDigit
      if fraction.isEmpty || decide (places < fraction.length) then none
      else some (inPlaces places whole fraction, rest.dropWhile Char.isDigit)
    | rest => some (inPlaces places whole [], rest)

/-- A number with its sign. -/
def readNumber? (places : Nat) : List Char → Option (Int × List Char)
  | '-' :: cs => (readPlaces? places cs).map fun (n, rest) => (signed true n, rest)
  | cs => (readPlaces? places cs).map fun (n, rest) => (signed false n, rest)

/-- The number before a designator, if the text starts with both, and what is left of the text. -/
def takePart (places : Nat) (designator : Char) (cs : List Char) : Option Int × List Char :=
  match readNumber? places cs with
  | some (n, c :: rest) => if c = designator then (some n, rest) else (none, cs)
  | _ => (none, cs)

/-- The microseconds of hours, minutes and seconds, one of which is there at least. -/
def readTime? (cs : List Char) : Option Int :=
  let (hours, cs) := takePart 0 'H' cs
  let (minutes, cs) := takePart 0 'M' cs
  let (seconds, cs) := takePart 6 'S' cs
  if cs.isEmpty && (hours.isSome || minutes.isSome || seconds.isSome) then
    some (3600000000 * hours.getD 0 + 60000000 * minutes.getD 0 + seconds.getD 0)
  else none

/-- The microseconds of what comes behind the days of a duration: nothing, unless there is no part before either, or a
`T` and parts. -/
def readTail? (isParted : Bool) : List Char → Option Int
  | [] => if isParted then some 0 else none
  | 'T' :: cs => readTime? cs
  | _ => none

/-- The months, days and microseconds of a duration. -/
def read? : List Char → Option (Int × Int × Int)
  | 'P' :: cs =>
    let (years, cs) := takePart 0 'Y' cs
    let (months, cs) := takePart 0 'M' cs
    let (days, cs) := takePart 0 'D' cs
    (readTail? (years.isSome || months.isSome || days.isSome) cs).map fun micros =>
      (12 * years.getD 0 + months.getD 0, days.getD 0, micros)
  | _ => none

/-! ## Numbers -/

/-- Places after a point, or nothing. -/
def pointed : List Char → List Char
  | [] => []
  | fraction => '.' :: fraction

/-- The text of a number: a sign, digits, and places after a point if there are any. -/
def spelled (negative : Bool) (whole fraction : List Char) : List Char :=
  (if negative then ['-'] else []) ++ (whole ++ pointed fraction)

/-- The letters that stand behind numbers. -/
def designators : List Char :=
  ['Y', 'M', 'D', 'H', 'S']

section

variable {places : Nat} {whole fraction rest : List Char} {c c' : Char} {negative : Bool}
  (hwhole : IsDigits whole) (hfraction : ∀ c ∈ fraction, c.isDigit = true) (hc : c ∈ designators)
include hwhole hfraction hc

lemma readPlaces?_pointed :
    readPlaces? places (whole ++ (pointed fraction ++ c :: rest)) =
      if places < fraction.length then none
      else some (inPlaces places whole fraction, c :: rest) := by
  obtain ⟨hdigit, hpoint⟩ : c.isDigit = false ∧ c ≠ '.' := by
    simp only [designators, List.mem_cons, List.not_mem_nil, or_false] at hc
    rcases hc with rfl | rfl | rfl | rfl | rfl <;> decide
  have hempty : ¬ whole.isEmpty = true := fun h => hwhole.1 (List.isEmpty_iff.1 h)
  cases fraction with
  | nil =>
    have hrun : IsRun Char.isDigit whole (c :: rest) := ⟨hwhole.2, by rintro _ ⟨⟩; exact hdigit⟩
    rw [readPlaces?, pointed, List.nil_append, hrun.takeWhile, hrun.dropWhile, if_neg hempty, List.length_nil,
      if_neg (Nat.not_lt_zero places)]
    split
    · rename_i hrest
      exact absurd (List.cons.inj hrest).1 hpoint
    · rfl
  | cons d ds =>
    have hrun : IsRun Char.isDigit whole ('.' :: (d :: ds ++ c :: rest)) := ⟨hwhole.2, by rintro _ ⟨⟩; rfl⟩
    have hrun' : IsRun Char.isDigit (d :: ds) (c :: rest) := ⟨hfraction, by rintro _ ⟨⟩; exact hdigit⟩
    rw [readPlaces?, pointed, List.cons_append, hrun.takeWhile, hrun.dropWhile, if_neg hempty]
    · simp only [hrun'.takeWhile, hrun'.dropWhile, List.isEmpty_cons, Bool.false_or, decide_eq_true_eq]
    · nofun

lemma readNumber?_spelled :
    readNumber? places (spelled negative whole fraction ++ c :: rest) =
      if places < fraction.length then none
      else some (signed negative (inPlaces places whole fraction), c :: rest) := by
  have hread : readPlaces? places (whole ++ (pointed fraction ++ c :: rest)) = _ :=
    readPlaces?_pointed hwhole hfraction hc
  rw [spelled, List.append_assoc, List.append_assoc]
  cases negative with
  | true =>
    rw [if_pos rfl, List.singleton_append, readNumber?, hread]
    split <;> rfl
  | false =>
    rw [if_neg Bool.false_ne_true, List.nil_append, readNumber?, hread]
    · split <;> rfl
    · intro cs hcs
      cases whole with
      | nil => exact hwhole.1 rfl
      | cons d ds =>
        have hminus := hwhole.2 d List.mem_cons_self
        rw [(List.cons.inj hcs).1] at hminus
        cases hminus

/-- A number is taken before its designator if there are places for it. -/
lemma takePart_spelled (hplaces : fraction.length ≤ places) :
    takePart places c (spelled negative whole fraction ++ c :: rest) =
      (some (signed negative (inPlaces places whole fraction)), rest) := by
  rw [takePart, readNumber?_spelled hwhole hfraction hc, if_neg (Nat.not_lt.2 hplaces)]
  exact if_pos rfl

/-- A number is not taken before another designator. -/
lemma takePart_spelled_of_ne (hne : c ≠ c') :
    takePart places c' (spelled negative whole fraction ++ c :: rest) =
      (none, spelled negative whole fraction ++ c :: rest) := by
  rw [takePart, readNumber?_spelled hwhole hfraction hc]
  by_cases hplaces : places < fraction.length
  · rw [if_pos hplaces]
  · rw [if_neg hplaces]
    exact if_neg hne

end

/-! ## Numbers of a text -/

lemma signed_natAbs (n : Int) : signed (decide (n < 0)) n.natAbs = n := by
  rw [signed]
  by_cases h : n < 0
  · rw [if_pos (decide_eq_true h)]
    omega
  · rw [if_neg (by rwa [decide_eq_true_eq])]
    omega

lemma inPlaces_toDigits (n : Nat) : inPlaces 0 (Nat.toDigits 10 n) [] = n := by
  rw [inPlaces, Nat.ofDigitChars_ten_toDigits, Nat.ofDigitChars_nil, Nat.mul_zero, Nat.add_zero]
  exact Nat.one_mul n

lemma toList_toString (n : Int) :
    (toString n).toList = spelled (decide (n < 0)) (Nat.toDigits 10 n.natAbs) [] := by
  rw [Int.toString_eq_repr, Int.repr_eq_if, spelled, pointed, List.append_nil]
  by_cases h : 0 ≤ n
  · have hnat : n.toNat = n.natAbs := by omega
    rw [if_pos h, if_neg (by simpa using h), Nat.toList_repr, List.nil_append, hnat]
  · have hnat : (-n).toNat = n.natAbs := by omega
    rw [if_neg h, if_pos (by simpa using h), String.toList_append, Nat.toList_repr, hnat]
    rfl

/-! ## Places -/

/-- Digits are what is left of them without the zeros at their end, and these zeros. -/
lemma exists_dropTrailingZeros (digits : List Char) :
    ∃ k, dropTrailingZeros digits ++ List.replicate k '0' = digits := by
  have hzeros : ∀ c ∈ digits.reverse.takeWhile (· == '0'), c = '0' := by
    intro c hc
    have hc' := List.mem_takeWhile_imp hc
    exact eq_of_beq hc'
  refine ⟨(digits.reverse.takeWhile (· == '0')).length, ?_⟩
  rw [dropTrailingZeros, ← List.reverse_replicate, ← List.eq_replicate_of_mem hzeros, ← List.reverse_append,
    List.takeWhile_append_dropWhile, List.reverse_reverse]

/-- The digits of the millionths that a number has beside millions, without the zeros at their end. -/
def millionths (n : Nat) : List Char :=
  dropTrailingZeros (paddedDigits 6 (n % 1000000))

/-- Millionths are six digits but for zeros. -/
lemma exists_millionths (n : Nat) : ∃ k, millionths n ++ List.replicate k '0' = paddedDigits 6 (n % 1000000) ∧
    (millionths n).length + k = 6 := by
  obtain ⟨k, hk⟩ := exists_dropTrailingZeros (paddedDigits 6 (n % 1000000))
  have hdigits : (Nat.toDigits 10 (n % 1000000)).length ≤ 6 :=
    (Nat.length_toDigits_le_iff (by decide) (by decide)).2 (Nat.mod_lt n (by decide))
  refine ⟨k, hk, ?_⟩
  have hlength := congrArg List.length hk
  rw [List.length_append, List.length_replicate, length_paddedDigits hdigits] at hlength
  exact hlength

lemma length_millionths_le (n : Nat) : (millionths n).length ≤ 6 := by
  obtain ⟨k, -, hlength⟩ := exists_millionths n
  omega

lemma isDigit_millionths (n : Nat) : ∀ c ∈ millionths n, c.isDigit = true := by
  intro c hc
  obtain ⟨k, hk, -⟩ := exists_millionths n
  apply (isDigits_paddedDigits 6 (n % 1000000)).2 c
  rw [← hk]
  exact List.mem_append_left _ hc

/-- The zeros that are left out do not change what the places stand for. -/
lemma inPlaces_millionths (n : Nat) : inPlaces 6 (Nat.toDigits 10 (n / 1000000)) (millionths n) = n := by
  obtain ⟨k, hk, hlength⟩ := exists_millionths n
  have hzeros : 6 - (millionths n).length = k := by omega
  have hvalue : tenTo k * Nat.ofDigitChars 10 (millionths n) 0 = n % 1000000 := by
    have hdigits := ofDigitChars_paddedDigits 6 (n % 1000000)
    rw [← hk, Nat.ofDigitChars_append, Nat.ofDigitChars_replicate_zero] at hdigits
    exact hdigits
  rw [inPlaces, hzeros, hvalue, Nat.ofDigitChars_ten_toDigits]
  exact Nat.div_add_mod n 1000000

lemma toList_secondsText (n : Int) :
    (secondsText n).toList =
      spelled (decide (n < 0)) (Nat.toDigits 10 (n.natAbs / 1000000)) (millionths n.natAbs) := by
  have hsign : (if n < 0 then "-" else "").toList = if decide (n < 0) then ['-'] else [] := by
    by_cases h : n < 0
    · rw [if_pos h, if_pos (decide_eq_true h)]
      rfl
    · rw [if_neg h, if_neg (by rwa [decide_eq_true_eq])]
      rfl
  have hpoint (fraction : List Char) :
      (if fraction.isEmpty then "" else "." ++ String.ofList fraction).toList = pointed fraction := by
    cases fraction with
    | nil => rfl
    | cons d ds => simp [pointed]
  simp only [secondsText, spelled, millionths, String.toList_append, hsign, hpoint, Nat.toString_eq_ofList_toDigits,
    String.toList_ofList, List.append_assoc]

/-! ## Parts -/

/-- The number that a part shows: a zero is not there. -/
def shown (n : Int) : Option Int :=
  if n = 0 then none else some n

lemma getD_shown (n : Int) : (shown n).getD 0 = n := by
  rw [shown]
  split
  · rename_i h
    rw [h]
    rfl
  · rfl

lemma isSome_shown {n : Int} : (shown n).isSome = true ↔ n ≠ 0 := by
  rw [shown]
  split
  · rename_i h
    exact iff_of_false Bool.false_ne_true fun hne => hne h
  · rename_i h
    exact iff_of_true rfl h

section

variable {places : Nat} {n : Int} {designator : String} {c c' : Char} {rest : List Char}

lemma toList_part (hd : designator.toList = [c]) (h : n ≠ 0) :
    (part n designator).toList ++ rest = spelled (decide (n < 0)) (Nat.toDigits 10 n.natAbs) [] ++ c :: rest := by
  rw [part, if_neg h, String.toList_append, toList_toString, hd, List.append_assoc, List.singleton_append]

/-- A part is taken before its designator. -/
lemma takePart_part (hd : designator.toList = [c]) (hc : c ∈ designators)
    (hrest : takePart 0 c rest = (none, rest)) :
    takePart 0 c ((part n designator).toList ++ rest) = (shown n, rest) := by
  by_cases h : n = 0
  · rw [part, shown, if_pos h, if_pos h]
    exact hrest
  · rw [toList_part hd h, takePart_spelled (isDigits_toDigits _) (List.forall_mem_nil _) hc (Nat.le_refl 0),
      inPlaces_toDigits, signed_natAbs, shown, if_neg h]

/-- Before a part with another designator nothing is taken, unless there is something behind it. -/
lemma takePart_part_of_ne (hd : designator.toList = [c]) (hc : c ∈ designators) (hne : c ≠ c')
    (hrest : takePart places c' rest = (none, rest)) :
    takePart places c' ((part n designator).toList ++ rest) = (none, (part n designator).toList ++ rest) := by
  by_cases h : n = 0
  · rw [part, if_pos h]
    exact hrest
  · rw [toList_part hd h]
    exact takePart_spelled_of_ne (isDigits_toDigits _) (List.forall_mem_nil _) hc hne

end

/-! ## Seconds -/

section

variable {places : Nat} {c : Char}

lemma toList_seconds (n : Int) :
    (secondsText n ++ "S").toList =
      spelled (decide (n < 0)) (Nat.toDigits 10 (n.natAbs / 1000000)) (millionths n.natAbs) ++ ['S'] := by
  rw [String.toList_append, toList_secondsText]
  rfl

/-- Seconds are taken as microseconds. -/
lemma takePart_seconds (n : Int) : takePart 6 'S' (secondsText n ++ "S").toList = (some n, []) := by
  rw [toList_seconds,
    takePart_spelled (isDigits_toDigits _) (isDigit_millionths _) (by decide) (length_millionths_le _),
    inPlaces_millionths, signed_natAbs]

lemma takePart_seconds_of_ne (hne : 'S' ≠ c) (n : Int) :
    takePart places c (secondsText n ++ "S").toList = (none, (secondsText n ++ "S").toList) := by
  rw [toList_seconds]
  exact takePart_spelled_of_ne (isDigits_toDigits _) (isDigit_millionths _) (by decide) hne

end

/-! ## Texts -/

lemma readTime?_parts {hours minutes : Int} {seconds : Option Int} {rest : List Char}
    (hrest : takePart 6 'S' rest = (seconds, [])) (hother : ∀ c, 'S' ≠ c → takePart 0 c rest = (none, rest))
    (hsome : hours ≠ 0 ∨ minutes ≠ 0 ∨ seconds.isSome = true) :
    readTime? ((part hours "H").toList ++ ((part minutes "M").toList ++ rest)) =
      some (3600000000 * hours + 60000000 * minutes + seconds.getD 0) := by
  have hminutes : takePart 0 'M' ((part minutes "M").toList ++ rest) = (shown minutes, rest) :=
    takePart_part rfl (by decide) (hother 'M' (by decide))
  have hhours : takePart 0 'H' ((part hours "H").toList ++ ((part minutes "M").toList ++ rest)) =
      (shown hours, (part minutes "M").toList ++ rest) :=
    takePart_part rfl (by decide)
      (takePart_part_of_ne (c := 'M') rfl (by decide) (by decide) (hother 'H' (by decide)))
  have hany : ((shown hours).isSome || (shown minutes).isSome || seconds.isSome) = true := by
    rw [Bool.or_eq_true, Bool.or_eq_true, isSome_shown, isSome_shown, or_assoc]
    exact hsome
  simp only [readTime?, hhours, hminutes, hrest, hany, List.isEmpty_nil, Bool.and_true, if_true, getD_shown]

lemma readTime?_timeText (n : Int) : readTime? (timeText n).toList = some n := by
  have hhours : 3600000000 * n.tdiv 3600000000 + n.tmod 3600000000 = n := Int.mul_tdiv_add_tmod n 3600000000
  have hminutes : 60000000 * (n.tmod 3600000000).tdiv 60000000 + n.tmod 60000000 = n.tmod 3600000000 := by
    have hmod : (n.tmod 3600000000).tmod 60000000 = n.tmod 60000000 := Int.tmod_tmod_of_dvd n ⟨60, by decide⟩
    rw [← hmod]
    exact Int.mul_tdiv_add_tmod (n.tmod 3600000000) 60000000
  rw [timeText]
  simp only [String.toList_append, List.append_assoc]
  -- seconds that are not shown are zero, and then there are hours or minutes
  split
  · rw [readTime?_parts (takePart_seconds _) (fun c hc => takePart_seconds_of_ne hc _) (.inr (.inr rfl)),
      Option.getD_some]
    congr 1
    omega
  · rename_i hshown
    push Not at hshown
    obtain ⟨hrest, hsome⟩ := hshown
    have hnone : takePart 6 'S' "".toList = (none, []) := rfl
    rw [readTime?_parts hnone (fun _ _ => rfl), Option.getD_none]
    · congr 1
      omega
    · omega

lemma read?_parts {years months days : Int} {rest : List Char} (hother : ∀ c, takePart 0 c rest = (none, rest)) :
    read? ('P' :: ((part years "Y").toList ++ ((part months "M").toList ++ ((part days "D").toList ++ rest)))) =
      (readTail? (decide (years ≠ 0 ∨ months ≠ 0 ∨ days ≠ 0)) rest).map fun micros =>
        (12 * years + months, days, micros) := by
  have hdays : takePart 0 'D' ((part days "D").toList ++ rest) = (shown days, rest) :=
    takePart_part rfl (by decide) (hother 'D')
  have hmonths : takePart 0 'M' ((part months "M").toList ++ ((part days "D").toList ++ rest)) =
      (shown months, (part days "D").toList ++ rest) :=
    takePart_part rfl (by decide) (takePart_part_of_ne (c := 'D') rfl (by decide) (by decide) (hother 'M'))
  have hyears : takePart 0 'Y' ((part years "Y").toList ++
      ((part months "M").toList ++ ((part days "D").toList ++ rest))) =
        (shown years, (part months "M").toList ++ ((part days "D").toList ++ rest)) :=
    takePart_part rfl (by decide) (takePart_part_of_ne (c := 'M') rfl (by decide) (by decide)
      (takePart_part_of_ne (c := 'D') rfl (by decide) (by decide) (hother 'Y')))
  have hany : ((shown years).isSome || (shown months).isSome || (shown days).isSome) =
      decide (years ≠ 0 ∨ months ≠ 0 ∨ days ≠ 0) := by
    rw [Bool.eq_iff_iff, Bool.or_eq_true, Bool.or_eq_true, isSome_shown, isSome_shown, isSome_shown, or_assoc,
      decide_eq_true_eq]
  simp only [read?, hyears, hmonths, hdays, hany, getD_shown]

lemma read?_text (i : Interval) :
    read? i.text.toList = some (i.months.toInt, i.days.toInt, i.microseconds.toInt) := by
  have hmonths := Int.mul_tdiv_add_tmod i.months.toInt 12
  rw [text]
  simp only [String.toList_append, List.append_assoc]
  have hP : "P".toList = ['P'] := rfl
  rw [hP, List.singleton_append]
  split
  · have hT : "T".toList = ['T'] := rfl
    rw [String.toList_append, hT, List.singleton_append, read?_parts fun _ => rfl]
    rw [readTail?, readTime?_timeText, hmonths]
    rfl
  · rename_i hshown
    push Not at hshown
    obtain ⟨hmicros, hsome⟩ := hshown
    have hparted : i.months.toInt.tdiv 12 ≠ 0 ∨ i.months.toInt.tmod 12 ≠ 0 ∨ i.days.toInt ≠ 0 := by
      omega
    rw [read?_parts fun _ => rfl, String.toList_empty, readTail?, decide_eq_true hparted, hmonths, hmicros]
    rfl

/-- The text of an interval is a duration, more than the bare letters, and read as such it gives back the months, the
days and the microseconds. -/
theorem duration_of_text (i : Interval) :
    read? i.text.toList = some (i.months.toInt, i.days.toInt, i.microseconds.toInt) ∧
      i.text ≠ "P" ∧ i.text ≠ "PT" := by
  have hread := read?_text i
  refine ⟨hread, ?_, ?_⟩
  -- the bare letters are no duration
  all_goals
    intro hbare
    rw [hbare] at hread
    cases hread

example : text ⟨-14, 3, -5500000⟩ = "P-1Y-2M3DT-5.5S" := by
  decide +kernel

/-- No two intervals have the same text. -/
theorem text_injective : Function.Injective text := by
  intro i j h
  have hread := read?_text i
  rw [h, read?_text j, Option.some.injEq, Prod.mk.injEq, Prod.mk.injEq] at hread
  obtain ⟨hmonths, hdays, hmicros⟩ := hread
  rw [Int32.toInt_inj] at hmonths hdays
  rw [Int64.toInt_inj] at hmicros
  cases i
  cases j
  cases hmonths
  cases hdays
  cases hmicros
  rfl

end SqlBridge.Interval
