import Mathlib.Tactic.Lemma
import SqlBridge.HostValue.Text

/-!
# Documents of ranges of texts

The document of a range is the text of its sides with a comma between them, in brackets. The texts of the
sides stand there as they are, whatever marks they hold, and an infinite side as no text. So a document
tells the brackets and the joined text of the sides, but where the first side ends only if there is one comma.
-/

namespace SqlBridge

namespace Bound

/-- The side with what a function makes of its value. -/
def map {α β : Type} (f : α → β) : Bound α → Bound β
  | .infinite => .infinite
  | .inclusive a => .inclusive (f a)
  | .exclusive a => .exclusive (f a)

/-- The text that a side is written as. -/
def written (b : Bound String) : String :=
  b.value?.getD ""

/-- The text of the side holds no comma, and the side is not written like an infinite one. -/
def IsPlain (b : Bound String) : Prop :=
  ',' ∉ b.written.toList ∧ b ≠ .exclusive ""

end Bound

namespace Span

/-- The range with what a function makes of its boundary values. -/
def map {α β : Type} (f : α → β) : Span α → Span β
  | .empty => .empty
  | .bounds l u => .bounds (l.map f) (u.map f)

/-- Both ranges are empty, or they have the same brackets and the same joined text of their sides. -/
def WrittenAlike : Span String → Span String → Prop
  | .empty, .empty => True
  | .bounds l u, .bounds l' u' => l.isInclusive = l'.isInclusive ∧ u.isInclusive = u'.isInclusive ∧
    l.written ++ "," ++ u.written = l'.written ++ "," ++ u'.written
  | _, _ => False

/-- The sides of the range, if there are any, are plain. -/
def IsPlain : Span String → Prop
  | .empty => True
  | .bounds l u => l.IsPlain ∧ u.IsPlain

end Span

/-- The range of texts as a value. -/
def HostValue.ofTexts (a : Span String) : HostValue :=
  .range (a.map fun s => .scalar (.string s))

variable {l l' u u' : Bound String} {a b : Span String}

/-! ## Joined texts -/

/-- Texts without commas can be told from the text that a comma joins them to. -/
lemma joined_inj {cs cs' ds ds' : List Char} (hcs : ',' ∉ cs) (hds : ',' ∉ ds)
    (h : cs' ++ ',' :: ds' = cs ++ ',' :: ds) : cs' = cs ∧ ds' = ds := by
  rcases List.append_eq_append_iff.1 h with ⟨ts, rfl, hrest⟩ | ⟨ts, rfl, hrest⟩
  · cases ts with
    | nil => exact ⟨(List.append_nil _).symm, (List.cons.inj hrest).2⟩
    | cons c ts =>
      -- the comma behind the other first text would be inside this one
      obtain rfl : ',' = c := (List.cons.inj hrest).1
      exact absurd (List.mem_append_right _ List.mem_cons_self) hcs
  · cases ts with
    | nil => exact ⟨List.append_nil _, (List.cons.inj hrest).2.symm⟩
    | cons c ts =>
      have hmem : ',' ∈ ds := by
        rw [(List.cons.inj hrest).2]
        exact List.mem_append_right _ List.mem_cons_self
      exact absurd hmem hds

/-- Where a joined text can be taken apart in one way only, no comma is in the two texts. -/
lemma not_mem_of_joined {s t : String} (h : ∀ s' t', s' ++ "," ++ t' = s ++ "," ++ t → s' = s) :
    ',' ∉ s.toList ∧ ',' ∉ t.toList := by
  constructor
  · intro hmem
    obtain ⟨cs, ds, hcs⟩ := List.append_of_mem hmem
    have htext : String.ofList cs ++ "," ++ (String.ofList ds ++ "," ++ t) = s ++ "," ++ t := by
      simp [← String.toList_inj, hcs]
    have hsame := congrArg String.toList (h _ _ htext)
    simp [hcs] at hsame
  · intro hmem
    obtain ⟨cs, ds, hds⟩ := List.append_of_mem hmem
    have htext : s ++ "," ++ String.ofList cs ++ "," ++ String.ofList ds = s ++ "," ++ t := by
      simp [← String.toList_inj, hds]
    have hsame := congrArg String.toList (h _ _ htext)
    simp at hsame

lemma written_inj (hl : ',' ∉ l.written.toList) (hu : ',' ∉ u.written.toList)
    (h : l'.written ++ "," ++ u'.written = l.written ++ "," ++ u.written) :
    l'.written = l.written ∧ u'.written = u.written := by
  have hlist := congrArg String.toList h
  simp only [String.toList_append, List.append_assoc] at hlist
  obtain ⟨hlower, hupper⟩ := joined_inj hl hu hlist
  exact ⟨String.toList_inj.1 hlower, String.toList_inj.1 hupper⟩

/-- A plain side is told by its text and bracket among all finite sides, and among all plain sides. -/
lemma Bound.eq_of_written (hl : l.IsPlain) (hl' : l.isInfinite = false ∨ l'.IsPlain)
    (hbracket : l'.isInclusive = l.isInclusive) (htext : l'.written = l.written) : l' = l := by
  cases l with
  | infinite =>
    cases l' with
    | infinite => rfl
    | inclusive s' => cases hbracket
    | exclusive s' =>
      obtain rfl : s' = "" := htext
      rcases hl' with hfinite | hplain
      · cases hfinite
      · exact absurd rfl hplain.2
  | inclusive s =>
    cases l' with
    | inclusive s' => exact congrArg Bound.inclusive htext
    | infinite | exclusive s' => cases hbracket
  | exclusive s =>
    cases l' with
    | infinite =>
      obtain rfl : "" = s := htext
      exact absurd rfl hl.2
    | inclusive s' => cases hbracket
    | exclusive s' => exact congrArg Bound.exclusive htext

lemma Bound.isInclusive_map {α β : Type} (f : α → β) (b : Bound α) :
    (b.map f).isInclusive = b.isInclusive := by
  cases b <;> rfl

/-- A finite side can be given any text. -/
lemma Bound.written_map (h : l.isInfinite = false) (s : String) : (l.map fun _ => s).written = s := by
  cases l with
  | infinite => cases h
  | inclusive _ | exclusive _ => rfl

lemma boundText_map (l : Bound String) :
    HostValue.boundText (l.map fun s => .scalar (.string s)) = l.written := by
  cases l with
  | infinite => rfl
  | inclusive s | exclusive s =>
    rw [Bound.map, HostValue.boundText, HostValue.text]
    rfl

/-! ## Documents -/

lemma toList_bracket (lowerInclusive : Bool) (lower upper : String) (upperInclusive : Bool) :
    (Span.bracket lowerInclusive lower upper upperInclusive).toList =
      (if lowerInclusive then '[' else '(') ::
        ((lower ++ "," ++ upper).toList ++ [if upperInclusive then ']' else ')']) := by
  cases lowerInclusive <;> cases upperInclusive <;> simp [Span.bracket]

/-- The brackets and the joined text stand in a text between brackets, each at its place. -/
lemma bracket_inj {il iu il' iu' : Bool} {s t s' t' : String}
    (h : Span.bracket il s t iu = Span.bracket il' s' t' iu') :
    il = il' ∧ iu = iu' ∧ s ++ "," ++ t = s' ++ "," ++ t' := by
  have hlist := congrArg String.toList h
  rw [toList_bracket, toList_bracket, List.cons.injEq] at hlist
  obtain ⟨hopen, hlist⟩ := hlist
  obtain ⟨htext, hclose⟩ := List.append_inj' hlist rfl
  refine ⟨?_, ?_, String.toList_inj.1 htext⟩
  · cases il <;> cases il' <;> first | rfl | cases hopen
  · cases iu <;> cases iu' <;> first | rfl | cases hclose

lemma empty_ne_bracket {il iu : Bool} {s t : String} : "empty" ≠ Span.bracket il s t iu := by
  intro h
  have hlist := congrArg String.toList h
  rw [toList_bracket] at hlist
  have hopen := (List.cons.inj hlist).1
  cases il <;> cases hopen

lemma bracket_congr {s t s' t' : String} (h : s ++ "," ++ t = s' ++ "," ++ t') (il iu : Bool) :
    Span.bracket il s t iu = Span.bracket il s' t' iu := by
  apply String.toList_inj.1
  rw [toList_bracket, toList_bracket, h]

/-- Two ranges have one document exactly if they are written alike. -/
lemma toJson_ofTexts_eq_iff :
    (HostValue.ofTexts a).toJson = (HostValue.ofTexts b).toJson ↔ a.WrittenAlike b := by
  have hdocument : (HostValue.ofTexts a).toJson = (HostValue.ofTexts b).toJson ↔
      HostValue.spanText (a.map fun s => .scalar (.string s)) =
        HostValue.spanText (b.map fun s => .scalar (.string s)) := by
    rw [HostValue.ofTexts, HostValue.ofTexts, HostValue.toJson, HostValue.toJson, Json.string.injEq]
  rw [hdocument]
  cases a with
  | empty =>
    cases b with
    | empty => exact iff_of_true rfl trivial
    | bounds l' u' => exact iff_of_false empty_ne_bracket id
  | bounds l u =>
    cases b with
    | empty => exact iff_of_false empty_ne_bracket.symm id
    | bounds l' u' =>
      simp only [Span.map, HostValue.spanText, boundText_map, Bound.isInclusive_map]
      refine ⟨bracket_inj, ?_⟩
      rintro ⟨hl, hu, htext⟩
      rw [hl, hu]
      exact bracket_congr htext _ _

/-! ## Ranges that are told -/

/-- Plain ranges are told by how they are written. -/
lemma Span.eq_of_writtenAlike (ha : a.IsPlain)
    (hb : (a.lowerInfinite = false ∧ a.upperInfinite = false) ∨ b.IsPlain) (h : b.WrittenAlike a) :
    b = a := by
  cases a with
  | empty =>
    cases b with
    | empty => rfl
    | bounds _ _ => cases h
  | bounds l u =>
    cases b with
    | empty => cases h
    | bounds l' u' =>
      obtain ⟨hlower, hupper, htext⟩ := h
      obtain ⟨hl, hu⟩ := written_inj ha.1.1 ha.2.1 htext
      rw [Bound.eq_of_written ha.1 (hb.imp And.left And.left) hlower hl,
        Bound.eq_of_written ha.2 (hb.imp And.right And.right) hupper hu]

/-- What a range has to be like for no other to be written alike: a comma in a text can be taken for the one
between the sides, and an infinite side for a side of no text. -/
lemma Span.isPlain_of_unique (h : ∀ b : Span String, b.WrittenAlike a → b = a) :
    a.IsPlain ∧ a.lowerInfinite = false ∧ a.upperInfinite = false := by
  cases a with
  | empty => exact ⟨trivial, rfl, rfl⟩
  | bounds l u =>
    have hlower : l.isInfinite = false := by
      cases l with
      | infinite => cases h (.bounds (.exclusive "") u) ⟨rfl, rfl, rfl⟩
      | inclusive _ | exclusive _ => rfl
    have hupper : u.isInfinite = false := by
      cases u with
      | infinite => cases h (.bounds l (.exclusive "")) ⟨rfl, rfl, rfl⟩
      | inclusive _ | exclusive _ => rfl
    have hmoved : ∀ s t, s ++ "," ++ t = l.written ++ "," ++ u.written → s = l.written := by
      intro s t htext
      have hsame := h (.bounds (l.map fun _ => s) (u.map fun _ => t))
        ⟨l.isInclusive_map _, u.isInclusive_map _, by
          rw [Bound.written_map hlower, Bound.written_map hupper, htext]⟩
      exact (Bound.written_map hlower s).symm.trans (congrArg Bound.written (Span.bounds.inj hsame).1)
    obtain ⟨hl, hu⟩ := not_mem_of_joined hmoved
    refine ⟨⟨⟨hl, ?_⟩, hu, ?_⟩, hlower, hupper⟩
    · rintro rfl
      cases h (.bounds .infinite u) ⟨rfl, rfl, rfl⟩
    · rintro rfl
      cases h (.bounds l .infinite) ⟨rfl, rfl, rfl⟩

/-- A document tells of a range of texts the brackets and the joined text of the sides. Ranges whose texts hold
no comma, and which have no exclusive side of an empty text, are told apart by their documents. A range of
texts is told apart from all others exactly if it has no infinite side, either. -/
theorem HostValue.toJson_ofTexts (a : Span String) :
    (∀ b, (ofTexts a).toJson = (ofTexts b).toJson ↔ a.WrittenAlike b) ∧
      (∀ b, a.IsPlain ∧ b.IsPlain → ((ofTexts a).toJson = (ofTexts b).toJson ↔ a = b)) ∧
      ((∀ b, (ofTexts a).toJson = (ofTexts b).toJson → a = b) ↔
        a.IsPlain ∧ a.lowerInfinite = false ∧ a.upperInfinite = false) := by
  refine ⟨fun b => toJson_ofTexts_eq_iff, ?_, ?_, ?_⟩
  · rintro b ⟨ha, hb⟩
    refine ⟨fun h => ?_, fun h => by rw [h]⟩
    exact (Span.eq_of_writtenAlike ha (.inr hb) (toJson_ofTexts_eq_iff.1 h.symm)).symm
  · intro h
    exact Span.isPlain_of_unique fun b hb => (h b (toJson_ofTexts_eq_iff.2 hb).symm).symm
  · rintro ⟨ha, hfinite⟩ b h
    exact (Span.eq_of_writtenAlike ha (.inl hfinite) (toJson_ofTexts_eq_iff.1 h.symm)).symm

/-- A range from one text and a range between two texts, with blanks and brackets in them. -/
theorem HostValue.toJson_ofTexts_of_marks :
    let a : Span String := .bounds (.inclusive "[a") .infinite
    let b : Span String := .bounds (.exclusive "b ") (.inclusive "")
    a.IsPlain ∧ b.IsPlain ∧ (ofTexts a).toJson ≠ (ofTexts b).toJson ∧
      ∀ c, (ofTexts b).toJson = (ofTexts c).toJson → b = c := by
  intro a b
  have ha : a.IsPlain := ⟨⟨by decide, by decide⟩, by decide, by decide⟩
  have hb : b.IsPlain := ⟨⟨by decide, by decide⟩, by decide, by decide⟩
  refine ⟨ha, hb, ?_, (toJson_ofTexts b).2.2.2 ⟨hb, rfl, rfl⟩⟩
  rw [Ne, (toJson_ofTexts a).2.1 b ⟨ha, hb⟩]
  decide

/-- With commas in the texts of two ranges it is open where the first side ends, and a side of no text is
written like an infinite one. -/
theorem HostValue.toJson_of_commas :
    let a : Span String := .bounds (.inclusive "a,b") (.inclusive "c")
    let b : Span String := .bounds (.inclusive "a") (.inclusive "b,c")
    let c : Span String := .bounds (.exclusive "") .infinite
    a ≠ b ∧ (ofTexts a).toJson = .string "[a,b,c]" ∧ (ofTexts b).toJson = .string "[a,b,c]" ∧
      c ≠ .unbounded ∧ (ofTexts c).toJson = .string "(,)" ∧
      (ofTexts .unbounded).toJson = .string "(,)" := by
  intro a b c
  exact ⟨by decide, rfl, rfl, by decide, rfl, rfl⟩

end SqlBridge
