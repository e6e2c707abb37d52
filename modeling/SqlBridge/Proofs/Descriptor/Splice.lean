import SqlBridge.Proofs.Descriptor.Content
import SqlBridge.Proofs.Registry.Offers
import SqlBridge.Proofs.Sql.Number

/-!
# Literals in SQL

What SQL makes of a whole literal: for an array a constructor with an item for each element, else one item,
with a cast to the store type or without. An item is a number or truth value outside of strings, or
one string that holds the content, whatever characters the content has.
-/

namespace SqlBridge

open Sql

/-! ## What literals are made of -/

namespace Sql

/-- A content in SQL: a number or truth value as it is, or a string of it. -/
inductive IsItem (raw : String) : List Token → Prop
  | number : IsNumber raw.toList → IsItem raw (word raw)
  | truth : raw = "true" ∨ raw = "false" → IsItem raw (word (Literal.upper raw))
  | string : IsItem raw [.string raw.toList]

/-- A whole literal of a content: an item, which may have a cast, or a number in parentheses with one. -/
inductive IsLiteral (storeType raw : String) : List Token → Prop
  | item {ts : List Token} : IsItem raw ts → IsLiteral storeType raw ts
  | cast {ts : List Token} : IsItem raw ts → IsLiteral storeType raw (ts ++ word ("::" ++ storeType))
  | parenthesized : IsNumber raw.toList →
    IsLiteral storeType raw (word ("(" ++ raw ++ ")") ++ word ("::" ++ storeType))

lemma IsNumber.head {cs : List Char} (h : IsNumber cs) :
    ∃ c rest, cs = c :: rest ∧ (c = '-' ∨ c.isDigit = true) := by
  obtain ⟨hsign, ⟨hne, hdigits⟩, -, -⟩ := h
  rcases hsign with rfl | rfl
  · obtain ⟨c, whole, rfl⟩ := List.exists_cons_of_ne_nil hne
    exact ⟨c, _, rfl, .inr (hdigits c List.mem_cons_self)⟩
  · exact ⟨'-', _, rfl, .inl rfl⟩

lemma IsItem.ne_null {raw : String} {ts : List Token} (h : IsItem raw ts) : ts ≠ word "NULL" := by
  cases h with
  | number h =>
    intro e
    -- the word starts with a letter, and no number does
    obtain ⟨c, rest, hraw, hc⟩ := h.head
    have hhead : (word raw).head? = some (.code 'N') := by rw [e]; rfl
    rw [word, hraw] at hhead
    have hn : c = 'N' := Token.code.inj (Option.some.inj hhead)
    subst hn
    rcases hc with hc | hc <;> cases hc
  | truth h => rcases h with rfl | rfl <;> decide
  | string => exact fun e => nomatch e

lemma isQuiet_upper {raw : String} (h : raw = "true" ∨ raw = "false") :
    IsQuiet (Literal.upper raw) := by
  rcases h with rfl | rfl <;> decide

lemma IsNumber.scans {s : String} (h : IsNumber s.toList) : Scans s.toList (word s) :=
  scans_inert h.inert

lemma scans_casting {s : Signature} (hs : IsQuiet s.storeType) {literal : String} {ts : List Token}
    (h : Scans literal.toList ts) :
    Scans (s.casting literal).toList (ts ++ word ("::" ++ s.storeType)) := by
  have hmark : IsQuiet "::" := by decide
  have hcast := scans_inert (hmark.append hs).inert
  rw [Signature.casting, String.append_assoc, String.toList_append]
  refine h.append hcast ?_
  rw [String.toList_append]
  exact fun e => nomatch e

end Sql

/-! ## Contents outside of strings -/

/-- The values of number types are written as numbers, or as the words for those without digits. -/
lemma Literal.isNumber_plainText (o : LiteralOptions) {a : ScalarValue}
    (h : a.type ∈ [Scalar.int16, .int32, .int64, .float32, .float64, .decimal]) :
    IsNumber (plainText o a).toList ∨ isNumberWord (plainText o a) = true := by
  cases a with
  | int16 i => exact .inl (isNumber_toString i.toInt)
  | int32 i => exact .inl (isNumber_toString i.toInt)
  | int64 i => exact .inl (isNumber_toString i.toInt)
  | float32 x => exact isNumber_literal .single x
  | float64 x => exact isNumber_literal .double x
  | decimal d => exact .inl (isNumber_decimal d)
  | _ => exact absurd h (by simp [ScalarValue.type])

namespace Signature

open Literal

variable {s : Signature} {v : HostValue} {raw : String}

lemma rawText_plain {tag : DbTag} (hdb : s.dbType = .plain tag) (hdoc : tag.isDocument = false)
    (h : s.rawText v = .ok raw) :
    ∃ a, v = .scalar a ∧ a.type ∈ tag.writes ∧ s.scalarText tag a = .ok raw := by
  simp only [rawText, hdb, hdoc, Bool.false_eq_true, if_false] at h
  cases v with
  | scalar a =>
    simp only at h
    by_cases hw : tag.writes.contains a.type = true
    · rw [if_pos hw] at h
      exact ⟨a, rfl, List.contains_iff_mem.1 hw, h⟩
    · rw [if_neg hw] at h
      cases h
  | _ => cases h

lemma scalarText_eq (tag : DbTag) {a : ScalarValue} (h : a.type ∉ [Scalar.dateTime, .dateTimeUtc]) :
    s.scalarText tag a = .ok (plainText s.literals a) := by
  cases a with
  | dateTime t => exact absurd h (by simp [ScalarValue.type])
  | dateTimeUtc t => exact absurd h (by simp [ScalarValue.type])
  | _ => rfl

/-- The store types that are written without quotes are that of truth values and those of numbers. -/
lemma writes_bare {tag : DbTag} (h : spelling (.plain tag) = .bare) :
    tag.isDocument = false ∧ if tag = .boolean then tag.writes = [.bool]
      else tag.writes ⊆ [.int16, .int32, .int64, .float32, .float64, .decimal] := by
  revert h
  cases tag <;> decide

/-- What is written without quotes is a truth value for the one store type, and for the others a number or
a word for one without digits. -/
lemma rawText_bare (hbare : spelling s.dbType = .bare) (h : s.rawText v = .ok raw) :
    if s.dbType = .plain .boolean then raw = "true" ∨ raw = "false"
    else IsNumber raw.toList ∨ isNumberWord raw = true := by
  cases hdb : s.dbType with
  | plain tag =>
    rw [hdb] at hbare
    obtain ⟨hdoc, hwrites⟩ := writes_bare hbare
    obtain ⟨a, -, ha, htext⟩ := rawText_plain hdb hdoc h
    by_cases hbool : tag = .boolean
    · rw [if_pos hbool] at hwrites
      rw [hwrites, List.mem_singleton] at ha
      rw [if_pos (congrArg DbType.plain hbool)]
      cases a with
      | bool b =>
        cases htext
        cases b
        · exact .inr rfl
        · exact .inl rfl
      | _ => cases ha
    · rw [if_neg hbool] at hwrites
      have htype := hwrites ha
      -- only the texts of date-times hang on more than the value, and no number is one
      have hplain : a.type ∉ [Scalar.dateTime, .dateTimeUtc] := by
        intro hmem
        generalize a.type = t at htype hmem
        cases t <;> simp at htype hmem
      rw [scalarText_eq tag hplain] at htext
      rw [if_neg fun e => hbool (DbType.plain.inj e), ← Except.ok.inj htext]
      exact isNumber_plainText s.literals htype
  | _ =>
    rw [hdb] at hbare
    cases hbare

lemma scans_elementOfRaw (h : s.rawText v = .ok raw) :
    ∃ ts, Scans (s.elementOfRaw raw).toList ts ∧ IsItem raw ts := by
  have hstring := (⟨_, scans_quoteSql raw, .string⟩ :
    ∃ ts, Scans (quoteSql raw).toList ts ∧ IsItem raw ts)
  rw [elementOfRaw]
  cases hspelling : spelling s.dbType with
  | textual => exact hstring
  | quoted => exact hstring
  | bare =>
    have hraw := rawText_bare hspelling h
    simp only
    by_cases hbool : s.dbType = .plain .boolean
    · rw [if_pos hbool] at hraw ⊢
      exact ⟨_, scans_inert (isQuiet_upper hraw).inert, .truth hraw⟩
    · rw [if_neg hbool] at hraw ⊢
      by_cases hword : isNumberWord raw = true
      · rw [if_pos hword]
        exact hstring
      · rw [if_neg hword]
        have hnumber := hraw.resolve_right hword
        exact ⟨_, hnumber.scans, .number hnumber⟩

lemma scans_literalOfRaw (hs : IsQuiet s.storeType) (h : s.rawText v = .ok raw) :
    ∃ ts, Scans (s.literalOfRaw raw).toList ts ∧ IsLiteral s.storeType raw ts := by
  have hstring : IsItem raw [.string raw.toList] := .string
  rw [literalOfRaw]
  cases hspelling : spelling s.dbType with
  | textual => exact ⟨_, scans_quoteSql raw, .item hstring⟩
  | quoted => exact ⟨_, scans_casting hs (scans_quoteSql raw), .cast hstring⟩
  | bare =>
    have hraw := rawText_bare hspelling h
    simp only
    by_cases hbool : s.dbType = .plain .boolean
    · rw [if_pos hbool] at hraw ⊢
      exact ⟨_, scans_inert (isQuiet_upper hraw).inert, .item (.truth hraw)⟩
    · rw [if_neg hbool] at hraw ⊢
      by_cases hword : isNumberWord raw = true
      · rw [if_pos hword]
        exact ⟨_, scans_casting hs (scans_quoteSql raw), .cast hstring⟩
      · rw [if_neg hword]
        have hnumber := hraw.resolve_right hword
        by_cases hcast : castsNumbers s.dbType = true
        · rw [if_pos hcast]
          by_cases hminus : raw.toList.head? = some '-'
          · rw [if_pos hminus]
            have hopen : IsQuiet "(" := by decide
            have hclose : IsQuiet ")" := by decide
            -- the minus sign is inert between parentheses, as digits follow it
            have hinert : Inert ("(" ++ raw ++ ")").toList := by
              rw [String.toList_append, String.toList_append]
              exact (hopen.inert.append hnumber.inert).append hclose.inert
            exact ⟨_, scans_casting hs (scans_inert hinert), .parenthesized hnumber⟩
          · rw [if_neg hminus]
            exact ⟨_, scans_casting hs hnumber.scans, .cast (.number hnumber)⟩
        · rw [if_neg hcast]
          exact ⟨_, hnumber.scans, .item (.number hnumber)⟩

end Signature

/-! ## Whole literals -/

namespace Descriptor

variable {d : Descriptor} {v : HostValue} {raw : String}

/-- An item of an array constructor: the word for the null for a null and for nothing else, and for
other values an item of the content. -/
def IsElement (d : Descriptor) (v : HostValue) (ts : List Token) : Prop :=
  (v = .null ∧ ts = word "NULL") ∨
    (v ≠ .null ∧ ts ≠ word "NULL" ∧ ∃ raw, d.content v = .ok raw ∧ IsItem raw ts)

/-- What a whole literal of a value is made of. -/
def IsToplevel (v : HostValue) (ts : List Token) : Descriptor → Prop
  | .array s element _ => ∃ vs items, v = .array vs ∧ List.Forall₂ element.IsElement vs items ∧
    ts = word "ARRAY[" ++ [.code ','].intercalate items ++ word "]" ++ word ("::" ++ s.storeType)
  | d => ∃ raw, d.content v = .ok raw ∧ IsLiteral d.storeType raw ts

lemma scans_uncast {t : String} (h : d.uncast v = .ok t) :
    ∃ ts, Scans t.toList ts ∧ d.IsElement v ts := by
  by_cases hv : v = .null
  · subst hv
    rw [uncast_null] at h
    cases h
    have hnull : IsQuiet "NULL" := by decide
    exact ⟨_, scans_inert hnull.inert, .inl ⟨rfl, rfl⟩⟩
  · rw [uncast_of_ne_null d hv] at h
    obtain ⟨raw, hraw, rfl⟩ := ok_of_map h
    have hitem : ∃ ts, Scans (d.elementOf raw).toList ts ∧ IsItem raw ts := by
      cases d with
      | scalar s => exact Signature.scans_elementOfRaw hraw
      | _ => exact ⟨_, scans_quoteSql raw, .string⟩
    obtain ⟨ts, hts, hitem⟩ := hitem
    exact ⟨ts, hts, .inr ⟨hv, hitem.ne_null, raw, hraw, hitem⟩⟩

lemma scans_uncasts {vs : List HostValue} {texts : List String}
    (h : List.Forall₂ (fun v t => d.uncast v = .ok t) vs texts) :
    ∃ items, List.Forall₂ Scans (texts.map String.toList) items ∧
      List.Forall₂ d.IsElement vs items := by
  induction h with
  | nil => exact ⟨[], .nil, .nil⟩
  | cons ht _ ih =>
    obtain ⟨ts, hts, hitem⟩ := scans_uncast ht
    obtain ⟨items, hscans, hitems⟩ := ih
    exact ⟨ts :: items, .cons hts hscans, .cons hitem hitems⟩

/-- An array constructor with a cast is scanned to the items between its brackets. -/
lemma scans_constructor {s : Signature} (hs : IsQuiet s.storeType) {texts : List String}
    {items : List (List Token)} (h : List.Forall₂ Scans (texts.map String.toList) items) :
    Scans (s.casting ("ARRAY[" ++ ",".intercalate texts ++ "]")).toList
      (word "ARRAY[" ++ [.code ','].intercalate items ++ word "]" ++ word ("::" ++ s.storeType)) := by
  have hopen : IsQuiet "ARRAY[" := by decide
  have hclose : IsQuiet "]" := by decide
  have hitems : Scans (",".intercalate texts).toList ([.code ','].intercalate items) := by
    rw [String.toList_intercalate]
    exact scans_intercalate h
  refine scans_casting hs ?_
  rw [String.toList_append, String.toList_append]
  exact (Scans.inert_append hopen.inert hitems).append (scans_inert hclose.inert) (by decide)

/-- A whole literal is scanned to what it is made of, if the store type is quiet. -/
theorem scans_toplevel (hd : IsQuiet d.storeType) (hv : v ≠ .null) {t : String}
    (h : d.toplevel v = .ok t) : ∃ ts, Scans t.toList ts ∧ d.IsToplevel v ts := by
  cases harr : d.isArray with
  | true =>
    cases d with
    | array s element nullable =>
      obtain ⟨vs, texts, rfl, htexts, rfl⟩ := toplevel_array_ok hv h
      obtain ⟨items, hscans, hitems⟩ := scans_uncasts htexts
      exact ⟨_, scans_constructor hd hscans, vs, items, rfl, hitems, rfl⟩
    | _ => cases harr
  | false =>
    rw [toplevel_of_ne_null harr hv] at h
    obtain ⟨raw, hraw, rfl⟩ := ok_of_map h
    cases d with
    | scalar s =>
      obtain ⟨ts, hts, hliteral⟩ := Signature.scans_literalOfRaw hd hraw
      exact ⟨ts, hts, raw, hraw, hliteral⟩
    | array s element nullable => cases harr
    | _ => exact ⟨_, scans_casting hd (scans_quoteSql raw), raw, hraw, .cast .string⟩

end Descriptor

namespace Catalog

/-- A whole literal can stand in SQL. Whatever text the value holds, SQL reads the literal of a descriptor
that a catalog gives out as what it is made of: no string stays open, and no semicolon or comment stands
outside of strings. -/
theorem scan_toplevel {c : Catalog} (hc : c.ReachableBy IsPlainName) {d : Descriptor}
    (hd : c.Offers d) {v : HostValue} (hv : v ≠ .null) {t : String} (h : d.toplevel v = .ok t) :
    ∃ ts, scan? t = some ts ∧ d.IsToplevel v ts := by
  obtain ⟨ts, hts, htop⟩ := Descriptor.scans_toplevel (hd.isQuiet hc) hv h
  exact ⟨ts, hts.scan?, htop⟩

/-- A text with a quote, a semicolon and the start of a comment stays inside of its string. -/
theorem scan_toplevel_of_marks :
    ∃ c : Catalog, c.ReachableBy IsPlainName ∧ ∃ d, c.Offers d ∧
      d.toplevel (.array [.string "it's; --", .null]) = .ok "ARRAY['it''s; --',NULL]::text[]" ∧
      ∃ ts, scan? "ARRAY['it''s; --',NULL]::text[]" = some ts ∧
        d.IsToplevel (.array [.string "it's; --", .null]) ts := by
  have hc : ReachableBy IsPlainName { registry := .builtin {} } := reachableBy_builtin
  have hfind : (Catalog.find { registry := .builtin {} } (.forStore "text")).1
      = some (.ofScalar "text" (.scalar .string) (.plain .text)) := by
    rw [hc.find_eq]
    exact Registry.find_of_found (by decide +kernel)
  have harray : (Descriptor.ofScalar "text" (.scalar .string) (.plain .text)).arrayOf none true
      = .ok (.array
        { storeType := "text[]", baseStoreType := "text[]", hostType := .array (.scalar .string),
          dbType := .array (.plain .text) }
        (.ofScalar "text" (.scalar .string) (.plain .text)) true) := by
    rfl
  have h : (Descriptor.array
        { storeType := "text[]", baseStoreType := "text[]", hostType := .array (.scalar .string),
          dbType := .array (.plain .text) }
        (.ofScalar "text" (.scalar .string) (.plain .text)) true).toplevel
      (.array [.string "it's; --", .null]) = .ok "ARRAY['it''s; --',NULL]::text[]" := by
    rfl
  have hd := Offers.array (.found hfind) harray
  have hv : HostValue.array [.string "it's; --", .null] ≠ .null := by
    intro e
    cases e
  exact ⟨_, hc, _, hd, h, scan_toplevel hc hd hv h⟩

end Catalog

end SqlBridge
