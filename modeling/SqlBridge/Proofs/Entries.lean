import Mathlib.Tactic.Lemma
import SqlBridge.Entries

/-!
# Ordered entries

The operations on entries through what a key gets: setting and pushing change the key's own value only.
-/

namespace SqlBridge.Entries

variable {κ α : Type} [DecidableEq κ]

/-- A key that is set gets the value, and every other key what it got before. -/
lemma get?_set (key k : κ) (a : α) (entries : List (κ × α)) :
    get? k (set key a entries) = if key = k then some a else get? k entries := by
  induction entries with
  | nil => rfl
  | cons entry rest ih =>
    obtain ⟨key', b⟩ := entry
    by_cases hkey : key' = key
    · subst hkey
      simp only [set, if_true, get?]
      by_cases hk : key' = k <;> simp [hk]
    · rw [set, if_neg hkey, get?, get?, ih]
      by_cases hk : key' = k
      · subst hk
        simp [Ne.symm hkey]
      · simp [hk]

lemma get?_append (key : κ) (entries entries' : List (κ × α)) :
    get? key (entries ++ entries') = (get? key entries).or (get? key entries') := by
  induction entries with
  | nil => rfl
  | cons entry rest ih =>
    rw [List.cons_append, get?, get?, ih]
    split <;> rfl

/-- Two keys can be set in either order. -/
lemma get?_set_comm {key key' : κ} (hne : key ≠ key') (k : κ) (a b : α) (entries : List (κ × α)) :
    get? k (set key a (set key' b entries)) = get? k (set key' b (set key a entries)) := by
  simp only [get?_set]
  by_cases hk : key = k
  · have hk' : key' ≠ k := fun e => hne (hk.trans e.symm)
    rw [if_pos hk, if_neg hk', if_pos hk]
  · rw [if_neg hk, if_neg hk]

/-- A key that a value is pushed onto gets its values with this one after them, and every other key what it
got before. -/
lemma get?_push (key k : κ) (a : α) (entries : List (κ × List α)) :
    get? k (push key a entries) = if key = k then some (all k entries ++ [a]) else get? k entries := by
  induction entries with
  | nil =>
    by_cases hk : key = k <;> simp [all, push, get?, hk]
  | cons entry rest ih =>
    obtain ⟨key', as⟩ := entry
    by_cases hkey : key' = key
    · subst hkey
      by_cases hk : key' = k <;> simp [all, push, get?, hk]
    · rw [push, if_neg hkey, get?, ih, all, all, get?]
      by_cases hk : key' = k
      · subst hk
        simp [Ne.symm hkey]
      · simp [hk]

/-- A pushed value comes after the values of its key, and every other key keeps its values. -/
lemma all_push (key k : κ) (a : α) (entries : List (κ × List α)) :
    all k (push key a entries) = if key = k then all k entries ++ [a] else all k entries := by
  rw [all, get?_push]
  by_cases hk : key = k
  · rw [if_pos hk, if_pos hk, Option.getD_some]
  · rw [if_neg hk, if_neg hk, all]

/-- Values can be pushed onto two keys in either order. -/
lemma get?_push_comm {key key' : κ} (hne : key ≠ key') (k : κ) (a b : α) (entries : List (κ × List α)) :
    get? k (push key a (push key' b entries)) = get? k (push key' b (push key a entries)) := by
  simp only [get?_push, all_push]
  by_cases hk : key = k
  · have hk' : key' ≠ k := fun e => hne (hk.trans e.symm)
    rw [if_pos hk, if_neg hk', if_neg hk', if_pos hk]
  · rw [if_neg hk, if_neg hk, if_neg hk]

lemma mem_all_push {key k : κ} {a b : α} {entries : List (κ × List α)} :
    b ∈ all k (push key a entries) ↔ b ∈ all k entries ∨ (key = k ∧ b = a) := by
  rw [all_push]
  by_cases hk : key = k
  · rw [if_pos hk, List.mem_append, List.mem_singleton, and_iff_right hk]
  · rw [if_neg hk]
    exact (or_iff_left fun h => hk h.1).symm

/-- A value that is pushed onto a new key makes a new entry at the end. -/
lemma push_of_not_mem {key : κ} {entries : List (κ × List α)} (h : key ∉ entries.map (·.1)) (a : α) :
    push key a entries = entries ++ [(key, [a])] := by
  induction entries with
  | nil => rfl
  | cons entry rest ih =>
    obtain ⟨key', as⟩ := entry
    rw [List.map_cons, List.mem_cons, not_or] at h
    rw [push, if_neg (Ne.symm h.1), ih h.2, List.cons_append]

/-- A new key that is set gets an entry at the end. -/
lemma set_of_not_mem {key : κ} {entries : List (κ × α)} (h : key ∉ entries.map (·.1)) (a : α) :
    set key a entries = entries ++ [(key, a)] := by
  induction entries with
  | nil => rfl
  | cons entry rest ih =>
    obtain ⟨key', b⟩ := entry
    rw [List.map_cons, List.mem_cons, not_or] at h
    rw [set, if_neg (Ne.symm h.1), ih h.2, List.cons_append]

/-- Entries that are set one after the other stand behind those before, if no key stands twice. -/
lemma foldl_set {acc entries : List (κ × α)} (h : ((acc ++ entries).map (·.1)).Nodup) :
    entries.foldl (fun acc e => set e.1 e.2 acc) acc = acc ++ entries := by
  induction entries generalizing acc with
  | nil => rw [List.foldl_nil, List.append_nil]
  | cons entry rest ih =>
    have hnew : entry.1 ∉ acc.map (·.1) := by
      rw [List.map_append, List.map_cons] at h
      exact fun hmem => (List.nodup_append.1 h).2.2 _ hmem _ List.mem_cons_self rfl
    rw [← List.singleton_append, ← List.append_assoc] at h ⊢
    rw [List.singleton_append, List.foldl_cons, set_of_not_mem hnew, ih h]

/-- Entries whose keys stand once each are kept as they are. -/
lemma ofList_eq {entries : List (κ × α)} (h : (entries.map (·.1)).Nodup) : ofList entries = entries :=
  foldl_set h

lemma mem_of_get? {key : κ} {a : α} {entries : List (κ × α)} (h : get? key entries = some a) :
    (key, a) ∈ entries := by
  induction entries with
  | nil => cases h
  | cons entry rest ih =>
    obtain ⟨key', b⟩ := entry
    rw [get?] at h
    by_cases hkey : key' = key
    · rw [if_pos hkey] at h
      cases h
      subst hkey
      exact List.mem_cons_self
    · rw [if_neg hkey] at h
      exact List.mem_cons_of_mem _ (ih h)

lemma exists_get?_of_mem {key : κ} {entries : List (κ × α)} (h : key ∈ entries.map (·.1)) :
    ∃ a, get? key entries = some a := by
  induction entries with
  | nil => cases h
  | cons entry rest ih =>
    obtain ⟨key', b⟩ := entry
    rw [get?]
    by_cases hkey : key' = key
    · exact ⟨b, if_pos hkey⟩
    · rw [if_neg hkey]
      rw [List.map_cons, List.mem_cons] at h
      rcases h with rfl | h
      · exact absurd rfl hkey
      · exact ih h

lemma isSome_get?_iff {key : κ} {entries : List (κ × α)} :
    (get? key entries).isSome = true ↔ key ∈ entries.map (·.1) := by
  constructor
  · intro h
    obtain ⟨a, ha⟩ := Option.isSome_iff_exists.1 h
    exact List.mem_map_of_mem (mem_of_get? ha)
  · intro h
    obtain ⟨a, ha⟩ := exists_get?_of_mem h
    rw [ha]
    rfl

/-- Where no key stands twice, every entry is that of its key. -/
lemma get?_of_mem {key : κ} {a : α} {entries : List (κ × α)} (hkeys : (entries.map (·.1)).Nodup)
    (h : (key, a) ∈ entries) : get? key entries = some a := by
  induction entries with
  | nil => cases h
  | cons entry rest ih =>
    obtain ⟨key', b⟩ := entry
    rw [List.map_cons, List.nodup_cons] at hkeys
    rcases List.mem_cons.1 h with e | h
    · cases e
      exact if_pos rfl
    · have hne : key' ≠ key := fun e => hkeys.1 (e ▸ List.mem_map_of_mem (f := (·.1)) h)
      rw [get?, if_neg hne, ih hkeys.2 h]

lemma mem_of_mem_all {key : κ} {a : α} {entries : List (κ × List α)} (h : a ∈ all key entries) :
    ∃ as, (key, as) ∈ entries ∧ a ∈ as := by
  rw [all] at h
  cases hget : get? key entries with
  | none =>
    rw [hget] at h
    cases h
  | some as =>
    rw [hget] at h
    exact ⟨as, mem_of_get? hget, h⟩

end SqlBridge.Entries
