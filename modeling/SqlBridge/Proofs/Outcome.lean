import Mathlib.Data.List.Forall2
import Mathlib.Tactic.Lemma

/-!
# Outcomes of steps

How a success of a composed step comes apart: into the successes of its parts, and for a list into one
success for each member. What holds of the results and of the failures of its parts holds of those of a
composed step.
-/

namespace SqlBridge

variable {ε α β : Type}

lemma ok_of_map {f : α → β} {x : Except ε α} {b : β} (h : x.map f = .ok b) :
    ∃ a, x = .ok a ∧ f a = b := by
  cases x with
  | error e => cases h
  | ok a => exact ⟨a, rfl, Except.ok.inj h⟩

/-- Outcomes that a function which keeps its arguments apart makes equal are equal. -/
lemma eq_of_map_eq {f : α → β} (hf : Function.Injective f) {x y : Except ε α}
    (h : x.map f = y.map f) : x = y := by
  cases x with
  | error e =>
    cases y with
    | error e' => cases h; rfl
    | ok b => cases h
  | ok a =>
    cases y with
    | error e' => cases h
    | ok b => exact congrArg Except.ok (hf (Except.ok.inj h))

lemma ok_of_bind {x : Except ε α} {f : α → Except ε β} {b : β} (h : x >>= f = .ok b) :
    ∃ a, x = .ok a ∧ f a = .ok b := by
  cases x with
  | error e => cases h
  | ok a => exact ⟨a, rfl, h⟩

lemma ok_of_toOption {x : Except ε α} {a : α} (h : x.toOption = some a) : x = .ok a := by
  cases x with
  | error e => cases h
  | ok b => exact congrArg Except.ok (Option.some.inj h)

lemma error_of_toOption {x : Except ε α} (h : x.toOption = none) : ∃ e, x = .error e := by
  cases x with
  | error e => exact ⟨e, rfl⟩
  | ok a => cases h

/-- When a step succeeds on all members of a list, it gives one result for each of them in order. -/
lemma forall₂_of_mapM {f : α → Except ε β} {xs : List α} {ys : List β} (h : xs.mapM f = .ok ys) :
    List.Forall₂ (fun x y => f x = .ok y) xs ys := by
  induction xs generalizing ys with
  | nil => cases h; exact .nil
  | cons x xs ih =>
    rw [List.mapM_cons] at h
    obtain ⟨y, hy, h⟩ := ok_of_bind h
    obtain ⟨ys', hys, h⟩ := ok_of_bind h
    cases h
    exact .cons hy (ih hys)

lemma mapM_of_forall₂ {f : α → Except ε β} {xs : List α} {ys : List β}
    (h : List.Forall₂ (fun x y => f x = .ok y) xs ys) : xs.mapM f = .ok ys := by
  induction h with
  | nil => rfl
  | cons hx _ ih => rw [List.mapM_cons, hx, ih]; rfl

lemma exists_of_forall₂ {R : α → β → Prop} {xs : List α} {ys : List β} (h : List.Forall₂ R xs ys)
    {x : α} (hx : x ∈ xs) : ∃ y, R x y := by
  induction h with
  | nil => cases hx
  | cons hR _ ih =>
    rcases List.mem_cons.1 hx with rfl | hx
    · exact ⟨_, hR⟩
    · exact ih hx

lemma mapM_ok_of_imp {f g : α → Except ε β} (himp : ∀ x y, f x = .ok y → g x = .ok y)
    {xs : List α} {ys : List β} (h : xs.mapM f = .ok ys) : xs.mapM g = .ok ys :=
  mapM_of_forall₂ ((forall₂_of_mapM h).imp himp)

/-! ## Successes alone -/

lemma exists_ok_map {f : α → β} {x : Except ε α} : (∃ b, x.map f = .ok b) ↔ ∃ a, x = .ok a := by
  constructor
  · rintro ⟨b, hb⟩
    obtain ⟨a, ha, -⟩ := ok_of_map hb
    exact ⟨a, ha⟩
  · rintro ⟨a, rfl⟩
    exact ⟨f a, rfl⟩

/-- A step succeeds on a list exactly if it succeeds on every member. -/
lemma exists_ok_mapM {f : α → Except ε β} {xs : List α} :
    (∃ ys, xs.mapM f = .ok ys) ↔ ∀ x ∈ xs, ∃ y, f x = .ok y := by
  constructor
  · rintro ⟨ys, hys⟩ x hx
    exact exists_of_forall₂ (forall₂_of_mapM hys) hx
  · intro h
    induction xs with
    | nil => exact ⟨[], rfl⟩
    | cons x xs ih =>
      obtain ⟨hx, hxs⟩ := List.forall_mem_cons.1 h
      obtain ⟨y, hy⟩ := hx
      obtain ⟨ys, hys⟩ := ih hxs
      exact ⟨y :: ys, mapM_of_forall₂ (.cons hy (forall₂_of_mapM hys))⟩

lemma toOption_map (f : α → β) (x : Except ε α) : (x.map f).toOption = x.toOption.map f := by
  cases x <;> rfl

lemma toOption_bind (x : Except ε α) (f : α → Except ε β) :
    (x >>= f).toOption = x.toOption.bind fun a => (f a).toOption := by
  cases x <;> rfl

/-- Steps that succeed alike on the members of a list, with equal results, do so on the whole list. -/
lemma toOption_mapM_map {γ : Type} {f : α → Except ε γ} {g : β → Except ε γ} {h : α → β} {xs : List α}
    (hxs : ∀ x ∈ xs, (g (h x)).toOption = (f x).toOption) :
    ((xs.map h).mapM g).toOption = (xs.mapM f).toOption := by
  induction xs with
  | nil => rfl
  | cons x xs ih =>
    have hx := hxs x List.mem_cons_self
    have htail := ih fun y hy => hxs y (List.mem_cons_of_mem _ hy)
    simp only [List.map_cons, List.mapM_cons, toOption_bind, hx, htail]

/-! ## Results and failures -/

/-- The result has the one property, or the failure has the other. -/
def Meets (result : α → Prop) (failure : ε → Prop) : Except ε α → Prop
  | .ok a => result a
  | .error e => failure e

variable {P : α → Prop} {P' : β → Prop} {Q : ε → Prop} {x : Except ε α}

lemma Meets.imp {P' : α → Prop} (hx : Meets P Q x) (h : ∀ a, P a → P' a) : Meets P' Q x := by
  cases x with
  | error e => exact hx
  | ok a => exact h a hx

lemma Meets.bind {f : α → Except ε β} (hx : Meets P Q x) (hf : ∀ a, P a → Meets P' Q (f a)) :
    Meets P' Q (x >>= f) := by
  cases x with
  | error e => exact hx
  | ok a => exact hf a hx

/-- Where failures do not matter, only what the first step gives is followed. -/
lemma Meets.bind_of_ok {f : α → Except ε β} (hf : ∀ a, x = .ok a → Meets P' (fun _ => True) (f a)) :
    Meets P' (fun _ => True) (x >>= f) := by
  cases x with
  | error e => trivial
  | ok a => exact hf a rfl

lemma Meets.map {f : α → β} (hx : Meets P Q x) (hf : ∀ a, P a → P' (f a)) :
    Meets P' Q (x.map f) := by
  cases x with
  | error e => exact hx
  | ok a => exact hf a hx

lemma Meets.of_ok {a : α} (hx : Meets P Q x) (h : x = .ok a) : P a := by
  subst h
  exact hx

lemma Meets.of_error {e : ε} (hx : Meets P Q x) (h : x = .error e) : Q e := by
  subst h
  exact hx

end SqlBridge
