import Mathlib.Data.List.Forall2

/-!
# Results that may fail

When one step after another succeeds, and which failure counts when it does not.

## Main statements

* `bind_eq_ok_iff`, `bind_eq_error_iff`: one step and then another.
* `mapM_eq_ok_iff`, `mapM_eq_error_iff`: one step for each element of a list.
* `foldlM_eq_ok_iff`: steps that take in one element after another.
* `forall₂_of_common`: lists that go along with one list go along with each other.
-/

namespace ScenarioSuite

variable {ε α β : Type} {x : Except ε α} {f : α → Except ε β}

theorem ok_bind (a : α) (f : α → Except ε β) : (Except.ok a >>= f) = f a := rfl

theorem error_bind (e : ε) (f : α → Except ε β) : (Except.error e >>= f) = .error e := rfl

theorem toOption_eq_some_iff {a : α} : x.toOption = some a ↔ x = .ok a := by
  cases x <;> simp [Except.toOption]

theorem isSome_toOption_iff : x.toOption.isSome ↔ ∃ a, x = .ok a := by
  cases x <;> simp [Except.toOption]

theorem toOption_eq_none_iff : x.toOption = none ↔ ∃ e, x = .error e := by
  cases x <;> simp [Except.toOption]

theorem bind_eq_ok_iff {b : β} : x >>= f = .ok b ↔ ∃ a, x = .ok a ∧ f a = .ok b := by
  cases x <;> simp [Bind.bind, Except.bind]

theorem map_eq_ok_iff {g : α → β} {b : β} : g <$> x = .ok b ↔ ∃ a, x = .ok a ∧ g a = b := by
  cases x <;> simp [Functor.map, Except.map]

theorem bind_eq_error_iff {e : ε} :
    x >>= f = .error e ↔ x = .error e ∨ ∃ a, x = .ok a ∧ f a = .error e := by
  cases x <;> simp [Bind.bind, Except.bind]

theorem exists_mem_of_forall₂ {r : α → β → Prop} {as : List α} {bs : List β}
    (h : List.Forall₂ r as bs) {b : β} (hb : b ∈ bs) : ∃ a ∈ as, r a b := by
  induction h with
  | nil => cases hb
  | @cons a b' as bs hab _ ih =>
    rcases List.mem_cons.1 hb with rfl | hb
    · exact ⟨a, List.mem_cons_self, hab⟩
    · obtain ⟨a', ha', hr⟩ := ih hb
      exact ⟨a', List.mem_cons_of_mem a ha', hr⟩

/-- Lists that go along with one list go along with each other. -/
theorem forall₂_of_common {γ : Type} {r : α → β → Prop} {r' : α → γ → Prop} {s : β → γ → Prop}
    {as : List α} {bs : List β} {cs : List γ} (h : List.Forall₂ r as bs)
    (h' : List.Forall₂ r' as cs) (imp : ∀ a ∈ as, ∀ b c, r a b → r' a c → s b c) :
    List.Forall₂ s bs cs := by
  induction h generalizing cs with
  | nil => cases h'; exact .nil
  | cons head _ ih =>
    obtain ⟨here, later⟩ := List.forall_mem_cons.1 imp
    cases h' with
    | cons head' tail' => exact .cons (here _ _ head head') (ih tail' later)

theorem exists_forall₂_iff {r : α → β → Prop} {as : List α} :
    (∃ bs, List.Forall₂ r as bs) ↔ ∀ a ∈ as, ∃ b, r a b := by
  induction as with
  | nil => exact iff_of_true ⟨[], .nil⟩ (List.forall_mem_nil _)
  | cons a as ih =>
    rw [List.forall_mem_cons, ← ih]
    constructor
    · rintro ⟨_, _ | ⟨hb, hbs⟩⟩
      exact ⟨⟨_, hb⟩, _, hbs⟩
    · rintro ⟨⟨b, hb⟩, bs, hbs⟩
      exact ⟨b :: bs, .cons hb hbs⟩

theorem eq_map_of_forall₂ {g : α → β} {as : List α} {bs : List β}
    (h : List.Forall₂ (fun a b => b = g a) as bs) : bs = as.map g := by
  induction h with
  | nil => rfl
  | cons head _ ih => rw [List.map_cons, head, ih]

theorem map_fst_of_forall₂ {γ : Type} {r : γ × α → γ × β → Prop} {as : List (γ × α)}
    {bs : List (γ × β)} (h : List.Forall₂ r as bs) (names : ∀ a b, r a b → b.1 = a.1) :
    bs.map (·.1) = as.map (·.1) :=
  eq_map_of_forall₂ (List.forall₂_map_right_iff.2 (h.imp names))

theorem mapM_eq_ok_iff {xs : List α} {ys : List β} :
    xs.mapM f = .ok ys ↔ List.Forall₂ (fun x y => f x = .ok y) xs ys := by
  induction xs generalizing ys with
  | nil => cases ys <;> simp [pure, Except.pure]
  | cons x xs ih =>
    rw [List.mapM_cons, bind_eq_ok_iff]
    constructor
    · rintro ⟨y, hy, h⟩
      obtain ⟨rest, hrest, h⟩ := bind_eq_ok_iff.1 h
      cases h
      exact .cons hy (ih.1 hrest)
    · intro h
      cases h with
      | cons hy hrest => exact ⟨_, hy, bind_eq_ok_iff.2 ⟨_, ih.2 hrest, rfl⟩⟩

/-- The first step that fails is the one that counts. -/
theorem mapM_eq_error_iff {xs : List α} {e : ε} :
    xs.mapM f = .error e ↔ ∃ before x after, xs = before ++ x :: after ∧
      (∀ y ∈ before, ∃ b, f y = .ok b) ∧ f x = .error e := by
  induction xs with
  | nil => simp [pure, Except.pure]
  | cons x xs ih =>
    rw [List.mapM_cons, bind_eq_error_iff]
    constructor
    · rintro (h | ⟨b, hb, h⟩)
      · exact ⟨[], x, xs, rfl, by simp, h⟩
      · obtain h | ⟨bs, -, h⟩ := bind_eq_error_iff.1 h
        · obtain ⟨before, y, after, rfl, good, bad⟩ := ih.1 h
          refine ⟨x :: before, y, after, rfl, ?_, bad⟩
          simpa using ⟨⟨b, hb⟩, good⟩
        · cases h
    · rintro ⟨before, y, after, hxs, good, bad⟩
      cases before with
      | nil =>
        cases hxs
        exact .inl bad
      | cons z before =>
        cases hxs
        obtain ⟨b, hb⟩ := good x (by simp)
        have later := ih.2 ⟨before, y, after, rfl, fun w hw => good w (by simp [hw]), bad⟩
        exact .inr ⟨b, hb, bind_eq_error_iff.2 (.inl later)⟩

/-- Where each step only puts in what it finds for its element, a run puts in what is found for all
of them. -/
theorem foldlM_eq_ok_iff {σ : Type} {step : σ → α → Except ε σ} {put : σ → β → σ}
    {r : α → β → Prop} {xs : List α}
    (hstep : ∀ x ∈ xs, ∀ s s', step s x = .ok s' ↔ ∃ b, r x b ∧ s' = put s b) {s s' : σ} :
    xs.foldlM step s = .ok s' ↔ ∃ bs, List.Forall₂ r xs bs ∧ s' = bs.foldl put s := by
  induction xs generalizing s with
  | nil => simp [pure, Except.pure, eq_comm]
  | cons x xs ih =>
    obtain ⟨here, later⟩ := List.forall_mem_cons.1 hstep
    rw [List.foldlM_cons, bind_eq_ok_iff]
    constructor
    · rintro ⟨next, hnext, hrest⟩
      obtain ⟨b, hb, rfl⟩ := (here s next).1 hnext
      obtain ⟨bs, hbs, rfl⟩ := (ih later).1 hrest
      exact ⟨b :: bs, .cons hb hbs, rfl⟩
    · rintro ⟨_, _ | ⟨hb, hbs⟩, rfl⟩
      exact ⟨_, (here s _).2 ⟨_, hb, rfl⟩, (ih later).2 ⟨_, hbs, rfl⟩⟩

end ScenarioSuite
