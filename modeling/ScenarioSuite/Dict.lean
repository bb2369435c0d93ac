/-!
# Dictionaries in key order

A dictionary binds texts to values. It is kept as its list of bindings in increasing order of
the keys, compared by code point, so two dictionaries with the same bindings are equal.

## Main definitions

* `Dict`: a list of bindings with strictly increasing keys.
* `Dict.get?`, `Dict.insert`, `Dict.ofList`, `Dict.merge`.
* `Bindings.put`: the same insertion on a bare list, for types that nest such lists.

## Main statements

* `Dict.get?_insert`: a look-up after an insertion.
* `Dict.get?_ofList`: the last binding of a name wins.
-/

namespace ScenarioSuite

namespace Bindings

variable {α : Type}

/-- Puts a binding into a list in key order; a binding of the same key is replaced. -/
def put (key : String) (value : α) : List (String × α) → List (String × α)
  | [] => [(key, value)]
  | (k, v) :: rest =>
    if key < k then (key, value) :: (k, v) :: rest
    else if key = k then (key, value) :: rest
    else (k, v) :: put key value rest

/-- The first value bound to a key. -/
def get? (key : String) : List (String × α) → Option α
  | [] => none
  | (k, v) :: rest => if key = k then some v else get? key rest

/-- The bindings of a list in key order; of two with one key the later wins. -/
def ofList (pairs : List (String × α)) : List (String × α) :=
  pairs.foldl (fun bindings pair => put pair.1 pair.2 bindings) []

/-- Keys strictly increase. -/
def Ordered (bindings : List (String × α)) : Prop :=
  bindings.Pairwise fun a b => a.1 < b.1

instance (bindings : List (String × α)) : Decidable (Ordered bindings) :=
  inferInstanceAs (Decidable (bindings.Pairwise fun a b => a.1 < b.1))

theorem mem_put {key : String} {value : α} {bindings : List (String × α)} {b : String × α}
    (h : b ∈ put key value bindings) : b = (key, value) ∨ b ∈ bindings := by
  induction bindings with
  | nil => simpa [put] using h
  | cons head rest ih =>
    obtain ⟨k, v⟩ := head
    simp only [put] at h
    split at h
    · simpa using h
    · split at h
      · rcases List.mem_cons.1 h with h | h
        · exact .inl h
        · exact .inr (List.mem_cons_of_mem _ h)
      · rcases List.mem_cons.1 h with h | h
        · exact .inr (h ▸ List.mem_cons_self)
        · rcases ih h with h | h
          · exact .inl h
          · exact .inr (List.mem_cons_of_mem _ h)

theorem mem_of_mem_ofList {pairs : List (String × α)} {b : String × α} (h : b ∈ ofList pairs) :
    b ∈ pairs := by
  suffices split : ∀ acc : List (String × α),
      b ∈ pairs.foldl (fun bindings pair => put pair.1 pair.2 bindings) acc → b ∈ acc ∨ b ∈ pairs
    from (split [] h).resolve_left List.not_mem_nil
  clear h
  induction pairs with
  | nil => intro acc h; exact .inl h
  | cons pair pairs ih =>
    intro acc h
    rcases ih _ h with h | h
    · rcases mem_put h with rfl | h
      · exact .inr List.mem_cons_self
      · exact .inl h
    · exact .inr (List.mem_cons_of_mem pair h)

theorem Ordered.put {key : String} {value : α} {bindings : List (String × α)}
    (h : Ordered bindings) : Ordered (put key value bindings) := by
  induction bindings with
  | nil => simp [Ordered, Bindings.put]
  | cons head rest ih =>
    obtain ⟨k, v⟩ := head
    obtain ⟨hk, hrest⟩ := List.pairwise_cons.1 h
    simp only [Bindings.put]
    split
    · next hlt =>
      refine List.pairwise_cons.2 ⟨fun b hb => ?_, h⟩
      rcases List.mem_cons.1 hb with rfl | hb
      · exact hlt
      · exact String.lt_trans hlt (hk b hb)
    · next hlt =>
      split
      · next heq => exact List.pairwise_cons.2 ⟨fun b hb => heq ▸ hk b hb, hrest⟩
      · next hne =>
        refine List.pairwise_cons.2 ⟨fun b hb => ?_, ih hrest⟩
        rcases mem_put hb with rfl | hb
        · exact Decidable.byContradiction fun h =>
            hne (String.le_antisymm (String.not_lt.1 h) (String.not_lt.1 hlt))
        · exact hk b hb

theorem Ordered.ofList (pairs : List (String × α)) : Ordered (ofList pairs) := by
  unfold Bindings.ofList
  suffices h : ∀ acc : List (String × α), Ordered acc →
      Ordered (pairs.foldl (fun bindings pair => Bindings.put pair.1 pair.2 bindings) acc) from
    h [] List.Pairwise.nil
  induction pairs with
  | nil => intro acc h; exact h
  | cons pair pairs ih => intro acc h; exact ih _ h.put

theorem put_eq_append {key : String} (value : α) {bindings : List (String × α)}
    (h : ∀ b ∈ bindings, b.1 < key) : put key value bindings = bindings ++ [(key, value)] := by
  induction bindings with
  | nil => rfl
  | cons head rest ih =>
    have hlt := h head List.mem_cons_self
    have hne : key ≠ head.1 := fun heq => String.ne_of_lt hlt heq.symm
    rw [put, if_neg (String.lt_asymm hlt), if_neg hne,
      ih fun b hb => h b (List.mem_cons_of_mem head hb), List.cons_append]

/-- A list that is in order already stays as it is. -/
theorem Ordered.ofList_eq {bindings : List (String × α)} (h : Ordered bindings) :
    Bindings.ofList bindings = bindings := by
  suffices append : ∀ acc : List (String × α), Ordered (acc ++ bindings) →
      bindings.foldl (fun bindings pair => Bindings.put pair.1 pair.2 bindings) acc =
        acc ++ bindings from append [] h
  clear h
  induction bindings with
  | nil => intro acc _; exact (List.append_nil acc).symm
  | cons head rest ih =>
    intro acc h
    have below : ∀ b ∈ acc, b.1 < head.1 := fun b hb =>
      (List.pairwise_append.1 h).2.2 b hb head List.mem_cons_self
    rw [List.append_cons] at h ⊢
    rw [List.foldl_cons, put_eq_append head.2 below]
    exact ih _ h

theorem put_perm {key : String} (value : α) {bindings : List (String × α)}
    (h : key ∉ bindings.map (·.1)) : (put key value bindings).Perm ((key, value) :: bindings) := by
  induction bindings with
  | nil => exact .refl _
  | cons head rest ih =>
    obtain ⟨hne, hrest⟩ : key ≠ head.1 ∧ key ∉ rest.map (·.1) := by simpa using h
    rw [put, if_neg hne]
    split
    · exact .refl _
    · exact ((ih hrest).cons head).trans (.swap ..)

/-- Pairs with different names are only put in order. -/
theorem ofList_perm {pairs : List (String × α)} (nodup : (pairs.map (·.1)).Nodup) :
    (ofList pairs).Perm pairs := by
  suffices append : ∀ acc : List (String × α), ((acc ++ pairs).map (·.1)).Nodup →
      (pairs.foldl (fun bindings pair => Bindings.put pair.1 pair.2 bindings) acc).Perm
        (acc ++ pairs) from append [] nodup
  clear nodup
  induction pairs with
  | nil => intro acc _; rw [List.append_nil]; exact .refl _
  | cons pair pairs ih =>
    intro acc nodup
    have front : (acc ++ pair :: pairs).Perm (pair :: acc ++ pairs) := List.perm_middle
    have nodup' := (front.map (·.1)).nodup_iff.1 nodup
    have fresh : pair.1 ∉ acc.map (·.1) := fun h =>
      (List.nodup_cons.1 nodup').1 (by simpa using .inl (by simpa using h))
    have put := (put_perm pair.2 fresh).append_right pairs
    rw [List.foldl_cons]
    refine ((ih _ ((put.map (·.1)).nodup_iff.2 nodup')).trans put).trans front.symm

@[simp] theorem get?_put (key name : String) (value : α) (bindings : List (String × α)) :
    get? name (put key value bindings) = if name = key then some value else get? name bindings := by
  induction bindings with
  | nil => simp [put, get?]
  | cons head rest ih =>
    obtain ⟨k, v⟩ := head
    simp only [put]
    split
    · simp [get?]
    · split
      · next heq => subst heq; simp only [get?]; split <;> simp_all
      · next hne =>
        simp only [get?, ih]
        split
        · next h => subst h; simp [Ne.symm hne]
        · rfl

theorem mem_of_get? {key : String} {value : α} {bindings : List (String × α)}
    (h : get? key bindings = some value) : (key, value) ∈ bindings := by
  induction bindings with
  | nil => cases h
  | cons head rest ih =>
    obtain ⟨k, v⟩ := head
    simp only [get?] at h
    split at h
    · next heq =>
      cases h
      exact heq ▸ List.mem_cons_self
    · exact List.mem_cons_of_mem _ (ih h)

theorem get?_eq_some_iff {bindings : List (String × α)} (nodup : (bindings.map (·.1)).Nodup)
    {key : String} {value : α} : get? key bindings = some value ↔ (key, value) ∈ bindings := by
  refine ⟨mem_of_get?, fun h => ?_⟩
  induction bindings with
  | nil => cases h
  | cons head rest ih =>
    obtain ⟨k, v⟩ := head
    obtain ⟨hk, hrest⟩ := List.nodup_cons.1 nodup
    rcases List.mem_cons.1 h with heq | h
    · cases heq
      simp [get?]
    · have hne : key ≠ k := fun heq => hk (List.mem_map.2 ⟨_, h, heq⟩)
      simpa [get?, hne] using ih hrest h

theorem get?_eq_none {key : String} {bindings : List (String × α)}
    (h : key ∉ bindings.map (·.1)) : get? key bindings = none := by
  cases hget : get? key bindings with
  | none => rfl
  | some value => exact absurd (List.mem_map.2 ⟨_, mem_of_get? hget, rfl⟩) h

theorem Ordered.nodup_keys {bindings : List (String × α)} (h : Ordered bindings) :
    (bindings.map (·.1)).Nodup := by
  have increasing : (bindings.map (·.1)).Pairwise (· < ·) := List.pairwise_map.2 h
  exact increasing.imp fun hlt => String.ne_of_lt hlt

/-- Lists in key order with the same bindings are equal. -/
theorem Ordered.eq_of_perm {as bs : List (String × α)} (ha : Ordered as) (hb : Ordered bs)
    (perm : as.Perm bs) : as = bs :=
  perm.eq_of_pairwise (fun _ _ _ _ hab hba => absurd hab (String.lt_asymm hba)) ha hb

/-- Lists in key order with the same look-ups are equal. -/
theorem Ordered.ext {as bs : List (String × α)} (ha : Ordered as) (hb : Ordered bs)
    (h : ∀ key, get? key as = get? key bs) : as = bs := by
  have mem (b : String × α) : b ∈ as ↔ b ∈ bs := by
    rw [← get?_eq_some_iff ha.nodup_keys, ← get?_eq_some_iff hb.nodup_keys, h]
  have nodup {l : List (String × α)} (hl : Ordered l) : l.Nodup :=
    List.Pairwise.imp (fun hlt heq => String.ne_of_lt hlt (congrArg Prod.fst heq)) hl
  exact ha.eq_of_perm hb ((List.perm_ext_iff_of_nodup (nodup ha) (nodup hb)).2 mem)

/-- The bindings of a list in key order are found again from any order of them. -/
theorem Ordered.ofList_eq_of_perm {bindings pairs : List (String × α)} (h : Ordered bindings)
    (perm : bindings.Perm pairs) : Bindings.ofList pairs = bindings := by
  have nodup : (pairs.map (·.1)).Nodup := (perm.map (·.1)).nodup_iff.1 h.nodup_keys
  exact (Ordered.ofList pairs).eq_of_perm h ((ofList_perm nodup).trans perm.symm)

end Bindings

/-- Bindings of texts to values in key order. -/
structure Dict (α : Type) where
  entries : List (String × α)
  ordered : Bindings.Ordered entries

namespace Dict

variable {α : Type}

/-- No binding. -/
def empty : Dict α := ⟨[], List.Pairwise.nil⟩

instance : Inhabited (Dict α) := ⟨empty⟩

instance [BEq α] : BEq (Dict α) := ⟨fun a b => a.entries == b.entries⟩

@[ext] theorem ext {a b : Dict α} (h : a.entries = b.entries) : a = b := by
  cases a; cases b; cases h; rfl

instance [DecidableEq α] : DecidableEq (Dict α) := fun a b =>
  decidable_of_iff (a.entries = b.entries) ⟨ext, fun h => h ▸ rfl⟩

/-- Binds a key, in place of what it was bound to. -/
def insert (d : Dict α) (key : String) (value : α) : Dict α :=
  ⟨Bindings.put key value d.entries, d.ordered.put⟩

/-- The value of a key. -/
def get? (d : Dict α) (key : String) : Option α :=
  Bindings.get? key d.entries

/-- Whether a key is bound. -/
def contains (d : Dict α) (key : String) : Bool :=
  (d.get? key).isSome

/-- The number of bindings. -/
def size (d : Dict α) : Nat :=
  d.entries.length

/-- The keys in increasing order. -/
def keys (d : Dict α) : List String :=
  d.entries.map (·.1)

/-- Adds pairs in order; of two with one key the later wins. -/
def insertAll (d : Dict α) (pairs : List (String × α)) : Dict α :=
  pairs.foldl (fun d pair => d.insert pair.1 pair.2) d

/-- The dictionary of a list of pairs; of two with one key the later wins. -/
def ofList (pairs : List (String × α)) : Dict α :=
  empty.insertAll pairs

/-- The bindings of both, those of the second first in rank. -/
def merge (base upper : Dict α) : Dict α :=
  base.insertAll upper.entries

@[simp] theorem get?_empty (key : String) : (empty : Dict α).get? key = none := rfl

@[simp] theorem get?_insert (d : Dict α) (key name : String) (value : α) :
    (d.insert key value).get? name = if name = key then some value else d.get? name :=
  Bindings.get?_put ..

@[simp] theorem insertAll_nil (d : Dict α) : d.insertAll [] = d := rfl

@[simp] theorem insertAll_cons (d : Dict α) (pair : String × α) (pairs : List (String × α)) :
    d.insertAll (pair :: pairs) = (d.insert pair.1 pair.2).insertAll pairs := rfl

theorem get?_eq_some_iff {d : Dict α} {key : String} {value : α} :
    d.get? key = some value ↔ (key, value) ∈ d.entries :=
  Bindings.get?_eq_some_iff d.ordered.nodup_keys

/-- Dictionaries with the same look-ups are equal. -/
theorem ext_get? {a b : Dict α} (h : ∀ key, a.get? key = b.get? key) : a = b :=
  ext (a.ordered.ext b.ordered h)

/-- A look-up after several insertions finds the last of them with that key. -/
theorem get?_insertAll (d : Dict α) (pairs : List (String × α)) (name : String) :
    (d.insertAll pairs).get? name =
      (((pairs.filter fun pair => pair.1 = name).getLast?).map (·.2)).or (d.get? name) := by
  induction pairs generalizing d with
  | nil => simp
  | cons pair pairs ih =>
    rw [insertAll_cons, ih, get?_insert]
    by_cases h : pair.1 = name
    · subst h
      simp only [List.filter_cons, decide_true, if_true, List.getLast?_cons]
      cases (pairs.filter fun p => p.1 = pair.1).getLast? <;> simp
    · simp [h, Ne.symm h]

theorem get?_ofList (pairs : List (String × α)) (name : String) :
    (ofList pairs).get? name = ((pairs.filter fun pair => pair.1 = name).getLast?).map (·.2) := by
  simp [ofList, get?_insertAll]

theorem entries_ofList (pairs : List (String × α)) :
    (ofList pairs).entries = Bindings.ofList pairs :=
  (List.foldl_hom entries fun _ _ => rfl).symm

theorem ofList_entries (d : Dict α) : ofList d.entries = d :=
  ext ((entries_ofList d.entries).trans d.ordered.ofList_eq)

theorem ofList_of_perm {d : Dict α} {pairs : List (String × α)} (perm : d.entries.Perm pairs) :
    ofList pairs = d :=
  ext ((entries_ofList pairs).trans (d.ordered.ofList_eq_of_perm perm))

end Dict

end ScenarioSuite
