import ScenarioSuite.Dict

/-!
# The store of variables

A run keeps the values of its variables in one store. Scenarios read it when their requests are
rendered and write it when they capture values from a response.

## Main definitions

* `Store`: the variables and their values.
* `Unbound`: the error of reading a variable that has no value.
* `Store.get`, `Store.set`, `Store.seed`.

## Main statements

* `Store.get_set`: a variable reads as it was last set.
* `Store.get_eq_error_iff`: a read fails for a variable without a value, and names it.
-/

namespace ScenarioSuite

/-- A variable was read that has no value. -/
structure Unbound where
  name : String
deriving Repr, DecidableEq

/-- The error in words. -/
def Unbound.message (e : Unbound) : String :=
  "Unbound variable: " ++ e.name

/-- The variables of a run and their values. -/
structure Store where
  values : Dict String
deriving DecidableEq

namespace Store

/-- No variable has a value. -/
def empty : Store := ⟨Dict.empty⟩

instance : Inhabited Store := ⟨empty⟩

/-- The value of a variable, if it has one. -/
def get? (s : Store) (name : String) : Option String :=
  s.values.get? name

/-- The value of a variable. -/
def get (s : Store) (name : String) : Except Unbound String :=
  match s.get? name with
  | some value => .ok value
  | none => .error ⟨name⟩

/-- Gives a variable a value. -/
def set (s : Store) (name value : String) : Store :=
  ⟨s.values.insert name value⟩

/-- Gives variables values in order. -/
def seed (s : Store) (pairs : List (String × String)) : Store :=
  pairs.foldl (fun s pair => s.set pair.1 pair.2) s

/-- The store of a list of variables; of two with one name the later counts. -/
def ofList (pairs : List (String × String)) : Store :=
  empty.seed pairs

/-- Whether a variable has a value. -/
def contains (s : Store) (name : String) : Bool :=
  s.values.contains name

/-- The number of variables that have a value. -/
def size (s : Store) : Nat :=
  s.values.size

@[simp] theorem get?_empty (name : String) : empty.get? name = none := rfl

@[simp] theorem get?_set (s : Store) (x name value : String) :
    (s.set x value).get? name = if name = x then some value else s.get? name :=
  Dict.get?_insert ..

theorem get_eq_ok_iff {s : Store} {name value : String} :
    s.get name = .ok value ↔ s.get? name = some value := by
  cases h : s.get? name <;> simp [get, h]

theorem get_eq_error_iff {s : Store} {name : String} {e : Unbound} :
    s.get name = .error e ↔ s.get? name = none ∧ e = ⟨name⟩ := by
  cases h : s.get? name <;> simp [get, h, eq_comm]

/-- A variable reads as it was last set. -/
theorem get_set (s : Store) (x name value : String) :
    (s.set x value).get name = if name = x then .ok value else s.get name := by
  by_cases h : name = x <;> simp [get, h]

@[simp] theorem seed_nil (s : Store) : s.seed [] = s := rfl

@[simp] theorem seed_cons (s : Store) (pair : String × String) (pairs : List (String × String)) :
    s.seed (pair :: pairs) = (s.set pair.1 pair.2).seed pairs := rfl

theorem seed_append (s : Store) (as bs : List (String × String)) :
    s.seed (as ++ bs) = (s.seed as).seed bs := by
  simp [seed]

end Store

end ScenarioSuite
