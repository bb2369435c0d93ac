import ScenarioSuite.Proofs.EnvironmentFormat
import ScenarioSuite.Proofs.Selection

/-!
# The shared variables of a file

Shared variables may stand under two names in a file, and only one of the two objects counts. So the
variables of a selection are those that the selected environment declares and, behind them, those of
the object that counts. Variables under `shared` are always among them. Those under `$shared` are
dropped if the file has an object under `shared` too, even where that object is silent about them.

## Main definitions

* `Environments.declared?`: what a file declares for a variable.
* `Environments.Counts`: which of two objects of shared variables counts.

## Main statements

* `Environments.Describes.rel_seeds?`: where the variables of a selection come from.
* `Environments.seeds?_of_load`: which of the declared variables are bound, and to what.
-/

namespace ScenarioSuite.Environments

/-- What the object under a key declares for a variable. -/
def declared? (key : String) (members : List (String × Json)) (x : String) : Option Json :=
  (Bindings.get? key members).bind (Json.member? x)

/-- The object of shared variables under a key counts: it stands under `shared`, or nothing does. -/
def Counts (key : String) (members : List (String × Json)) : Prop :=
  key = "shared" ∨ Bindings.get? "shared" members = none

instance (key : String) (members : List (String × Json)) : Decidable (Counts key members) :=
  inferInstanceAs (Decidable (key = "shared" ∨ Bindings.get? "shared" members = none))

/-! ## Look-ups in what a file describes -/

theorem rel_get?_of_forall₂ {α β : Type} {r : α → β → Prop} {as : List (String × α)}
    {bs : List (String × β)} (h : List.Forall₂ (fun a b => b.1 = a.1 ∧ r a.2 b.2) as bs)
    (x : String) : Option.Rel r (Bindings.get? x as) (Bindings.get? x bs) := by
  induction h with
  | nil => exact .none
  | @cons a b _ _ pair _ ih =>
    obtain ⟨key, v⟩ := a
    obtain ⟨key', w⟩ := b
    obtain ⟨rfl, related⟩ : key' = key ∧ r v w := pair
    by_cases heq : x = key'
    · simpa [Bindings.get?, heq] using Option.Rel.some related
    · simpa [Bindings.get?, heq] using ih

theorem rel_member?_of_declares {v : Json} {values : Dict String} (h : Declares v values)
    (x : String) : Option.Rel Scalar (v.member? x) (values.get? x) := by
  obtain ⟨members, rfl, pairs⟩ := h
  exact rel_get?_of_forall₂ pairs x

variable {members : List (String × Json)} {es : Environments}

/-- A shared variable comes from the object that counts. -/
theorem Describes.rel_shared (h : Describes members es) (x : String) :
    Option.Rel Scalar ((ranked? "shared" "$shared" members).bind (Json.member? x))
      (es.shared.get? x) := by
  have counts := h.shared
  cases hranked : ranked? "shared" "$shared" members with
  | none =>
    rw [hranked] at counts
    rw [show es.shared = Dict.empty from counts]
    exact .none
  | some v =>
    rw [hranked] at counts
    exact rel_member?_of_declares counts x

/-- A variable of an environment comes from the member of its name. -/
theorem Describes.rel_environment (ordered : Bindings.Ordered members) (h : Describes members es)
    {name : String} {e : Environment} (he : es.get? name = some e) (x : String) :
    Option.Rel Scalar (declared? name members x) (e.get? x) := by
  have pairs := h.environments.imp fun _ _ pair => And.intro pair.1 pair.2.2
  have member :=
    rel_get?_of_forall₂ (r := fun v (e : Environment) => Declares v e.values) pairs name
  rw [show Bindings.get? name es.environments.entries = some e from he] at member
  cases hkept : Bindings.get? name (members.filter fun m => ¬ IsReserved m.1) with
  | none =>
    rw [hkept] at member
    cases member
  | some v =>
    rw [hkept] at member
    have listed : (name, v) ∈ members := List.mem_of_mem_filter (Bindings.mem_of_get? hkept)
    have found := (Bindings.get?_eq_some_iff ordered.nodup_keys).2 listed
    rw [declared?, found, Option.bind_some]
    cases member with
    | some declares => exact rel_member?_of_declares declares x

theorem rel_or {α β : Type} {r : α → β → Prop} {a a' : Option α} {b b' : Option β}
    (first : Option.Rel r a b) (second : Option.Rel r a' b') :
    Option.Rel r (a.or a') (b.or b') := by
  cases first with
  | none => exact second
  | some h => exact .some h

/-- What a selection binds a variable to is declared by the selected environment, or failing that by
the active one, and by the object of shared variables that counts if it is not declared there. -/
theorem Describes.rel_seeds? (ordered : Bindings.Ordered members) (h : Describes members es)
    {selected : Option String} {seeds : Dict String} (hseeds : es.seeds? selected = some seeds)
    (x : String) :
    Option.Rel Scalar
      (((selected.or es.active).bind (declared? · members x)).or
        ((ranked? "shared" "$shared" members).bind (Json.member? x)))
      (seeds.get? x) := by
  rw [get?_seeds? hseeds]
  refine rel_or ?_ (h.rel_shared x)
  unfold seeds? at hseeds
  cases hname : selected.or es.active with
  | none => exact .none
  | some name =>
    rw [hname] at hseeds
    obtain ⟨e, he, -⟩ := Option.map_eq_some_iff.1 hseeds
    simpa [he] using h.rel_environment ordered he x

theorem isSome_eq_of_rel {α β : Type} {r : α → β → Prop} {a : Option α} {b : Option β}
    (h : Option.Rel r a b) : a.isSome = b.isSome := by
  cases h <;> rfl

theorem bind_ranked?_of_counts {key x : String} {v : Json} (shared : IsShared key)
    (counts : Counts key members) (h : declared? key members x = some v) :
    (ranked? "shared" "$shared" members).bind (Json.member? x) = some v := by
  rcases shared with rfl | rfl
  · obtain ⟨object, hobject, hv⟩ := Option.bind_eq_some_iff.1 h
    rw [ranked?, hobject, Option.some_or, Option.bind_some, hv]
  · rcases counts with heq | hnone
    · exact absurd heq (by decide)
    · rw [ranked?, hnone, Option.none_or]
      exact h

/-- A variable that is declared under `shared`, or under `$shared` where there is no `shared`, is
bound whatever is selected, to the declared value unless the selected environment declares it too.
If a file has both, a variable under `$shared` is bound only if the selected environment or the
object under `shared` declares it as well. -/
theorem seeds?_of_load {fs : FileSystem} {path : Path} (h : load fs path = .ok es) :
    ∃ text members, fs.readText path = .ok text ∧ Json.parse text = .ok (.object members) ∧
      ∀ selected seeds, es.seeds? selected = some seeds →
        ∀ key, IsShared key → ∀ x v, declared? key members x = some v →
          let own := (selected.or es.active).bind (declared? · members x)
          (Counts key members → ∃ value, seeds.get? x = some value ∧ Scalar (own.getD v) value) ∧
          ((seeds.get? x).isSome ↔
            Counts key members ∨ own.isSome ∨ (declared? "shared" members x).isSome) := by
  obtain ⟨text, members, htext, hjson, ordered, describes⟩ := exists_describes_of_load h
  refine ⟨text, members, htext, hjson, fun selected seeds hseeds key shared x v hv => ?_⟩
  intro own
  have related := describes.rel_seeds? ordered hseeds x
  have bound : (seeds.get? x).isSome = _ := (isSome_eq_of_rel related).symm
  by_cases counts : Counts key members
  · rw [bind_ranked?_of_counts shared counts hv, Option.or_some] at related bound
    refine ⟨fun _ => ?_, by simpa [bound] using Or.inl counts⟩
    obtain ⟨value, hvalue⟩ := Option.isSome_iff_exists.1 bound
    rw [hvalue] at related ⊢
    cases related with
    | some scalar => exact ⟨value, rfl, scalar⟩
  · have behind : ranked? "shared" "$shared" members = Bindings.get? "shared" members :=
      Option.or_of_isSome (Option.isSome_iff_ne_none.2 (not_or.1 counts).2)
    rw [behind] at bound
    refine ⟨fun h => absurd h counts, ?_⟩
    simp [bound, counts, Option.isSome_or, own, declared?]

/-- Of the variables under `$shared` one is declared by the selected environment too, and the other
one nowhere else. -/
theorem seeds?_of_load_bothSpellings :
    let file := "\x7b\"$shared\":\x7b\"b\":\"1\",\"c\":\"\"\x7d," ++
      "\"d\":\x7b\"b\":\"2\"\x7d,\"shared\":\x7b\"a\":null\x7d\x7d"
    let fs : FileSystem := ⟨.directory [("env.json", .file (Text.Utf8.encode file))], []⟩
    ∃ es seeds, load fs "env.json" = .ok es ∧ es.seeds? (some "d") = some seeds ∧
      (∃ value, seeds.get? "a" = some value ∧ Scalar .null value) ∧
      (seeds.get? "b").isSome ∧ ¬ (seeds.get? "c").isSome := by
  intro file fs
  let members : List (String × Json) :=
    [("$shared", .object [("b", .string "1"), ("c", .string "")]),
     ("d", .object [("b", .string "2")]), ("shared", .object [("a", .null)])]
  let es : Environments :=
    ⟨Dict.ofList [("d", ⟨"d", Dict.ofList [("b", "2")]⟩)], Dict.ofList [("a", "")], none⟩
  have loaded : load fs "env.json" = .ok es := toOption_eq_some_iff.1 (by decide +kernel)
  have read : fs.readText "env.json" = .ok file := toOption_eq_some_iff.1 (by decide +kernel)
  have parsed : Json.parse file = .ok (.object members) := by
    subst file members
    rfl
  obtain ⟨text, members', htext, hjson, bound⟩ := seeds?_of_load loaded
  obtain rfl : file = text := Except.ok.inj (read.symm.trans htext)
  obtain ⟨⟩ : Json.object members = .object members' := Except.ok.inj (parsed.symm.trans hjson)
  obtain ⟨seeds, hseeds⟩ : ∃ seeds, es.seeds? (some "d") = some seeds :=
    Option.isSome_iff_exists.1 (by decide +kernel)
  have under (key : String) (shared : IsShared key) (x : String) (v : Json)
      (hv : declared? key members x = some v) := bound _ _ hseeds key shared x v hv
  refine ⟨es, seeds, loaded, hseeds, ?_, ?_, ?_⟩
  · exact (under "shared" (.inl rfl) "a" .null rfl).1 (.inl rfl)
  · exact (under "$shared" (.inr rfl) "b" (.string "1") rfl).2.2 (.inr (.inl rfl))
  · rw [(under "$shared" (.inr rfl) "c" (.string "") rfl).2]
    decide +kernel

/-- A variable that only the object under `$shared` declares is lost without a word. -/
theorem load_dropsShared :
    let file := "\x7b\"$shared\":\x7b\"b\":\"2\"\x7d,\"shared\":\x7b\"a\":\"1\"\x7d\x7d"
    let fs : FileSystem := ⟨.directory [("env.json", .file (Text.Utf8.encode file))], []⟩
    let members : List (String × Json) :=
      [("$shared", .object [("b", .string "2")]), ("shared", .object [("a", .string "1")])]
    let es : Environments := ⟨Dict.empty, Dict.ofList [("a", "1")], none⟩
    Json.parse file = .ok (.object members) ∧ load fs "env.json" = .ok es ∧
      declared? "$shared" members "b" = some (.string "2") ∧
      declared? "shared" members "b" = none ∧
      ∃ seeds, es.seeds? none = some seeds ∧ seeds.get? "b" = none :=
  ⟨rfl, toOption_eq_some_iff.1 (by decide +kernel), rfl, rfl, _, rfl, by decide +kernel⟩

end ScenarioSuite.Environments
