import ScenarioSuite.Environment.File
import ScenarioSuite.Proofs.Outcome
import ScenarioSuite.Proofs.SortedValues

/-!
# The format of environment files

An environment file is an object. Two of its names are reserved, for the shared variables and for
the active environment, and each of them may also be written with a dollar sign. Every other member
is an environment. Reading takes in one member after another: what a member says does not depend on
those before it, and of the two spellings of a reserved name the one without the dollar sign counts,
because it stands behind the other one in the order of names. Only the active environment has to be
looked up among the others when all members have been taken in.

## Main definitions

* `Environments.Scalar`, `Environments.Declares`: values and objects that declare variables.
* `Environments.Means`, `Environments.take`: what a member says, and taking it in.
* `Environments.ranked?`: the member that counts of two spellings.
* `Environments.Format`: the documented format.
* `Environments.Describes`: the environments that a file describes.

## Main statements

* `Environments.addMember_eq_ok_iff`: what is taken in for one member.
* `Environments.ofFileJson_object_eq_ok_iff`: what is taken in for a whole file.
* `Environments.ofFileJson_format`: exactly the documented format is accepted, for what it says.
* `Environments.exists_describes_of_load`: what is loaded is what a file describes.
-/

namespace ScenarioSuite.Environments

/-! ## Variables -/

/-- The text that a value gives a variable: texts as they are, numbers and truth values as they are
written in JSON, and nothing for null. -/
inductive Scalar : Json → String → Prop where
  | string (s : String) : Scalar (.string s) s
  | number (n : Json.Number) : Scalar (.number n) (Json.number n).render
  | bool (b : Bool) : Scalar (.bool b) (Json.bool b).render
  | null : Scalar .null ""

/-- The value is an object of scalars, and the variables are its members. -/
def Declares (v : Json) (values : Dict String) : Prop :=
  ∃ members, v = .object members ∧
    List.Forall₂ (fun m b => b.1 = m.1 ∧ Scalar m.2 b.2) members values.entries

/-- The value is an object of scalars. -/
def IsVariables (v : Json) : Prop :=
  ∃ members, v = .object members ∧ ∀ m ∈ members, ∃ text, Scalar m.2 text

theorem valueOf?_eq_some_iff {v : Json} {text : String} :
    valueOf? v = some text ↔ Scalar v text := by
  have number (n : Json.Number) : n.render = (Json.number n).render := String.ofList_toList.symm
  constructor
  · intro h
    cases v with
    | bool b => cases b <;> cases h <;> exact .bool _
    | number n =>
      cases h
      rw [number]
      exact .number n
    | string s =>
      cases h
      exact .string _
    | null =>
      cases h
      exact .null
    | array => cases h
    | object => cases h
  · intro h
    cases h with
    | string => rfl
    | number n => exact congrArg some (number n)
    | bool b => cases b <;> rfl
    | null => rfl

/-- A list with names in order is a dictionary as it is. -/
theorem entries_ofList_of_forall₂ {α β : Type} {r : String × α → String × β → Prop}
    {as : List (String × α)} {bs : List (String × β)} (ordered : Bindings.Ordered as)
    (h : List.Forall₂ r as bs) (names : ∀ a b, r a b → b.1 = a.1) :
    (Dict.ofList bs).entries = bs := by
  have increasing : (as.map (·.1)).Pairwise (· < ·) := List.pairwise_map.2 ordered
  rw [← map_fst_of_forall₂ h names] at increasing
  rw [Dict.entries_ofList, Bindings.Ordered.ofList_eq (List.pairwise_map.1 increasing)]

theorem variablesOf_eq_ok_iff {context : String} {v : Json} (sorted : v.Sorted)
    {values : Dict String} : variablesOf context v = .ok values ↔ Declares v values := by
  cases sorted with
  | @object members ordered _ =>
    have fold : variablesOf context (.object members) = .ok values ↔
        ∃ pairs, List.Forall₂ (fun m b => b.1 = m.1 ∧ Scalar m.2 b.2) members pairs ∧
          values = Dict.ofList pairs := by
      refine foldlM_eq_ok_iff fun m _ d d' => ?_
      simp only [← valueOf?_eq_some_iff]
      cases valueOf? m.2 with
      | none => simp
      | some text => simp [eq_comm]
    rw [fold, Declares]
    constructor
    · rintro ⟨pairs, hpairs, rfl⟩
      refine ⟨members, rfl, ?_⟩
      rwa [entries_ofList_of_forall₂ ordered hpairs fun _ _ h => h.1]
    · rintro ⟨_, ⟨⟩, hpairs⟩
      exact ⟨_, hpairs, values.ofList_entries.symm⟩
  | _ => simp [variablesOf, Declares]

theorem exists_declares_iff {v : Json} (sorted : v.Sorted) :
    (∃ values, Declares v values) ↔ IsVariables v := by
  constructor
  · rintro ⟨values, members, rfl, h⟩
    refine ⟨members, rfl, fun m hm => ?_⟩
    obtain ⟨b, -, scalar⟩ := exists_forall₂_iff.1 ⟨_, h⟩ m hm
    exact ⟨b.2, scalar⟩
  · rintro ⟨members, rfl, scalars⟩
    cases sorted with
    | object ordered _ =>
      have each : ∀ m ∈ members, ∃ b : String × String, b.1 = m.1 ∧ Scalar m.2 b.2 := by
        intro m hm
        obtain ⟨text, scalar⟩ := scalars m hm
        exact ⟨(m.1, text), rfl, scalar⟩
      obtain ⟨pairs, hpairs⟩ := exists_forall₂_iff.2 each
      refine ⟨Dict.ofList pairs, members, rfl, ?_⟩
      rwa [entries_ofList_of_forall₂ ordered hpairs fun _ _ h => h.1]

/-! ## Members -/

/-- The names under which shared variables stand. -/
def IsShared (key : String) : Prop :=
  key = "shared" ∨ key = "$shared"

/-- The names under which the name of the active environment stands. -/
def IsActive (key : String) : Prop :=
  key = "active" ∨ key = "$active"

/-- The names that are no environments. -/
def IsReserved (key : String) : Prop :=
  IsShared key ∨ IsActive key

instance : DecidablePred IsShared := fun key =>
  inferInstanceAs (Decidable (key = "shared" ∨ key = "$shared"))

instance : DecidablePred IsActive := fun key =>
  inferInstanceAs (Decidable (key = "active" ∨ key = "$active"))

instance : DecidablePred IsReserved := fun key =>
  inferInstanceAs (Decidable (IsShared key ∨ IsActive key))

/-- A letter or an underscore, and then letters, digits, underscores and hyphens, all in ASCII. -/
inductive IsName : String → Prop where
  | intro {name : String} {c : Char} {rest : List Char} (chars : name.toList = c :: rest)
      (first : c.isAlpha ∨ c = '_') (others : ∀ d ∈ rest, d.isAlphanum ∨ d = '_' ∨ d = '-') :
      IsName name

theorem isName_iff {name : String} : isName name ↔ IsName name := by
  unfold isName
  split
  · next nil =>
    refine iff_of_false Bool.false_ne_true ?_
    rintro ⟨chars, -, -⟩
    cases nil.symm.trans chars
  · next c rest cons =>
    have same : ((c.isAlpha || c == '_') && rest.all isNameChar) = true ↔
        (c.isAlpha ∨ c = '_') ∧ ∀ d ∈ rest, d.isAlphanum ∨ d = '_' ∨ d = '-' := by
      simp [isNameChar, or_assoc]
    rw [same]
    constructor
    · rintro ⟨first, others⟩
      exact .intro cons first others
    · rintro ⟨chars, first, others⟩
      cases cons.symm.trans chars
      exact ⟨first, others⟩

/-- What a member of a file says. -/
inductive Entry where
  | shared (values : Dict String)
  | active (name : String)
  | environment (e : Environment)

/-- A member says something: the shared variables, the name of the active environment, or an
environment with its variables. -/
inductive Means (key : String) : Json → Entry → Prop where
  | shared {v : Json} {values : Dict String} (h : IsShared key) (declares : Declares v values) :
      Means key v (.shared values)
  | active (h : IsActive key) (name : String) : Means key (.string name) (.active name)
  | environment {v : Json} {values : Dict String} (other : ¬ IsReserved key) (named : IsName key)
      (declares : Declares v values) : Means key v (.environment ⟨key, values⟩)

/-- The environments with what a member says. -/
def take (es : Environments) : Entry → Environments
  | .shared values => { es with shared := values }
  | .active name => { es with active := some name }
  | .environment e => es.add e

theorem not_isActive_of_isShared {key : String} (h : IsShared key) : ¬ IsActive key := by
  rcases h with rfl | rfl <;> decide

/-- A member is taken in for what it says, whatever stands before it. -/
theorem addMember_eq_ok_iff {es es' : Environments} {key : String} {v : Json} (sorted : v.Sorted) :
    es.addMember key v = .ok es' ↔ ∃ entry, Means key v entry ∧ es' = es.take entry := by
  unfold addMember
  split
  · next shared =>
    rw [bind_eq_ok_iff]
    simp only [variablesOf_eq_ok_iff sorted]
    constructor
    · rintro ⟨values, declares, ⟨⟩⟩
      exact ⟨_, .shared shared declares, rfl⟩
    · rintro ⟨_, means, rfl⟩
      cases means with
      | shared _ declares => exact ⟨_, declares, rfl⟩
      | active h => exact absurd h (not_isActive_of_isShared shared)
      | environment other => exact absurd (.inl shared) other
  split
  · next shared active =>
    constructor
    · intro h
      split at h
      · next name =>
        cases h
        exact ⟨_, .active active name, rfl⟩
      · cases h
    · rintro ⟨_, means, rfl⟩
      cases means with
      | shared h => exact absurd h shared
      | active => rfl
      | environment other => exact absurd (.inr active) other
  split
  · next shared active named =>
    rw [bind_eq_ok_iff]
    simp only [variablesOf_eq_ok_iff sorted]
    constructor
    · rintro ⟨values, declares, ⟨⟩⟩
      exact ⟨_, .environment (not_or.2 ⟨shared, active⟩) (isName_iff.1 named) declares, rfl⟩
    · rintro ⟨_, means, rfl⟩
      cases means with
      | shared h => exact absurd h shared
      | active h => exact absurd h active
      | environment _ _ declares => exact ⟨_, declares, rfl⟩
  · next shared active unnamed =>
    refine iff_of_false (by simp) ?_
    rintro ⟨_, means, rfl⟩
    cases means with
    | shared h => exact shared h
    | active h => exact active h
    | environment _ named => exact unnamed (isName_iff.2 named)

/-- What is taken in of a member has to do with its name. -/
theorem exists_means_iff {key : String} {v : Json} (sorted : v.Sorted) :
    (∃ entry, Means key v entry) ↔
      (IsShared key → IsVariables v) ∧ (IsActive key → ∃ name, v = .string name) ∧
        (¬ IsReserved key → IsName key ∧ IsVariables v) := by
  rw [← exists_declares_iff sorted]
  constructor
  · rintro ⟨_, means⟩
    cases means with
    | shared h declares =>
      exact ⟨fun _ => ⟨_, declares⟩, fun h' => absurd h' (not_isActive_of_isShared h),
        fun other => absurd (.inl h) other⟩
    | active h name =>
      exact ⟨fun h' => absurd h (not_isActive_of_isShared h'), fun _ => ⟨name, rfl⟩,
        fun other => absurd (.inr h) other⟩
    | environment other named declares =>
      exact ⟨fun h => absurd (.inl h) other, fun h => absurd (.inr h) other,
        fun _ => ⟨named, _, declares⟩⟩
  · rintro ⟨shared, active, others⟩
    by_cases hshared : IsShared key
    · obtain ⟨values, declares⟩ := shared hshared
      exact ⟨_, .shared hshared declares⟩
    by_cases hactive : IsActive key
    · obtain ⟨name, rfl⟩ := active hactive
      exact ⟨_, .active hactive name⟩
    · have other : ¬ IsReserved key := not_or.2 ⟨hshared, hactive⟩
      obtain ⟨named, values, declares⟩ := others other
      exact ⟨_, .environment other named declares⟩

/-! ## Files -/

theorem checkActive_eq_ok_iff {es es' : Environments} :
    es.checkActive = .ok es' ↔ es' = es ∧ ∀ name, es.active = some name → es.has name := by
  unfold checkActive
  split
  · next hnone => simp [hnone, eq_comm (a := es)]
  · next name hname =>
    by_cases h : es.has name
    · simp [hname, h, eq_comm (a := es)]
    · simp [hname, h]

theorem load_eq_ok_iff {fs : FileSystem} {path : Path} {es : Environments} :
    load fs path = .ok es ↔ fs.isFile path ∧ ∃ text json,
      fs.readText path = .ok text ∧ Json.parse text = .ok json ∧ ofFileJson json = .ok es := by
  unfold load ofFileText
  cases fs.isFile path with
  | false => simp
  | true =>
    cases fs.readText path with
    | error e => simp
    | ok text =>
      cases hjson : Json.parse text with
      | error e => simp [hjson]
      | ok json => cases hes : ofFileJson json <;> simp [hjson, hes]

variable {members : List (String × Json)} {entries : List Entry}

/-- A file is accepted if each member says something and the active environment is among those that
have been taken in. -/
theorem ofFileJson_object_eq_ok_iff (sorted : (Json.object members).Sorted) {es : Environments} :
    ofFileJson (.object members) = .ok es ↔
      ∃ entries, List.Forall₂ (fun m entry => Means m.1 m.2 entry) members entries ∧
        es = entries.foldl take empty ∧ ∀ name, es.active = some name → es.has name := by
  have step : ∀ m ∈ members, ∀ es es' : Environments,
      es.addMember m.1 m.2 = .ok es' ↔ ∃ entry, Means m.1 m.2 entry ∧ es' = es.take entry := by
    intro m hm es es'
    cases sorted with
    | object _ below => exact addMember_eq_ok_iff (below m hm)
  have fold (taken : Environments) :
      members.foldlM (fun es m => addMember es m.1 m.2) empty = .ok taken ↔
        ∃ entries, List.Forall₂ (fun m entry => Means m.1 m.2 entry) members entries ∧
          taken = entries.foldl take empty :=
    foldlM_eq_ok_iff step
  unfold ofFileJson
  rw [bind_eq_ok_iff]
  constructor
  · rintro ⟨taken, htaken, hcheck⟩
    obtain ⟨entries, means, rfl⟩ := (fold taken).1 htaken
    obtain ⟨rfl, known⟩ := checkActive_eq_ok_iff.1 hcheck
    exact ⟨entries, means, rfl, known⟩
  · rintro ⟨entries, means, rfl, known⟩
    exact ⟨_, (fold _).2 ⟨entries, means, rfl⟩, checkActive_eq_ok_iff.2 ⟨rfl, known⟩⟩

/-- The member that counts of two names: the one of the first name, if it is there. -/
def ranked? (first second : String) (members : List (String × Json)) : Option Json :=
  (Bindings.get? first members).or (Bindings.get? second members)

/-- If the first name stands behind the second one in the order of names, the last of the two
members is the one that counts. -/
theorem ranked?_cons {first second : String} (lt : second < first) {m : String × Json}
    (ordered : Bindings.Ordered (m :: members)) :
    ranked? first second (m :: members) = (ranked? first second members).or
      (if m.1 = first ∨ m.1 = second then some m.2 else none) := by
  have above : ∀ b ∈ members, m.1 < b.1 := (List.pairwise_cons.1 ordered).1
  have none {key : String} (h : key = m.1 ∨ key < m.1) : Bindings.get? key members = none := by
    refine Bindings.get?_eq_none fun hmem => ?_
    obtain ⟨b, hb, rfl⟩ := List.mem_map.1 hmem
    rcases h with h | h
    · exact String.ne_of_lt (above b hb) h.symm
    · exact String.lt_asymm (above b hb) h
  obtain ⟨key, v⟩ := m
  by_cases hfirst : key = first
  · subst hfirst
    simp [ranked?, Bindings.get?, none (.inl rfl), none (.inr lt)]
  by_cases hsecond : key = second
  · subst hsecond
    simp [ranked?, Bindings.get?, none (.inl rfl), Ne.symm hfirst]
  · simp [ranked?, Bindings.get?, hfirst, hsecond, Ne.symm hfirst, Ne.symm hsecond]

/-! ## What a file describes -/

/-- The environment that a member holds. -/
def Entry.environment? : Entry → Option (String × Environment)
  | .environment e => some (e.name, e)
  | _ => none

/-- The environments that a file describes: one for each name that is not reserved, with its members
as variables, the active one, and the shared variables. -/
structure Describes (members : List (String × Json)) (es : Environments) : Prop where
  environments : List.Forall₂
    (fun m entry => entry.1 = m.1 ∧ entry.2.name = m.1 ∧ Declares m.2 entry.2.values)
    (members.filter fun m => ¬ IsReserved m.1) es.environments.entries
  active : es.active.map Json.string = ranked? "active" "$active" members
  shared : match ranked? "shared" "$shared" members with
    | some v => Declares v es.shared
    | none => es.shared = Dict.empty

/-- The documented format of an environment file. -/
structure Format (members : List (String × Json)) : Prop where
  shared : ∀ m ∈ members, IsShared m.1 → IsVariables m.2
  active : ∀ m ∈ members, IsActive m.1 → ∃ name, m.2 = .string name
  others : ∀ m ∈ members, ¬ IsReserved m.1 → IsName m.1 ∧ IsVariables m.2
  known : ∀ name, ranked? "active" "$active" members = some (.string name) →
    ¬ IsReserved name ∧ name ∈ members.map (·.1)

theorem environments_foldl_take (es : Environments) (entries : List Entry) :
    (entries.foldl take es).environments =
      es.environments.insertAll (entries.filterMap Entry.environment?) := by
  induction entries generalizing es with
  | nil => rfl
  | cons entry entries ih =>
    rw [List.foldl_cons, ih]
    cases entry <;> rfl

theorem forall₂_environment?
    (h : List.Forall₂ (fun m entry => Means m.1 m.2 entry) members entries) :
    List.Forall₂ (fun m entry => entry.1 = m.1 ∧ entry.2.name = m.1 ∧ Declares m.2 entry.2.values)
      (members.filter fun m => ¬ IsReserved m.1) (entries.filterMap Entry.environment?) := by
  induction h with
  | nil => exact .nil
  | @cons m entry _ _ means _ ih =>
    obtain ⟨key, v⟩ := m
    cases means with
    | shared h =>
      have reserved : IsReserved key := .inl h
      rw [List.filter_cons_of_neg (by simpa using reserved)]
      exact ih
    | active h =>
      have reserved : IsReserved key := .inr h
      rw [List.filter_cons_of_neg (by simpa using reserved)]
      exact ih
    | environment other _ declares =>
      rw [List.filter_cons_of_pos (by simpa using other)]
      exact .cons ⟨rfl, rfl, declares⟩ ih

/-- A relation between the member that counts of two names and what has been taken in holds at the
end if it holds at first and every member carries it on: those of the two names take the place of
the one that counts, and the others leave it. -/
theorem foldl_take_of_ranked? {first second : String} (lt : second < first)
    (P : Option Json → Environments → Prop) (start : P none empty)
    (step : ∀ {key v entry counts es}, Means key v entry → P counts es →
      P ((if key = first ∨ key = second then some v else none).or counts) (es.take entry))
    (ordered : Bindings.Ordered members)
    (h : List.Forall₂ (fun m entry => Means m.1 m.2 entry) members entries) :
    P (ranked? first second members) (entries.foldl take empty) := by
  suffices run : ∀ counts es, P counts es →
      P ((ranked? first second members).or counts) (entries.foldl take es) by
    simpa only [Option.or_none] using run none empty start
  induction h with
  | nil => exact fun _ _ start => start
  | cons means _ ih =>
    intro counts es start
    rw [List.foldl_cons, ranked?_cons lt ordered, Option.or_assoc]
    exact ih (List.pairwise_cons.1 ordered).2 _ _ (step means start)

theorem active_foldl_take (ordered : Bindings.Ordered members)
    (h : List.Forall₂ (fun m entry => Means m.1 m.2 entry) members entries) :
    (entries.foldl take empty).active.map Json.string = ranked? "active" "$active" members := by
  refine foldl_take_of_ranked? (by decide) (fun counts es => es.active.map Json.string = counts)
    rfl (fun {key v entry counts es} means start => ?_) ordered h
  change _ = (if IsActive key then some v else none).or counts
  cases means with
  | shared h => rwa [if_neg (not_isActive_of_isShared h)]
  | active h => rw [if_pos h, Option.some_or, take, Option.map_some]
  | environment other => rwa [if_neg fun h => other (.inr h)]

theorem shared_foldl_take (ordered : Bindings.Ordered members)
    (h : List.Forall₂ (fun m entry => Means m.1 m.2 entry) members entries) :
    match ranked? "shared" "$shared" members with
    | some v => Declares v (entries.foldl take empty).shared
    | none => (entries.foldl take empty).shared = Dict.empty := by
  refine foldl_take_of_ranked? (by decide) (fun counts es => match counts with
    | some v => Declares v es.shared
    | none => es.shared = Dict.empty) rfl (fun {key v entry counts es} means start => ?_) ordered h
  change match (if IsShared key then some v else none).or counts with
    | some v => Declares v (es.take entry).shared
    | none => (es.take entry).shared = Dict.empty
  cases means with
  | shared h declares => rwa [if_pos h]
  | active h => rwa [if_neg fun h' => not_isActive_of_isShared h' h]
  | environment other => rwa [if_neg fun h => other (.inl h)]

theorem describes_foldl_take (ordered : Bindings.Ordered members)
    (h : List.Forall₂ (fun m entry => Means m.1 m.2 entry) members entries) :
    Describes members (entries.foldl take empty) where
  environments := by
    have ordered' : Bindings.Ordered (members.filter fun m => ¬ IsReserved m.1) :=
      List.Pairwise.filter _ ordered
    have pairs := forall₂_environment? h
    have same : (entries.foldl take empty).environments.entries =
        entries.filterMap Entry.environment? := by
      rw [environments_foldl_take]
      exact entries_ofList_of_forall₂ ordered' pairs fun _ _ h => h.1
    rw [same]
    exact pairs
  active := active_foldl_take ordered h
  shared := shared_foldl_take ordered h

theorem Describes.has_iff {es : Environments} (h : Describes members es) {name : String} :
    es.has name ↔ ¬ IsReserved name ∧ name ∈ members.map (·.1) := by
  have keys := map_fst_of_forall₂ h.environments fun _ _ h => h.1
  have listed : es.has name ↔ name ∈ es.environments.entries.map (·.1) := by
    rw [has, Dict.contains, Option.isSome_iff_exists]
    simp [Dict.get?_eq_some_iff]
  rw [listed, keys]
  simp [and_comm]

/-- A file that is accepted describes its environments. -/
theorem exists_describes_of_load {fs : FileSystem} {path : Path} {es : Environments}
    (h : load fs path = .ok es) :
    ∃ text members, fs.readText path = .ok text ∧ Json.parse text = .ok (.object members) ∧
      Bindings.Ordered members ∧ Describes members es := by
  obtain ⟨-, text, json, htext, hjson, hes⟩ := load_eq_ok_iff.1 h
  cases Json.sorted_of_parse hjson with
  | @object members ordered below =>
    obtain ⟨entries, means, rfl, -⟩ := (ofFileJson_object_eq_ok_iff (.object ordered below)).1 hes
    exact ⟨text, members, htext, hjson, ordered, describes_foldl_take ordered means⟩
  | _ => cases hes

/-- A file is accepted if and only if it has the documented format, and what is read are the
environments that it describes: each other member under its name and with its members as variables,
and the active one. -/
theorem ofFileJson_format {raw : Json} (sorted : raw.Sorted) :
    ((∃ es, ofFileJson raw = .ok es) ↔ ∃ members, raw = .object members ∧ Format members) ∧
    ∀ es, ofFileJson raw = .ok es → ∃ members, raw = .object members ∧ Describes members es := by
  cases sorted with
  | @object members ordered below =>
    have accepted (es : Environments) : ofFileJson (.object members) = .ok es ↔ _ :=
      ofFileJson_object_eq_ok_iff (.object ordered below)
    refine ⟨⟨?_, ?_⟩, fun es h => ?_⟩
    · rintro ⟨es, h⟩
      obtain ⟨entries, means, rfl, known⟩ := (accepted es).1 h
      have describes := describes_foldl_take ordered means
      have each (m : String × Json) (hm : m ∈ members) :=
        (exists_means_iff (below m hm)).1 (exists_forall₂_iff.1 ⟨_, means⟩ m hm)
      refine ⟨members, rfl, fun m hm => (each m hm).1, fun m hm => (each m hm).2.1,
        fun m hm => (each m hm).2.2, fun name hname => ?_⟩
      obtain ⟨_, active, ⟨⟩⟩ := Option.map_eq_some_iff.1 (describes.active.trans hname)
      exact describes.has_iff.1 (known name active)
    · rintro ⟨_, ⟨⟩, format⟩
      have each : ∀ m ∈ members, ∃ entry, Means m.1 m.2 entry := fun m hm =>
        (exists_means_iff (below m hm)).2
          ⟨format.shared m hm, format.active m hm, format.others m hm⟩
      obtain ⟨entries, means⟩ := exists_forall₂_iff.2 each
      have describes := describes_foldl_take ordered means
      refine ⟨_, (accepted _).2 ⟨entries, means, rfl, fun name active => ?_⟩⟩
      have counts := describes.active
      rw [active] at counts
      exact describes.has_iff.2 (format.known name counts.symm)
    · obtain ⟨entries, means, rfl, -⟩ := (accepted es).1 h
      exact ⟨members, rfl, describes_foldl_take ordered means⟩
  | _ => simp [ofFileJson]

/-- Both reserved names are there in both spellings, and the variables are of every kind. -/
theorem ofFileJson_format_bothSpellings :
    let scalars : List (String × Json) :=
      [("b", .bool true), ("n", .number (.integer (-7))), ("s", .string "\"\x7b"), ("z", .null)]
    let members : List (String × Json) :=
      [("$active", .string "gone"), ("$shared", .object [("a", .string "1")]),
       ("_x-1", .object scalars), ("active", .string "_x-1"), ("shared", .object [])]
    let values := Dict.ofList [("b", "true"), ("n", "-7"), ("s", "\"\x7b"), ("z", "")]
    let es : Environments := ⟨Dict.ofList [("_x-1", ⟨"_x-1", values⟩)], Dict.empty, some "_x-1"⟩
    (Json.object members).Sorted ∧ Format members ∧ ofFileJson (.object members) = .ok es ∧
      Describes members es := by
  intro scalars members values es
  have sorted : (Json.object members).Sorted := by
    have inner : (Json.object scalars).Sorted := by
      refine .object (by unfold Bindings.Ordered; decide +kernel) ?_
      simp only [scalars, List.forall_mem_cons]
      exact ⟨.bool _, .number _, .string _, .null, List.forall_mem_nil _⟩
    have shared : (Json.object [("a", .string "1")]).Sorted :=
      .object (List.pairwise_singleton _ _) (by simpa using Json.Sorted.string "1")
    have empty : (Json.object []).Sorted := .object .nil (List.forall_mem_nil _)
    refine .object (by unfold Bindings.Ordered; decide +kernel) ?_
    simp only [members, List.forall_mem_cons]
    exact ⟨.string _, shared, inner, .string _, empty, List.forall_mem_nil _⟩
  have accepted : ofFileJson (.object members) = .ok es :=
    toOption_eq_some_iff.1 (by decide +kernel)
  obtain ⟨format, describes⟩ := ofFileJson_format sorted
  obtain ⟨_, ⟨⟩, hformat⟩ := format.1 ⟨es, accepted⟩
  obtain ⟨_, ⟨⟩, hdescribes⟩ := describes es accepted
  exact ⟨sorted, hformat, accepted, hdescribes⟩

end ScenarioSuite.Environments
