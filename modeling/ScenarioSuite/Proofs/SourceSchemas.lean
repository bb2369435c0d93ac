import ScenarioSuite.Json.Parse
import ScenarioSuite.Proofs.SourceMeaning
import ScenarioSuite.Proofs.SourceSkipping

/-!
# Sources read by schema

What a schema reads in a source as JSON, it reads in the node of the source as YAML, combinator by
combinator. Neither of the two forms carries over to the other by itself: JSON tells values apart by
their first character, YAML by the style and the meaning of a scalar.

## Main definitions

* `Schema.Portable`: YAML has a form for what a source is where the schema wants something.
* `Schema.Agrees`, `Fields.Agree`: a successful reading in JSON gives the one in YAML.

## Main statements

* `Schema.agrees`, `Fields.agree`: every schema agrees.
* `Schema.parseYaml_text`: a text that is read as JSON is read as YAML for the same value.
-/

namespace ScenarioSuite

open Json (Items Layout Members Source)
open Text.Utf8 (Symbol)

namespace Json

namespace Reader

variable {α β : Type} {post : α → Prop} {input rest : List Symbol}

theorem takes_peekValue (g : Layout) {c : Char} (h : isSpace c = false) (rest : List Symbol) :
    Takes Schema.peekValue (g.chars.map .char ++ .char c :: rest) c (.char c :: rest) :=
  (takes_peekItem g h rest).bind (.pure c _)

/-- What a reader does at the first character of a source, it does behind blanks. -/
theorem readBy_peekValue {src : Source} {f : Char → Reader α}
    (h : ∀ c rest, src.Opens c → Stops rest →
      Yields (f c) (src.chars.map .char ++ rest) fun a mid => mid = rest ∧ post a) :
    src.ReadBy (Schema.peekValue >>= f) post := by
  intro before rest stops
  obtain ⟨c, cs, hcs, opens⟩ := src.exists_opens
  have read := h c rest opens stops
  rw [hcs] at read ⊢
  exact (takes_peekValue before opens.isSpace_eq_false _).bind_yields read

/-- Where another kind of value is wanted, nothing is read. -/
theorem yields_readOther (wanted : String) {post : α → List Symbol → Prop} :
    Yields (Schema.readOther wanted) input post := by
  have refuse (found : Schema.Found) (input : List Symbol) :
      Yields (Schema.readOther.refuse wanted found) input post := .located (.mismatch _)
  have word (letters : List Char) (found : Schema.Found) (input : List Symbol) :
      Yields (do skip; word letters; Schema.readOther.refuse wanted found) input post :=
    .bind_of_forall fun _ _ => .bind_of_forall fun _ _ => refuse _ _
  rw [Schema.readOther]
  refine (Takes.peek _).bind_yields ?_
  split
  · exact .failAhead _
  · exact .failAhead _
  · split
    · exact word _ _ _
    split
    · exact word _ _ _
    split
    · exact word _ _ _
    split
    · exact .bind_of_forall fun _ _ => .bind_of_forall fun _ _ => refuse _ _
    split
    · exact .bind_of_forall fun _ _ => refuse _ _
    split
    · exact .bind_of_forall fun _ _ => .bind_of_forall fun _ _ => refuse _ _
    split
    · exact refuse _ _
    split
    · exact refuse _ _
    · exact .failAhead _

/-! ## Scalars -/

/-- Where a text is wanted, a string is read. -/
theorem readBy_readText {src : Source} (portable : src.isPortable) (wanted : String) :
    src.ReadBy (Schema.readText wanted) fun s => src.node = .scalar none .double s := by
  refine readBy_peekValue fun c rest opens stops => ?_
  split
  · next hc =>
    subst hc
    cases opens with
    | positive h digit => cases digit
    | string pieces =>
      rw [Source.symbols_string]
      exact (Takes.skip _ _).bind_yields ((takes_string_pieces portable rest).yields ⟨rfl, rfl⟩)
  · exact yields_readOther wanted

/-- Where a truth value is wanted, one of the two words is read. -/
theorem readBy_readFlag (src : Source) : src.ReadBy Schema.readFlag fun b => src = .bool b := by
  refine readBy_peekValue fun c rest opens stops => ?_
  split
  · next hc =>
    subst hc
    cases opens with
    | positive h digit => cases digit
    | trueWord =>
      exact (Takes.skip _ _).bind_yields
        ((takes_word ['r', 'u', 'e'] rest).bind_yields (.pure ⟨rfl, rfl⟩))
  · split
    · next hc =>
      subst hc
      cases opens with
      | positive h digit => cases digit
      | falseWord =>
        exact (Takes.skip _ _).bind_yields
          ((takes_word ['a', 'l', 's', 'e'] rest).bind_yields (.pure ⟨rfl, rfl⟩))
    · exact yields_readOther _

theorem Yields.ofCheck {check : Except Schema.Mismatch α} {post : α → List Symbol → Prop}
    (h : ∀ a, check = .ok a → post a input) : Yields (ofCheck check) input post := by
  cases check with
  | error m => exact .mismatch m
  | ok a => exact .pure (h a rfl)

/-- Where a natural number is wanted, an integer is read. -/
theorem readBy_readNatural (src : Source) (bits : Nat) :
    src.ReadBy (Schema.readNatural bits) fun m => ∃ l n, src = .number l ∧
      l.value? = some (.integer n) ∧ Schema.checkNatural bits n = .ok m := by
  have number (l : Literal) {rest : List Symbol} (stops : Stops rest) :
      Yields (do
        let n ← Reader.number l.negative
        located (ofCheck (Schema.naturalOfNumber bits n))) (l.unsigned.map .char ++ rest)
        fun m mid => mid = rest ∧ ∃ l' n, Source.number l = .number l' ∧
          l'.value? = some (.integer n) ∧ Schema.checkNatural bits n = .ok m := by
    refine (l.yields_number stops).bind ?_
    rintro n mid ⟨rfl, hn⟩
    refine .located (.ofCheck fun m hm => ?_)
    cases n with
    | integer n => exact ⟨rfl, l, n, rfl, hn, hm⟩
    | real x => cases hm
  refine readBy_peekValue fun c rest opens stops => ?_
  split
  · next hc =>
    subst hc
    cases opens with
    | positive h digit => cases digit
    | @negative l h =>
      have read := number l stops
      rw [h] at read
      rw [Source.chars, Literal.chars, if_pos h]
      exact (Takes.skip _ _).bind_yields read
  · split
    · next digit =>
      cases opens with
      | @positive l h =>
        have read := number l stops
        rw [h] at read
        rw [Source.chars, Literal.chars, if_neg (by simp [h])]
        exact read
      | _ => cases digit
    · exact yields_readOther _

end Reader

/-- The items of an array. -/
def Source.items : Source → List Source
  | .array _ items => items.sources
  | _ => []

/-- The members of an object. -/
def Source.members : Source → List (String × Source)
  | .object _ members => members.entries
  | _ => []

/-- Whether the source is a string. -/
def Source.isString : Source → Bool
  | .string _ => true
  | _ => false

/-- Whether the source is an array. -/
def Source.isArray : Source → Bool
  | .array .. => true
  | _ => false

end Json

open Yaml (Place Node)
open Yaml.Reader (Gives)

mutual

/-- YAML has a form for what the source is where the schema wants something: numbers are what they
are where any value is wanted, a known name stands alone, and a record has names for its fields. -/
def Schema.Portable : {α : Type} → Schema α → Source → Prop
  | _, .json, src => src.Agrees
  | _, .textOr _ _ _, src => src.Agrees
  | _, .name _, src => src.isString
  | _, .optional inner, src => inner.Portable src
  | _, .list inner, src => ∀ item ∈ src.items, inner.Portable item
  | _, .dict inner, src => ∀ m ∈ src.members, inner.Portable m.2
  | _, .record _ fields _, src =>
    src.isArray = false ∧ ∀ m ∈ src.members, fields.Portable m.1 m.2
  | _, _, _ => True

/-- YAML has a form for the value of a member, if there is a field of its name. -/
def Fields.Portable : {β : Type} → Fields β → String → Source → Prop
  | _, .nil, _, _ => True
  | _, .cons field schema _ rest, key, src =>
    (field = key → schema.Portable src) ∧ rest.Portable key src

end

variable {α β : Type}

/-- YAML reads the node of the source for this, if collections may nest so deep. -/
def Schema.GivenBy (schema : Schema α) (depth : Nat) (src : Source) (a : α) : Prop :=
  ∀ depth' ≥ depth, ∀ place, Gives (schema.readYaml depth' place src.node) a

/-- What the schema reads in a source as JSON, it reads in it as YAML. -/
def Schema.Agrees (schema : Schema α) : Prop :=
  ∀ (src : Source) (depth : Nat), src.isPortable → schema.Portable src →
    src.ReadBy (schema.readJson depth) (schema.GivenBy depth src)

/-- What the fields take from a member in JSON, they take from it in YAML. -/
def Fields.Agree (fields : Fields β) : Prop :=
  ∀ (src : Source) (depth : Nat) (slots : fields.Slots) (key : String) (mid behind : Layout)
    (rest : List Symbol), src.isPortable → fields.Portable key src → Json.Reader.Stops rest →
    Json.Reader.Yields (fields.readMember depth slots key)
      (mid.chars.map .char ++ .char ':' :: (behind.chars.map .char ++
        (src.chars.map .char ++ rest)))
      fun slots' left => left = rest ∧ ∀ depth' ≥ depth, ∀ place,
        Gives (fields.setYaml depth' slots key place src.node) slots'

namespace Schema

open Json.Reader

theorem text_agrees : text.Agrees := by
  intro src depth portable _
  refine (readBy_readText portable "a string").mono fun s node depth' _ place => ?_
  rw [node]
  exact .text _ s

theorem flag_agrees : flag.Agrees := by
  intro src depth _ _
  refine (readBy_readFlag src).mono ?_
  rintro b rfl depth' - place
  cases b <;> exact fun _ _ => rfl

theorem natural_agrees (bits : Nat) : (natural bits).Agrees := by
  intro src depth _ _
  refine (readBy_readNatural src bits).mono ?_
  rintro m ⟨l, n, rfl, hn, hm⟩ depth' - place
  have pos : 0 ≤ n := by
    rw [checkNatural] at hm
    split at hm
    · next range => exact range.1
    · cases hm
  obtain ⟨unsigned, fits⟩ := Json.Literal.unsigned?_chars hn pos
  have value : ((Yaml.unsigned? (String.ofList l.chars).toList).filter (· < Nat.pow 2 64)) =
      some n.toNat := by
    rw [String.toList_ofList, unsigned, Option.filter_some, if_pos (by simpa using fits)]
  refine .located ((Gives.pure _).bind ?_)
  have plain : Yaml.canBe "int" none .plain = true := rfl
  simp only [Source.node, value]
  rw [if_pos plain, Int.toNat_of_nonneg pos]
  exact .ofCheck hm

theorem json_agrees : json.Agrees := by
  intro src depth portable agrees
  refine (Source.readBy_value portable depth).mono ?_
  rintro v ⟨low, rfl⟩ depth' deep place
  exact Yaml.Reader.gives_readJson agrees (Nat.le_trans low deep) place

theorem textOr_agrees (type : String) (ofText : String → α) (ofJson : Json → α) :
    (textOr type ofText ofJson).Agrees := by
  intro src depth portable agrees before rest stops
  refine (Source.readBy_value portable depth before rest stops).bind ?_
  rintro v mid ⟨rfl, low, rfl⟩
  have given (depth' : Nat) (deep : depth' ≥ depth) (place : Place) :=
    Yaml.Reader.gives_readAlternative agrees (Nat.le_trans low deep) place
  cases hv : src.json with
  | string s =>
    rw [hv] at given
    exact .pure ⟨rfl, fun depth' deep place => (given depth' deep place).bind (.pure _)⟩
  | _ =>
    rw [hv] at given
    exact .pure ⟨rfl, fun depth' deep place => (given depth' deep place).bind (.pure _)⟩

theorem checked_agrees (check : String → Except String α) : (checked check).Agrees := by
  intro src depth portable _ before rest stops
  refine (readBy_readText portable "a string" before rest stops).bind ?_
  rintro s mid ⟨rfl, node⟩
  refine .ofCheck fun a ha => ⟨rfl, fun depth' _ place => ?_⟩
  rw [node]
  exact (Gives.text _ s).bind (.ofCheck ha)

theorem name_agrees (known : List (String × α)) : (name known).Agrees := by
  intro src depth portable isString
  refine readBy_peekValue fun c rest opens stops => ?_
  cases opens with
  | string pieces =>
    have portable : (Source.string pieces).isPortable := portable
    refine (readBy_readText portable "variant identifier" [] rest stops).bind ?_
    rintro s mid ⟨rfl, node⟩
    refine .located (.ofCheck fun a ha => ⟨rfl, fun depth' _ place => ?_⟩)
    rw [node]
    exact (Gives.pure _).bind (.located (.ofCheck ha))
  | _ => cases isString

/-- A source that is not null is not missing. -/
theorem gives_isNullScalar {src : Source} (h : src ≠ .null) {tag : Option String}
    {style : Yaml.Style} {s : String} (node : src.node = .scalar tag style s) :
    Gives (Yaml.isNullScalar tag style s) false := by
  cases src with
  | null => exact absurd rfl h
  | bool b => cases b <;> cases node <;> exact .pure false
  | number l =>
    have null : ((String.ofList l.chars).isEmpty || Yaml.isNull (String.ofList l.chars)) =
        false := by
      obtain ⟨c, cs, hcs, digit⟩ := l.exists_unsigned
      rw [Json.Literal.chars]
      split
      · exact Yaml.isNull_eq_false (.inr rfl) _
      · rw [hcs]
        exact Yaml.isNull_eq_false (.inl digit) _
    cases node
    change Gives (pure _) false
    rw [null]
    exact .pure false
  | string pieces =>
    cases node
    exact .pure false
  | array | object => cases node

theorem optional_agrees {inner : Schema α} (h : inner.Agrees) : (optional inner).Agrees := by
  intro src depth portable portable' before rest stops
  obtain ⟨c, cs, hcs, opens⟩ := src.exists_opens
  have read := h src depth portable portable' [] rest stops
  rw [Layout.chars, List.map_nil, List.map_nil, List.nil_append] at read
  rw [hcs] at read ⊢
  refine (takes_peekItem before opens.isSpace_eq_false _).bind_yields ?_
  split
  · next hc =>
    cases hc
    cases opens with
    | positive h digit => cases digit
    | null =>
      cases hcs
      refine (Takes.skip _ _).bind_yields ((takes_word ['u', 'l', 'l'] rest).bind_yields ?_)
      exact .pure ⟨rfl, fun _ _ _ => (Gives.pure _).bind ((Gives.pure true).bind (.pure none))⟩
  · next hc =>
    have some : src ≠ .null := by
      rintro rfl
      cases opens
      exact hc rfl
    refine .map (read.mono ?_)
    rintro a mid ⟨rfl, ha⟩
    refine ⟨rfl, fun depth' deep place => ?_⟩
    have given := (ha depth' deep place).map Option.some
    refine (Gives.resolve src).bind ?_
    cases node : src.node with
    | scalar tag style s =>
      rw [node] at given
      exact (gives_isNullScalar some node).bind given
    | _ =>
      rw [node] at given
      exact (Gives.pure false).bind given

theorem list_agrees {inner : Schema α} (h : inner.Agrees) : (list inner).Agrees := by
  intro src depth portable portable'
  refine readBy_peekValue fun c rest opens stops => ?_
  split
  · next hc =>
    subst hc
    cases opens with
    | positive h digit => cases digit
    | array inside items =>
      have portable := Json.Items.isPortable_iff.1 portable
      rw [Source.symbols_array]
      cases depth with
      | zero => exact .failAhead _
      | succ depth =>
        refine (Takes.skip _ _).bind_yields ?_
        refine (yields_array (fun src hsrc => h src depth (portable src hsrc) (portable' src hsrc))
          inside rest).mono ?_
        rintro as mid ⟨rfl, has⟩
        refine ⟨rfl, fun depth' deep place => ?_⟩
        obtain _ | depth' := depth'
        · exact absurd deep (Nat.not_succ_le_zero _)
        have given := Yaml.Reader.gives_items
          (fun place node => inner.readYaml depth' place node) place
          (has.imp fun src a ha => ha depth' (Nat.le_of_succ_le_succ deep)) 0
        rw [← Json.Items.nodes_eq] at given
        exact .located ((Gives.pure _).bind given)
  · exact yields_readOther _

theorem dict_agrees {inner : Schema α} (h : inner.Agrees) : (dict inner).Agrees := by
  intro src depth portable portable'
  refine readBy_peekValue fun c rest opens stops => ?_
  split
  · next hc =>
    subst hc
    cases opens with
    | positive h digit => cases digit
    | object inside members =>
      have values := Json.Members.isPortable_values portable
      rw [Source.symbols_object]
      cases depth with
      | zero => exact .map (.failAhead _)
      | succ depth =>
        refine .map ((Takes.skip _ _).bind_yields ?_)
        refine (yields_object portable
          (fun m hm => h m.2 depth (values m hm) (portable' m hm)) inside rest).mono ?_
        rintro as mid ⟨rfl, has⟩
        refine ⟨rfl, fun depth' deep place => ?_⟩
        obtain _ | depth' := depth'
        · exact absurd deep (Nat.not_succ_le_zero _)
        have given := Yaml.Reader.gives_dictPairs
          (fun place node => inner.readYaml depth' place node) place
          (has.imp fun m a ha => ⟨ha.1, ha.2 depth' (Nat.le_of_succ_le_succ deep)⟩)
        rw [← Json.Members.pairs_eq] at given
        exact .located ((Gives.pure _).bind (given.map Dict.ofList))
  · exact yields_readOther _

/-- The members of a record are read one by one. -/
theorem yields_readMembers {fields : Fields β} (h : fields.Agree) {members : Members}
    (portable : members.isPortable)
    (portable' : ∀ m ∈ members.entries, fields.Portable m.1 m.2) (depth : Nat) {n : Nat}
    (hn : members.entries.length < n) (first : Bool) (slots : fields.Slots) (g : Layout)
    (rest : List Symbol) :
    Yields (readMembers (fun slots key => fields.readMember depth slots key) n first slots)
      (g.chars.map .char ++ ((members.chars first).map .char ++ .char '\x7d' :: rest))
      fun slots' mid => mid = .char '\x7d' :: rest ∧ ∀ depth' ≥ depth, ∀ place,
        Gives (Yaml.recordPairs
          (fun slots name place node => fields.setYaml depth' slots name place node) place slots
          (members.entries.map Json.pairOf)) slots' := by
  induction members using Json.Members.induction generalizing first n slots g with
  | nil =>
    obtain _ | n := n
    · exact absurd hn (Nat.lt_irrefl _)
    · exact (takes_nextKey_end_layout first g rest).bind_yields
        (.pure ⟨rfl, fun _ _ _ => .pure slots⟩)
  | cons before name mid behind value after others ih =>
    obtain _ | n := n
    · exact absurd hn (Nat.not_lt_zero _)
    obtain ⟨portableValue, portableValues⟩ :=
      List.forall_mem_cons.1 (Json.Members.isPortable_values portable)
    obtain ⟨hvalue, hothers⟩ := List.forall_mem_cons.1 portable'
    simp only [Json.Members.isPortable, Json.isPortableName, Bool.and_eq_true] at portable
    have stops : Stops (after.chars.map .char ++
        ((others.chars false).map .char ++ .char '\x7d' :: rest)) :=
      (stops_members others rest).layout after
    simp only [Json.Members.chars, List.map_append, List.map_cons, List.append_assoc,
      List.cons_append]
    refine (takes_nextKey_layout first g before portable.1.1.1.1 _).bind_yields
      ((h value depth slots _ mid behind _ portableValue hvalue stops).bind ?_)
    rintro slots₁ left ⟨rfl, given₁⟩
    refine (ih portable.2 hothers (Nat.lt_of_succ_lt_succ hn) false slots₁ after).mono ?_
    rintro slots₂ left ⟨rfl, given₂⟩
    exact ⟨rfl, fun depth' deep place => (Gives.text _ _).bind
      ((given₁ depth' deep _).bind (given₂ depth' deep place))⟩

theorem record_agrees {type : String} {fields : Fields β} (h : fields.Agree) (build : β → α) :
    (record type fields build).Agrees := by
  intro src depth portable ⟨named, portable'⟩
  refine readBy_peekValue fun c rest opens stops => ?_
  split
  · next hc =>
    subst hc
    cases opens with
    | positive h digit => cases digit
    | object inside members =>
      rw [Source.symbols_object]
      cases depth with
      | zero => exact .failAhead _
      | succ depth =>
        have read : Yields (do
            let slots ← readMembers (fun slots key => fields.readMember depth slots key)
              (← fuel) true fields.noSlots
            build <$> ofCheck (fields.finish slots))
            (inside.chars.map .char ++ ((members.chars true).map .char ++ .char '\x7d' :: rest))
            fun a mid => mid = .char '\x7d' :: rest ∧
              (record type fields build).GivenBy (depth + 1) (.object inside members) a := by
          have length := length_entries_le members true
          refine (Takes.fuel _).bind_yields ((yields_readMembers h portable portable' depth
            (by simp; omega) true fields.noSlots inside rest).bind ?_)
          rintro slots mid ⟨rfl, given⟩
          refine .map (.ofCheck fun b hb => ⟨rfl, fun depth' deep place => ?_⟩)
          obtain _ | depth' := depth'
          · exact absurd deep (Nat.not_succ_le_zero _)
          have given := given depth' (Nat.le_of_succ_le_succ deep) place
          rw [← Json.Members.pairs_eq] at given
          exact .located ((Gives.pure _).bind (given.bind ((Gives.ofCheck hb).map build)))
        refine (Takes.skip _ _).bind_yields (read.enclosed ?_)
        rintro a mid ⟨rfl, given⟩
        exact (takes_closeObject rest).yields ⟨rfl, given⟩
  · split
    · next hc =>
      subst hc
      cases opens with
      | positive h digit => cases digit
      | array => cases named
    · exact yields_readOther _

end Schema

namespace Fields

open Json.Reader

theorem nil_agree : nil.Agree := by
  intro src depth slots key mid behind rest portable _ stops
  refine (takes_colon_layout mid _).bind_yields ((src.readBy_skipValue behind rest stops).bind ?_)
  rintro u left ⟨rfl, -⟩
  exact .pure ⟨rfl, fun _ _ _ => .pure slots⟩

theorem cons_agree {field : String} {schema : Schema α} {absent : Schema.Absent α}
    {fields : Fields β} (h : schema.Agrees) (hrest : fields.Agree) :
    (cons field schema absent fields).Agree := by
  intro src depth slots key mid behind rest portable portable' stops
  obtain ⟨slot, slots⟩ := slots
  by_cases hkey : field = key
  · rw [readMember, if_pos hkey]
    cases slot with
    | some a => exact .mismatch _
    | none =>
      refine (takes_colon_layout mid _).bind_yields
        ((h src depth portable (portable'.1 hkey) behind rest stops).bind ?_)
      rintro a left ⟨rfl, given⟩
      refine .pure ⟨rfl, fun depth' deep place => ?_⟩
      rw [setYaml, if_pos hkey]
      exact (given depth' deep place).bind (.pure _)
  · rw [readMember, if_neg hkey]
    refine (hrest src depth slots key mid behind rest portable portable'.2 stops).bind ?_
    rintro slots' left ⟨rfl, given⟩
    refine .pure ⟨rfl, fun depth' deep place => ?_⟩
    rw [setYaml, if_neg hkey]
    exact (given depth' deep place).bind (.pure _)

end Fields

mutual

theorem Schema.agrees : {α : Type} → (schema : Schema α) → schema.Agrees
  | _, .text => Schema.text_agrees
  | _, .flag => Schema.flag_agrees
  | _, .natural bits => Schema.natural_agrees bits
  | _, .json => Schema.json_agrees
  | _, .name known => Schema.name_agrees known
  | _, .textOr type ofText ofJson => Schema.textOr_agrees type ofText ofJson
  | _, .checked check => Schema.checked_agrees check
  | _, .optional inner => Schema.optional_agrees inner.agrees
  | _, .list inner => Schema.list_agrees inner.agrees
  | _, .dict inner => Schema.dict_agrees inner.agrees
  | _, .record _ fields build => Schema.record_agrees fields.agree build

theorem Fields.agree : {β : Type} → (fields : Fields β) → fields.Agree
  | _, .nil => Fields.nil_agree
  | _, .cons _ schema _ rest => Fields.cons_agree schema.agrees rest.agree

end

/-- A portable text that is read as JSON by a schema is read as YAML for the same value. -/
theorem Schema.parseYaml_text {schema : Schema α} {f : Json.File} (portable : f.isPortable)
    (portable' : schema.Portable f.root) {a : α} (h : schema.parseJson f.text = .ok a) :
    schema.parseYaml f.text = .ok a := by
  have portableRoot : f.root.isPortable := by
    simp only [Json.File.isPortable, Bool.and_eq_true] at portable
    exact portable.1.2
  have text : Text.Utf8.symbolsOf f.text = f.before.chars.map .char ++
      (f.root.chars.map .char ++ f.after.chars.map .char) := by
    rw [Text.Utf8.symbolsOf, Json.File.text, String.toList_ofList, List.map_append, List.map_append]
  have stops : Json.Reader.Stops (f.after.chars.map .char) := by
    have nothing : Json.Reader.Stops [] := fun c hc => by cases hc
    simpa using nothing.layout f.after
  have read := schema.agrees f.root Json.Reader.depthLimit portableRoot portable' f.before _ stops
  have given : schema.GivenBy Json.Reader.depthLimit f.root a := by
    have whole : Json.Reader.Yields (Json.Reader.whole (schema.readJson Json.Reader.depthLimit))
        (Text.Utf8.symbolsOf f.text)
        fun a _ => schema.GivenBy Json.Reader.depthLimit f.root a := by
      rw [text]
      refine read.bind fun a mid ha => .bind_of_forall fun s left => ?_
      cases s with
      | none => exact .pure ha.2
      | some s => exact .failAhead _
    rw [parseJson, Json.Reader.run] at h
    split at h
    · next a c ha =>
      cases h
      exact whole _ _ _ ha
    · cases h
  have deep : Yaml.Reader.depthLimit ≥ Json.Reader.depthLimit := by decide
  obtain ⟨size, document⟩ := f.exists_ofText portable
  have result := given Yaml.Reader.depthLimit deep [] ⟨f.root.node, [], size⟩ 0
  rw [parseYaml, document]
  simp only [Yaml.Reader.run, result]
  rfl

end ScenarioSuite
