import DeltaRobot.Configuration
import DeltaRobot.Machine.Build
import Mathlib

/-!
Contract: what of a configuration counts.

A text spells the seven parameters in the table of the kind of machine that it names, whatever else
it holds, in whatever order, as integers or reals. If the text can be loaded at all, what is spelled
is what is read. Reading a table looks at every entry that has the name of a parameter, so a name
that came up twice could still get in the way; but the tables that are loaded are in strictly
ascending order of names.

Owns: the texts that spell parameters, and that nothing else in them is read.
Does not own: which texts can be loaded.
-/

namespace DeltaRobot

/-! ### Tables in ascending order -/

namespace Toml

namespace Value

def Ascending (entries : List (String × Value)) : Prop :=
  entries.Pairwise (fun first second => first.1 < second.1)

theorem mem_insert {name : String} {value : Value} {entry : String × Value}
    {entries : List (String × Value)} (member : entry ∈ insert name value entries) :
    entry = (name, value) ∨ entry ∈ entries := by
  induction entries with
  | nil => exact .inl (List.mem_singleton.1 member)
  | cons first entries inductionHypothesis =>
      rw [insert] at member
      split_ifs at member with before same
      · exact List.mem_cons.1 member
      · exact (List.mem_cons.1 member).imp_right (List.mem_cons_of_mem first)
      · rcases List.mem_cons.1 member with rfl | inRest
        · exact .inr List.mem_cons_self
        · exact (inductionHypothesis inRest).imp_right (List.mem_cons_of_mem first)

theorem Ascending.insert {entries : List (String × Value)} (ascending : Ascending entries)
    (name : String) (value : Value) : Ascending (insert name value entries) := by
  induction entries with
  | nil => exact List.pairwise_singleton _ _
  | cons first entries inductionHypothesis =>
      obtain ⟨below, rest⟩ := List.pairwise_cons.1 ascending
      rw [Value.insert]
      split_ifs with before same
      · refine List.pairwise_cons.2 ⟨fun entry member => ?_, ascending⟩
        rcases List.mem_cons.1 member with rfl | inRest
        · exact before
        · exact before.trans (below entry inRest)
      · rw [same]
        exact List.pairwise_cons.2 ⟨below, rest⟩
      · refine List.pairwise_cons.2 ⟨fun entry member => ?_, inductionHypothesis rest⟩
        rcases mem_insert member with rfl | inRest
        · exact lt_of_le_of_ne (not_lt.1 before) (Ne.symm same)
        · exact below entry inRest

theorem ascending_sorted (entries : List (String × Value)) : Ascending (sorted entries) := by
  have kept (found : List (String × Value)) (ascending : Ascending found) :
      Ascending (entries.foldl (fun found entry => Value.insert entry.1 entry.2 found) found) := by
    induction entries generalizing found with
    | nil => exact ascending
    | cons entry entries inductionHypothesis =>
        exact inductionHypothesis _ (ascending.insert entry.1 entry.2)
  exact kept [] List.Pairwise.nil

/-- In ascending order every entry is found under its name. -/
theorem Ascending.lookup?_eq {entries : List (String × Value)} (ascending : Ascending entries)
    {entry : String × Value} (member : entry ∈ entries) :
    lookup? entry.1 entries = some entry.2 := by
  induction entries with
  | nil => cases member
  | cons first entries inductionHypothesis =>
      obtain ⟨below, rest⟩ := List.pairwise_cons.1 ascending
      rw [lookup?]
      rcases List.mem_cons.1 member with rfl | inRest
      · simp
      · have other : ¬first.1 = entry.1 := (below entry inRest).ne
        rw [List.find?_cons_of_neg (by simpa using other)]
        exact inductionHypothesis rest inRest

/-! ### Looking up what was inserted -/

theorem lookup?_cons (name : String) (first : String × Value) (entries : List (String × Value)) :
    lookup? name (first :: entries) =
      if first.1 = name then some first.2 else lookup? name entries := by
  rw [lookup?, List.find?_cons]
  by_cases same : first.1 = name
  · simp [same]
  · simp [same, lookup?]

theorem lookup?_insert (name other : String) (value : Value) (entries : List (String × Value)) :
    lookup? other (insert name value entries) =
      if name = other then some value else lookup? other entries := by
  induction entries with
  | nil => rw [insert, lookup?_cons]
  | cons first entries inductionHypothesis =>
      rw [insert]
      by_cases before : name < first.1
      · rw [if_pos before, lookup?_cons]
      rw [if_neg before]
      by_cases same : name = first.1
      · rw [if_pos same, lookup?_cons, lookup?_cons, ← same]
        split_ifs <;> rfl
      rw [if_neg same, lookup?_cons, lookup?_cons, inductionHypothesis]
      by_cases isOther : name = other
      · subst isOther
        rw [if_neg (Ne.symm same), if_pos rfl, if_pos rfl]
      · rw [if_neg isOther, if_neg isOther]

/-- A name with one value in a list has that value in the sorted one. -/
theorem lookup?_sorted {name : String} {value : Value} {entries : List (String × Value)}
    (member : (name, value) ∈ entries)
    (single : ∀ entry ∈ entries, entry.1 = name → entry.2 = value) :
    lookup? name (sorted entries) = some value := by
  have kept (found : List (String × Value))
      (somewhere : (name, value) ∈ entries ∨ lookup? name found = some value) :
      lookup? name
        (entries.foldl (fun found entry => insert entry.1 entry.2 found) found) = some value := by
    clear member
    induction entries generalizing found with
    | nil => exact somewhere.resolve_left List.not_mem_nil
    | cons first entries inductionHypothesis =>
        have others := fun entry inRest => single entry (List.mem_cons_of_mem first inRest)
        refine inductionHypothesis others _ ?_
        rw [lookup?_insert]
        by_cases isName : first.1 = name
        · rw [if_pos isName, single first List.mem_cons_self isName]
          exact .inr rfl
        · rw [if_neg isName]
          refine somewhere.imp_left fun inEntries => ?_
          rcases List.mem_cons.1 inEntries with rfl | inRest
          · exact absurd rfl isName
          · exact inRest
  exact kept [] (.inl member)

end Value

/-! ### Values of literals -/

theorem Literal.number?_value {literal : Literal} {value : Value} {number : Float}
    (isValue : literal.value? = some value) (isNumber : literal.number? = some number) :
    value.number? = some number := by
  cases literal with
  | integer _ =>
      rw [value?] at isValue
      cases isValue
      exact isNumber
  | real _ =>
      rw [value?] at isValue
      cases isValue
      exact isNumber
  | _ => cases isNumber

theorem exists_value_of_entryValues? {spelled : List (String × Literal)}
    {values : List (String × Value)} (found : entryValues? spelled = some values)
    {entry : String × Literal} (member : entry ∈ spelled) :
    ∃ value, entry.2.value? = some value ∧ (entry.1, value) ∈ values := by
  induction spelled generalizing values with
  | nil => cases member
  | cons first spelled inductionHypothesis =>
      rw [entryValues?] at found
      obtain ⟨value, isValue, found⟩ := Option.bind_eq_some_iff.1 found
      obtain ⟨others, areOthers, found⟩ := Option.bind_eq_some_iff.1 found
      cases found
      rcases List.mem_cons.1 member with rfl | inRest
      · exact ⟨value, isValue, List.mem_cons_self⟩
      · obtain ⟨value, isValue, inOthers⟩ := inductionHypothesis areOthers inRest
        exact ⟨value, isValue, List.mem_cons_of_mem _ inOthers⟩

theorem exists_literal_of_entryValues? {spelled : List (String × Literal)}
    {values : List (String × Value)} (found : entryValues? spelled = some values)
    {entry : String × Value} (member : entry ∈ values) :
    ∃ literal : Literal, (entry.1, literal) ∈ spelled ∧ literal.value? = some entry.2 := by
  induction spelled generalizing values with
  | nil =>
      rw [entryValues?] at found
      cases found
      cases member
  | cons first spelled inductionHypothesis =>
      rw [entryValues?] at found
      obtain ⟨value, isValue, found⟩ := Option.bind_eq_some_iff.1 found
      obtain ⟨others, areOthers, found⟩ := Option.bind_eq_some_iff.1 found
      cases found
      rcases List.mem_cons.1 member with rfl | inRest
      · exact ⟨first.2, List.mem_cons_self, isValue⟩
      · obtain ⟨literal, isSpelled, isValue⟩ := inductionHypothesis areOthers inRest
        exact ⟨literal, List.mem_cons_of_mem _ isSpelled, isValue⟩

/-- A name that is spelled once is found with the value of its literal. -/
theorem lookup?_of_entryValues? {spelled : List (String × Literal)}
    {values : List (String × Value)} {entry : String × Literal} {name : String}
    (found : entryValues? spelled = some values)
    (once : spelled.filter (fun entry => entry.1 = name) = [entry]) :
    ∃ value, entry.2.value? = some value ∧
      Value.lookup? name (Value.sorted values) = some value := by
  have isEntry : entry ∈ spelled.filter (fun entry => entry.1 = name) := by
    rw [once]
    exact List.mem_singleton_self entry
  obtain ⟨isSpelled, named⟩ := List.mem_filter.1 isEntry
  rw [decide_eq_true_iff] at named
  obtain ⟨value, isValue, inValues⟩ := exists_value_of_entryValues? found isSpelled
  rw [named] at inValues
  refine ⟨value, isValue, Value.lookup?_sorted inValues fun other inOthers otherNamed => ?_⟩
  obtain ⟨literal, again, otherValue⟩ := exists_literal_of_entryValues? found inOthers
  have isAgain : (other.1, literal) ∈ spelled.filter (fun entry => entry.1 = name) :=
    List.mem_filter.2 ⟨again, by simpa using otherNamed⟩
  rw [once, List.mem_singleton] at isAgain
  rw [← isAgain] at isValue
  exact Option.some.inj (otherValue.symm.trans isValue)

/-- The values of items that are numbers are the same numbers. -/
theorem map_number?_of_itemValues? {items : List Literal} {values : List Value}
    {numbers : List Float} (found : itemValues? items = some values)
    (areNumbers : items.map Literal.number? = numbers.map some) :
    values.map Value.number? = numbers.map some := by
  induction items generalizing values numbers with
  | nil =>
      rw [itemValues?] at found
      cases found
      exact areNumbers
  | cons item items inductionHypothesis =>
      rw [itemValues?] at found
      obtain ⟨value, isValue, found⟩ := Option.bind_eq_some_iff.1 found
      obtain ⟨others, areOthers, found⟩ := Option.bind_eq_some_iff.1 found
      cases found
      cases numbers with
      | nil => cases areNumbers
      | cons number numbers =>
          obtain ⟨isNumber, othersAre⟩ := List.cons.inj areNumbers
          rw [List.map_cons, List.map_cons, Literal.number?_value isValue isNumber,
            inductionHypothesis areOthers othersAre]

end Toml

/-! ### What gives parameters -/

section

variable (parameters : Parameters Float)

/-- The literal spells parameters as numbers: a table has each once under its name, an array has
them in the order of declaration. What else a table holds does not matter. -/
def Toml.Literal.Spells : Toml.Literal → Prop
  | .table entries | .dotted entries => ∀ parameter : Parameter,
      Parameters.entryOf? entries parameter = some (parameters.get parameter)
  | .array items => items.map number? = (Parameter.all.map parameters.get).map some
  | _ => False

instance : DecidablePred (Toml.Literal.Spells parameters)
  | .table entries | .dotted entries =>
      decidable_of_iff (∀ parameter ∈ Parameter.all,
          Parameters.entryOf? entries parameter = some (parameters.get parameter))
        ⟨fun all parameter => all parameter parameter.mem_all, fun all parameter _ => all parameter⟩
  | .array items =>
      inferInstanceAs (Decidable (items.map Toml.Literal.number? =
        (Parameter.all.map parameters.get).map some))
  | .integer _ | .real _ | .boolean _ | .text _ | .moment _ => inferInstanceAs (Decidable False)

/-- The same of a value. -/
def Toml.Value.Gives : Toml.Value → Prop
  | .table entries => ∀ parameter : Parameter,
      (lookup? parameter.name entries).bind number? = some (parameters.get parameter)
  | .array items => items.map number? = (Parameter.all.map parameters.get).map some
  | _ => False

end

namespace Parameters

variable {parameters : Parameters Float}

theorem entryOf?_eq_some {entries : Toml.Entries} {parameter : Parameter} {number : Float}
    (isNumber : entryOf? entries parameter = some number) :
    ∃ entry, entries.filter (fun entry => entry.1 = parameter.name) = [entry] ∧
      entry.2.number? = some number := by
  unfold entryOf? at isNumber
  split at isNumber
  · exact ⟨_, by assumption, isNumber⟩
  · cases isNumber

/-- A table that spells parameters is no moment, and its value gives them. -/
theorem gives_of_spells_table {entries : List (String × Toml.Literal)} {value : Toml.Value}
    (isValue : (if Toml.Value.standsForMoment entries then Toml.Value.spelledMoment? entries
      else (Toml.entryValues? entries).bind Toml.Value.tableOf?) = some value)
    (spells : ∀ parameter : Parameter,
      entryOf? entries parameter = some (parameters.get parameter)) :
    value.Gives parameters ∧
      ∀ found, value = .table found → Toml.Value.Ascending found := by
  split_ifs at isValue
  · unfold Toml.Value.spelledMoment? at isValue
    split at isValue
    · -- A moment is spelled by a single text, which is no number.
      obtain ⟨entry, once, isNumber⟩ := entryOf?_eq_some (spells .crank)
      have member := List.mem_filter.1 (once ▸ List.mem_singleton_self entry)
      rw [List.mem_singleton.1 member.1] at isNumber
      cases isNumber
    · cases isValue
  · obtain ⟨values, found, isValue⟩ := Option.bind_eq_some_iff.1 isValue
    rw [Toml.Value.tableOf?] at isValue
    split_ifs at isValue
    cases isValue
    refine ⟨fun parameter => ?_, ?_⟩
    · obtain ⟨entry, once, isNumber⟩ := entryOf?_eq_some (spells parameter)
      obtain ⟨value, isValue, isFound⟩ := Toml.lookup?_of_entryValues? found once
      rw [isFound]
      exact Toml.Literal.number?_value isValue isNumber
    · intro found isFound
      rw [← Toml.Value.table.inj isFound]
      exact Toml.Value.ascending_sorted values

theorem gives_of_spells {literal : Toml.Literal} {value : Toml.Value}
    (isValue : literal.value? = some value) (spells : literal.Spells parameters) :
    value.Gives parameters ∧
      ∀ found, value = .table found → Toml.Value.Ascending found := by
  cases literal with
  | table entries =>
      rw [Toml.Literal.value?] at isValue
      exact gives_of_spells_table isValue spells
  | dotted entries =>
      rw [Toml.Literal.value?] at isValue
      exact gives_of_spells_table isValue spells
  | array items =>
      rw [Toml.Literal.value?] at isValue
      obtain ⟨values, found, rfl⟩ := Option.map_eq_some_iff.1 isValue
      refine ⟨Toml.map_number?_of_itemValues? found spells, fun found isTable => ?_⟩
      cases isTable
  | _ => exact spells.elim

/-! ### What is read -/

theorem misplaced?_eq_none {entries : List (String × Toml.Value)}
    (ascending : Toml.Value.Ascending entries)
    (gives : (Toml.Value.table entries).Gives parameters) : misplaced? entries = none := by
  refine List.findSome?_eq_none_iff.2 (fun entry member => ?_)
  cases named : Parameter.ofName? entry.1 with
  | none => rfl
  | some parameter =>
      have given := gives parameter
      rw [Parameter.name_of_ofName? named, ascending.lookup?_eq member, Option.bind_some] at given
      simp only [readNumber, given]

theorem ofEntries_eq_ok {entries : List (String × Toml.Value)}
    (ascending : Toml.Value.Ascending entries)
    (gives : (Toml.Value.table entries).Gives parameters) :
    ofEntries entries = .ok parameters := by
  have completed : Partial.complete (ofFunction (fun parameter : Parameter =>
      (Toml.Value.lookup? parameter.name entries).bind Toml.Value.number?)) = .ok parameters :=
    Partial.complete_of_get (fun parameter => by rw [get_ofFunction, gives parameter])
  rw [ofEntries, misplaced?_eq_none ascending gives]
  dsimp only
  rw [completed]

theorem mapM_readNumber {items : List Toml.Value} {numbers : List Float}
    (areNumbers : items.map Toml.Value.number? = numbers.map some) (key : Option String) :
    items.mapM (readNumber key) = .ok numbers := by
  induction items generalizing numbers with
  | nil =>
      cases List.map_eq_nil_iff.1 areNumbers.symm
      rfl
  | cons item items inductionHypothesis =>
      cases numbers with
      | nil => cases areNumbers
      | cons number numbers =>
          obtain ⟨isNumber, areOthers⟩ := List.cons.inj areNumbers
          rw [List.mapM_cons, inductionHypothesis areOthers, readNumber, isNumber]
          rfl

theorem ofItems_eq_ok {items : List Toml.Value}
    (gives : (Toml.Value.array items).Gives parameters) : ofItems items = .ok parameters := by
  have length : items.length = Parameter.all.length := by
    simpa using congrArg List.length gives
  rw [ofItems, ← length, List.take_length, mapM_readNumber gives none]
  dsimp only [Parameter.all, List.map]
  rw [length]
  rfl

/-- What is given is what is read. -/
theorem read_eq_ok {value : Toml.Value} (gives : value.Gives parameters)
    (ascending : ∀ entries, value = .table entries → Toml.Value.Ascending entries) :
    read value = .ok parameters := by
  cases value with
  | table entries => exact ofEntries_eq_ok (ascending entries rfl) gives
  | array items => exact ofItems_eq_ok gives
  | _ => exact gives.elim

end Parameters

/-! ### Texts -/

namespace Configuration

/-- The kind of machine that a text names and what it spells for it, whether or not the rest of the
text has a value. -/
def spelled? (text : String) : Option (String × Toml.Literal) := do
  let entries ← Toml.entries? text
  match entries.filter (fun entry => entry.1 = kindKey) with
  | [(_, .text kind)] =>
      match entries.filter (fun entry => entry.1 = kind) with
      | [(_, literal)] => return (kind, literal)
      | _ => none
  | _ => none

/-- A text names a kind of machine and spells parameters for it. -/
def Spells (text kind : String) (parameters : Parameters Float) : Prop :=
  ∃ literal, spelled? text = some (kind, literal) ∧ literal.Spells parameters

instance (text kind : String) (parameters : Parameters Float) :
    Decidable (Spells text kind parameters) :=
  decidable_of_iff ((spelled? text).any (fun spelled =>
      decide (spelled.1 = kind ∧ spelled.2.Spells parameters)) = true) <| by
    rw [Option.any_eq_true]
    constructor
    · rintro ⟨⟨named, literal⟩, isSpelled, holds⟩
      obtain ⟨rfl, spells⟩ := of_decide_eq_true holds
      exact ⟨literal, isSpelled, spells⟩
    · rintro ⟨literal, isSpelled, spells⟩
      exact ⟨_, isSpelled, decide_eq_true ⟨rfl, spells⟩⟩

/-- If a text can be loaded at all, the parameters that it spells are read from it. -/
theorem Spells.read {text kind : String} {parameters : Parameters Float}
    {configuration : Configuration} (spells : Spells text kind parameters)
    (loaded : ofText? text = some configuration) :
    configuration.kind = kind ∧
      ∃ table, configuration.table? = some table ∧ Parameters.read table = .ok parameters := by
  obtain ⟨literal, isSpelled, spells⟩ := spells
  unfold spelled? at isSpelled
  unfold ofText? at loaded
  obtain ⟨entries, areEntries, isSpelled⟩ := Option.bind_eq_some_iff.1 isSpelled
  obtain ⟨same, areSame, loaded⟩ := Option.bind_eq_some_iff.1 loaded
  cases areEntries.symm.trans areSame
  split at isSpelled
  · rename_i key named isKind
    rw [isKind] at loaded
    obtain ⟨others, areOthers, loaded⟩ := Option.bind_eq_some_iff.1 loaded
    cases loaded
    split at isSpelled
    · rename_i name found once
      cases isSpelled
      have notKey : kind ≠ kindKey := by
        intro same
        rw [same, isKind] at once
        cases once
        exact spells
      have onceThere : (entries.filter (fun entry => entry.1 ≠ kindKey)).filter
          (fun entry => entry.1 = kind) = [(name, literal)] := by
        rw [List.filter_filter, ← once]
        refine List.filter_congr fun entry _ => ?_
        by_cases isKind : entry.1 = kind
        · simp [isKind, notKey]
        · simp [isKind]
      obtain ⟨value, isValue, isTable⟩ := Toml.lookup?_of_entryValues? areOthers onceThere
      obtain ⟨gives, ascending⟩ := Parameters.gives_of_spells isValue spells
      exact ⟨rfl, value, isTable, Parameters.read_eq_ok gives ascending⟩
    · cases isSpelled
  · cases isSpelled

end Configuration

/-- A machine is built from what is read. -/
theorem Machine.build_congr {left right : Toml.Value}
    (same : Parameters.read left = Parameters.read right) (kind : String) :
    build kind left = build kind right := by
  rw [build, build, ofValue, ofValue, Parameters.ofValue, Parameters.ofValue, same]

end DeltaRobot
