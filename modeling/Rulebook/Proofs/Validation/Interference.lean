import Rulebook.Proofs.Rule.Reading
import Rulebook.Proofs.Validation.Level
import Rulebook.Proofs.Validation.Walk

/-!
# Fields that no rule reads

With the built-in rules a field has no part in a validation unless a rule names it: a
rule of the level where the field belongs, as the field that the rule is for or in
the arguments.  A field further down can also be read without being named, by a rule
that compares the whole record around it with another value.  This is the only way:
without such a rule on the way down, the outcome is the same whether the field is
there or not and whatever it holds.
-/

namespace Rulebook

open Value

/-- Two records that differ in one field of the record at the end of a chain, which
one of them may not have, and in nothing else but the order of fields. -/
inductive Record.DifferAt (key : String) : List String → Record → Record → Prop
  | here {first second : Record}
      (others : ∀ name, name ≠ key → first.find? name = second.find? name) :
      DifferAt key [] first second
  | inside {first second inner inner' : Record} {name : String} {chain : List String}
      (others : ∀ other, other ≠ name → first.find? other = second.find? other)
      (inFirst : first.find? name = some (.object inner))
      (inSecond : second.find? name = some (.object inner'))
      (differ : DifferAt key chain inner inner') : DifferAt key (name :: chain) first second

theorem Record.differAt_insert (key : String) (record : Record) (value : Value) :
    DifferAt key [] record (record.insert key value) := by
  apply DifferAt.here
  intro name differs
  rw [Table.find?_insert, if_neg (Ne.symm differs)]

/-- Comparisons of one value with fields that are the same. -/
theorem Comparison.agrees_of_eq {first second : Record} {other : String}
    (same : first.find? other = second.find? other) (value : Value) :
    Comparison.Agrees first second value value other := by
  constructor
  · rw [Comparison.different, Comparison.different, same]
  · rw [Comparison.same, Comparison.same, same]

namespace Judge

variable {config : Config} {patterns : PatternSource} {key : String} {first second : Record}

/-- A rule that does not name the one field in which two records differ. -/
theorem passes_builtIn_of_others
    (others : ∀ name, name ≠ key → first.find? name = second.find? name) {field : String}
    (unnamed : field ≠ key) {call : Call} (unread : key ∉ call.args) :
    passes ⟨.builtIn, config, patterns⟩ first field call =
      passes ⟨.builtIn, config, patterns⟩ second field call := by
  have argsDiffer : ∀ name ∈ call.args, name ≠ key := by
    rintro name isArg rfl
    exact unread isArg
  apply passes_builtIn_congr
  · rw [List.forall_mem_cons]
    exact ⟨rel_of_eq (others field unnamed), fun name isArg =>
      rel_of_eq (others name (argsDiffer name isArg))⟩
  · intro _ a b inFirst inSecond other isArg
    rw [others field unnamed, inSecond, Option.some.injEq] at inFirst
    rw [inFirst]
    exact Comparison.agrees_of_eq (others other (argsDiffer other isArg)) a

/-- A rule that names the one field in which two records differ but does not compare
it, where both hold an object. -/
theorem passes_builtIn_of_objects
    (others : ∀ name, name ≠ key → first.find? name = second.find? name) {inner inner' : Record}
    (inFirst : first.find? key = some (.object inner))
    (inSecond : second.find? key = some (.object inner')) {field : String} (unnamed : field ≠ key)
    {call : Call} (uncompared : call.name ∈ Comparison.siblingRules → key ∉ call.args) :
    passes ⟨.builtIn, config, patterns⟩ first field call =
      passes ⟨.builtIn, config, patterns⟩ second field call := by
  have akin : ∀ name, Option.Rel Akin (first.find? name) (second.find? name) := by
    intro name
    by_cases isKey : name = key
    · rw [isKey, inFirst, inSecond]
      exact .some (.object inner inner')
    · exact rel_of_eq (others name isKey)
  apply passes_builtIn_congr
  · exact fun name _ => akin name
  · intro sibling a b atFirst atSecond other isArg
    have otherDiffers : other ≠ key := by
      rintro rfl
      exact uncompared sibling isArg
    rw [others field unnamed, atSecond, Option.some.injEq] at atFirst
    rw [atFirst]
    exact Comparison.agrees_of_eq (others other otherDiffers) a

/-- Walks of two records that differ in a field that no rule names. -/
theorem walkFields_of_others (others : ∀ name, name ≠ key → first.find? name = second.find? name)
    {rules : RuleSet} (unnamed : key ∉ rules.names) (unread : ∀ call ∈ rules.calls, key ∉ call.args)
    (path : String) :
    walkFields ⟨.builtIn, config, patterns⟩ first path rules =
      walkFields ⟨.builtIn, config, patterns⟩ second path rules := by
  apply walkFields_congr
  intro field spec isEntry
  have fieldDiffers : field ≠ key := by
    rintro rfl
    exact unnamed (List.mem_map_of_mem isEntry)
  cases spec with
  | rules text =>
      apply walkCalls_congr
      intro call isCall
      exact passes_builtIn_of_others others fieldDiffers
        (unread call (RuleSet.mem_calls isEntry isCall))
  | nested fields => rw [walkSpec, walkSpec, others field fieldDiffers]

/-- Walks of two records that differ in a field of the level at the end of a chain.
The induction is on the chain: at its end no rule names the field, and on the way
down no comparison sees the record that the field is in. -/
theorem walkFields_differAt {chain : List String} {rules level : RuleSet}
    (reaches : rules.Reaches chain level) (wellFormed : (RuleSpec.nested rules).WellFormed)
    (unnamed : key ∉ level.names) (unread : ∀ call ∈ level.calls, key ∉ call.args)
    (uncompared : ∀ before name after outer, chain = before ++ name :: after →
      rules.Reaches before outer → ∀ call ∈ outer.calls,
        call.name ∈ Comparison.siblingRules → name ∉ call.args)
    (differ : Record.DifferAt key chain first second) (path : String) :
    walkFields ⟨.builtIn, config, patterns⟩ first path rules =
      walkFields ⟨.builtIn, config, patterns⟩ second path rules := by
  induction reaches generalizing first second path with
  | top level =>
      obtain ⟨others⟩ := differ
      exact walkFields_of_others others unnamed unread path
  | @nested rules fields level name chain here reaches ih =>
      cases differ with
      | @inside _ _ inner inner' _ _ others inFirst inSecond differ =>
          apply walkFields_congr
          intro field spec isEntry
          by_cases isName : field = name
          · -- The names of a level are distinct, so what is at this one is the nested set.
            subst isName
            have specEq : some spec = some (.nested fields) := by
              rw [← wellFormed.1.find?_eq_some_of_mem isEntry,
                ← wellFormed.1.find?_eq_some_of_mem here]
            obtain rfl := Option.some.inj specEq
            rw [walkSpec, walkSpec, inFirst, inSecond]
            apply ih (RuleSpec.wellFormed_of_mem wellFormed.2 here) unnamed unread ?_ differ
            intro before other after outer chainEq reachesOuter
            exact uncompared (field :: before) other after outer (congrArg _ chainEq)
              (.nested here reachesOuter)
          · cases spec with
            | rules text =>
                apply walkCalls_congr
                intro call isCall
                exact passes_builtIn_of_objects others inFirst inSecond isName
                  (uncompared [] name chain rules rfl (.top rules) call
                    (RuleSet.mem_calls isEntry isCall))
            | nested fields => rw [walkSpec, walkSpec, others field isName]

end Judge

namespace Validator

/-- A field that no rule names can be put in, changed or taken out without any effect
on the outcome.  For a field of a nested record the rules that count are those of its
level, as long as no rule on the way down compares the record that the field is in, or
one around it, with another value. -/
theorem validateWith_unread (patterns : PatternSource) (config : Config) (key : String) :
    let validate := (withConfig config).validateWith patterns
    (∀ (rules : RuleSet) (first second : Record),
        key ∉ rules.names → (∀ call ∈ rules.calls, key ∉ call.args) →
        (∀ name, name ≠ key → first.find? name = second.find? name) →
          validate first rules = validate second rules) ∧
      ∀ (chain : List String) (rules level : RuleSet) (first second : Record),
        (RuleSpec.nested rules).WellFormed → rules.Reaches chain level →
        key ∉ level.names → (∀ call ∈ level.calls, key ∉ call.args) →
        (∀ before name after outer, chain = before ++ name :: after →
          rules.Reaches before outer → ∀ call ∈ outer.calls,
            call.name ∈ Comparison.siblingRules → name ∉ call.args) →
        Record.DifferAt key chain first second →
          validate first rules = validate second rules := by
  intro validate
  constructor
  · intro rules first second unnamed unread others
    exact validateWith_congr (Judge.walkFields_of_others others unnamed unread "")
  · intro chain rules level first second wellFormed reaches unnamed unread uncompared differ
    apply validateWith_congr
    exact Judge.walkFields_differAt reaches wellFormed unnamed unread uncompared differ ""

/-- A field that is put in at the top, or in a record that another field depends on. -/
theorem validateWith_unread_zone :
    let validate := (withConfig .default).validateWith (fun _ => none)
    let level : RuleSet := [("city", .rules "required_with:street")]
    let rules : RuleSet := [("home", .nested level), ("work", .rules "required_with:home")]
    let bare : Record := [("home", .object [("city", .null)])]
    let zoned : Record := [("home", .object [("city", .null), ("zone", .bool true)])]
    ("zone" ∉ rules.names ∧ (∀ call ∈ rules.calls, "zone" ∉ call.args) ∧
        (∀ name, name ≠ "zone" →
          bare.find? name = (bare.insert "zone" .null).find? name) ∧
        validate bare rules = validate (bare.insert "zone" .null) rules) ∧
      ((RuleSpec.nested rules).WellFormed ∧ rules.Reaches ["home"] level ∧
          "zone" ∉ level.names ∧ (∀ call ∈ level.calls, "zone" ∉ call.args) ∧
          (∀ before name after outer, ["home"] = before ++ name :: after →
            rules.Reaches before outer → ∀ call ∈ outer.calls,
              call.name ∈ Comparison.siblingRules → name ∉ call.args) ∧
          Record.DifferAt "zone" ["home"] bare zoned) ∧
        validate bare rules = validate zoned rules := by
  intro validate level rules bare zoned
  have unnamed : "zone" ∉ rules.names := by decide +zetaReduce
  have unread : ∀ call ∈ rules.calls, "zone" ∉ call.args := by decide +zetaReduce
  have others : ∀ name, name ≠ "zone" →
      bare.find? name = (bare.insert "zone" .null).find? name := by
    intro name differs
    rw [Table.find?_insert, if_neg (Ne.symm differs)]
  have wellFormed : (RuleSpec.nested rules).WellFormed := by
    simp [RuleSpec.WellFormed, RuleSpec.WellFormedFields, Table.Distinct, rules, level]
  have reaches : rules.Reaches ["home"] level := .nested List.mem_cons_self (.top level)
  have unnamedThere : "zone" ∉ level.names := by decide +zetaReduce
  have unreadThere : ∀ call ∈ level.calls, "zone" ∉ call.args := by decide +zetaReduce
  have uncompared : ∀ before name after outer, ["home"] = before ++ name :: after →
      rules.Reaches before outer → ∀ call ∈ outer.calls,
        call.name ∈ Comparison.siblingRules → name ∉ call.args := by
    intro before name after outer chainEq reachesOuter
    cases before with
    | nil =>
        obtain ⟨rfl, -⟩ := List.cons.inj chainEq
        cases reachesOuter
        decide +zetaReduce
    | cons first before => simp at chainEq
  have differ : Record.DifferAt "zone" ["home"] bare zoned := by
    apply Record.DifferAt.inside _ rfl rfl (Record.differAt_insert "zone" _ (.bool true))
    intro other differs
    simp [bare, zoned, Table.find?_cons, Ne.symm differs]
  have unread_zone := validateWith_unread (fun _ => none) .default "zone"
  exact ⟨⟨unnamed, unread, others, unread_zone.1 rules bare _ unnamed unread others⟩,
    ⟨wellFormed, reaches, unnamedThere, unreadThere, uncompared, differ⟩,
    unread_zone.2 ["home"] rules level bare zoned wellFormed reaches unnamedThere unreadThere
      uncompared differ⟩

/-- A rule that compares a nested record sees a field that no rule of its level names. -/
theorem validateWith_compared_zone :
    let level : RuleSet := [("city", .rules "string")]
    let rules : RuleSet := [("home", .nested level), ("work", .rules "same:home")]
    let bare : Record := [("home", .object []), ("work", .object [])]
    let zoned : Record :=
      [("home", .object (Table.insert [] "zone" .null)), ("work", .object [])]
    rules.Reaches ["home"] level ∧ "zone" ∉ level.names ∧
      (∀ call ∈ level.calls, "zone" ∉ call.args) ∧ Record.DifferAt "zone" ["home"] bare zoned ∧
      (new.validateWith (fun _ => none) bare rules).rejects = [] ∧
        (new.validateWith (fun _ => none) zoned rules).rejects =
          [⟨"", "work", "same", ["home"], none⟩] := by
  intro level rules bare zoned
  have reaches : rules.Reaches ["home"] level := .nested List.mem_cons_self (.top level)
  have differ : Record.DifferAt "zone" ["home"] bare zoned := by
    apply Record.DifferAt.inside _ rfl rfl (Record.differAt_insert "zone" [] .null)
    intro other differs
    simp [bare, zoned, Table.find?_cons, Ne.symm differs]
  exact ⟨reaches, by decide +zetaReduce, by decide +zetaReduce, differ, by decide +zetaReduce,
    by decide +zetaReduce⟩

end Validator

end Rulebook
