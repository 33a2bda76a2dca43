import Rulebook.Proofs.Value.Akin
import Rulebook.Validation

/-!
# What built-in rules read

A presence rule reads its field and the companions that its arguments name.  Of the
value rules only two read the record, and these compare a value with the field that
an argument names.  All other verdicts are the same for akin values, whatever else
is in the record.
-/

namespace Rulebook

open Value

/-! ## Fields with akin values -/

section

variable {first second : Option Value}

theorem isSome_eq_of_rel (related : Option.Rel Akin first second) :
    first.isSome = second.isSome := by
  cases related <;> rfl

theorem any_eq_of_rel (related : Option.Rel Akin first second) {test : Value → Bool}
    (congruent : ∀ {a b : Value}, Akin a b → test a = test b) :
    first.any test = second.any test := by
  cases related with
  | some akin => exact congruent akin
  | none => rfl

theorem rel_of_eq (same : first = second) : Option.Rel Akin first second := by
  subst same
  cases first with
  | none => exact .none
  | some value => exact .some (.refl value)

end

theorem rel_mono {α β : Type} {R S : α → β → Prop} (weaker : ∀ {a b}, R a b → S a b)
    {first : Option α} {second : Option β} (related : Option.Rel R first second) :
    Option.Rel S first second := by
  cases related with
  | some this => exact .some (weaker this)
  | none => exact .none

theorem any_congr_mem {α : Type} {l : List α} {f g : α → Bool} (same : ∀ a ∈ l, f a = g a) :
    l.any f = l.any g := by
  rw [Bool.eq_iff_iff, List.any_eq_true, List.any_eq_true]
  exact exists_congr fun a => and_congr_right fun isMember => by rw [same a isMember]

theorem all_congr_mem {α : Type} {l : List α} {f g : α → Bool} (same : ∀ a ∈ l, f a = g a) :
    l.all f = l.all g := by
  rw [Bool.eq_iff_iff, List.all_eq_true, List.all_eq_true]
  exact forall₂_congr fun a isMember => by rw [same a isMember]

/-! ## Presence rules -/

/-- A presence rule that reads only its field and its companions, and no more of
them than akin values have in common. -/
def PresenceRule.IsLocal (rule : PresenceRule) : Prop :=
  ∀ {first second : Record} {field : String} {args : List String},
    (∀ name ∈ field :: args, Option.Rel Akin (first.find? name) (second.find? name)) →
      rule.holds first field args = rule.holds second field args

namespace Presence

variable {first second : Record} {field : String} {args : List String}

theorem required_congr (related : Option.Rel Akin (first.find? field) (second.find? field)) :
    required first field = required second field :=
  any_eq_of_rel related fun akin => akin.isTruthy_eq

theorem has_congr {name : String}
    (related : Option.Rel Akin (first.find? name) (second.find? name)) :
    first.has name = second.has name :=
  isSome_eq_of_rel related

theorem agrees_congr {pair : String × String}
    (related : Option.Rel Akin (first.find? pair.1) (second.find? pair.1)) :
    agrees first pair = agrees second pair :=
  any_eq_of_rel related fun akin => by rw [akin.isTruthy_eq, akin.looseEqText_eq]

/-- The first half of each pair is an argument. -/
theorem fst_mem_of_mem_pairs {pair : String × String} :
    ∀ {args : List String}, pair ∈ pairs args → pair.1 ∈ args
  | [], isPair => by simp [pairs] at isPair
  | [_], isPair => by simp [pairs] at isPair
  | companion :: expected :: rest, isPair => by
      rw [pairs, List.mem_cons] at isPair
      rcases isPair with rfl | later
      · exact List.mem_cons_self
      · exact List.mem_cons_of_mem _ (List.mem_cons_of_mem _ (fst_mem_of_mem_pairs later))

/-- All built-in presence rules are local. -/
theorem isLocal_of_mem_builtIn {name : String} {rule : PresenceRule}
    (isBuiltIn : (name, rule) ∈ builtIn) : rule.IsLocal := by
  intro first second field args related
  rw [List.forall_mem_cons] at related
  obtain ⟨atField, atArgs⟩ := related
  have sameRequired := required_congr atField
  have sameAgrees : (pairs args).all (agrees first) = (pairs args).all (agrees second) :=
    all_congr_mem fun pair isPair => agrees_congr (atArgs pair.1 (fst_mem_of_mem_pairs isPair))
  have sameHas : ∀ companion ∈ args, first.has companion = second.has companion :=
    fun companion isArg => has_congr (atArgs companion isArg)
  have sameLacks : ∀ companion ∈ args, (!first.has companion) = !second.has companion :=
    fun companion isArg => congrArg not (sameHas companion isArg)
  simp only [builtIn, List.mem_cons, Prod.mk.injEq, List.not_mem_nil, or_false] at isBuiltIn
  rcases isBuiltIn with ⟨-, rfl⟩ | ⟨-, rfl⟩ | ⟨-, rfl⟩ | ⟨-, rfl⟩ | ⟨-, rfl⟩ | ⟨-, rfl⟩ <;>
    simp only [PresenceRule.holds]
  · rw [sameRequired]
  · rw [requiredIf, requiredIf, sameAgrees, sameRequired]
  · rw [requiredWith, requiredWith, any_congr_mem sameHas, sameRequired]
  · rw [requiredWithAll, requiredWithAll, all_congr_mem sameHas, sameRequired]
  · rw [requiredWithout, requiredWithout, any_congr_mem sameLacks, sameRequired]
  · rw [requiredWithoutAll, requiredWithoutAll, all_congr_mem sameLacks, sameRequired]

end Presence

/-! ## Value rules -/

/-- A value rule that does not read the record, and no more of the value than akin
values have in common. -/
def ValueRule.IsPlain (rule : ValueRule) : Prop :=
  ∀ (patterns : PatternSource) (first second : Record) {a b : Value} (args : List String),
    Akin a b → rule.holds patterns first a args = rule.holds patterns second b args

theorem ValueRule.isPlain_pattern (regex : Regex) : (ValueRule.pattern regex).IsPlain := by
  intro patterns first second a b args akin
  rw [ValueRule.holds, ValueRule.holds, akin.stringify_eq]

theorem ValueRule.isPlain_argumentPattern : ValueRule.argumentPattern.IsPlain := by
  intro patterns first second a b args akin
  simp only [ValueRule.holds, akin.stringify_eq]

theorem Kinds.isPlain_plain {test : Value → Bool}
    (congruent : ∀ {a b : Value}, Akin a b → test a = test b) : (Kinds.plain test).IsPlain := by
  intro patterns first second a b args akin
  simp only [Kinds.plain, ValueRule.holds, congruent akin]

theorem Size.isPlain_withOne {test : Value → String → Bool}
    (congruent : ∀ {a b : Value} (arg : String), Akin a b → test a arg = test b arg) :
    (Size.withOne test).IsPlain := by
  intro patterns first second a b args akin
  simp only [Size.withOne, ValueRule.holds, congruent _ akin]

theorem Size.isPlain_withTwo {test : Value → String → String → Bool}
    (congruent : ∀ {a b : Value} (least most : String), Akin a b →
      test a least most = test b least most) :
    (Size.withTwo test).IsPlain := by
  intro patterns first second a b args akin
  simp only [Size.withTwo, ValueRule.holds, congruent _ _ akin]

namespace Size

variable {a b : Value} (akin : Akin a b)

include akin

theorem between_congr (least most : String) : between a least most = between b least most :=
  akin.check_eq (fun sameKey => by
    rw [Number.le_congr_right sameKey, Number.le_congr_left sameKey]) _

theorem min_congr (least : String) : min a least = min b least :=
  akin.check_eq (fun sameKey => Number.le_congr_right sameKey _) _

theorem max_congr (most : String) : max a most = max b most :=
  akin.check_eq (fun sameKey => Number.le_congr_left sameKey _) _

theorem size_congr (expected : String) : size a expected = size b expected :=
  akin.check_eq (fun sameKey => Number.eq_congr_left sameKey _) _

theorem digitRun?_congr : digitRun? a = digitRun? b := by
  rw [digitRun?, digitRun?, akin.stringify_eq]

theorem digits_congr (arg : String) : digits a arg = digits b arg := by
  rw [digits, digits, digitRun?_congr akin]

theorem digitsBetween_congr (least most : String) :
    digitsBetween a least most = digitsBetween b least most := by
  rw [digitsBetween, digitsBetween, digitRun?_congr akin]

end Size

namespace Dates

variable {a b : Value} (akin : Akin a b)

include akin

theorem ofValue?_congr : ofValue? a = ofValue? b := by
  rw [ofValue?, ofValue?, akin.text?_eq]

theorem after_congr (bound : String) : after a bound = after b bound := by
  rw [after, after, ofValue?_congr akin]

theorem before_congr (bound : String) : before a bound = before b bound := by
  rw [before, before, ofValue?_congr akin]

theorem hasFormat_congr (pattern : String) : hasFormat a pattern = hasFormat b pattern := by
  rw [hasFormat, hasFormat, akin.text?_eq]

end Dates

/-! ## The built-in value rules -/

/-- The value rules that compare a value with another field of its record. -/
def Comparison.siblingRules : List String := ["different", "same"]

section

variable {name : String} {rule : ValueRule}

theorem Kinds.isPlain_of_mem_builtIn (isBuiltIn : (name, rule) ∈ Kinds.builtIn) :
    rule.IsPlain := by
  simp only [Kinds.builtIn, List.mem_cons, Prod.mk.injEq, List.not_mem_nil, or_false] at isBuiltIn
  rcases isBuiltIn with ⟨-, rfl⟩ | ⟨-, rfl⟩ | ⟨-, rfl⟩ | ⟨-, rfl⟩ <;> apply Kinds.isPlain_plain
  · intro a b akin
    rw [isArray, isArray, akin.kind_eq]
  · intro a b akin
    rw [isString, isString, akin.kind_eq]
  · intro a b akin
    exact akin.any_number?_eq Number.isFinite_congr
  · intro a b akin
    exact akin.any_number?_eq Number.isWhole_congr

theorem Size.isPlain_of_mem_builtIn (isBuiltIn : (name, rule) ∈ Size.builtIn) : rule.IsPlain := by
  simp only [Size.builtIn, List.mem_cons, Prod.mk.injEq, List.not_mem_nil, or_false] at isBuiltIn
  rcases isBuiltIn with ⟨-, rfl⟩ | ⟨-, rfl⟩ | ⟨-, rfl⟩ | ⟨-, rfl⟩ | ⟨-, rfl⟩ | ⟨-, rfl⟩
  · exact isPlain_withTwo fun least most akin => between_congr akin least most
  · exact isPlain_withOne fun least akin => min_congr akin least
  · exact isPlain_withOne fun most akin => max_congr akin most
  · exact isPlain_withOne fun expected akin => size_congr akin expected
  · exact isPlain_withOne fun arg akin => digits_congr akin arg
  · exact isPlain_withTwo fun least most akin => digitsBetween_congr akin least most

theorem Format.isPlain_of_mem_builtIn (isBuiltIn : (name, rule) ∈ Format.builtIn) :
    rule.IsPlain := by
  simp only [Format.builtIn, List.mem_cons, Prod.mk.injEq, List.not_mem_nil, or_false] at isBuiltIn
  rcases isBuiltIn with ⟨-, rfl⟩ | ⟨-, rfl⟩ | ⟨-, rfl⟩ | ⟨-, rfl⟩ | ⟨-, rfl⟩ | ⟨-, rfl⟩ |
    ⟨-, rfl⟩ | ⟨-, rfl⟩ | ⟨-, rfl⟩
  case inr.inr.inr.inr.inr.inr.inr.inl =>
    apply Kinds.isPlain_plain
    intro a b akin
    rw [isIp, isIp, akin.stringify_eq]
  case inr.inr.inr.inr.inr.inr.inr.inr => exact ValueRule.isPlain_argumentPattern
  all_goals exact ValueRule.isPlain_pattern _

theorem Dates.isPlain_of_mem_builtIn (isBuiltIn : (name, rule) ∈ Dates.builtIn) :
    rule.IsPlain := by
  simp only [Dates.builtIn, List.mem_cons, Prod.mk.injEq, List.not_mem_nil, or_false] at isBuiltIn
  rcases isBuiltIn with ⟨-, rfl⟩ | ⟨-, rfl⟩ | ⟨-, rfl⟩ | ⟨-, rfl⟩
  · apply Kinds.isPlain_plain
    intro a b akin
    rw [isDate, isDate, ofValue?_congr akin]
  · exact Size.isPlain_withOne fun bound akin => after_congr akin bound
  · exact Size.isPlain_withOne fun bound akin => before_congr akin bound
  · exact Size.isPlain_withOne fun pattern akin => hasFormat_congr akin pattern

theorem Comparison.isPlain_of_mem_builtIn (isBuiltIn : (name, rule) ∈ Comparison.builtIn)
    (noSibling : name ∉ siblingRules) : rule.IsPlain := by
  have isInCongr : ∀ {a b : Value} (args : List String), Akin a b → isIn a args = isIn b args := by
    intro a b args akin
    rw [isIn, isIn, akin.text?_eq]
  simp only [Comparison.builtIn, List.mem_cons, Prod.mk.injEq, List.not_mem_nil, or_false]
    at isBuiltIn
  rcases isBuiltIn with ⟨rfl, -⟩ | ⟨rfl, -⟩ | ⟨-, rfl⟩ | ⟨-, rfl⟩
  · exact absurd (by decide) noSibling
  · exact absurd (by decide) noSibling
  all_goals
    intro patterns first second a b args akin
    simp only [ValueRule.holds, isInCongr args akin]

theorem Files.isPlain_of_mem_builtIn (isBuiltIn : (name, rule) ∈ Files.builtIn) :
    rule.IsPlain := by
  simp only [Files.builtIn, List.mem_singleton, Prod.mk.injEq] at isBuiltIn
  obtain ⟨-, rfl⟩ := isBuiltIn
  intro patterns first second a b args akin
  simp only [ValueRule.holds, akin.haveExtensions_eq]

/-- All built-in value rules are plain but those that compare fields. -/
theorem Registry.isPlain_of_mem_builtInValues (isBuiltIn : (name, rule) ∈ builtInValues)
    (noSibling : name ∉ Comparison.siblingRules) : rule.IsPlain := by
  simp only [builtInValues, List.mem_append] at isBuiltIn
  rcases isBuiltIn with ((((kinds | size) | format) | dates) | comparison) | files
  · exact Kinds.isPlain_of_mem_builtIn kinds
  · exact Size.isPlain_of_mem_builtIn size
  · exact Format.isPlain_of_mem_builtIn format
  · exact Dates.isPlain_of_mem_builtIn dates
  · exact Comparison.isPlain_of_mem_builtIn comparison noSibling
  · exact Files.isPlain_of_mem_builtIn files

end

/-! ## Verdicts -/

/-- Whether two rules that compare fields have the same verdict on a value in one
record as on another value in another one. -/
def Comparison.Agrees (first second : Record) (a b : Value) (other : String) : Prop :=
  different first a other = different second b other ∧ same first a other = same second b other

/-- A rule that compares a value with the field that its argument names. -/
theorem Comparison.holds_congr {test : Record → Value → String → Bool} {first second : Record}
    {a b : Value} {args : List String}
    (agrees : ∀ other ∈ args, test first a other = test second b other) (patterns : PatternSource) :
    (ValueRule.predicate (.exact 1) fun record value args =>
        do return test record value (← args[0]?)).holds patterns first a args =
      (ValueRule.predicate (.exact 1) fun record value args =>
        do return test record value (← args[0]?)).holds patterns second b args := by
  cases args with
  | nil => rfl
  | cons other rest =>
      have here := agrees other List.mem_cons_self
      simp only [ValueRule.holds, List.getElem?_cons_zero, Option.bind_eq_bind, Option.bind_some,
        here]

section

variable {first second : Record}

/-- A built-in value rule has the same verdict on akin values, if it is not one that
compares fields or those comparisons come out the same. -/
theorem ValueRule.holds_builtIn_congr {name : String} {rule : ValueRule}
    (found : Registry.builtInValues.find? name = some rule) (patterns : PatternSource)
    {a b : Value} {args : List String} (akin : Akin a b)
    (compared : name ∈ Comparison.siblingRules →
      ∀ other ∈ args, Comparison.Agrees first second a b other) :
    rule.holds patterns first a args = rule.holds patterns second b args := by
  by_cases sibling : name ∈ Comparison.siblingRules
  · have agrees := compared sibling
    simp only [Comparison.siblingRules, List.mem_cons, List.not_mem_nil, or_false] at sibling
    rcases sibling with rfl | rfl
    · cases found
      exact Comparison.holds_congr (fun other isArg => (agrees other isArg).1) patterns
    · cases found
      exact Comparison.holds_congr (fun other isArg => (agrees other isArg).2) patterns
  · have plain := Registry.isPlain_of_mem_builtInValues (Table.mem_of_find?_eq_some found) sibling
    exact plain patterns first second args akin

/-- A field passes a built-in rule in two records alike, if the fields that the rule
reads are akin and comparisons come out the same. -/
theorem Judge.passes_builtIn_congr (config : Config) (patterns : PatternSource) {field : String}
    {call : Call}
    (related : ∀ name ∈ field :: call.args,
      Option.Rel Akin (first.find? name) (second.find? name))
    (compared : call.name ∈ Comparison.siblingRules → ∀ a b, first.find? field = some a →
      second.find? field = some b → ∀ other ∈ call.args, Comparison.Agrees first second a b other) :
    passes ⟨.builtIn, config, patterns⟩ first field call =
      passes ⟨.builtIn, config, patterns⟩ second field call := by
  simp only [passes, Registry.builtIn]
  cases presence : Presence.builtIn.find? call.name with
  | some rule =>
      exact Presence.isLocal_of_mem_builtIn (Table.mem_of_find?_eq_some presence) related
  | none =>
      cases values : Registry.builtInValues.find? call.name with
      | none => rfl
      | some rule =>
          have atField := related field List.mem_cons_self
          cases atFirst : first.find? field with
          | none =>
              rw [atFirst] at atField
              cases atSecond : second.find? field with
              | none => rfl
              | some b => simp [atSecond] at atField
          | some a =>
              rw [atFirst] at atField
              cases atSecond : second.find? field with
              | none => simp [atSecond] at atField
              | some b =>
                  rw [atSecond, Option.rel_some_some] at atField
                  exact ValueRule.holds_builtIn_congr values patterns atField fun sibling =>
                    compared sibling a b atFirst atSecond

end

end Rulebook
