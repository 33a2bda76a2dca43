import Rulebook.CachedRun
import Rulebook.Proofs.Table

/-!
# Arguments that are there

The body of a rule asks for arguments by position without a look at how many there are.
It is the arity that stands guard: a call with a number of arguments that it does not
accept is answered in the negative, and the body is not asked.  So a built-in rule never
asks for an argument that is not there.  A rule with a fixed number of arguments asks for
all of them, and the pairs of a conditional requirement use up a list of even length.
-/

namespace Rulebook

/-! ## Bodies -/

/-- A body that asks for the first arguments, as many as `count`: it comes to an answer if
all of them are there. -/
def AsksFor {α β : Type} (body : α → β → List String → Option Bool) (count : Nat) : Prop :=
  ∀ a b args, (body a b args).isSome = decide (count ≤ args.length)

section

variable {α β : Type}

/-- A body that takes its arguments as a list asks for none by position. -/
theorem asksFor_none (test : α → β → List String → Bool) :
    AsksFor (fun a b args => some (test a b args)) 0 :=
  fun _ _ _ => rfl

theorem asksFor_one (test : α → β → String → Bool) :
    AsksFor (fun a b args => do return test a b (← args[0]?)) 1 := by
  intro a b args
  cases args with
  | nil => rfl
  | cons first rest => simp

theorem asksFor_two (test : α → β → String → String → Bool) :
    AsksFor (fun a b args => do return test a b (← args[0]?) (← args[1]?)) 2 := by
  intro a b args
  match args with
  | [] => rfl
  | [_] => rfl
  | first :: second :: rest => simp

end

/-- Lists of arguments that an arity accepts are long enough for a body, and no longer than
it asks for if the arity fixes their length. -/
structure Arity.Covers (arity : Arity) (count : Nat) : Prop where
  enough : ∀ n, arity.accepts n = true → count ≤ n
  all : ∀ n, arity = .exact n → n = count

namespace Arity.Covers

theorem fixed (count : Nat) : (exact count).Covers count where
  enough n accepted := Nat.le_of_eq (beq_iff_eq.mp accepted).symm
  all n same := by
    cases same
    rfl

theorem list (count : Nat) : (atLeast count).Covers 0 :=
  ⟨fun n _ => Nat.zero_le n, nofun⟩

theorem evenList : pairs.Covers 0 :=
  ⟨fun n _ => Nat.zero_le n, nofun⟩

end Arity.Covers

/-- An arity that stands guard before a body. -/
def Guards {α β : Type} (arity : Arity) (body : α → β → List String → Option Bool) : Prop :=
  ∃ count, AsksFor body count ∧ arity.Covers count

/-- What is asked for is there whenever the body is asked. -/
theorem Guards.isSome {α β : Type} {arity : Arity} {body : α → β → List String → Option Bool}
    (guards : Guards arity body) (a : α) (b : β) {args : List String}
    (accepted : arity.accepts args.length = true) : (body a b args).isSome = true := by
  obtain ⟨count, asksFor, covers⟩ := guards
  rw [asksFor, decide_eq_true_iff]
  exact covers.enough _ accepted

/-- A body behind an arity that fixes the number of arguments asks for just as many. -/
theorem Guards.isSome_exact {α β : Type} {n : Nat} {body : α → β → List String → Option Bool}
    (guards : Guards (.exact n) body) (a : α) (b : β) (args : List String) :
    (body a b args).isSome = decide (n ≤ args.length) := by
  obtain ⟨count, asksFor, covers⟩ := guards
  rw [asksFor, covers.all n rfl]

/-! ## Calls -/

namespace ValueRule

/-- A rule whose arity, if it has one, stands guard before its body. -/
def Guarded : ValueRule → Prop
  | predicate arity body => Guards arity body
  | pattern _ | argumentPattern => True

end ValueRule

/-- A rule that finds all arguments that it asks for comes to the answer that counts. -/
theorem eq_some_of_isSome {answer? : Option Bool} (found : answer?.isSome = true) :
    answer? = some (answer? == some true) := by
  match answer?, found with
  | some true, _ => rfl
  | some false, _ => rfl

theorem Guards.isSome_guarded? {α β : Type} {arity : Arity}
    {body : α → β → List String → Option Bool} (guards : Guards arity body) (a : α) (b : β)
    (args : List String) : (guarded? arity args (body a b)).isSome = true := by
  unfold guarded?
  split
  · next accepted => exact guards.isSome a b accepted
  · rfl

theorem PresenceRule.answer?_of_guards {rule : PresenceRule}
    (guards : Guards rule.arity rule.body) (record : Record) (field : String)
    (args : List String) :
    rule.answer? record field args = some (rule.holds record field args) := by
  rw [holds_eq_answer?]
  exact eq_some_of_isSome (guards.isSome_guarded? record field args)

theorem ValueRule.Guarded.answer?_eq {rule : ValueRule} (guarded : rule.Guarded)
    (patterns : PatternSource) (record : Record) (value : Value) (args : List String) :
    rule.answer? patterns record value args = some (rule.holds patterns record value args) := by
  rw [holds_eq_answer?]
  apply eq_some_of_isSome
  cases rule with
  | predicate arity body => exact guarded.isSome_guarded? record value args
  | pattern regex => rfl
  | argumentPattern =>
      have guards : Guards (.atLeast 1) fun (_ : Record) (value : Value) args =>
          some (matchesArguments patterns value args) :=
        ⟨0, asksFor_none _, .list 1⟩
      exact guards.isSome_guarded? record value args

/-! ## The built-in rules -/

section

variable {name : String}

theorem Presence.guards_of_mem_builtIn {rule : PresenceRule}
    (isBuiltIn : (name, rule) ∈ builtIn) : Guards rule.arity rule.body := by
  simp only [builtIn, List.mem_cons, Prod.mk.injEq, List.not_mem_nil, or_false] at isBuiltIn
  rcases isBuiltIn with ⟨-, rfl⟩ | ⟨-, rfl⟩ | ⟨-, rfl⟩ | ⟨-, rfl⟩ | ⟨-, rfl⟩ | ⟨-, rfl⟩
  · exact ⟨0, asksFor_none fun record field _ => required record field, .fixed 0⟩
  · exact ⟨0, asksFor_none requiredIf, .evenList⟩
  · exact ⟨0, asksFor_none requiredWith, .list 1⟩
  · exact ⟨0, asksFor_none requiredWithAll, .list 1⟩
  · exact ⟨0, asksFor_none requiredWithout, .list 1⟩
  · exact ⟨0, asksFor_none requiredWithoutAll, .list 1⟩

variable {rule : ValueRule}

theorem Kinds.guarded_plain (test : Value → Bool) : (plain test).Guarded :=
  ⟨0, asksFor_none fun _ value _ => test value, .fixed 0⟩

theorem Size.guarded_withOne (test : Value → String → Bool) : (withOne test).Guarded :=
  ⟨1, asksFor_one fun _ => test, .fixed 1⟩

theorem Size.guarded_withTwo (test : Value → String → String → Bool) : (withTwo test).Guarded :=
  ⟨2, asksFor_two fun _ => test, .fixed 2⟩

theorem Kinds.guarded_of_mem_builtIn (isBuiltIn : (name, rule) ∈ builtIn) : rule.Guarded := by
  simp only [builtIn, List.mem_cons, Prod.mk.injEq, List.not_mem_nil, or_false] at isBuiltIn
  rcases isBuiltIn with ⟨-, rfl⟩ | ⟨-, rfl⟩ | ⟨-, rfl⟩ | ⟨-, rfl⟩
  all_goals exact guarded_plain _

theorem Size.guarded_of_mem_builtIn (isBuiltIn : (name, rule) ∈ builtIn) : rule.Guarded := by
  simp only [builtIn, List.mem_cons, Prod.mk.injEq, List.not_mem_nil, or_false] at isBuiltIn
  rcases isBuiltIn with ⟨-, rfl⟩ | ⟨-, rfl⟩ | ⟨-, rfl⟩ | ⟨-, rfl⟩ | ⟨-, rfl⟩ | ⟨-, rfl⟩
  · exact guarded_withTwo between
  · exact guarded_withOne min
  · exact guarded_withOne max
  · exact guarded_withOne size
  · exact guarded_withOne digits
  · exact guarded_withTwo digitsBetween

theorem Format.guarded_of_mem_builtIn (isBuiltIn : (name, rule) ∈ builtIn) : rule.Guarded := by
  simp only [builtIn, List.mem_cons, Prod.mk.injEq, List.not_mem_nil, or_false] at isBuiltIn
  rcases isBuiltIn with ⟨-, rfl⟩ | ⟨-, rfl⟩ | ⟨-, rfl⟩ | ⟨-, rfl⟩ | ⟨-, rfl⟩ | ⟨-, rfl⟩ |
    ⟨-, rfl⟩ | ⟨-, rfl⟩ | ⟨-, rfl⟩
  case inr.inr.inr.inr.inr.inr.inr.inl => exact Kinds.guarded_plain isIp
  all_goals trivial

theorem Dates.guarded_of_mem_builtIn (isBuiltIn : (name, rule) ∈ builtIn) : rule.Guarded := by
  simp only [builtIn, List.mem_cons, Prod.mk.injEq, List.not_mem_nil, or_false] at isBuiltIn
  rcases isBuiltIn with ⟨-, rfl⟩ | ⟨-, rfl⟩ | ⟨-, rfl⟩ | ⟨-, rfl⟩
  · exact Kinds.guarded_plain isDate
  · exact Size.guarded_withOne after
  · exact Size.guarded_withOne before
  · exact Size.guarded_withOne hasFormat

theorem Comparison.guarded_of_mem_builtIn (isBuiltIn : (name, rule) ∈ builtIn) :
    rule.Guarded := by
  simp only [builtIn, List.mem_cons, Prod.mk.injEq, List.not_mem_nil, or_false] at isBuiltIn
  rcases isBuiltIn with ⟨-, rfl⟩ | ⟨-, rfl⟩ | ⟨-, rfl⟩ | ⟨-, rfl⟩
  · exact ⟨1, asksFor_one different, .fixed 1⟩
  · exact ⟨1, asksFor_one same, .fixed 1⟩
  · exact ⟨0, asksFor_none fun _ value args => isIn value args, .list 1⟩
  · exact ⟨0, asksFor_none fun _ value args => !isIn value args, .list 1⟩

theorem Files.guarded_of_mem_builtIn (isBuiltIn : (name, rule) ∈ builtIn) : rule.Guarded := by
  simp only [builtIn, List.mem_singleton, Prod.mk.injEq] at isBuiltIn
  obtain ⟨-, rfl⟩ := isBuiltIn
  exact ⟨0, asksFor_none fun _ value args => haveExtensions value args, .list 1⟩

theorem Registry.guarded_of_mem_builtInValues (isBuiltIn : (name, rule) ∈ builtInValues) :
    rule.Guarded := by
  simp only [builtInValues, List.mem_append] at isBuiltIn
  rcases isBuiltIn with ((((kinds | size) | format) | dates) | comparison) | files
  · exact Kinds.guarded_of_mem_builtIn kinds
  · exact Size.guarded_of_mem_builtIn size
  · exact Format.guarded_of_mem_builtIn format
  · exact Dates.guarded_of_mem_builtIn dates
  · exact Comparison.guarded_of_mem_builtIn comparison
  · exact Files.guarded_of_mem_builtIn files

end

/-! ## Pairs -/

/-- The pairs of a list of arguments use it up if its length is even.  Otherwise the last
argument has no part in them. -/
theorem Presence.flatMap_pairs_eq_iff {args : List String} :
    ((pairs args).flatMap fun pair => [pair.1, pair.2]) = args ↔ args.length % 2 = 0 := by
  match args with
  | [] => simp [pairs]
  | [_] => simp [pairs]
  | companion :: expected :: rest =>
      simp only [pairs, List.flatMap_cons, List.cons_append, List.nil_append, List.cons.injEq,
        true_and, List.length_cons]
      rw [flatMap_pairs_eq_iff]
      omega

/-! ## Refusals -/

/-- A call whose number of arguments is not accepted does not even look a pattern up. -/
theorem ValueRule.run_of_refused {rule : ValueRule} {arity : Arity} {args : List String}
    (hasArity : rule.arity? = some arity) (refused : arity.accepts args.length = false)
    (compile : PatternSource) (evict : Eviction) (record : Record) (value : Value)
    (cache : PatternCache) :
    (rule.run compile evict record value args).run cache = (false, cache) := by
  cases rule with
  | predicate arity body =>
      cases hasArity
      simp only [run, lookup?, holds, refused, Bool.false_and]
      rfl
  | pattern regex => cases hasArity
  | argumentPattern =>
      cases hasArity
      simp only [run, lookup?, holds, refused, Bool.false_and]
      rfl

namespace Registry

/-- No call makes a rule of a registry ask for an argument that is not there. -/
structure Careful (registry : Registry) : Prop where
  /-- Every presence rule comes to an answer, whatever its arguments are. -/
  presence : ∀ name rule, registry.presence.find? name = some rule → ∀ record field args,
    rule.answer? record field args = some (rule.holds record field args)
  /-- So does every value rule. -/
  values : ∀ name rule, registry.values.find? name = some rule → ∀ patterns record value args,
    rule.answer? patterns record value args = some (rule.holds patterns record value args)
  /-- A rule with a fixed number of arguments asks for all of them. -/
  exact : ∀ name n body, registry.values.find? name = some (.predicate (.exact n) body) →
    ∀ record value args, (body record value args).isSome = decide (n ≤ args.length)
  /-- A presence rule with a number of arguments that it does not accept fails, whatever its
  body would say. -/
  refusedPresence : ∀ name rule, registry.presence.find? name = some rule → ∀ record field args,
    rule.arity.accepts args.length = false →
      ∀ body, (⟨rule.arity, body⟩ : PresenceRule).answer? record field args = some false
  /-- So does a value rule, and it leaves the cache of patterns as it is. -/
  refusedValue : ∀ name rule, registry.values.find? name = some rule → ∀ arity,
    rule.arity? = some arity → ∀ record value args, arity.accepts args.length = false →
      (∀ patterns body, (ValueRule.predicate arity body).answer? patterns record value args =
        some false) ∧
      ∀ compile evict cache,
        (rule.run compile evict record value args).run cache = (false, cache)
  /-- The list of companions and expected texts is used up to its end. -/
  requiredIf : ∀ rule, registry.presence.find? "required_if" = some rule → ∀ args,
    rule.arity.accepts args.length = true →
      ((Presence.pairs args).flatMap fun pair => [pair.1, pair.2]) = args ∧
        ∀ record field, rule.holds record field args =
          (!(Presence.pairs args).all (Presence.agrees record) || Presence.required record field)

/-- No rule string makes a built-in rule ask for an argument that is not there. -/
theorem careful_builtIn : builtIn.Careful where
  presence name rule found :=
    PresenceRule.answer?_of_guards
      (Presence.guards_of_mem_builtIn (Table.mem_of_find?_eq_some found))
  values name rule found :=
    (guarded_of_mem_builtInValues (Table.mem_of_find?_eq_some found)).answer?_eq
  exact name n body found := by
    have guards := guarded_of_mem_builtInValues (Table.mem_of_find?_eq_some found)
    exact Guards.isSome_exact guards
  refusedPresence name rule _ record field args refused body := by
    rw [PresenceRule.answer?, guarded?, refused]
    rfl
  refusedValue name rule _ arity hasArity record value args refused := by
    refine ⟨fun patterns body => ?_, fun compile evict cache => ?_⟩
    · rw [ValueRule.answer?, guarded?, refused]
      rfl
    · exact ValueRule.run_of_refused hasArity refused compile evict record value cache
  requiredIf rule found args accepted := by
    cases found
    have even : args.length % 2 = 0 := beq_iff_eq.mp (Bool.and_eq_true_iff.mp accepted).2
    refine ⟨Presence.flatMap_pairs_eq_iff.mpr even, fun record field => ?_⟩
    rw [PresenceRule.holds, accepted, Bool.true_and]
    simp only [Presence.requiredIf, Option.some_beq_some, beq_true]
    split <;> simp [*]

end Registry

end Rulebook
