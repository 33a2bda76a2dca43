import Rulebook.Proofs.RuleString.Naming
import Rulebook.Validator
import Mathlib.Data.List.Chain

/-!
# Patterns in rule strings

The rule `regex` joins its arguments again by the commas that they were cut at, so
that a pattern can be written as it is.  What the commas cost is not all made up
for: the arguments were trimmed, and the blanks beside a comma are not part of the
pattern any more.  A pattern comes through whole exactly if it has none.
-/

namespace Rulebook

open Text Call

/-! ## Blanks beside commas -/

/-- No blank stands next to a comma. -/
def TightCommas (s : List Char) : Prop :=
  s.IsChain fun a b => ¬(isBlank a = true ∧ b = ',') ∧ ¬(a = ',' ∧ isBlank b = true)

instance : DecidablePred TightCommas := fun _ => inferInstanceAs (Decidable (List.IsChain _ _))

theorem tightCommas_of_not_mem {s : List Char} (absent : ',' ∉ s) : TightCommas s := by
  induction s with
  | nil => exact .nil
  | cons c s ih =>
      rw [List.mem_cons, not_or] at absent
      refine List.isChain_cons.mpr ⟨fun d first => ⟨?_, ?_⟩, ih absent.2⟩
      · rintro ⟨_, rfl⟩
        exact absent.2 (List.mem_of_mem_head? first)
      · rintro ⟨rfl, _⟩
        exact absent.1 rfl

/-- A comma between two texts needs tight ends on both sides. -/
theorem tightCommas_append_cons {s t : List Char} (absent : ',' ∉ s) :
    TightCommas (s ++ ',' :: t) ↔
      (∀ c ∈ s.getLast?, isBlank c = false) ∧ (∀ c ∈ t.head?, isBlank c = false) ∧
        TightCommas t := by
  have commaShown : isBlank ',' = false := by decide
  unfold TightCommas
  rw [List.isChain_append, List.isChain_cons]
  constructor
  · rintro ⟨_, ⟨after, rest⟩, before⟩
    refine ⟨fun c last => ?_, fun c first => ?_, rest⟩
    · simpa using (before c last ',' rfl).1
    · simpa using (after c first).2
  · rintro ⟨before, after, rest⟩
    refine ⟨tightCommas_of_not_mem absent, ⟨fun c first => ?_, rest⟩, fun c last d first => ?_⟩
    · simp [after c first, commaShown]
    · obtain rfl : ',' = d := by simpa using first
      simp [before c last, commaShown]

theorem unpadded_append_cons {s t : List Char} :
    Unpadded (s ++ ',' :: t) ↔
      (∀ c ∈ s.head?, isBlank c = false) ∧ ∀ c ∈ t.getLast?, isBlank c = false := by
  have commaShown : isBlank ',' = false := by decide
  unfold Unpadded
  apply and_congr
  · cases s <;> simp [commaShown]
  · rw [List.getLast?_append, List.getLast?_cons]
    cases t.getLast? <;> simp [commaShown]

/-- The texts between commas are trimmed exactly if the whole is and no blank
stands beside a comma. -/
theorem forall_unpadded_iff {texts : List (List Char)} (nonempty : texts ≠ [])
    (absent : ∀ text ∈ texts, ',' ∉ text) :
    (∀ text ∈ texts, Unpadded text) ↔
      Unpadded ([','].intercalate texts) ∧ TightCommas ([','].intercalate texts) := by
  induction texts with
  | nil => contradiction
  | cons text texts ih =>
      rw [List.forall_mem_cons] at absent
      by_cases single : texts = []
      · subst single
        simp [tightCommas_of_not_mem absent.1]
      · have joinedEq : [','].intercalate (text :: texts) =
            text ++ ',' :: [','].intercalate texts := by
          rw [List.intercalate_cons_of_ne_nil single, List.append_assoc]
          rfl
        rw [joinedEq, unpadded_append_cons, tightCommas_append_cons absent.1, List.forall_mem_cons,
          ih single absent.2]
        unfold Unpadded
        -- Both sides ask for the same four ends and the same tight rest.
        tauto

/-! ## Patterns as arguments -/

/-- Where no mark is escaped, splitting is splitting at the marks. -/
theorem pieces_eq_splitOn {mark : Char} (notBackslash : mark ≠ '\\') {s : List Char}
    (free : ¬['\\', mark] <:+: s) : pieces mark s = s.splitOn mark := by
  induction s with
  | nil => simp
  | cons c s ih =>
      rw [List.infix_cons_iff, not_or] at free
      have freeHere : c = '\\' → s.head? ≠ some mark := by
        rintro rfl first
        obtain ⟨t, rfl⟩ := List.head?_eq_some_iff.mp first
        exact free.1 ⟨t, rfl⟩
      rw [splitOn_cons, ← ih free.2]
      split
      · next isMark => rw [isMark, pieces_mark notBackslash]
      · next differs => exact pieces_cons differs freeHere

/-- The arguments that a pattern is cut into at its commas. -/
def patternArgs (pattern : String) : List String :=
  (pattern.toList.splitOn ',').map fun text => String.ofList (trimChars text)

/-- Joined again, the arguments are the pattern exactly if trimming took nothing. -/
theorem patternOf_patternArgs_eq_iff {pattern : String} (unpadded : Unpadded pattern.toList) :
    ValueRule.patternOf (patternArgs pattern) = pattern ↔ TightCommas pattern.toList := by
  have texts_ne_nil : pattern.toList.splitOn ',' ≠ [] := List.splitOn_ne_nil ',' pattern.toList
  have joined : [','].intercalate (pattern.toList.splitOn ',') = pattern.toList :=
    List.intercalate_splitOn ','
  have argsEq : (ValueRule.patternOf (patternArgs pattern)).toList =
      [','].intercalate ((pattern.toList.splitOn ',').map trimChars) := by
    rw [ValueRule.patternOf, patternArgs, String.toList_intercalate, List.map_map]
    simp [Function.comp_def]
  calc
    ValueRule.patternOf (patternArgs pattern) = pattern ↔
        [','].intercalate ((pattern.toList.splitOn ',').map trimChars) =
          [','].intercalate (pattern.toList.splitOn ',') := by
      rw [← String.toList_inj, argsEq, joined]
    _ ↔ ∀ text ∈ pattern.toList.splitOn ',', Unpadded text := by
      rw [intercalate_map_eq_iff trimChars_sublist]
      simp only [trimChars_eq_self_iff]
    _ ↔ TightCommas pattern.toList := by
      rw [forall_unpadded_iff texts_ne_nil fun text isText => not_mem_of_mem_splitOn isText, joined]
      simp [unpadded]

/-- A pattern without anything in it that a rule string would read as more than
an argument or a comma. -/
structure IsPlainPattern (pattern : String) : Prop where
  nonempty : pattern ≠ ""
  unpadded : Unpadded pattern.toList
  noBar : '|' ∉ pattern.toList
  noEscapedColon : ¬['\\', ':'] <:+: pattern.toList
  noEscapedComma : ¬['\\', ','] <:+: pattern.toList

theorem isName_regex : IsName "regex" :=
  ⟨by decide, by decide, by simp [Registry.separators]⟩

/-- Commas are all that is read as more than a character. -/
theorem IsPlainPattern.parse_eq {pattern : String} (plain : IsPlainPattern pattern) :
    parse ("regex:" ++ pattern) = [⟨"regex", patternArgs pattern⟩] := by
  have nonempty : pattern.toList ≠ [] := by
    rw [ne_eq, String.toList_eq_nil_iff]
    exact plain.nonempty
  have fieldsEq : fields ',' (unescape ':' pattern.toList) = pattern.toList.splitOn ',' := by
    rw [(unescape_eq_self_iff (by decide)).mpr plain.noEscapedColon, fields_eq,
      if_neg (by simpa using nonempty), pieces_eq_splitOn (by decide) plain.noEscapedComma]
  have prefixEq : "regex:" = "regex" ++ ":" := by decide
  have closed : "regex".toList.getLast? ≠ some '\\' := by decide
  rw [prefixEq, isName_regex.parse_append_colon closed plain.noBar, fieldsEq]
  rfl

/-- A rule whose arguments are a pattern asks for the expression of the pattern
that they spell. -/
theorem Judge.passes_argumentPattern {judge : Judge} {record : Record} {field : String}
    {value : Value} {call : Call} {pattern : String}
    (noPresence : judge.registry.presence.find? call.name = none)
    (found : judge.registry.values.find? call.name = some .argumentPattern)
    (present : record.find? field = some value) (nonempty : call.args ≠ [])
    (spelled : ValueRule.patternOf call.args = pattern) :
    judge.passes record field call =
      (judge.patterns pattern).any fun regex => regex.isMatch value.stringify := by
  subst spelled
  have counted : Arity.accepts (.atLeast 1) call.args.length = true := by
    simpa [Arity.accepts, Nat.one_le_iff_ne_zero] using nonempty
  unfold passes
  simp only [noPresence, found, present, ValueRule.holds, counted, Bool.true_and]
  cases judge.patterns (ValueRule.patternOf call.args) <;> rfl

/-- The rule `regex` is such a rule. -/
theorem Judge.passes_regex (config : Config) (patterns : PatternSource) {record : Record}
    {field : String} {value : Value} (present : record.find? field = some value)
    {args : List String} (nonempty : args ≠ []) {pattern : String}
    (spelled : ValueRule.patternOf args = pattern) :
    Judge.passes ⟨.builtIn, config, patterns⟩ record field ⟨"regex", args⟩ =
      (patterns pattern).any fun regex => regex.isMatch value.stringify := by
  have noPresence : Registry.builtIn.presence.find? "regex" = none := rfl
  have found : Registry.builtIn.values.find? "regex" = some .argumentPattern := rfl
  exact Judge.passes_argumentPattern noPresence found present nonempty spelled

/-- A plain pattern after `regex:` makes one call, the arguments of which spell the
pattern exactly if no blank stands beside a comma of it.  Then the rule asks for
the expression of the pattern as it was written. -/
theorem IsPlainPattern.parse_regex {pattern : String} (plain : IsPlainPattern pattern) :
    parse ("regex:" ++ pattern) = [⟨"regex", patternArgs pattern⟩] ∧
      (ValueRule.patternOf (patternArgs pattern) = pattern ↔ TightCommas pattern.toList) ∧
      (TightCommas pattern.toList →
        ∀ (config : Config) (patterns : PatternSource) (record : Record) (field : String)
          (value : Value), record.find? field = some value →
            Judge.passes ⟨.builtIn, config, patterns⟩ record field ⟨"regex", patternArgs pattern⟩ =
              (patterns pattern).any fun regex => regex.isMatch value.stringify) := by
  have spelled := patternOf_patternArgs_eq_iff plain.unpadded
  refine ⟨plain.parse_eq, spelled, ?_⟩
  intro tight config patterns record field value present
  have args_ne_nil : patternArgs pattern ≠ [] := by
    simp [patternArgs]
  exact Judge.passes_regex config patterns present args_ne_nil (spelled.mpr tight)

/-- A pattern with a comma and a backslash comes through. -/
theorem IsPlainPattern.parse_regex_repetition :
    IsPlainPattern "^\\d\x7b1,3\x7d$" ∧ TightCommas "^\\d\x7b1,3\x7d$".toList ∧
      parse ("regex:" ++ "^\\d\x7b1,3\x7d$") =
        [⟨"regex", patternArgs "^\\d\x7b1,3\x7d$"⟩] ∧
      ValueRule.patternOf (patternArgs "^\\d\x7b1,3\x7d$") = "^\\d\x7b1,3\x7d$" ∧
      let patterns := PatternCache.compile? Regex.compile?
      Judge.passes ⟨.builtIn, .default, patterns⟩ [("code", .string "42")] "code"
          ⟨"regex", patternArgs "^\\d\x7b1,3\x7d$"⟩ =
        (patterns "^\\d\x7b1,3\x7d$").any fun regex =>
          regex.isMatch (Value.string "42").stringify := by
  have plain : IsPlainPattern "^\\d\x7b1,3\x7d$" :=
    ⟨by decide, by decide, by decide, (unescape_eq_self_iff (by decide)).mp (by decide),
      (unescape_eq_self_iff (by decide)).mp (by decide)⟩
  have tight : TightCommas "^\\d\x7b1,3\x7d$".toList := by decide
  obtain ⟨parsed, spelled, asked⟩ := plain.parse_regex
  exact ⟨plain, tight, parsed, spelled.mpr tight,
    asked tight .default (PatternCache.compile? Regex.compile?) [("code", .string "42")] "code"
      (.string "42") rfl⟩

/-- A blank after a comma is lost: the rule asks for another pattern than the one
that was written. -/
theorem not_tightCommas_regex :
    IsPlainPattern "a, b" ∧ parse "regex:a, b" = [⟨"regex", ["a", "b"]⟩] ∧
      ValueRule.patternOf ["a", "b"] = "a,b" ∧ "a,b" ≠ "a, b" :=
  ⟨⟨by decide, by decide, by decide, by decide, by decide⟩, by decide, by decide, by decide⟩

end Rulebook
