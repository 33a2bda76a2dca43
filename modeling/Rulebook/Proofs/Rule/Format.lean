import Rulebook.Proofs.Regex.Characters
import Rulebook.Registry

/-!
# Characters of fixed formats

The fixed formats are ranges of printable ASCII throughout, so no letter or digit of another
script that looks like one of theirs gets through, and neither does a line break at the end of a
text or inside it.  Only the zone of a network address may hold other characters.
-/

namespace Rulebook.Format

open Regex Format.Ip

/-- The characters that end a line. -/
def lineBreaks : List Char :=
  ['\n', '\x0b', '\x0c', '\r', '\u0085', '\u2028', '\u2029']

/-- A character of ASCII that ends no line. -/
def IsPlainAscii (c : Char) : Prop :=
  c.toNat < 0x80 ∧ c ∉ lineBreaks

instance : DecidablePred IsPlainAscii := fun _ => inferInstanceAs (Decidable (_ ∧ _))

theorem isPlainAscii_of_printable {c : Char}
    (printable : ' '.toNat ≤ c.toNat ∧ c.toNat ≤ '~'.toNat) : IsPlainAscii c := by
  have outside : ∀ d ∈ lineBreaks, ¬(' '.toNat ≤ d.toNat ∧ d.toNat ≤ '~'.toNat) := by
    simp [lineBreaks]
  exact ⟨Nat.lt_of_le_of_lt printable.2 (by decide), fun isBreak => outside c isBreak printable⟩

/-- Whether a rule passes no value whose text has another character. -/
def PassesPlainAscii (rule : ValueRule) : Prop :=
  ∀ (patterns : PatternSource) (record : Record) (value : Value) (args : List String),
    rule.holds patterns record value args = true → ∀ c ∈ value.stringify.toList, IsPlainAscii c

/-! ## Patterns -/

theorem passesPlainAscii_whole {r : Regex} (plain : r.isPlain = true)
    (printable : r.sets.all (·.isWithin ' '.toNat '~'.toNat) = true) :
    PassesPlainAscii (.pattern (whole r)) := by
  intro patterns record value args isMatch c isChar
  exact isPlainAscii_of_printable (within_of_isMatch_whole printable plain isMatch c isChar)

/-! ## Digits -/

theorem isPlainAscii_of_isDigit {c : Char} (isDigit : c.isDigit = true) : IsPlainAscii c := by
  obtain ⟨above, below⟩ := Char.isDigit_iff_toNat.mp isDigit
  exact isPlainAscii_of_printable
    ⟨Nat.le_trans (by decide) above, Nat.le_trans below (by decide)⟩

theorem isPlainAscii_of_digitRun? {value : Value} {count : Nat}
    (run : Size.digitRun? value = some count) : ∀ c ∈ value.stringify.toList, IsPlainAscii c := by
  simp only [Size.digitRun?] at run
  split at run
  · next areDigits =>
      exact fun c isChar => isPlainAscii_of_isDigit (List.all_eq_true.mp areDigits c isChar)
  · cases run

theorem passesPlainAscii_digits : PassesPlainAscii (Size.withOne Size.digits) := by
  intro patterns record value args holds
  obtain ⟨-, answer⟩ := Bool.and_eq_true_iff.mp holds
  obtain ⟨arg, -, passes⟩ := Option.bind_eq_some_iff.mp (beq_iff_eq.mp answer)
  replace passes : Size.digits value arg = true := Option.some.inj passes
  rw [Size.digits] at passes
  split at passes
  · exact isPlainAscii_of_digitRun? (beq_iff_eq.mp passes)
  · cases passes

theorem passesPlainAscii_digitsBetween : PassesPlainAscii (Size.withTwo Size.digitsBetween) := by
  intro patterns record value args holds
  obtain ⟨-, answer⟩ := Bool.and_eq_true_iff.mp holds
  obtain ⟨least, -, rest⟩ := Option.bind_eq_some_iff.mp (beq_iff_eq.mp answer)
  obtain ⟨most, -, passes⟩ := Option.bind_eq_some_iff.mp rest
  replace passes : Size.digitsBetween value least most = true := Option.some.inj passes
  rw [Size.digitsBetween] at passes
  split at passes
  · rw [Option.any_eq_true] at passes
    obtain ⟨count, run, -⟩ := passes
    exact isPlainAscii_of_digitRun? run
  · cases passes

/-! ## Addresses -/

theorem mem_of_mem_takeWhile_append {mark c : Char} {front back : List Char}
    (isTaken : c ∈ (front ++ mark :: back).takeWhile (· != mark)) : c ∈ front := by
  induction front with
  | nil => simp at isTaken
  | cons d front ih =>
      rw [List.cons_append, List.takeWhile_cons] at isTaken
      split at isTaken
      · rcases List.mem_cons.mp isTaken with rfl | further
        · exact List.mem_cons_self
        · exact List.mem_cons_of_mem d (ih further)
      · cases isTaken

/-- What stands in front of the zone of an address is one of the fixed formats. -/
theorem isPlainAscii_of_isIp {value : Value} (isIp : isIp value = true) :
    ∀ c ∈ value.stringify.toList.takeWhile (· != '%'), IsPlainAscii c := by
  intro c isTaken
  rcases Bool.or_eq_true_iff.mp isIp with isShort | isLong
  · exact isPlainAscii_of_printable (within_of_isMatch_whole (by decide) rfl isShort c
      ((List.takeWhile_sublist _).subset isTaken))
  · obtain ⟨address, rest, spells, zone, whole⟩ :=
      (isMatchChars_whole_iff_spells rfl).mp isLong
    have isChar : c ∈ address := by
      rw [whole] at isTaken
      rcases spells_optional.mp zone with rfl | zone
      · rw [List.append_nil] at isTaken
        exact (List.takeWhile_sublist _).subset isTaken
      · obtain ⟨name, -, rfl⟩ := spells_char_seq.mp zone
        exact mem_of_mem_takeWhile_append isTaken
    exact isPlainAscii_of_printable (Spells.within (by decide) spells c isChar)

/-! ## The rules -/

/-- No rule for a fixed format passes a text that only looks like one of the format. -/
theorem formats_plain_ascii :
    (∀ name ∈ ["accepted", "boolean", "alpha", "alpha_dash", "alpha_num", "email", "url",
        "digits", "digits_between"],
      ∃ rule, Registry.builtIn.values.find? name = some rule ∧ PassesPlainAscii rule) ∧
    ∃ ip, Registry.builtIn.values.find? "ip" = some ip ∧
      ∀ (patterns : PatternSource) (record : Record) (value : Value) (args : List String),
        ip.holds patterns record value args = true →
          ∀ c ∈ value.stringify.toList.takeWhile (· != '%'), IsPlainAscii c := by
  simp only [List.forall_mem_cons, List.not_mem_nil, false_imp_iff, implies_true, and_true]
  refine ⟨⟨⟨_, rfl, ?_⟩, ⟨_, rfl, ?_⟩, ⟨_, rfl, ?_⟩, ⟨_, rfl, ?_⟩, ⟨_, rfl, ?_⟩, ⟨_, rfl, ?_⟩,
    ⟨_, rfl, ?_⟩, ⟨_, rfl, ?_⟩, ⟨_, rfl, ?_⟩⟩, _, rfl, fun patterns record value args holds => ?_⟩
  · exact passesPlainAscii_whole rfl (by decide)
  · exact passesPlainAscii_whole rfl (by decide)
  · exact passesPlainAscii_whole rfl (by decide)
  · exact passesPlainAscii_whole rfl (by decide)
  · exact passesPlainAscii_whole rfl (by decide)
  · exact passesPlainAscii_whole rfl (by decide)
  · exact passesPlainAscii_whole rfl (by decide)
  · exact passesPlainAscii_digits
  · exact passesPlainAscii_digitsBetween
  · obtain ⟨-, answer⟩ := Bool.and_eq_true_iff.mp holds
    exact isPlainAscii_of_isIp (Option.some.inj (beq_iff_eq.mp answer))

/-- A word in an array, and an address with a zone that is not ASCII. -/
theorem formats_plain_ascii_zone :
    let word : Value := .array [.string "Alice"]
    let address : Value := .string "fe80::1%caf\u00e9"
    let source : PatternSource := fun _ => none
    "alpha" ∈ ["accepted", "boolean", "alpha", "alpha_dash", "alpha_num", "email", "url",
      "digits", "digits_between"] ∧
    (∃ alpha, Registry.builtIn.values.find? "alpha" = some alpha ∧
      alpha.holds source [] word [] = true ∧ ∀ c ∈ word.stringify.toList, IsPlainAscii c) ∧
    ∃ ip, Registry.builtIn.values.find? "ip" = some ip ∧
      ip.holds source [] address [] = true ∧ (∀ c ∈ "fe80::1".toList, IsPlainAscii c) ∧
      ¬∀ c ∈ address.stringify.toList, IsPlainAscii c := by
  intro word address source
  obtain ⟨formats, ip, foundIp, beforeZone⟩ := formats_plain_ascii
  have listed : "alpha" ∈ ["accepted", "boolean", "alpha", "alpha_dash", "alpha_num", "email",
      "url", "digits", "digits_between"] := by decide
  obtain ⟨alpha, foundAlpha, plain⟩ := formats "alpha" listed
  have passesAlpha : alpha.holds source [] word [] = true := by
    cases foundAlpha
    decide +kernel
  have passesIp : ip.holds source [] address [] = true := by
    cases foundIp
    decide +kernel
  have groups : address.stringify.toList.takeWhile (· != '%') = "fe80::1".toList := by decide
  have plainGroups := beforeZone source [] address [] passesIp
  rw [groups] at plainGroups
  have accent : '\u00e9' ∈ address.stringify.toList := by decide
  exact ⟨listed, ⟨alpha, foundAlpha, passesAlpha, plain source [] word [] passesAlpha⟩, ip,
    foundIp, passesIp, plainGroups, fun allPlain => absurd (allPlain _ accent) (by decide)⟩

example : accepted.isMatch "ye\u017f" = false := by decide +kernel

end Rulebook.Format
