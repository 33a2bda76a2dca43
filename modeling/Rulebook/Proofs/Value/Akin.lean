import Rulebook.Rule.Files
import Rulebook.Rule.Kinds
import Rulebook.Rule.Size
import Rulebook.Value.Equality

/-!
# Akin values

A rule that does not compare a value with another one looks at its kind, at its
text, at the place that a number has in the order of numbers, and at files.  Akin
values are the same in all of that.  They differ at most in the sign of a zero, in
items that have the same texts, and in what an object holds.
-/

namespace Rulebook

/-! ## Numbers at the same place -/

namespace Number

/-- Only the zeros share a place in the order of numbers, and `nan` has none. -/
theorem eq_or_zeros_of_key?_eq {a b : Number} (sameKey : a.key? = b.key?) :
    a = b ∨ ∃ s t, a = signed s .zero ∧ b = signed t .zero := by
  have ofRanks : ∀ {m n : Magnitude}, m.rank = 0 → n.rank = 0 → m = .zero ∧ n = .zero :=
    fun first second => ⟨Magnitude.ext_rank first, Magnitude.ext_rank second⟩
  rcases a with _ | ⟨_ | _, m⟩ <;> rcases b with _ | ⟨_ | _, n⟩ <;>
    simp only [key?, reduceCtorEq, Option.some.injEq] at sameKey
  · exact .inl rfl
  · exact .inl (congrArg _ (Magnitude.ext_rank (by omega)))
  · obtain ⟨rfl, rfl⟩ := @ofRanks m n (by omega) (by omega)
    exact .inr ⟨false, true, rfl, rfl⟩
  · obtain ⟨rfl, rfl⟩ := @ofRanks m n (by omega) (by omega)
    exact .inr ⟨true, false, rfl, rfl⟩
  · exact .inl (congrArg _ (Magnitude.ext_rank (by omega)))

/-- A property of numbers that does not tell the zeros apart. -/
theorem congr_of_key?_eq {α : Type} {f : Number → α}
    (zeros : ∀ s t, f (signed s .zero) = f (signed t .zero)) {a b : Number}
    (sameKey : a.key? = b.key?) : f a = f b := by
  rcases eq_or_zeros_of_key?_eq sameKey with rfl | ⟨s, t, rfl, rfl⟩
  · rfl
  · exact zeros s t

variable {a b : Number} (sameKey : a.key? = b.key?)

include sameKey

theorem text_congr : a.text = b.text :=
  congr_of_key?_eq (fun s t => by cases s <;> cases t <;> rfl) sameKey

theorem isFinite_congr : a.isFinite = b.isFinite :=
  congr_of_key?_eq (fun _ _ => rfl) sameKey

theorem isWhole_congr : a.isWhole = b.isWhole :=
  congr_of_key?_eq (fun _ _ => rfl) sameKey

theorem isNaN_congr : a.isNaN = b.isNaN :=
  congr_of_key?_eq (fun _ _ => rfl) sameKey

theorem eq_congr_left (c : Number) : a.eq c = b.eq c := by
  rw [eq, eq, sameKey]

theorem eq_congr_right (c : Number) : c.eq a = c.eq b := by
  rw [eq, eq, sameKey]

theorem le_congr_left (c : Number) : a.le c = b.le c := by
  rw [le, le, sameKey]

theorem le_congr_right (c : Number) : c.le a = c.le b := by
  rw [le, le, sameKey]

theorem isZero_congr : a.isZero = b.isZero :=
  eq_congr_left sameKey zero

end Number

/-! ## Values -/

namespace Value

/-- Values that look the same from outside. -/
inductive Akin : Value → Value → Prop
  | refl (value : Value) : Akin value value
  | number {a b : Number} (sameKey : a.key? = b.key?) : Akin (.number a) (.number b)
  | array {as bs : List Value} (sameTexts : itemTexts as = itemTexts bs) :
      Akin (.array as) (.array bs)
  | object (as bs : Record) : Akin (.object as) (.object bs)

namespace Akin

variable {a b : Value} (akin : Akin a b)

include akin

theorem kind_eq : a.kind = b.kind := by
  cases akin <;> rfl

theorem text?_eq : a.text? = b.text? := by
  cases akin <;> rfl

theorem stringify_eq : a.stringify = b.stringify := by
  cases akin with
  | refl => rfl
  | number sameKey => exact Number.text_congr sameKey
  | array sameTexts => rw [stringify, stringify, sameTexts]
  | object => rfl

theorem isTruthy_eq : a.isTruthy = b.isTruthy := by
  cases akin with
  | number sameKey =>
      rw [isTruthy, isTruthy, Number.isZero_congr sameKey, Number.isNaN_congr sameKey]
  | _ => rfl

theorem any_number?_eq {test : Number → Bool}
    (congruent : ∀ {m n : Number}, m.key? = n.key? → test m = test n) :
    a.number?.any test = b.number?.any test := by
  cases akin with
  | number sameKey => exact congruent sameKey
  | _ => rfl

theorem haveExtensions_eq (extensions : List String) :
    Files.haveExtensions a extensions = Files.haveExtensions b extensions := by
  cases akin <;> rfl

theorem check_eq {onNumber : Number → Bool}
    (congruent : ∀ {m n : Number}, m.key? = n.key? → onNumber m = onNumber n)
    (onText : String → Bool) : Size.check onText onNumber a = Size.check onText onNumber b := by
  cases akin with
  | number sameKey => exact congruent sameKey
  | _ => rfl

/-- The text of a rule argument is equal to both or to neither. -/
theorem looseEqText_eq (text : String) : a.looseEqText text = b.looseEqText text := by
  cases akin with
  | refl => rfl
  | number sameKey => exact Number.eq_congr_right sameKey _
  | array sameTexts => simp only [looseEqText, looseEq, stringify, sameTexts]
  | object => rfl

end Akin

end Value

end Rulebook
