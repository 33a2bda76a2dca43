import Rulebook.Proofs.Number.Whole
import Rulebook.Registry

/-!
# Bounds on sizes

Two bounds at once are a bound from below and one from above, whatever the size of a value is
measured by.  A size that is a number has to be met exactly if it is the bound on both sides; the
size of a text is another one, since bounds compare texts and the exact size counts characters.
Files are measured in whole kilobytes, and a bound in digits is exact to the byte.
-/

namespace Rulebook.Size

/-! ## Tests together -/

section

variable {onText onText' : String → Bool} {onNumber onNumber' : Number → Bool}

/-- A list of files passes if each of its files does and there is one. -/
theorem check_files {files : List File} :
    check onText onNumber (.files files) = true ↔
      files ≠ [] ∧ ∀ file ∈ files, check onText onNumber (.file file) = true := by
  rw [check, Bool.and_eq_true, Bool.not_eq_true', List.isEmpty_eq_false_iff, List.all_eq_true]
  rfl

/-- Passing two tests is passing both, also for each file of a list. -/
theorem check_and (value : Value) :
    check (fun s => onText s && onText' s) (fun n => onNumber n && onNumber' n) value =
      (check onText onNumber value && check onText' onNumber' value) := by
  cases value with
  | files files =>
      rw [Bool.eq_iff_iff, Bool.and_eq_true, check_files, check_files, check_files]
      simp only [check, Bool.and_eq_true]
      constructor
      · rintro ⟨some, both⟩
        exact ⟨⟨some, fun file isMember => (both file isMember).1⟩,
          some, fun file isMember => (both file isMember).2⟩
      · rintro ⟨⟨some, first⟩, -, second⟩
        exact ⟨some, fun file isMember => ⟨first file isMember, second file isMember⟩⟩
  | _ => rfl

/-- Values whose size is a number. -/
def IsMeasured (value : Value) : Prop :=
  value.kind ∈ [.number, .file, .files]

/-- The test on text is for text only. -/
theorem check_congr_text {value : Value} (measured : IsMeasured value) :
    check onText onNumber value = check onText' onNumber value := by
  cases value with
  | string s => simp [IsMeasured, Value.kind] at measured
  | _ => rfl

end

theorem between_eq (value : Value) (least most : String) :
    between value least most = (min value least && max value most) :=
  check_and value

theorem size_eq_between {value : Value} (measured : IsMeasured value) (expected : String) :
    size value expected = between value expected expected := by
  unfold size between
  simp only [Number.eq_eq_le_and_le _ (bound expected)]
  exact check_congr_text measured

/-- Two bounds together are the lower one and the upper one, and a number as its own lower and
upper bound is met by that size alone. -/
theorem bounds_agree :
    ∃ within least most sized,
      Registry.builtIn.values.find? "between" = some within ∧
      Registry.builtIn.values.find? "min" = some least ∧
      Registry.builtIn.values.find? "max" = some most ∧
      Registry.builtIn.values.find? "size" = some sized ∧
      ∀ (patterns : PatternSource) (record : Record) (value : Value) (a b : String),
        (within.holds patterns record value [a, b] = true ↔
          least.holds patterns record value [a] = true ∧
            most.holds patterns record value [b] = true) ∧
        (IsMeasured value → (sized.holds patterns record value [a] = true ↔
          within.holds patterns record value [a, a] = true)) := by
  refine ⟨withTwo between, withOne min, withOne max, withOne size, rfl, rfl, rfl, rfl,
    fun patterns record value a b => ⟨?_, fun measured => ?_⟩⟩
  · rw [holds_withTwo, holds_withOne, holds_withOne, between_eq, Bool.and_eq_true]
  · rw [holds_withTwo, holds_withOne, size_eq_between measured]

/-- Two files of two kilobytes each, the second almost of three.  No file is as large as a bound
that is no number, or less. -/
theorem bounds_agree_files :
    let files : Value := .files [⟨"a.png", 2048⟩, ⟨"b.png", 3071⟩]
    let source : PatternSource := fun _ => none
    IsMeasured files ∧ ∃ within least most sized,
      Registry.builtIn.values.find? "between" = some within ∧
      Registry.builtIn.values.find? "min" = some least ∧
      Registry.builtIn.values.find? "max" = some most ∧
      Registry.builtIn.values.find? "size" = some sized ∧
      sized.holds source [] files [" 2 "] = true ∧ least.holds source [] files [" 2 "] = true ∧
      most.holds source [] files [" 2 "] = true ∧ sized.holds source [] files ["two"] = false ∧
      within.holds source [] files ["two", "two"] = false := by
  intro files source
  have measured : IsMeasured files := by simp [files, IsMeasured, Value.kind]
  obtain ⟨within, least, most, sized, foundWithin, foundLeast, foundMost, foundSized, agree⟩ :=
    bounds_agree
  obtain ⟨parts, twoOnly⟩ := agree source [] files " 2 " " 2 "
  have passes : sized.holds source [] files [" 2 "] = true := by
    cases foundSized
    decide +kernel
  obtain ⟨notLess, notMore⟩ := parts.mp ((twoOnly measured).mp passes)
  have fails : sized.holds source [] files ["two"] = false := by
    cases foundSized
    decide +kernel
  have failsWithin : within.holds source [] files ["two", "two"] = false := by
    rw [← Bool.not_eq_true, ← (agree source [] files "two" "two").2 measured, fails]
    exact Bool.false_ne_true
  exact ⟨measured, within, least, most, sized, foundWithin, foundLeast, foundMost, foundSized,
    passes, notLess, notMore, fails, failsWithin⟩

example : size (.string "abc") "3" = true ∧ between (.string "abc") "3" "3" = false := by
  decide +kernel

/-! ## Bytes -/

theorem kilobytes_le {file : File} (small : file.size < 2 ^ 63) : file.kilobytes ≤ 2 ^ 53 := by
  unfold File.kilobytes
  omega

section

variable {file : File} {k : Nat} {bound : String} (small : file.size < 2 ^ 63)
  (inRange : k ≤ 2 ^ 53) (digits : DigitsOf k bound.toList)

include small inRange digits

/-- A file is not above a bound as long as the kilobyte after it is not full. -/
theorem max_file_iff : max (.file file) bound = true ↔ file.size < (k + 1) * 1024 := by
  change (ofFile file).le (.ofArgument bound.toList) = true ↔ _
  rw [digits.ofArgument, ofFile, Number.le_ofNat_iff (kilobytes_le small) inRange, File.kilobytes]
  omega

theorem min_file_iff : min (.file file) bound = true ↔ k * 1024 ≤ file.size := by
  change (Number.ofArgument bound.toList).le (ofFile file) = true ↔ _
  rw [digits.ofArgument, ofFile, Number.le_ofNat_iff inRange (kilobytes_le small), File.kilobytes]
  omega

theorem size_file_iff :
    size (.file file) bound = true ↔ k * 1024 ≤ file.size ∧ file.size < (k + 1) * 1024 := by
  have measured : IsMeasured (.file file) := by simp [IsMeasured, Value.kind]
  rw [size_eq_between measured, between_eq, Bool.and_eq_true, min_file_iff small inRange digits,
    max_file_iff small inRange digits]

end

/-- Bounds in digits are exact to the byte. -/
theorem bounds_exact_in_bytes :
    ∃ least most sized,
      Registry.builtIn.values.find? "min" = some least ∧
      Registry.builtIn.values.find? "max" = some most ∧
      Registry.builtIn.values.find? "size" = some sized ∧
      ∀ (patterns : PatternSource) (record : Record) (file : File) (k : Nat) (bound : String),
        file.size < 2 ^ 63 → k ≤ 2 ^ 53 → DigitsOf k bound.toList →
          (most.holds patterns record (.file file) [bound] = true ↔ file.size < (k + 1) * 1024) ∧
          (least.holds patterns record (.file file) [bound] = true ↔ k * 1024 ≤ file.size) ∧
          (sized.holds patterns record (.file file) [bound] = true ↔
            k * 1024 ≤ file.size ∧ file.size < (k + 1) * 1024) := by
  refine ⟨withOne min, withOne max, withOne size, rfl, rfl, rfl,
    fun patterns record file k bound small inRange digits => ?_⟩
  rw [holds_withOne, holds_withOne, holds_withOne]
  exact ⟨max_file_iff small inRange digits, min_file_iff small inRange digits,
    size_file_iff small inRange digits⟩

/-- The largest file, one byte short of the largest bound. -/
theorem bounds_exact_in_bytes_largest :
    let file : File := ⟨"disk.img", 2 ^ 63 - 1⟩
    let source : PatternSource := fun _ => none
    file.size < 2 ^ 63 ∧ DigitsOf (2 ^ 53) "9007199254740992".toList ∧ ∃ least most,
      Registry.builtIn.values.find? "min" = some least ∧
      Registry.builtIn.values.find? "max" = some most ∧
      least.holds source [] (.file file) ["9007199254740992"] = false ∧
      most.holds source [] (.file file) ["9007199254740992"] = true := by
  intro file source
  have small : file.size < 2 ^ 63 := by decide
  have digits : DigitsOf (2 ^ 53) "9007199254740992".toList := by
    have written : "9007199254740992".toList = decimalDigits (2 ^ 53) := by decide +kernel
    rw [written]
    exact digitsOf_decimalDigits (2 ^ 53)
  obtain ⟨least, most, _, foundLeast, foundMost, -, inBytes⟩ := bounds_exact_in_bytes
  obtain ⟨fromAbove, fromBelow, -⟩ :=
    inBytes source [] file (2 ^ 53) "9007199254740992" small (Nat.le_refl _) digits
  refine ⟨small, digits, least, most, foundLeast, foundMost, ?_, fromAbove.mpr (by decide)⟩
  rw [← Bool.not_eq_true, fromBelow]
  decide

end Rulebook.Size
