import Rulebook.Proofs.Wire.Outcome
import Rulebook.Regex.Compile
import Rulebook.Validator

/-!
# Verdicts that are true

The status of an outcome is meant to say whether there are rejects, and what is done with an
outcome goes by the status.  It does say so wherever an outcome is made from its rejects, which
is what every validation does.  Only an outcome that is read from a text has the status that the
text names, and so may be a success over rejects or a failure without any.
-/

namespace Rulebook

namespace Outcome

/-- The status says whether there are rejects, and the error that an outcome is turned into
holds just those. -/
structure IsTruthful (outcome : Outcome) : Prop where
  status : outcome.status = .success ↔ outcome.rejects = []
  toExcept :
    outcome.toExcept = if outcome.rejects = [] then .ok () else .error ⟨outcome.rejects⟩

theorem toExcept_eq (outcome : Outcome) :
    outcome.toExcept = if outcome.status = .success then .ok () else .error ⟨outcome.rejects⟩ := by
  simp only [toExcept, isSuccess, beq_iff_eq]

/-- What an outcome is turned into goes by its status, so it is right if the status is. -/
theorem isTruthful_iff {outcome : Outcome} :
    outcome.IsTruthful ↔ (outcome.status = .success ↔ outcome.rejects = []) := by
  constructor
  · exact IsTruthful.status
  · intro status
    refine ⟨status, ?_⟩
    rw [toExcept_eq]
    simp only [status]

theorem isTruthful_ofRejects (rejects : List Reject) : (ofRejects rejects).IsTruthful :=
  isTruthful_iff.mpr status_ofRejects_eq_success_iff

/-- An outcome that is not truthful hides its rejects, or is an error that holds none. -/
theorem not_isTruthful_iff {outcome : Outcome} :
    ¬outcome.IsTruthful ↔
      (outcome.rejects ≠ [] ∧ outcome.toExcept = .ok ()) ∨
        (outcome.rejects = [] ∧ outcome.toExcept = .error ⟨[]⟩) := by
  rw [isTruthful_iff, toExcept_eq]
  obtain ⟨status, rejects⟩ := outcome
  cases status with
  | success => simp
  | failed =>
      cases rejects with
      | nil => simp
      | cons reject rejects => simp

end Outcome

/-! ## Where outcomes come from -/

namespace Wire

/-- Documents that are read one by one are as many as they were. -/
theorem list?_eq_some_nil_iff {α : Type} {read? : Json → Option α} {json : Json} :
    list? read? json = some [] ↔ json = .array [] := by
  cases json with
  | array items =>
      cases items with
      | nil => simp [list?]
      | cons item items => simp [list?, List.mapM_cons, Option.bind_eq_some_iff]
  | _ => simp [list?]

end Wire

namespace Validator

variable (compile : PatternSource) (reason : String → String) (validator : Validator)

theorem isTruthful_validateWith (patterns : PatternSource) (record : Record) (rules : RuleSet) :
    (validator.validateWith patterns record rules).IsTruthful :=
  Outcome.isTruthful_ofRejects _

theorem isTruthful_validateJson (json : Json) (rules : RuleSet) :
    (validator.validateJson compile json rules).IsTruthful := by
  rw [validateJson]
  split
  · exact validator.isTruthful_validateWith _ _ rules
  · exact Outcome.isTruthful_ofRejects _

theorem isTruthful_validateText (text : String) (rules : RuleSet) :
    (validator.validateText compile reason text rules).IsTruthful := by
  rw [validateText]
  cases Record.ofText? reason text with
  | ok record => exact validator.isTruthful_validateWith _ record rules
  | error e => exact Outcome.isTruthful_ofRejects _

variable {compile reason validator}

theorem isTruthful_validateRulesText {record : Record} {text : String} {outcome : Outcome}
    (validated : validator.validateRulesText compile reason record text = .ok outcome) :
    outcome.IsTruthful := by
  rw [validateRulesText] at validated
  split at validated
  · rw [← Except.ok.inj validated]
    exact validator.isTruthful_validateWith _ record _
  · cases validated

end Validator

namespace Outcome

/-- The status that a document names is a success just if the list of rejects in it is empty. -/
def NamesItsStatus (document : Json) : Prop :=
  ∀ fields, Wire.fields? ["status", "rejects"] document = some fields →
    ((fields.find? "status").bind Status.ofJson? = some .success ↔
      fields.find? "rejects" = some (.array []))

/-- An outcome is read with the status that is named and the rejects that are listed. -/
theorem isTruthful_iff_namesItsStatus {document : Json} {outcome : Outcome}
    (read : ofJson? document = some outcome) :
    outcome.IsTruthful ↔ NamesItsStatus document := by
  simp only [ofJson?, Option.bind_eq_bind, Option.bind_eq_some_iff, Wire.required?, Option.pure_def,
    Option.some.injEq] at read
  obtain ⟨fields, isFields, status, named, rejects, ⟨list, found, listed⟩, rfl⟩ := read
  have names : (fields.find? "status").bind Status.ofJson? = some .success ↔
      status = .success := by
    rw [Option.bind_eq_some_iff.mpr named, Option.some.injEq]
  have lists : fields.find? "rejects" = some (.array []) ↔ rejects = [] := by
    rw [found, Option.some.injEq, ← Wire.list?_eq_some_nil_iff, listed, Option.some.injEq]
  rw [isTruthful_iff, NamesItsStatus]
  simp [isFields, names, lists]

/-- Every outcome that is made from rejects is truthful, and so is that of every validation.  An
outcome that is read from a text is truthful just if the status that is named there is that of
the rejects that are listed there; otherwise it passes with its rejects, or is an error that
holds none.  There are texts for each status over any rejects. -/
theorem truthful_unless_read (compile : PatternSource) (reason : String → String)
    (validator : Validator) (record : Record) (rules : RuleSet) (rejects : List Reject)
    (json : Json) (text : String) :
    ((ofRejects rejects).IsTruthful ∧ success.IsTruthful ∧ (invalidInput text).IsTruthful) ∧
    ((validator.validate compile record rules).IsTruthful ∧
      (validator.validateJson compile json rules).IsTruthful ∧
      (validator.validateText compile reason text rules).IsTruthful ∧
      ∀ outcome, validator.validateRulesText compile reason record text = .ok outcome →
        outcome.IsTruthful) ∧
    (∀ outcome, ofText? text = some outcome →
      (∃ document, Json.parse? text = some document ∧
        (outcome.IsTruthful ↔ NamesItsStatus document)) ∧
      (¬outcome.IsTruthful ↔
        (outcome.rejects ≠ [] ∧ outcome.toExcept = .ok ()) ∨
          (outcome.rejects = [] ∧ outcome.toExcept = .error ⟨[]⟩))) ∧
    ∀ status, ∃ written, ofText? written = some ⟨status, rejects⟩ := by
  refine ⟨⟨?_, ?_, ?_⟩, ⟨?_, ?_, ?_, ?_⟩, fun outcome read => ⟨?_, not_isTruthful_iff⟩, ?_⟩
  · exact isTruthful_ofRejects rejects
  · exact isTruthful_ofRejects []
  · exact isTruthful_ofRejects _
  · exact validator.isTruthful_validateWith _ record rules
  · exact validator.isTruthful_validateJson compile json rules
  · exact validator.isTruthful_validateText compile reason text rules
  · exact fun outcome => Validator.isTruthful_validateRulesText
  · obtain ⟨document, parsed, isRead⟩ := Option.bind_eq_some_iff.mp read
    exact ⟨document, parsed, isTruthful_iff_namesItsStatus isRead⟩
  · exact fun status => ⟨_, ofText?_render ⟨status, rejects⟩⟩

/-- A rule set in a text, and a text that names a success over a reject. -/
theorem truthful_unless_read_required :
    let missing : Outcome := ⟨.failed, [⟨"", "age", "required", [], none⟩]⟩
    let passing : Outcome := { missing with status := .success }
    let rules : String := "\x7b\"age\":\"required\"\x7d"
    let reason := fun _ : String => "cut off"
    Validator.new.validateRulesText Regex.compile? reason [] rules = .ok missing ∧
      missing.IsTruthful ∧
      ofText? passing.render = some passing ∧ ¬passing.IsTruthful ∧
      ∃ document, Json.parse? passing.render = some document ∧ ¬NamesItsStatus document := by
  intro missing passing rules reason
  have validated :
      Validator.new.validateRulesText Regex.compile? reason [] rules = .ok missing := by
    decide +kernel
  have read : ofText? passing.render = some passing := ofText?_render passing
  obtain ⟨_, ⟨_, _, _, ofRules⟩, _⟩ :=
    truthful_unless_read Regex.compile? reason .new [] [] [] .null rules
  obtain ⟨_, _, ofRead, _⟩ :=
    truthful_unless_read Regex.compile? reason .new [] [] [] .null passing.render
  obtain ⟨⟨document, parsed, truthfulIff⟩, untruthfulIff⟩ := ofRead passing read
  have untruthful : ¬passing.IsTruthful := untruthfulIff.mpr (.inl ⟨by decide, rfl⟩)
  exact ⟨validated, ofRules missing validated, read, untruthful, document, parsed,
    fun names => untruthful (truthfulIff.mpr names)⟩

/-- The text of a success with a reject is read as it is. -/
theorem not_isTruthful_read :
    ∃ outcome, ofText? ("\x7b\"status\":\"success\",\"rejects\":[" ++
        "\x7b\"field\":\"age\",\"rule\":\"required\"\x7d]\x7d") = some outcome ∧
      ¬(outcome.status = .success ↔ outcome.rejects = []) ∧ outcome.toExcept = .ok () :=
  ⟨⟨.success, [⟨"", "age", "required", [], none⟩]⟩, by decide +kernel, by decide, rfl⟩

end Outcome

end Rulebook
