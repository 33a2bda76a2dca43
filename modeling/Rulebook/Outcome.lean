/-!
# Outcomes

An outcome lists the rejects of a validation, in the order in which the rules
were checked, under a status.  Input that is no record at all has an outcome
too, with one reject of the rule `invalid_input`.
-/

namespace Rulebook

/-- A field name at a path of field names; the path is empty at the top. -/
def joinPath (path field : String) : String :=
  if path.isEmpty then field else path ++ "." ++ field

/-- A rule that a field did not pass. -/
structure Reject where
  /-- Where the record is that holds the field. -/
  path : String
  field : String
  rule : String
  args : List String
  /-- A remark on rejects that are not the verdict of a rule. -/
  message : Option String
deriving DecidableEq, Inhabited

namespace Reject

/-- The reject of input that is no record. -/
def invalidInput (message : String) : Reject :=
  ⟨"", "", "invalid_input", [], some message⟩

/-- Where the field is. -/
def fullPath (reject : Reject) : String :=
  joinPath reject.path reject.field

/-- A reject on one line. -/
def describe (reject : Reject) : String :=
  "[" ++ reject.fullPath ++ "] " ++ reject.rule ++
    (if reject.args.isEmpty then "" else ":" ++ ",".intercalate reject.args) ++
    (match reject.message with
      | some message => ": " ++ message
      | none => "")

end Reject

/-- The verdict on a record. -/
inductive Status where
  | success
  | failed
deriving DecidableEq, Inhabited

/-- What a validation found. -/
structure Outcome where
  status : Status
  rejects : List Reject
deriving DecidableEq, Inhabited

/-- A failed outcome as an error. -/
structure Failure where
  rejects : List Reject
deriving DecidableEq, Inhabited

namespace Failure

def message (failure : Failure) : String :=
  "validation failed with " ++ toString failure.rejects.length ++ " reject(s)"

/-- The first reject that was found. -/
def first? (failure : Failure) : Option Reject :=
  failure.rejects.head?

end Failure

namespace Outcome

/-- The outcome with these rejects, a success if there are none. -/
def ofRejects (rejects : List Reject) : Outcome :=
  ⟨if rejects.isEmpty then .success else .failed, rejects⟩

/-- The outcome without rejects. -/
def success : Outcome := ofRejects []

/-- The outcome of input that is no record. -/
def invalidInput (message : String) : Outcome :=
  ofRejects [.invalidInput message]

def isSuccess (outcome : Outcome) : Bool :=
  outcome.status == .success

/-- The first reject that was found. -/
def firstReject? (outcome : Outcome) : Option Reject :=
  outcome.rejects.head?

/-- A failed outcome is an error, and it goes by the status. -/
def toExcept (outcome : Outcome) : Except Failure Unit :=
  if outcome.isSuccess then .ok () else .error ⟨outcome.rejects⟩

@[simp]
theorem rejects_ofRejects (rejects : List Reject) : (ofRejects rejects).rejects = rejects :=
  rfl

@[simp]
theorem status_ofRejects_eq_success_iff {rejects : List Reject} :
    (ofRejects rejects).status = .success ↔ rejects = [] := by
  cases rejects <;> simp [ofRejects]

end Outcome

end Rulebook
