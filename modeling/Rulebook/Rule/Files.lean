import Rulebook.Rule.Basic

/-!
# File rules

A file, or a string taken as the name of one, is judged by its extension.
-/

namespace Rulebook.Files

/-- The name has an extension that is not empty and that is listed. -/
def isAllowed (extensions : List String) (name : String) : Bool :=
  (extension? name).any fun found => !found.isEmpty && extensions.contains found

/-- Every file has a listed extension, and there is one. -/
def haveExtensions (value : Value) (extensions : List String) : Bool :=
  match value with
  | .string name => isAllowed extensions name
  | .file f => isAllowed extensions f.name
  | .files fs => !fs.isEmpty && fs.all fun f => isAllowed extensions f.name
  | _ => false

/-- The file rules that are there from the start. -/
def builtIn : Table ValueRule := [
  ("mimes", .predicate (.atLeast 1) fun _ value args => some (haveExtensions value args))]

end Rulebook.Files
