import Rulebook.Text.Split

/-!
# Rule strings

A rule string holds calls separated by `|`.  A call is a name, and after a `:`
its arguments separated by `,`.  A backslash makes the separator after it
plain.  Blanks around names and arguments do not count, and a call without a
name is dropped.

`Call.parse` reads a rule string and `Call.render` writes one call back.
-/

namespace Rulebook

open Text

/-- A rule as it is written in a rule string. -/
structure Call where
  /-- The name the registry is asked for. -/
  name : String
  /-- The arguments, in the order written. -/
  args : List String
deriving DecidableEq, Inhabited

namespace Call

/-- The argument at a position counted from zero. -/
def arg? (call : Call) (index : Nat) : Option String :=
  call.args[index]?

/-- Reads the part of a rule string between two bars.  Only the first colon
separates: the ones after it belong to the arguments. -/
def ofSegment? (segment : List Char) : Option Call :=
  match fields ':' segment with
  | [] => none
  | key :: rest =>
      let name := trimChars key
      if name.isEmpty then none
      else
        let args := if rest.isEmpty then [] else fields ',' ([':'].intercalate rest)
        some ⟨String.ofList name, args.map fun arg => String.ofList (trimChars arg)⟩

/-- Reads a rule string. -/
def parse (rules : String) : List Call :=
  (fields '|' rules.toList).filterMap ofSegment?

/-- Writes a call as a rule string, with a backslash before each separator that
belongs to the name or to an argument. -/
def render (call : Call) : String :=
  let name := escape ['|', ':'] call.name.toList
  let args := call.args.map fun arg => escape ['|', ','] arg.toList
  String.ofList (if args.isEmpty then name else name ++ ':' :: [','].intercalate args)

@[simp]
theorem parse_empty : parse "" = [] := by
  simp [parse]

end Call

end Rulebook
