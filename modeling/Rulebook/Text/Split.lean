import Rulebook.Text.Blank

/-!
# Splitting with an escape

`split` cuts a text at a separator and leaves a separator alone that is
written as the escape.  It works in two passes: the text is cut at every
escape, each chunk is cut at every separator, and where two chunks met the
pieces on both sides are joined again around a plain separator.
-/

namespace Rulebook.Text

/-- Cuts a text at the leftmost occurrences of `sep`, the first `skip`
characters of the text being the rest of an occurrence already taken. -/
def cutFrom (sep : List Char) : Nat → List Char → List (List Char)
  | _, [] => [[]]
  | 0, c :: rest =>
      if sep.isPrefixOf (c :: rest) then [] :: cutFrom sep (sep.length - 1) rest
      else (cutFrom sep 0 rest).modifyHead (c :: ·)
  | skip + 1, _ :: rest => cutFrom sep skip rest

/-- The pieces of a text between the leftmost occurrences of `sep` that do not
overlap.  The empty text occurs before, between and after all characters. -/
def cut (sep s : List Char) : List (List Char) :=
  match sep with
  | [] => [] :: s.map ([·]) ++ [[]]
  | _ :: _ => cutFrom sep 0 s

/-- Joins the last piece of one chunk to the first piece of what follows. -/
def abut (sep : List Char) : List (List Char) → List (List Char) → List (List Char)
  | [], next => next
  | [last], [] => [last]
  | [last], first :: next => (last ++ sep ++ first) :: next
  | piece :: pieces, next => piece :: abut sep pieces next

/-- Joins chunks, each already cut into pieces, around a plain separator. -/
def glue (sep : List Char) : List (List (List Char)) → List (List Char)
  | [] => []
  | [pieces] => pieces
  | pieces :: chunks => abut sep pieces (glue sep chunks)

/-- Cuts a text at every `sep` that is not part of an `esc`; an `esc` stands
for a plain `sep`.  The empty text has no pieces. -/
def splitChars (sep esc s : List Char) : List (List Char) :=
  if s.isEmpty then [] else glue sep ((cut esc s).map (cut sep))

/-- `splitChars` on strings. -/
def split (s sep esc : String) : List String :=
  (splitChars sep.toList esc.toList s.toList).map String.ofList

/-- Writes a backslash before every character that is in `marks`. -/
def escape (marks : List Char) (s : List Char) : List Char :=
  s.flatMap fun c => if marks.contains c then ['\\', c] else [c]

/-- Cuts at `mark`, which a backslash before it makes plain. -/
def fields (mark : Char) (s : List Char) : List (List Char) :=
  splitChars [mark] ['\\', mark] s

@[simp]
theorem splitChars_nil (sep esc : List Char) : splitChars sep esc [] = [] :=
  rfl

@[simp]
theorem fields_nil (mark : Char) : fields mark [] = [] :=
  rfl

@[simp]
theorem escape_nil (marks : List Char) : escape marks [] = [] :=
  rfl

theorem escape_append (marks s t : List Char) :
    escape marks (s ++ t) = escape marks s ++ escape marks t :=
  List.flatMap_append

end Rulebook.Text
