import Rulebook.Text.Split
import Mathlib.Data.List.Basic

/-!
# Splitting as one pass

`splitChars` cuts a text twice and joins the pieces again.  The equations below
describe the same pieces by the first characters of a text, so that nothing else
has to look at the two cuts: an escaped mark is a plain character, a mark that
is not escaped starts a piece, and any other character is copied.

The escapes of a single mark cannot overlap, so a mark is escaped exactly if the
character before it is a backslash.
-/

namespace Rulebook.Text

/-! ## Cuts -/

theorem cutFrom_append (sep : List Char) (skipped s : List Char) :
    cutFrom sep skipped.length (skipped ++ s) = cutFrom sep 0 s := by
  induction skipped with
  | nil => rfl
  | cons c skipped ih => exact ih

/-- An occurrence at the front ends an empty piece. -/
theorem cut_append_self {sep : List Char} (nonempty : sep ≠ []) (s : List Char) :
    cut sep (sep ++ s) = [] :: cut sep s := by
  cases sep with
  | nil => contradiction
  | cons c sep =>
      have occurs : (c :: sep).isPrefixOf (c :: (sep ++ s)) = true := by simp
      change cutFrom (c :: sep) 0 (c :: (sep ++ s)) = [] :: cutFrom (c :: sep) 0 s
      rw [cutFrom, if_pos occurs]
      exact congrArg ([] :: ·) (cutFrom_append (c :: sep) sep s)

/-- Where there is no occurrence the character belongs to the first piece. -/
theorem cut_cons {sep : List Char} (nonempty : sep ≠ []) {c : Char} {s : List Char}
    (differs : ¬sep <+: c :: s) : cut sep (c :: s) = (cut sep s).modifyHead (c :: ·) := by
  cases sep with
  | nil => contradiction
  | cons d sep =>
      change cutFrom (d :: sep) 0 (c :: s) = (cutFrom (d :: sep) 0 s).modifyHead (c :: ·)
      rw [cutFrom, if_neg (by simpa using differs)]

theorem cut_ne_nil {sep : List Char} (nonempty : sep ≠ []) (s : List Char) : cut sep s ≠ [] := by
  cases sep with
  | nil => contradiction
  | cons d sep =>
      have pieces_ne_nil : ∀ skip, cutFrom (d :: sep) skip s ≠ [] := by
        induction s with
        | nil => intro skip; simp [cutFrom]
        | cons c s ih =>
            intro skip
            cases skip with
            | zero =>
                rw [cutFrom]
                split
                · simp
                · simpa using ih 0
            | succ skip => exact ih skip
      exact pieces_ne_nil 0

/-! ## Gluing -/

theorem abut_modifyHead {sep : List Char} (c : Char) {pieces : List (List Char)}
    (nonempty : pieces ≠ []) (next : List (List Char)) :
    abut sep (pieces.modifyHead (c :: ·)) next = (abut sep pieces next).modifyHead (c :: ·) := by
  rcases pieces with _ | ⟨piece, _ | ⟨other, pieces⟩⟩
  · contradiction
  · cases next <;> rfl
  · rfl

theorem abut_cons_nil {sep : List Char} {pieces : List (List Char)} (nonempty : pieces ≠ [])
    (next : List (List Char)) : abut sep ([] :: pieces) next = [] :: abut sep pieces next := by
  cases pieces with
  | nil => contradiction
  | cons piece pieces => rfl

theorem abut_ne_nil {sep : List Char} {pieces : List (List Char)} (nonempty : pieces ≠ [])
    (next : List (List Char)) : abut sep pieces next ≠ [] := by
  rcases pieces with _ | ⟨piece, _ | ⟨other, pieces⟩⟩
  · contradiction
  · cases next <;> simp [abut]
  · simp [abut]

theorem glue_modifyHead {sep : List Char} (c : Char) {pieces : List (List Char)}
    (nonempty : pieces ≠ []) (chunks : List (List (List Char))) :
    glue sep (pieces.modifyHead (c :: ·) :: chunks) =
      (glue sep (pieces :: chunks)).modifyHead (c :: ·) := by
  cases chunks with
  | nil => rfl
  | cons chunk chunks => exact abut_modifyHead c nonempty _

theorem glue_cons_nil {sep : List Char} {pieces : List (List Char)} (nonempty : pieces ≠ [])
    (chunks : List (List (List Char))) :
    glue sep (([] :: pieces) :: chunks) = [] :: glue sep (pieces :: chunks) := by
  cases chunks with
  | nil => rfl
  | cons chunk chunks => exact abut_cons_nil nonempty _

theorem glue_cons_ne_nil {sep : List Char} {pieces : List (List Char)} (nonempty : pieces ≠ [])
    (chunks : List (List (List Char))) : glue sep (pieces :: chunks) ≠ [] := by
  cases chunks with
  | nil => exact nonempty
  | cons chunk chunks => exact abut_ne_nil nonempty _

@[simp]
theorem modifyHead_same (pieces : List (List Char)) :
    pieces.modifyHead (fun piece => piece) = pieces := by
  cases pieces <;> rfl

/-! ## Pieces -/

/-- The pieces of a text between its plain marks.  This is `fields` but for the
empty text, which has one piece. -/
def pieces (mark : Char) (s : List Char) : List (List Char) :=
  glue [mark] ((cut ['\\', mark] s).map (cut [mark]))

theorem fields_eq (mark : Char) (s : List Char) :
    fields mark s = if s.isEmpty then [] else pieces mark s :=
  rfl

/-- Pieces as the texts that they stand for: one empty piece stands for none. -/
def listed (texts : List (List Char)) : List (List Char) :=
  if texts = [[]] then [] else texts

theorem exists_cut_eq_cons (mark : Char) (s : List Char) :
    ∃ chunk chunks, cut ['\\', mark] s = chunk :: chunks :=
  List.exists_cons_of_ne_nil (cut_ne_nil (by simp) s)

theorem pieces_ne_nil (mark : Char) (s : List Char) : pieces mark s ≠ [] := by
  unfold pieces
  obtain ⟨chunk, chunks, cutEq⟩ := exists_cut_eq_cons mark s
  rw [cutEq]
  exact glue_cons_ne_nil (cut_ne_nil (by simp) chunk) _

theorem exists_pieces_eq_cons (mark : Char) (s : List Char) :
    ∃ piece rest, pieces mark s = piece :: rest :=
  List.exists_cons_of_ne_nil (pieces_ne_nil mark s)

@[simp]
theorem pieces_nil (mark : Char) : pieces mark [] = [[]] :=
  rfl

/-- An escaped mark is a plain character. -/
@[simp]
theorem pieces_escaped (mark : Char) (s : List Char) :
    pieces mark ('\\' :: mark :: s) = (pieces mark s).modifyHead (mark :: ·) := by
  have cutEq : cut ['\\', mark] ('\\' :: mark :: s) = [] :: cut ['\\', mark] s :=
    cut_append_self (by simp) s
  obtain ⟨first, rest, piecesEq⟩ := exists_pieces_eq_cons mark s
  obtain ⟨chunk, chunks, chunksEq⟩ := exists_cut_eq_cons mark s
  unfold pieces at piecesEq ⊢
  rw [cutEq, List.map_cons, piecesEq]
  rw [chunksEq] at piecesEq ⊢
  change abut [mark] [[]] (glue [mark] ((cut [mark] chunk) :: chunks.map (cut [mark]))) = _
  rw [← List.map_cons, piecesEq]
  rfl

/-- A mark that is not escaped ends a piece. -/
theorem pieces_mark {mark : Char} (notBackslash : mark ≠ '\\') (s : List Char) :
    pieces mark (mark :: s) = [] :: pieces mark s := by
  have cutEq : cut ['\\', mark] (mark :: s) = (cut ['\\', mark] s).modifyHead (mark :: ·) := by
    apply cut_cons (by simp)
    intro occurs
    exact notBackslash (List.cons_prefix_cons.mp occurs).1.symm
  obtain ⟨chunk, chunks, chunksEq⟩ := exists_cut_eq_cons mark s
  unfold pieces
  rw [cutEq, chunksEq, List.modifyHead_cons, List.map_cons, List.map_cons]
  have inner : cut [mark] (mark :: chunk) = [] :: cut [mark] chunk :=
    cut_append_self (by simp) chunk
  rw [inner]
  exact glue_cons_nil (cut_ne_nil (by simp) chunk) _

/-- Any other character is copied.  A backslash is one unless a mark follows. -/
theorem pieces_cons {mark c : Char} (notMark : c ≠ mark) {s : List Char}
    (free : c = '\\' → s.head? ≠ some mark) :
    pieces mark (c :: s) = (pieces mark s).modifyHead (c :: ·) := by
  have cutEq : cut ['\\', mark] (c :: s) = (cut ['\\', mark] s).modifyHead (c :: ·) := by
    apply cut_cons (by simp)
    intro occurs
    rw [List.cons_prefix_cons] at occurs
    rcases occurs with ⟨backslash, t, rest⟩
    apply free backslash.symm
    rw [← rest]
    rfl
  obtain ⟨chunk, chunks, chunksEq⟩ := exists_cut_eq_cons mark s
  unfold pieces
  rw [cutEq, chunksEq, List.modifyHead_cons, List.map_cons, List.map_cons]
  have inner : cut [mark] (c :: chunk) = (cut [mark] chunk).modifyHead (c :: ·) :=
    cut_cons (by simp) (by simp [Ne.symm notMark])
  rw [inner]
  exact glue_modifyHead c (cut_ne_nil (by simp) chunk) _

theorem pieces_cons_plain {mark c : Char} (notMark : c ≠ mark) (plain : c ≠ '\\') (s : List Char) :
    pieces mark (c :: s) = (pieces mark s).modifyHead (c :: ·) :=
  pieces_cons notMark fun backslash => absurd backslash plain

/-- Induction on a text with the escapes of a mark taken as one character. -/
@[elab_as_elim]
theorem escapedInduction (mark : Char) {motive : List Char → Prop} (nil : motive [])
    (escaped : ∀ s, motive s → motive ('\\' :: mark :: s))
    (cons : ∀ c s, (c = '\\' → s.head? ≠ some mark) → motive s → motive (c :: s)) :
    ∀ s, motive s
  | [] => nil
  | [c] => cons c [] (by simp) nil
  | c :: d :: s => by
      by_cases escape : c = '\\' ∧ d = mark
      · rcases escape with ⟨rfl, isMark⟩
        rw [isMark]
        exact escaped s (escapedInduction mark nil escaped cons s)
      · refine cons c (d :: s) ?_ (escapedInduction mark nil escaped cons (d :: s))
        intro backslash isMark
        exact escape ⟨backslash, by simpa using isMark⟩

/-- The first piece starts as the text does, or with an escaped mark. -/
theorem head?_ne_of_pieces_eq_cons {mark other : Char} (notBackslash : mark ≠ '\\')
    (distinct : other ≠ mark) {s piece : List Char} {rest : List (List Char)}
    (differs : s.head? ≠ some other) (piecesEq : pieces mark s = piece :: rest) :
    piece.head? ≠ some other := by
  induction s using escapedInduction mark with
  | nil =>
      rw [pieces_nil, List.cons.injEq] at piecesEq
      simp [← piecesEq.1]
  | escaped s _ =>
      obtain ⟨first, more, firstEq⟩ := exists_pieces_eq_cons mark s
      rw [pieces_escaped, firstEq, List.modifyHead_cons, List.cons.injEq] at piecesEq
      simpa [← piecesEq.1] using Ne.symm distinct
  | cons c s free _ =>
      obtain ⟨first, more, firstEq⟩ := exists_pieces_eq_cons mark s
      by_cases isMark : c = mark
      · rw [isMark, pieces_mark notBackslash, List.cons.injEq] at piecesEq
        simp [← piecesEq.1]
      · rw [pieces_cons isMark free, firstEq, List.modifyHead_cons, List.cons.injEq] at piecesEq
        simpa [← piecesEq.1] using differs

/-- Only the empty text has one empty piece. -/
theorem pieces_eq_lone_nil_iff {mark : Char} (notBackslash : mark ≠ '\\') {s : List Char} :
    pieces mark s = [[]] ↔ s = [] := by
  induction s using escapedInduction mark with
  | nil => simp
  | escaped s _ =>
      obtain ⟨piece, rest, piecesEq⟩ := exists_pieces_eq_cons mark s
      simp [piecesEq]
  | cons c s free _ =>
      obtain ⟨piece, rest, piecesEq⟩ := exists_pieces_eq_cons mark s
      by_cases isMark : c = mark
      · rw [isMark, pieces_mark notBackslash]
        simp [piecesEq]
      · rw [pieces_cons isMark free]
        simp [piecesEq]

theorem fields_eq_listed {mark : Char} (notBackslash : mark ≠ '\\') (s : List Char) :
    fields mark s = listed (pieces mark s) := by
  rw [fields_eq, listed]
  simp only [List.isEmpty_iff, pieces_eq_lone_nil_iff notBackslash]

end Rulebook.Text
