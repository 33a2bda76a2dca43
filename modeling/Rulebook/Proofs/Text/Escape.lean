import Rulebook.Proofs.Text.Split
import Mathlib.Data.List.Induction

/-!
# Escaping against splitting

`escape` writes a backslash before every mark and so hides it from splitting.
Splitting the escaped texts of a list, joined by plain marks, gives the list back
exactly if no text but the last ends in a backslash: such a backslash would
escape the mark that follows it.
-/

namespace Rulebook.Text

/-- A text with its escaped marks made plain. -/
def unescape (mark : Char) (s : List Char) : List Char :=
  [mark].intercalate (pieces mark s)

@[simp]
theorem unescape_nil (mark : Char) : unescape mark [] = [] := by
  simp [unescape]

@[simp]
theorem unescape_escaped (mark : Char) (s : List Char) :
    unescape mark ('\\' :: mark :: s) = mark :: unescape mark s := by
  unfold unescape
  obtain ⟨piece, rest, piecesEq⟩ := exists_pieces_eq_cons mark s
  rw [pieces_escaped, piecesEq, List.modifyHead_cons]
  cases rest with
  | nil => simp
  | cons next rest => exact List.intercalate_cons_cons_left

/-- Any character but the backslash of an escape is copied, plain marks too. -/
theorem unescape_cons {mark c : Char} {s : List Char} (notBackslash : mark ≠ '\\')
    (free : c = '\\' → s.head? ≠ some mark) :
    unescape mark (c :: s) = c :: unescape mark s := by
  unfold unescape
  obtain ⟨piece, rest, piecesEq⟩ := exists_pieces_eq_cons mark s
  by_cases isMark : c = mark
  · subst isMark
    rw [pieces_mark notBackslash, List.intercalate_cons_of_ne_nil (pieces_ne_nil c s)]
    rfl
  · rw [pieces_cons isMark free, piecesEq, List.modifyHead_cons]
    cases rest with
    | nil => simp
    | cons next rest => exact List.intercalate_cons_cons_left

theorem unescape_cons_plain {mark c : Char} (notBackslash : mark ≠ '\\') (plain : c ≠ '\\')
    (s : List Char) : unescape mark (c :: s) = c :: unescape mark s :=
  unescape_cons notBackslash fun backslash => absurd backslash plain

/-- Making a mark plain brings no other character to the front. -/
theorem head?_unescape_ne {mark other : Char} (notBackslash : mark ≠ '\\')
    (distinct : other ≠ mark) {s : List Char} (differs : s.head? ≠ some other) :
    (unescape mark s).head? ≠ some other := by
  induction s using escapedInduction mark with
  | nil => simp
  | escaped s _ => simpa using Ne.symm distinct
  | cons c s free _ =>
      rw [unescape_cons notBackslash free]
      exact differs

/-! ## One escaped text -/

theorem getLast?_cons_eq_some {s : List Char} {last : Char} (c : Char)
    (ends : s.getLast? = some last) : (c :: s).getLast? = some last := by
  rw [List.getLast?_cons, ends]
  rfl

theorem escape_cons_mark {marks : List Char} {c : Char} (isMark : c ∈ marks) (s : List Char) :
    escape marks (c :: s) = '\\' :: c :: escape marks s := by
  simp [escape, isMark]

theorem escape_cons_plain {marks : List Char} {c : Char} (notMark : c ∉ marks) (s : List Char) :
    escape marks (c :: s) = c :: escape marks s := by
  simp [escape, notMark]

/-- A text without marks is written as it is. -/
theorem escape_eq_self {marks s : List Char} (plain : ∀ c ∈ s, c ∉ marks) : escape marks s = s := by
  induction s with
  | nil => rfl
  | cons c s ih =>
      rw [List.forall_mem_cons] at plain
      rw [escape_cons_plain plain.1, ih plain.2]

theorem escape_lone_eq_self {mark : Char} {s : List Char} (absent : mark ∉ s) :
    escape [mark] s = s := by
  apply escape_eq_self
  intro c isMember isMark
  rw [List.mem_singleton.mp isMark] at isMember
  exact absent isMember

/-- An escaped text starts with a mark only if a mark in front of it does. -/
theorem head?_escape_append_ne {mark : Char} (notBackslash : mark ≠ '\\') {c : Char}
    (s t : List Char) : (escape [mark] (c :: s) ++ t).head? ≠ some mark := by
  by_cases isMark : c = mark
  · subst isMark
    rw [escape_cons_mark (by simp)]
    simpa using Ne.symm notBackslash
  · rw [escape_cons_plain (by simpa using isMark)]
    simpa using isMark

@[simp]
theorem escape_eq_nil_iff {marks s : List Char} : escape marks s = [] ↔ s = [] := by
  cases s with
  | nil => simp
  | cons c s =>
      by_cases isMark : c ∈ marks
      · simp [escape_cons_mark isMark]
      · simp [escape_cons_plain isMark]

/-- Escaping keeps the last character. -/
@[simp]
theorem getLast?_escape (marks s : List Char) : (escape marks s).getLast? = s.getLast? := by
  induction s using List.reverseRecOn with
  | nil => rfl
  | append_singleton s c ih =>
      rw [escape_append]
      by_cases isMark : c ∈ marks
      · simp [escape_cons_mark isMark]
      · simp [escape_cons_plain isMark]

/-- Two marks are escaped at once or one after the other. -/
theorem escape_escape {first second : Char} (notBackslash : first ≠ '\\')
    (distinct : first ≠ second) (s : List Char) :
    escape [first] (escape [second] s) = escape [first, second] s := by
  induction s with
  | nil => rfl
  | cons c s ih =>
      by_cases isSecond : c = second
      · subst isSecond
        calc
          escape [first] (escape [c] (c :: s)) = escape [first] ('\\' :: c :: escape [c] s) := by
            rw [escape_cons_mark (by simp)]
          _ = '\\' :: c :: escape [first] (escape [c] s) := by
            rw [escape_cons_plain (by simpa using Ne.symm notBackslash),
              escape_cons_plain (by simpa using Ne.symm distinct)]
          _ = escape [first, c] (c :: s) := by rw [ih, escape_cons_mark (by simp)]
      · have inner : escape [second] (c :: s) = c :: escape [second] s :=
          escape_cons_plain (by simpa using isSecond) s
        rw [inner]
        by_cases isFirst : c = first
        · subst isFirst
          rw [escape_cons_mark (by simp), escape_cons_mark (by simp), ih]
        · rw [escape_cons_plain (by simpa using isFirst),
            escape_cons_plain (by simpa using ⟨isFirst, isSecond⟩), ih]

/-- Escaping reaches into joined texts, but not to a separator that is no mark. -/
theorem escape_intercalate {marks : List Char} {separator : Char} (notMark : separator ∉ marks)
    (texts : List (List Char)) :
    escape marks ([separator].intercalate texts) =
      [separator].intercalate (texts.map (escape marks)) := by
  induction texts with
  | nil => simp
  | cons text texts ih =>
      cases texts with
      | nil => simp
      | cons next texts =>
          rw [List.map_cons, List.map_cons, List.intercalate_cons_cons, List.intercalate_cons_cons,
            ← List.map_cons, ← ih, escape_append, escape_append, escape_cons_plain notMark,
            escape_nil]

/-- The joined texts of a list with the first of them apart. -/
theorem intercalate_escape_cons {mark : Char} (text : List Char) {texts : List (List Char)}
    (nonempty : texts ≠ []) :
    [mark].intercalate ((text :: texts).map (escape [mark])) =
      escape [mark] text ++ mark :: [mark].intercalate (texts.map (escape [mark])) := by
  rw [List.map_cons, List.intercalate_cons_of_ne_nil (by simpa using nonempty),
    List.append_assoc]
  rfl

/-! ## Splitting escaped texts -/

section

variable {mark : Char} (notBackslash : mark ≠ '\\')

include notBackslash

/-- An escaped text is part of one piece, unless its last character escapes a
mark that follows. -/
theorem pieces_escape_append {s t : List Char}
    (free : s.getLast? = some '\\' → t.head? ≠ some mark) :
    pieces mark (escape [mark] s ++ t) = (pieces mark t).modifyHead (s ++ ·) := by
  induction s with
  | nil => simp
  | cons c s ih =>
      have freeTail : s.getLast? = some '\\' → t.head? ≠ some mark := by
        intro last
        exact free (getLast?_cons_eq_some _ last)
      have step : (pieces mark (escape [mark] s ++ t)).modifyHead (c :: ·) =
          (pieces mark t).modifyHead (c :: s ++ ·) := by
        rw [ih freeTail, List.modifyHead_modifyHead]
        rfl
      by_cases isMark : c = mark
      · subst isMark
        rw [escape_cons_mark (by simp), List.cons_append, List.cons_append, pieces_escaped, step]
      · rw [escape_cons_plain (by simpa using isMark), List.cons_append, pieces_cons isMark ?_,
          step]
        rintro rfl
        -- Only as the last character can a backslash stand before a mark that is not its own.
        cases s with
        | nil => exact free rfl
        | cons d s => exact head?_escape_append_ne notBackslash s t

/-- An escaped text is one piece. -/
theorem pieces_escape (s : List Char) : pieces mark (escape [mark] s) = [s] := by
  have whole := pieces_escape_append notBackslash (s := s) (t := []) (by simp)
  simpa using whole

/-- So is a text without marks. -/
theorem pieces_eq_lone {s : List Char} (absent : mark ∉ s) : pieces mark s = [s] := by
  have whole := pieces_escape notBackslash s
  rwa [escape_lone_eq_self absent] at whole

/-- A plain mark separates the pieces before it from those after it, as long as no
backslash stands before it. -/
theorem pieces_append_mark {s : List Char} (closed : s.getLast? ≠ some '\\') (t : List Char) :
    pieces mark (s ++ mark :: t) = pieces mark s ++ pieces mark t := by
  induction s using escapedInduction mark with
  | nil => rw [List.nil_append, pieces_mark notBackslash, pieces_nil, List.singleton_append]
  | escaped s ih =>
      have closedRest : s.getLast? ≠ some '\\' := fun last =>
        closed (getLast?_cons_eq_some _ (getLast?_cons_eq_some _ last))
      obtain ⟨piece, rest, piecesEq⟩ := exists_pieces_eq_cons mark s
      rw [List.cons_append, List.cons_append, pieces_escaped, pieces_escaped, ih closedRest,
        piecesEq, List.cons_append, List.modifyHead_cons, List.modifyHead_cons, List.cons_append]
  | cons c s free ih =>
      have closedRest : s.getLast? ≠ some '\\' := fun last =>
        closed (getLast?_cons_eq_some _ last)
      by_cases isMark : c = mark
      · rw [isMark, List.cons_append, pieces_mark notBackslash, pieces_mark notBackslash,
          ih closedRest, List.cons_append]
      · have freeWhole : c = '\\' → (s ++ mark :: t).head? ≠ some mark := by
          rintro rfl
          cases s with
          | nil => exact absurd rfl closed
          | cons d s => exact free rfl
        obtain ⟨piece, rest, piecesEq⟩ := exists_pieces_eq_cons mark s
        rw [List.cons_append, pieces_cons isMark freeWhole, pieces_cons isMark free, ih closedRest,
          piecesEq, List.cons_append, List.modifyHead_cons, List.modifyHead_cons, List.cons_append]

/-- A plain mark ends an escaped text that does not end in a backslash. -/
theorem pieces_escape_append_mark {s : List Char} (closed : s.getLast? ≠ some '\\')
    (t : List Char) :
    pieces mark (escape [mark] s ++ mark :: t) = s :: pieces mark t := by
  have closedEscaped : (escape [mark] s).getLast? ≠ some '\\' := by
    rwa [getLast?_escape]
  rw [pieces_append_mark notBackslash closedEscaped, pieces_escape notBackslash,
    List.singleton_append]

/-- A backslash at the end of an escaped text takes in the mark that follows. -/
theorem pieces_escape_backslash_append_mark (s t : List Char) :
    pieces mark (escape [mark] (s ++ ['\\']) ++ mark :: t) =
      (pieces mark t).modifyHead (s ++ mark :: ·) := by
  have kept : escape [mark] ['\\'] = ['\\'] :=
    escape_cons_plain (by simpa using Ne.symm notBackslash) []
  have hidden : escape [mark] [mark] = ['\\', mark] :=
    escape_cons_mark (by simp) []
  have regroup : escape [mark] (s ++ ['\\']) ++ mark :: t = escape [mark] (s ++ [mark]) ++ t := by
    rw [escape_append, escape_append, kept, hidden, List.append_assoc, List.append_assoc]
    rfl
  rw [regroup, pieces_escape_append notBackslash (by simp [notBackslash])]
  simp

/-- Joined texts have at most as many pieces as there are texts. -/
theorem length_pieces_intercalate_escape_le {texts : List (List Char)} (nonempty : texts ≠ []) :
    (pieces mark ([mark].intercalate (texts.map (escape [mark])))).length ≤ texts.length := by
  induction texts with
  | nil => contradiction
  | cons text texts ih =>
      by_cases single : texts = []
      · subst single
        simp [pieces_escape notBackslash]
      · have rest := ih single
        rw [intercalate_escape_cons text single]
        by_cases ends : text.getLast? = some '\\'
        · obtain ⟨front, rfl⟩ := List.getLast?_eq_some_iff.mp ends
          rw [pieces_escape_backslash_append_mark notBackslash, List.length_modifyHead]
          exact Nat.le_succ_of_le rest
        · rw [pieces_escape_append_mark notBackslash ends]
          exact Nat.succ_le_succ rest

/-- If there are as many, no backslash ends a text that another one follows. -/
theorem closed_of_length_pieces_eq {texts : List (List Char)} (nonempty : texts ≠ [])
    (lengthEq : (pieces mark ([mark].intercalate (texts.map (escape [mark])))).length =
      texts.length) :
    ∀ text ∈ texts.dropLast, text.getLast? ≠ some '\\' := by
  induction texts with
  | nil => contradiction
  | cons text texts ih =>
      by_cases single : texts = []
      · subst single
        simp
      · rw [intercalate_escape_cons text single] at lengthEq
        rw [List.dropLast_cons_of_ne_nil single, List.forall_mem_cons]
        by_cases ends : text.getLast? = some '\\'
        · obtain ⟨front, rfl⟩ := List.getLast?_eq_some_iff.mp ends
          have bound := length_pieces_intercalate_escape_le notBackslash single
          rw [pieces_escape_backslash_append_mark notBackslash, List.length_modifyHead,
            List.length_cons] at lengthEq
          omega
        · rw [pieces_escape_append_mark notBackslash ends] at lengthEq
          exact ⟨ends, ih single (Nat.succ.inj lengthEq)⟩

/-- Splitting gives joined texts back exactly if no backslash ends a text that
another one follows. -/
theorem pieces_intercalate_escape_iff {texts : List (List Char)} (nonempty : texts ≠ []) :
    pieces mark ([mark].intercalate (texts.map (escape [mark]))) = texts ↔
      ∀ text ∈ texts.dropLast, text.getLast? ≠ some '\\' := by
  constructor
  · intro same
    exact closed_of_length_pieces_eq notBackslash nonempty (congrArg List.length same)
  · intro closed
    induction texts with
    | nil => contradiction
    | cons text texts ih =>
        by_cases single : texts = []
        · subst single
          simp [pieces_escape notBackslash]
        · rw [List.dropLast_cons_of_ne_nil single, List.forall_mem_cons] at closed
          rw [intercalate_escape_cons text single, pieces_escape_append_mark notBackslash closed.1,
            ih single closed.2]

end

theorem intercalate_escape_eq_nil_iff {mark : Char} {texts : List (List Char)} :
    [mark].intercalate (texts.map (escape [mark])) = [] ↔ texts = [] ∨ texts = [[]] := by
  rcases texts with _ | ⟨text, _ | ⟨next, texts⟩⟩
  · simp
  · simp
  · rw [intercalate_escape_cons text (by simp)]
    simp

/-- `fields` has no piece for the empty text, which is why a list of one empty
text does not come back. -/
theorem fields_intercalate_escape_iff {mark : Char} (notBackslash : mark ≠ '\\')
    {texts : List (List Char)} :
    fields mark ([mark].intercalate (texts.map (escape [mark]))) = texts ↔
      texts ≠ [[]] ∧ ∀ text ∈ texts.dropLast, text.getLast? ≠ some '\\' := by
  rw [fields_eq]
  split
  · next empty =>
      rw [List.isEmpty_iff, intercalate_escape_eq_nil_iff] at empty
      rcases empty with rfl | rfl <;> simp
  · next joined =>
      rw [List.isEmpty_iff, intercalate_escape_eq_nil_iff, not_or] at joined
      rw [pieces_intercalate_escape_iff notBackslash joined.1]
      simp [joined.2]

/-- Joined texts come back as they are listed if no backslash ends one that
another one follows. -/
theorem fields_intercalate_escape {mark : Char} (notBackslash : mark ≠ '\\')
    {texts : List (List Char)} (closed : ∀ text ∈ texts.dropLast, text.getLast? ≠ some '\\') :
    fields mark ([mark].intercalate (texts.map (escape [mark]))) = listed texts := by
  by_cases loneEmpty : texts = [[]]
  · subst loneEmpty
    rfl
  · rw [listed, if_neg loneEmpty]
    exact (fields_intercalate_escape_iff notBackslash).mpr ⟨loneEmpty, closed⟩

/-- As many pieces as texts are the texts themselves. -/
theorem fields_intercalate_escape_of_length_eq {mark : Char} (notBackslash : mark ≠ '\\')
    {texts : List (List Char)}
    (lengthEq : (fields mark ([mark].intercalate (texts.map (escape [mark])))).length =
      texts.length) :
    fields mark ([mark].intercalate (texts.map (escape [mark]))) = texts := by
  rw [fields_eq] at lengthEq ⊢
  split at lengthEq
  · next empty =>
      rw [if_pos empty]
      exact (List.length_eq_zero_iff.mp lengthEq.symm).symm
  · next joined =>
      rw [if_neg joined]
      rw [List.isEmpty_iff, intercalate_escape_eq_nil_iff, not_or] at joined
      rw [pieces_intercalate_escape_iff notBackslash joined.1]
      exact closed_of_length_pieces_eq notBackslash joined.1 lengthEq

/-! ## Making marks plain -/

theorem unescape_sublist {mark : Char} (notBackslash : mark ≠ '\\') (s : List Char) :
    (unescape mark s).Sublist s := by
  induction s using escapedInduction mark with
  | nil => simp
  | escaped s ih =>
      rw [unescape_escaped]
      exact (ih.cons_cons mark).cons '\\'
  | cons c s free ih =>
      rw [unescape_cons notBackslash free]
      exact ih.cons_cons c

/-- Making a mark plain keeps the last character. -/
@[simp]
theorem getLast?_unescape {mark : Char} (notBackslash : mark ≠ '\\') (s : List Char) :
    (unescape mark s).getLast? = s.getLast? := by
  induction s using escapedInduction mark with
  | nil => simp
  | escaped s ih =>
      rw [unescape_escaped, List.getLast?_cons, List.getLast?_cons, List.getLast?_cons, ih]
      cases s.getLast? <;> rfl
  | cons c s free ih =>
      rw [unescape_cons notBackslash free, List.getLast?_cons, List.getLast?_cons, ih]

theorem unescape_eq_nil_iff {mark : Char} (notBackslash : mark ≠ '\\') {s : List Char} :
    unescape mark s = [] ↔ s = [] := by
  rw [← List.getLast?_eq_none_iff, getLast?_unescape notBackslash, List.getLast?_eq_none_iff]

/-- Two texts are made plain apart from each other, unless the backslash of a mark
that starts the second ends the first. -/
theorem unescape_append {mark : Char} (notBackslash : mark ≠ '\\') {s t : List Char}
    (free : s.getLast? = some '\\' → t.head? ≠ some mark) :
    unescape mark (s ++ t) = unescape mark s ++ unescape mark t := by
  induction s using escapedInduction mark with
  | nil => simp
  | escaped s ih =>
      have freeTail : s.getLast? = some '\\' → t.head? ≠ some mark := by
        intro last
        exact free (getLast?_cons_eq_some _ (getLast?_cons_eq_some _ last))
      rw [List.cons_append, List.cons_append, unescape_escaped, unescape_escaped, ih freeTail,
        List.cons_append]
  | cons c s freeHere ih =>
      have freeTail : s.getLast? = some '\\' → t.head? ≠ some mark := by
        intro last
        exact free (getLast?_cons_eq_some _ last)
      rw [List.cons_append, unescape_cons notBackslash freeHere, unescape_cons notBackslash ?_,
        ih freeTail, List.cons_append]
      rintro rfl
      cases s with
      | nil => exact free rfl
      | cons d s => exact freeHere rfl

/-- Only a text without an escaped mark stays as it is. -/
theorem unescape_eq_self_iff {mark : Char} (notBackslash : mark ≠ '\\') {s : List Char} :
    unescape mark s = s ↔ ¬['\\', mark] <:+: s := by
  induction s using escapedInduction mark with
  | nil => simp
  | escaped s ih =>
      have shorter : unescape mark ('\\' :: mark :: s) ≠ '\\' :: mark :: s := by
        intro same
        have lengths := congrArg List.length same
        have bound := (unescape_sublist notBackslash s).length_le
        rw [unescape_escaped, List.length_cons, List.length_cons, List.length_cons] at lengths
        omega
      have occurs : ['\\', mark] <:+: '\\' :: mark :: s := ⟨[], s, rfl⟩
      simp only [shorter, occurs, not_true]
  | cons c s free ih =>
      rw [unescape_cons notBackslash free, List.cons.injEq, List.infix_cons_iff, not_or]
      simp only [true_and, ih]
      constructor
      · intro absent
        refine ⟨?_, absent⟩
        intro front
        rw [List.cons_prefix_cons] at front
        rcases front with ⟨rfl, rest⟩
        obtain ⟨t, rfl⟩ := rest
        exact free rfl rfl
      · exact And.right

/-- Escapes of one mark come through the making plain of another, if no escape
of the second lies across the end of the text. -/
theorem unescape_escape_append {mark other : Char} (notBackslash : mark ≠ '\\')
    (otherNotBackslash : other ≠ '\\') (distinct : other ≠ mark) {s t : List Char}
    (free : s.getLast? = some '\\' → t.head? ≠ some mark) :
    unescape mark (escape [other] s ++ t) =
      escape [other] (unescape mark s) ++ unescape mark t := by
  have otherPlain : mark ∉ [other] := by simpa using Ne.symm distinct
  induction s using escapedInduction mark with
  | nil => simp
  | escaped s ih =>
      have freeTail : s.getLast? = some '\\' → t.head? ≠ some mark := by
        intro last
        exact free (getLast?_cons_eq_some _ (getLast?_cons_eq_some _ last))
      rw [escape_cons_plain (by simpa using Ne.symm otherNotBackslash),
        escape_cons_plain otherPlain, List.cons_append, List.cons_append, unescape_escaped,
        unescape_escaped, ih freeTail, escape_cons_plain otherPlain, List.cons_append]
  | cons c s freeHere ih =>
      have freeTail : s.getLast? = some '\\' → t.head? ≠ some mark := by
        intro last
        exact free (getLast?_cons_eq_some _ last)
      rw [unescape_cons notBackslash freeHere]
      by_cases isOther : c = other
      · subst isOther
        rw [escape_cons_mark (by simp), escape_cons_mark (by simp), List.cons_append,
          List.cons_append, unescape_cons notBackslash (by simpa using distinct),
          unescape_cons_plain notBackslash otherNotBackslash,
          ih freeTail]
        rfl
      · rw [escape_cons_plain (by simpa using isOther), escape_cons_plain (by simpa using isOther),
          List.cons_append, unescape_cons notBackslash ?_, ih freeTail, List.cons_append]
        rintro rfl
        cases s with
        | nil => exact free rfl
        | cons d s =>
            by_cases nextOther : d = other
            · rw [nextOther, escape_cons_mark (by simp)]
              simpa using Ne.symm notBackslash
            · rw [escape_cons_plain (by simpa using nextOther)]
              exact freeHere rfl

theorem unescape_intercalate_escape {mark other : Char} (notBackslash : mark ≠ '\\')
    (otherNotBackslash : other ≠ '\\') (distinct : other ≠ mark) (texts : List (List Char)) :
    unescape mark ([other].intercalate (texts.map (escape [other]))) =
      [other].intercalate ((texts.map (unescape mark)).map (escape [other])) := by
  induction texts with
  | nil => simp
  | cons text texts ih =>
      by_cases single : texts = []
      · subst single
        have whole := unescape_escape_append notBackslash otherNotBackslash distinct
          (s := text) (t := []) (by simp)
        simpa using whole
      · rw [List.map_cons (f := unescape mark), intercalate_escape_cons text single,
          intercalate_escape_cons _ (by simpa using single),
          unescape_escape_append notBackslash otherNotBackslash distinct
            (fun _ => by simpa using distinct),
          unescape_cons_plain notBackslash otherNotBackslash, ih]

end Rulebook.Text
