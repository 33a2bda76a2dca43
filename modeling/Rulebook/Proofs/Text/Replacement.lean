import Rulebook.Proofs.Text.Escape

/-!
# What splitting keeps

Nothing of a text is lost or made up by splitting it.  The pieces joined by the separator are
the text with a separator in place of each escape, which is where two chunks met, whatever the
separator and the escape have in common.  In the other direction, the texts of a list come back
if their marks are escaped, unless a backslash at the end of one of them escapes the mark that
was to separate it from the next.
-/

namespace Rulebook.Text

/-! ## Replacing -/

/-- Writes `new` in place of the leftmost occurrences of `old` that do not overlap.  There has
to be a character in `old`. -/
def replaceEach (old new : List Char) : List Char → List Char
  | [] => []
  | c :: s =>
      if old <+: c :: s then new ++ replaceEach old new (s.drop (old.length - 1))
      else c :: replaceEach old new s
termination_by s => s.length
decreasing_by
  · rw [List.length_drop, List.length_cons]
    omega
  · exact Nat.lt_succ_self _

@[simp]
theorem replaceEach_nil (old new : List Char) : replaceEach old new [] = [] := by
  rw [replaceEach]

theorem replaceEach_append_self {old : List Char} (nonempty : old ≠ []) (new s : List Char) :
    replaceEach old new (old ++ s) = new ++ replaceEach old new s := by
  obtain ⟨c, rest, rfl⟩ := List.exists_cons_of_ne_nil nonempty
  have occurs : c :: rest <+: c :: (rest ++ s) := ⟨s, rfl⟩
  rw [List.cons_append, replaceEach, if_pos occurs, List.length_cons, Nat.add_sub_cancel,
    List.drop_left]

theorem replaceEach_cons {old : List Char} (new : List Char) {c : Char} {s : List Char}
    (differs : ¬old <+: c :: s) : replaceEach old new (c :: s) = c :: replaceEach old new s := by
  rw [replaceEach, if_neg differs]

/-- Induction on a text with the leftmost occurrences of another one taken as one character. -/
@[elab_as_elim]
theorem occurrenceInduction {old : List Char} (nonempty : old ≠ []) {motive : List Char → Prop}
    (nil : motive []) (occurrence : ∀ s, motive s → motive (old ++ s))
    (cons : ∀ c s, ¬old <+: c :: s → motive s → motive (c :: s)) : ∀ s, motive s
  | [] => nil
  | c :: s => by
      by_cases occurs : old <+: c :: s
      · obtain ⟨rest, whole⟩ := occurs
        have shorter : rest.length < (c :: s).length := by
          have := List.length_pos_iff.mpr nonempty
          rw [← whole, List.length_append]
          omega
        rw [← whole]
        exact occurrence rest (occurrenceInduction nonempty nil occurrence cons rest)
      · exact cons c s occurs (occurrenceInduction nonempty nil occurrence cons s)
termination_by s => s.length
decreasing_by
  · exact shorter
  · exact Nat.lt_succ_self _

/-- A text replaced by itself is there again. -/
theorem replaceEach_self {old : List Char} (nonempty : old ≠ []) (s : List Char) :
    replaceEach old old s = s := by
  induction s using occurrenceInduction nonempty with
  | nil => rw [replaceEach_nil]
  | occurrence s ih => rw [replaceEach_append_self nonempty, ih]
  | cons c s differs ih => rw [replaceEach_cons old differs, ih]

/-! ## Joining pieces -/

theorem intercalate_modifyHead (sep : List Char) (c : Char) {pieces : List (List Char)}
    (nonempty : pieces ≠ []) :
    sep.intercalate (pieces.modifyHead (c :: ·)) = c :: sep.intercalate pieces := by
  rcases pieces with _ | ⟨piece, _ | ⟨next, pieces⟩⟩
  · contradiction
  · rw [List.modifyHead_cons, List.intercalate_singleton, List.intercalate_singleton]
  · rw [List.modifyHead_cons, List.intercalate_cons_cons, List.intercalate_cons_cons,
      List.cons_append, List.cons_append]

/-- The pieces of a cut, joined by another text, have it in the place of the one that was cut
out. -/
theorem intercalate_cut {old : List Char} (nonempty : old ≠ []) (new s : List Char) :
    new.intercalate (cut old s) = replaceEach old new s := by
  induction s using occurrenceInduction nonempty with
  | nil =>
      obtain ⟨c, old, rfl⟩ := List.exists_cons_of_ne_nil nonempty
      rw [replaceEach_nil, cut, cutFrom, List.intercalate_singleton]
  | occurrence s ih =>
      rw [cut_append_self nonempty, List.intercalate_cons_of_ne_nil (cut_ne_nil nonempty s), ih,
        List.nil_append, replaceEach_append_self nonempty]
  | cons c s differs ih =>
      rw [cut_cons nonempty differs, intercalate_modifyHead new c (cut_ne_nil nonempty s), ih,
        replaceEach_cons new differs]

theorem intercalate_cut_self {sep : List Char} (nonempty : sep ≠ []) (s : List Char) :
    sep.intercalate (cut sep s) = s := by
  rw [intercalate_cut nonempty, replaceEach_self nonempty]

/-- Where two chunks are glued there is a separator between them, as there is between pieces. -/
theorem intercalate_abut (sep : List Char) {pieces next : List (List Char)}
    (nonempty : pieces ≠ []) (some : next ≠ []) :
    sep.intercalate (abut sep pieces next) =
      sep.intercalate pieces ++ sep ++ sep.intercalate next := by
  induction pieces with
  | nil => contradiction
  | cons piece pieces ih =>
      by_cases single : pieces = []
      · obtain ⟨first, next, rfl⟩ := List.exists_cons_of_ne_nil some
        subst single
        rw [abut, List.intercalate_singleton]
        by_cases last : next = []
        · rw [last, List.intercalate_singleton, List.intercalate_singleton]
        · rw [List.intercalate_cons_of_ne_nil last, List.intercalate_cons_of_ne_nil last]
          simp only [List.append_assoc]
      · have unfolded : abut sep (piece :: pieces) next = piece :: abut sep pieces next := by
          obtain ⟨other, pieces, rfl⟩ := List.exists_cons_of_ne_nil single
          rfl
        rw [unfolded, List.intercalate_cons_of_ne_nil (abut_ne_nil single next), ih single,
          List.intercalate_cons_of_ne_nil single]
        simp only [List.append_assoc]

/-- So glued chunks are joined as if each of them were one piece. -/
theorem intercalate_glue (sep : List Char) {chunks : List (List (List Char))}
    (nonempty : ∀ pieces ∈ chunks, pieces ≠ []) :
    sep.intercalate (glue sep chunks) = sep.intercalate (chunks.map sep.intercalate) := by
  induction chunks with
  | nil => rfl
  | cons pieces chunks ih =>
      rw [List.forall_mem_cons] at nonempty
      cases chunks with
      | nil => rw [glue, List.map_singleton, List.intercalate_singleton]
      | cons next chunks =>
          have glued : glue sep (next :: chunks) ≠ [] :=
            glue_cons_ne_nil (List.forall_mem_cons.mp nonempty.2).1 chunks
          have joined : (next :: chunks).map sep.intercalate ≠ [] := List.cons_ne_nil _ _
          change sep.intercalate (abut sep pieces (glue sep (next :: chunks))) = _
          rw [intercalate_abut sep nonempty.1 glued, ih nonempty.2,
            List.map_cons (l := next :: chunks), List.intercalate_cons_of_ne_nil joined]

/-- The pieces of a text, joined again, are the text with its escapes replaced. -/
theorem intercalate_splitChars {sep esc : List Char} (sepNonempty : sep ≠ [])
    (escNonempty : esc ≠ []) (s : List Char) :
    sep.intercalate (splitChars sep esc s) = replaceEach esc sep s := by
  cases s with
  | nil => rw [splitChars_nil, List.intercalate_nil, replaceEach_nil]
  | cons c s =>
      have pieces : ∀ chunk ∈ (cut esc (c :: s)).map (cut sep), chunk ≠ [] := by
        simp only [List.forall_mem_map]
        exact fun chunk _ => cut_ne_nil sepNonempty chunk
      have whole : (cut esc (c :: s)).map (sep.intercalate ∘ cut sep) = cut esc (c :: s) := by
        conv_rhs => rw [← List.map_id (cut esc (c :: s))]
        exact List.map_congr_left fun chunk _ => intercalate_cut_self sepNonempty chunk
      rw [splitChars, List.isEmpty_cons, if_neg Bool.false_ne_true, intercalate_glue sep pieces,
        List.map_map, whole, intercalate_cut escNonempty]

/-! ## Strings -/

theorem map_toList_map_ofList (texts : List (List Char)) :
    (texts.map String.ofList).map String.toList = texts := by
  simp [Function.comp_def]

theorem map_ofList_eq_iff {pieces : List (List Char)} {texts : List String} :
    pieces.map String.ofList = texts ↔ pieces = texts.map String.toList := by
  constructor
  · rintro rfl
    exact (map_toList_map_ofList pieces).symm
  · rintro rfl
    simp [Function.comp_def]

/-- Splitting keeps everything.  Of any text the pieces are the text itself with a separator
for each escape, and the texts of any list are the pieces of what they are written as, unless
there is only an empty one or a backslash ends one that another follows. -/
theorem split_keeps :
    (∀ s sep esc : String, sep ≠ "" → esc ≠ "" →
      sep.intercalate (split s sep esc) =
        String.ofList (replaceEach esc.toList sep.toList s.toList)) ∧
    ∀ mark : Char, mark ≠ '\\' → ∀ texts : List String,
      split
          ((String.singleton mark).intercalate
            (texts.map fun text => String.ofList (escape [mark] text.toList)))
          (String.singleton mark) (String.ofList ['\\', mark]) = texts ↔
        texts ≠ [""] ∧ ∀ text ∈ texts.dropLast, text.toList.getLast? ≠ some '\\' := by
  constructor
  · intro s sep esc sepNonempty escNonempty
    rw [← String.toList_inj, String.toList_intercalate, split, map_toList_map_ofList,
      String.toList_ofList]
    exact intercalate_splitChars (by simpa using sepNonempty) (by simpa using escNonempty) s.toList
  · intro mark notBackslash texts
    have written : ((String.singleton mark).intercalate
        (texts.map fun text => String.ofList (escape [mark] text.toList))).toList =
          [mark].intercalate ((texts.map String.toList).map (escape [mark])) := by
      rw [String.toList_intercalate, String.toList_singleton, List.map_map, List.map_map]
      simp only [Function.comp_def, String.toList_ofList]
    have lone : texts.map String.toList = [[]] ↔ texts = [""] :=
      eq_comm.trans (map_ofList_eq_iff.symm.trans eq_comm)
    rw [split, written, String.toList_singleton, String.toList_ofList]
    change (fields mark _).map String.ofList = texts ↔ _
    rw [map_ofList_eq_iff, fields_intercalate_escape_iff notBackslash, ne_eq, lone,
      ← List.map_dropLast, List.forall_mem_map]

/-- An escape of two separators, and a list with a mark in a text and a backslash at its end. -/
theorem split_keeps_overlapping :
    ("a" ≠ "" ∧ "aa" ≠ "" ∧ split "aaab" "a" "aa" = ["a", "b"] ∧
      "a".intercalate (split "aaab" "a" "aa") = String.ofList (replaceEach "aa".toList "a".toList
        "aaab".toList) ∧
      replaceEach "aa".toList "a".toList "aaab".toList = "aab".toList) ∧
    '|' ≠ '\\' ∧ split "\\||x\\" "|" "\\|" = ["|", "x\\"] := by
  obtain ⟨joins, undoes⟩ := split_keeps
  have closed : ∀ text ∈ ["|", "x\\"].dropLast, text.toList.getLast? ≠ some '\\' := by decide
  refine ⟨⟨by decide, by decide, by decide, ?_, ?_⟩, by decide, ?_⟩
  · exact joins "aaab" "a" "aa" (by decide) (by decide)
  · simp [replaceEach]
  · exact (undoes '|' (by decide) ["|", "x\\"]).mpr ⟨by decide, closed⟩

end Rulebook.Text
