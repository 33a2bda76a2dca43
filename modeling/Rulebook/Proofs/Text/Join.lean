import Mathlib.Data.List.Basic

/-!
# Joined texts

What holds of the texts of a list and of a separator holds of the joined text, and
shortening texts cannot be made up for by joining them.
-/

namespace Rulebook.Text

/-- The characters of joined texts are those of the texts and the separator. -/
theorem forall_mem_intercalate {p : Char → Prop} {separator : Char} (holds : p separator)
    {texts : List (List Char)} (each : ∀ text ∈ texts, ∀ c ∈ text, p c) :
    ∀ c ∈ [separator].intercalate texts, p c := by
  induction texts with
  | nil => simp
  | cons text texts ih =>
      rw [List.forall_mem_cons] at each
      by_cases single : texts = []
      · subst single
        simpa using each.1
      · rw [List.intercalate_cons_of_ne_nil single]
        simp only [List.forall_mem_append, List.forall_mem_singleton]
        exact ⟨⟨each.1, holds⟩, ih each.2⟩

/-- Joined texts, as a text and others that each have a separator in front. -/
theorem intercalate_cons_eq_flatMap (separator : Char) (text : List Char)
    (texts : List (List Char)) :
    [separator].intercalate (text :: texts) = text ++ texts.flatMap (separator :: ·) := by
  induction texts generalizing text with
  | nil => simp
  | cons next texts ih =>
      rw [List.intercalate_cons_of_ne_nil (List.cons_ne_nil next texts), ih, List.flatMap_cons]
      simp

/-- With one more separator in front of joined texts, each has one in front. -/
theorem cons_intercalate_eq_flatMap {separator : Char} {texts : List (List Char)}
    (some : texts ≠ []) :
    separator :: [separator].intercalate texts = texts.flatMap (separator :: ·) := by
  obtain ⟨text, texts, rfl⟩ := List.exists_cons_of_ne_nil some
  rw [intercalate_cons_eq_flatMap, List.flatMap_cons, List.cons_append]

/-- Joined texts, as texts that each have a separator after them and another. -/
theorem intercalate_concat_eq_flatMap (separator : Char) (texts : List (List Char))
    (text : List Char) :
    [separator].intercalate (texts ++ [text]) = texts.flatMap (· ++ [separator]) ++ text := by
  induction texts with
  | nil => simp
  | cons first texts ih =>
      have more : texts ++ [text] ≠ [] := by simp
      rw [List.cons_append, List.intercalate_cons_of_ne_nil more, ih, List.flatMap_cons]
      simp

/-- With one more separator after joined texts, each has one after it. -/
theorem intercalate_append_cons_eq_flatMap {separator : Char} {texts : List (List Char)}
    (some : texts ≠ []) (rest : List Char) :
    [separator].intercalate texts ++ separator :: rest =
      texts.flatMap (· ++ [separator]) ++ rest := by
  obtain rfl | ⟨texts, text, rfl⟩ := List.eq_nil_or_concat' texts
  · exact absurd rfl some
  · rw [intercalate_concat_eq_flatMap, List.flatMap_append, List.flatMap_singleton]
    simp

theorem getLast?_append_ne {last : Char} {s t : List Char} (first : s.getLast? ≠ some last)
    (second : t.getLast? ≠ some last) : (s ++ t).getLast? ≠ some last := by
  rw [List.getLast?_append, ne_eq, Option.or_eq_some_iff]
  rintro (ends | ⟨_, ends⟩)
  · exact second ends
  · exact first ends

/-- The last character of joined texts ends one of them or is the separator. -/
theorem getLast?_intercalate_ne {separator last : Char} (differs : separator ≠ last)
    {texts : List (List Char)} (each : ∀ text ∈ texts, text.getLast? ≠ some last) :
    ([separator].intercalate texts).getLast? ≠ some last := by
  induction texts with
  | nil => simp
  | cons text texts ih =>
      rw [List.forall_mem_cons] at each
      by_cases single : texts = []
      · subst single
        simpa using each.1
      · rw [List.intercalate_cons_of_ne_nil single]
        exact getLast?_append_ne (getLast?_append_ne each.1 (by simpa using differs)) (ih each.2)

section

variable {change : List Char → List Char} (shortens : ∀ text, (change text).Sublist text)

include shortens

theorem intercalate_map_sublist (separator : Char) (texts : List (List Char)) :
    ([separator].intercalate (texts.map change)).Sublist ([separator].intercalate texts) := by
  induction texts with
  | nil => simp
  | cons text texts ih =>
      by_cases single : texts = []
      · subst single
        simpa using shortens text
      · rw [List.map_cons, List.intercalate_cons_of_ne_nil (by simpa using single),
          List.intercalate_cons_of_ne_nil single]
        exact ((shortens text).append (List.Sublist.refl [separator])).append ih

/-- Shortened texts are joined to the same text only if none of them got shorter. -/
theorem intercalate_map_eq_iff {separator : Char} {texts : List (List Char)} :
    [separator].intercalate (texts.map change) = [separator].intercalate texts ↔
      ∀ text ∈ texts, change text = text := by
  induction texts with
  | nil => simp
  | cons text texts ih =>
      by_cases single : texts = []
      · subst single
        simp
      rw [List.map_cons, List.intercalate_cons_of_ne_nil (by simpa using single),
        List.intercalate_cons_of_ne_nil single, List.forall_mem_cons, ← ih]
      constructor
      · intro same
        have lengths := congrArg List.length same
        have front := (shortens text).length_le
        have back := (intercalate_map_sublist shortens separator texts).length_le
        simp only [List.length_append] at lengths
        have textEq : change text = text := (shortens text).eq_of_length (by omega)
        rw [textEq] at same
        exact ⟨textEq, List.append_cancel_left same⟩
      · rintro ⟨textEq, restEq⟩
        rw [textEq, restEq]

end

theorem splitOn_cons (separator c : Char) (s : List Char) :
    (c :: s).splitOn separator =
      if c = separator then [] :: s.splitOn separator
      else (s.splitOn separator).modifyHead (c :: ·) := by
  rw [List.splitOn_eq_splitOnP, List.splitOnP_cons_eq_if_modifyHead]
  simp only [beq_iff_eq]
  rfl

/-- The texts between separators hold none. -/
theorem not_mem_of_mem_splitOn {separator : Char} {s text : List Char}
    (isText : text ∈ s.splitOn separator) : separator ∉ text := by
  induction s generalizing text with
  | nil =>
      rw [List.splitOn_nil, List.mem_singleton] at isText
      simp [isText]
  | cons c s ih =>
      rw [splitOn_cons] at isText
      split at isText
      · rcases List.mem_cons.mp isText with rfl | isText
        · simp
        · exact ih isText
      · next differs =>
          obtain ⟨first, rest, splitEq⟩ :=
            List.exists_cons_of_ne_nil (List.splitOn_ne_nil separator s)
          rw [splitEq] at ih isText
          rcases List.mem_cons.mp isText with rfl | isText
          · rw [List.mem_cons, not_or]
            exact ⟨Ne.symm differs, ih List.mem_cons_self⟩
          · exact ih (List.mem_cons_of_mem first isText)

end Rulebook.Text
