import Rulebook.Proofs.RuleString.Scan
import Rulebook.Proofs.Text.Trim

/-!
# Reading back what was written

`Call.render` writes a call as a rule string.  Reading gives the call back
exactly for the restorable ones: blanks at the ends of a text are lost, one empty
argument looks like none, the zone of the arguments makes an escaped colon plain
although writing never escapes one, and a backslash at the end of a text
swallows the separator that follows.
-/

namespace Rulebook.Call

open Text

/-- A call that comes back from the rule string that is written for it. -/
structure Restorable (call : Call) : Prop where
  nameNonempty : call.name ≠ ""
  nameUnpadded : Unpadded call.name.toList
  argsUnpadded : ∀ arg ∈ call.args, Unpadded arg.toList
  notLoneEmpty : call.args ≠ [""]
  noEscapedColon : ∀ arg ∈ call.args, ¬['\\', ':'] <:+: arg.toList
  argsClosed : ∀ arg ∈ call.args.dropLast, arg.toList.getLast? ≠ some '\\'
  nameClosed : call.args ≠ [] → call.name.toList.getLast? ≠ some '\\'

instance : DecidablePred Restorable := fun call =>
  decidable_of_iff
    (call.name ≠ "" ∧ Unpadded call.name.toList ∧ (∀ arg ∈ call.args, Unpadded arg.toList) ∧
      call.args ≠ [""] ∧ (∀ arg ∈ call.args, unescape ':' arg.toList = arg.toList) ∧
      (∀ arg ∈ call.args.dropLast, arg.toList.getLast? ≠ some '\\') ∧
      (call.args ≠ [] → call.name.toList.getLast? ≠ some '\\')) <| by
    have plainIff (text : List Char) : unescape ':' text = text ↔ ¬['\\', ':'] <:+: text :=
      unescape_eq_self_iff (by decide)
    simp only [plainIff]
    constructor
    · rintro ⟨nonempty, unpadded, argsUnpadded, notLoneEmpty, plain, argsClosed, nameClosed⟩
      exact ⟨nonempty, unpadded, argsUnpadded, notLoneEmpty, plain, argsClosed, nameClosed⟩
    · rintro ⟨nonempty, unpadded, argsUnpadded, notLoneEmpty, plain, argsClosed, nameClosed⟩
      exact ⟨nonempty, unpadded, argsUnpadded, notLoneEmpty, plain, argsClosed, nameClosed⟩

/-! ## Layers -/

/-- The arguments of a call as one text, in which a plain comma separates. -/
def argsText (call : Call) : List Char :=
  [','].intercalate ((call.args.map String.toList).map (escape [',']))

/-- The text of a call as the segment of a rule string, whose bars are plain. -/
def segmentText (call : Call) : List Char :=
  if call.args.isEmpty then escape [':'] call.name.toList
  else escape [':'] call.name.toList ++ ':' :: call.argsText

/-- Writing escapes the bars of the segment last. -/
theorem toList_render (call : Call) : call.render.toList = escape ['|'] call.segmentText := by
  have nameEq : escape ['|'] (escape [':'] call.name.toList) =
      escape ['|', ':'] call.name.toList :=
    escape_escape (by decide) (by decide) _
  have argsEq : escape ['|'] call.argsText =
      [','].intercalate (call.args.map fun arg => escape ['|', ','] arg.toList) := by
    rw [argsText, escape_intercalate (by decide), List.map_map, List.map_map]
    apply congrArg [','].intercalate
    apply List.map_congr_left
    intro arg _
    exact escape_escape (by decide) (by decide) arg.toList
  unfold render segmentText
  rw [String.toList_ofList, List.isEmpty_map]
  split
  · exact nameEq.symm
  · rw [escape_append, escape_cons_plain (by decide), nameEq, argsEq]

/-- Reading starts by making the bars plain again. -/
theorem parse_render_eq (call : Call) :
    parse call.render = (ofSegment? call.segmentText).toList := by
  rw [parse_eq, toList_render, pieces_escape (by decide), List.filterMap_cons]
  cases ofSegment? call.segmentText <;> rfl

theorem ofTexts?_eq_some_iff {name : List Char} {args : List (List Char)} {call : Call} :
    ofTexts? name args = some call ↔
      call.name ≠ "" ∧ trimChars name = call.name.toList ∧
        args.map trimChars = call.args.map String.toList := by
  rcases call with ⟨callName, callArgs⟩
  have nameEq : String.ofList (trimChars name) = callName ↔
      trimChars name = callName.toList := by
    rw [← String.toList_inj, String.toList_ofList]
  have argsEq : (args.map fun arg => String.ofList (trimChars arg)) = callArgs ↔
      args.map trimChars = callArgs.map String.toList := by
    rw [← List.map_inj_right (fun _ _ => String.toList_inj.mp), List.map_map]
    simp only [Function.comp_def, String.toList_ofList]
  unfold ofTexts?
  split
  · next empty =>
      rw [List.isEmpty_iff] at empty
      simp only [reduceCtorEq, false_iff, empty]
      rintro ⟨nonempty, nameNil, _⟩
      exact nonempty (String.toList_eq_nil_iff.mp nameNil.symm)
  · next full =>
      rw [List.isEmpty_iff] at full
      rw [Option.some.injEq, Call.mk.injEq, nameEq, argsEq]
      constructor
      · rintro ⟨sameName, sameArgs⟩
        refine ⟨?_, sameName, sameArgs⟩
        rintro rfl
        exact full sameName
      · exact And.right

/-! ## Arguments -/

theorem map_eq_self_iff {change : List Char → List Char} {texts : List (List Char)} :
    texts.map change = texts ↔ ∀ text ∈ texts, change text = text := by
  have pointwise := List.map_inj_left (l := texts) (f := change) (g := id)
  rwa [List.map_id] at pointwise

/-- A text that the plain colons and the trimming leave alone together is left
alone by each of them. -/
theorem trimChars_unescape_eq_self_iff {text : List Char} :
    trimChars (unescape ':' text) = text ↔ Unpadded text ∧ ¬['\\', ':'] <:+: text := by
  constructor
  · intro same
    have unpadded : Unpadded text := by
      rw [← same]
      exact unpadded_trimChars _
    have longer : text.Sublist (unescape ':' text) := by
      have trimmed := trimChars_sublist (unescape ':' text)
      rwa [same] at trimmed
    have plain : unescape ':' text = text :=
      (unescape_sublist (by decide) text).antisymm longer
    exact ⟨unpadded, (unescape_eq_self_iff (by decide)).mp plain⟩
  · rintro ⟨unpadded, noEscapedColon⟩
    rw [(unescape_eq_self_iff (by decide)).mpr noEscapedColon]
    exact trimChars_eq_self_iff.mpr unpadded

/-- Texts come back from the text of the arguments exactly if no layer of the
reading changes them. -/
theorem map_trimChars_fields_eq_iff {texts : List (List Char)} :
    (fields ',' (unescape ':' ([','].intercalate (texts.map (escape [',']))))).map trimChars =
        texts ↔
      (∀ text ∈ texts, Unpadded text ∧ ¬['\\', ':'] <:+: text) ∧ texts ≠ [[]] ∧
        ∀ text ∈ texts.dropLast, text.getLast? ≠ some '\\' := by
  rw [unescape_intercalate_escape (by decide) (by decide) (by decide)]
  have plainIff : (∀ text ∈ texts, Unpadded text ∧ ¬['\\', ':'] <:+: text) ↔
      ∀ text ∈ texts, trimChars (unescape ':' text) = text := by
    simp only [trimChars_unescape_eq_self_iff]
  have plainOf : (∀ text ∈ texts, Unpadded text ∧ ¬['\\', ':'] <:+: text) →
      texts.map (unescape ':') = texts := by
    intro plain
    exact map_eq_self_iff.mpr fun text isText =>
      (unescape_eq_self_iff (by decide)).mpr (plain text isText).2
  constructor
  · intro restored
    have lengthEq : (fields ','
        ([','].intercalate ((texts.map (unescape ':')).map (escape [','])))).length =
          (texts.map (unescape ':')).length := by
      rw [List.length_map, ← congrArg List.length restored, List.length_map]
    -- As many texts come back as were joined, so no two of them ran together.
    have fieldsEq := fields_intercalate_escape_of_length_eq (by decide) lengthEq
    rw [fieldsEq, List.map_map, map_eq_self_iff] at restored
    have plain := plainIff.mpr restored
    rw [plainOf plain, fields_intercalate_escape_iff (by decide)] at fieldsEq
    exact ⟨plain, fieldsEq⟩
  · rintro ⟨plain, separate⟩
    rw [plainOf plain, (fields_intercalate_escape_iff (by decide)).mpr separate, map_eq_self_iff]
    intro text isText
    exact trimChars_eq_self_iff.mpr (plain text isText).1

/-! ## Segments -/

/-- A call without arguments is restorable by its name alone. -/
theorem restorable_nil_iff {name : String} :
    Restorable ⟨name, []⟩ ↔ name ≠ "" ∧ Unpadded name.toList := by
  constructor
  · intro restorable
    exact ⟨restorable.nameNonempty, restorable.nameUnpadded⟩
  · rintro ⟨nonempty, unpadded⟩
    exact ⟨nonempty, unpadded, by simp, by simp, by simp, by simp, by simp⟩

/-- The conditions on arguments are conditions on their characters. -/
theorem restorable_iff {call : Call} (withArgs : call.args ≠ []) :
    call.Restorable ↔
      (call.name ≠ "" ∧ Unpadded call.name.toList ∧ call.name.toList.getLast? ≠ some '\\') ∧
        (∀ text ∈ call.args.map String.toList, Unpadded text ∧ ¬['\\', ':'] <:+: text) ∧
        call.args.map String.toList ≠ [[]] ∧
        ∀ text ∈ (call.args.map String.toList).dropLast, text.getLast? ≠ some '\\' := by
  have loneEmptyIff : call.args.map String.toList = [""].map String.toList ↔ call.args = [""] :=
    List.map_inj_right fun _ _ => String.toList_inj.mp
  change call.args.map String.toList = [[]] ↔ call.args = [""] at loneEmptyIff
  rw [ne_eq (call.args.map String.toList), loneEmptyIff, ← List.map_dropLast]
  simp only [List.forall_mem_map]
  constructor
  · intro restorable
    refine ⟨⟨restorable.nameNonempty, restorable.nameUnpadded, restorable.nameClosed withArgs⟩,
      ?_, restorable.notLoneEmpty, restorable.argsClosed⟩
    intro arg isArg
    exact ⟨restorable.argsUnpadded arg isArg, restorable.noEscapedColon arg isArg⟩
  · rintro ⟨⟨nonempty, unpadded, nameClosed⟩, plain, notLoneEmpty, argsClosed⟩
    exact {
      nameNonempty := nonempty
      nameUnpadded := unpadded
      argsUnpadded := fun arg isArg => (plain arg isArg).1
      notLoneEmpty := notLoneEmpty
      noEscapedColon := fun arg isArg => (plain arg isArg).2
      argsClosed := argsClosed
      nameClosed := fun _ => nameClosed }

/-- A name without arguments is a segment of one piece. -/
theorem ofSegment?_escape (name : List Char) :
    ofSegment? (escape [':'] name) = ofTexts? name [] :=
  ofSegment?_eq (pieces_escape (by decide) name)

/-- The colon after a name that does not end in a backslash ends it.  The colons
after that one belong to the arguments. -/
theorem ofSegment?_escape_append_colon {name : List Char} (closed : name.getLast? ≠ some '\\')
    (text : List Char) :
    ofSegment? (escape [':'] name ++ ':' :: text) =
      ofTexts? name (fields ',' (unescape ':' text)) := by
  have piecesEq : pieces ':' (escape [':'] name ++ ':' :: text) = name :: pieces ':' text :=
    pieces_escape_append_mark (by decide) closed text
  have argsEq : (if (pieces ':' text).isEmpty then []
      else fields ',' ([':'].intercalate (pieces ':' text))) = fields ',' (unescape ':' text) :=
    if_neg (by simpa using pieces_ne_nil ':' text)
  rw [ofSegment?_eq piecesEq, argsEq]

/-- A backslash at the end of a name takes the colon into the name. -/
theorem ofSegment?_ne_of_backslash {call : Call} {front : List Char}
    (ends : call.name.toList = front ++ ['\\']) (text : List Char) :
    ofSegment? (escape [':'] call.name.toList ++ ':' :: text) ≠ some call := by
  obtain ⟨key, rest, piecesEq⟩ := exists_pieces_eq_cons ':' text
  have wholeEq : pieces ':' (escape [':'] call.name.toList ++ ':' :: text) =
      (front ++ ':' :: key) :: rest := by
    rw [ends, pieces_escape_backslash_append_mark (by decide), piecesEq]
    rfl
  rw [ofSegment?_eq wholeEq, ne_eq, ofTexts?_eq_some_iff, ends]
  rintro ⟨_, nameEq, _⟩
  exact trimChars_append_cons_ne (by decide) (by decide) key nameEq

/-- The segment of a call reads back as the call exactly if it is restorable. -/
theorem ofSegment?_segmentText_iff (call : Call) :
    ofSegment? call.segmentText = some call ↔ call.Restorable := by
  by_cases withArgs : call.args = []
  · rcases call with ⟨name, args⟩
    obtain rfl : args = [] := withArgs
    have segmentEq : ofSegment? (segmentText ⟨name, []⟩) = ofTexts? name.toList [] :=
      ofSegment?_escape name.toList
    rw [segmentEq, ofTexts?_eq_some_iff, restorable_nil_iff, trimChars_eq_self_iff]
    simp
  · have segmentEq : call.segmentText = escape [':'] call.name.toList ++ ':' :: call.argsText :=
      if_neg (by simpa using withArgs)
    by_cases ends : call.name.toList.getLast? = some '\\'
    · obtain ⟨front, frontEq⟩ := List.getLast?_eq_some_iff.mp ends
      rw [segmentEq, restorable_iff withArgs]
      constructor
      · intro restored
        exact absurd restored (ofSegment?_ne_of_backslash frontEq _)
      · intro restorable
        exact absurd ends restorable.1.2.2
    · rw [segmentEq, ofSegment?_escape_append_colon ends, ofTexts?_eq_some_iff, argsText,
        map_trimChars_fields_eq_iff, trimChars_eq_self_iff, restorable_iff withArgs]
      simp only [and_assoc, ne_eq, ends, not_false_eq_true, true_and]

/-! ## Rule strings of several calls -/

/-- The segments of joined renderings are those of the calls. -/
theorem pieces_renderings {calls : List Call} (nonempty : calls ≠ [])
    (closed : ∀ call ∈ calls.dropLast, call.render.toList.getLast? ≠ some '\\') :
    pieces '|' ("|".intercalate (calls.map render)).toList = calls.map segmentText := by
  have joinedEq : ("|".intercalate (calls.map render)).toList =
      ['|'].intercalate ((calls.map segmentText).map (escape ['|'])) := by
    rw [String.toList_intercalate, List.map_map, List.map_map]
    apply congrArg ['|'].intercalate
    apply List.map_congr_left
    intro call _
    exact toList_render call
  have segmentsClosed : ∀ segment ∈ (calls.map segmentText).dropLast,
      segment.getLast? ≠ some '\\' := by
    rw [← List.map_dropLast, List.forall_mem_map]
    intro call isCall
    have renderClosed := closed call isCall
    rwa [toList_render, getLast?_escape] at renderClosed
  rw [joinedEq]
  exact (pieces_intercalate_escape_iff (by decide) (by simpa using nonempty)).mpr segmentsClosed

/-- A call comes back from its rule string exactly if it is restorable, and so do
the calls of a list from their joined rule strings, if none of these but the
last ends in a backslash. -/
theorem parse_render :
    (∀ call : Call, parse call.render = [call] ↔ call.Restorable) ∧
      ∀ calls : List Call, (∀ call ∈ calls, call.Restorable) →
        (∀ call ∈ calls.dropLast, call.render.toList.getLast? ≠ some '\\') →
          parse ("|".intercalate (calls.map render)) = calls := by
  constructor
  · intro call
    rw [parse_render_eq, ← ofSegment?_segmentText_iff]
    cases ofSegment? call.segmentText <;> simp
  · intro calls restorable closed
    by_cases nonempty : calls = []
    · subst nonempty
      exact parse_empty
    · rw [parse_eq, pieces_renderings nonempty closed, List.filterMap_map]
      have found : ∀ call ∈ calls, (ofSegment? ∘ segmentText) call = some (id call) := by
        intro call isCall
        exact (ofSegment?_segmentText_iff call).mpr (restorable call isCall)
      rw [List.filterMap_eq_map_iff_forall_eq_some.mpr found, List.map_id]

/-- Backslashes that escape nothing, one of them at the end of the rule string. -/
theorem parse_render_backslashes :
    parse ("|".intercalate ([⟨"a|b", ["\\c", "d"]⟩, ⟨"in", ["x\\"]⟩].map render)) =
      [⟨"a|b", ["\\c", "d"]⟩, ⟨"in", ["x\\"]⟩] := by
  have restorable : ∀ call ∈ [⟨"a|b", ["\\c", "d"]⟩, ⟨"in", ["x\\"]⟩], Restorable call := by
    decide
  exact parse_render.2 _ restorable (by decide)

end Rulebook.Call
