import Rulebook.Proofs.RuleString.Render
import Rulebook.Proofs.Text.Join

/-!
# Blanks in rule strings

Blanks around the names and the arguments of a rule string are trimmed away, with
one exception.  A colon with nothing after it introduces no arguments, and a colon
with only blanks after it introduces one empty argument: whether there is any
argument is decided before the blanks are trimmed.
-/

namespace Rulebook.Call

open Text

/-! ## Calls of untrimmed texts -/

theorem ofTexts?_eq_none_iff {name : List Char} {args : List (List Char)} :
    ofTexts? name args = none ↔ trimChars name = [] := by
  unfold ofTexts?
  split
  · next empty => simpa using empty
  · next full => simpa using full

/-- A call has the trimmed name and the trimmed arguments and nothing else. -/
theorem ofTexts?_eq_iff {name other : List Char} {args others : List (List Char)}
    (sameName : trimChars name = trimChars other) :
    ofTexts? name args = ofTexts? other others ↔
      (trimChars name ≠ [] → args.map trimChars = others.map trimChars) := by
  have argsIff : (args.map fun arg => String.ofList (trimChars arg)) =
      (others.map fun arg => String.ofList (trimChars arg)) ↔
        args.map trimChars = others.map trimChars := by
    rw [← List.map_inj_right fun _ _ => String.ofList_inj.mp, List.map_map, List.map_map]
    rfl
  unfold ofTexts?
  rw [← sameName]
  by_cases unnamed : trimChars name = []
  · simp [unnamed]
  · simp [unnamed, argsIff]

/-! ## Spaced texts -/

theorem closed_of_blank {s : List Char} (blank : ∀ c ∈ s, isBlank c = true) :
    s.getLast? ≠ some '\\' := by
  intro last
  exact absurd (blank '\\' (List.mem_of_getLast? last)) (by decide)

/-- A text of a rule string with blanks around it.  It does not end in a
backslash, which would make the separator after it plain. -/
structure Spaced where
  before : List Char
  text : List Char
  after : List Char
  before_blank : ∀ c ∈ before, isBlank c = true
  after_blank : ∀ c ∈ after, isBlank c = true
  text_closed : text.getLast? ≠ some '\\'

namespace Spaced

/-- The text together with its blanks. -/
def whole (spaced : Spaced) : List Char :=
  spaced.before ++ spaced.text ++ spaced.after

/-- How the text is written where `marks` separate. -/
def write (marks : List Char) (spaced : Spaced) : List Char :=
  spaced.before ++ escape marks spaced.text ++ spaced.after

/-- The same text without the blanks. -/
def tight (spaced : Spaced) : Spaced where
  before := []
  text := spaced.text
  after := []
  before_blank := by simp
  after_blank := by simp
  text_closed := spaced.text_closed

@[simp]
theorem whole_tight (spaced : Spaced) : spaced.tight.whole = spaced.text := by
  simp [whole, tight]

/-- Blanks need no escape, so they can as well be part of the text. -/
theorem write_eq {marks : List Char} (nonblank : ∀ mark ∈ marks, isBlank mark = false)
    (spaced : Spaced) : spaced.write marks = escape marks spaced.whole := by
  have unmarked : ∀ {blanks : List Char}, (∀ c ∈ blanks, isBlank c = true) →
      escape marks blanks = blanks := by
    intro blanks blank
    apply escape_eq_self
    intro c isMember isMark
    have notBlank := nonblank c isMark
    rw [blank c isMember] at notBlank
    contradiction
  rw [write, whole, escape_append, escape_append, unmarked spaced.before_blank,
    unmarked spaced.after_blank]

theorem whole_closed (spaced : Spaced) : spaced.whole.getLast? ≠ some '\\' :=
  getLast?_append_ne (getLast?_append_ne (closed_of_blank spaced.before_blank) spaced.text_closed)
    (closed_of_blank spaced.after_blank)

theorem trimChars_whole (spaced : Spaced) : trimChars spaced.whole = trimChars spaced.text := by
  rw [whole, trimChars_append_blanks _ spaced.after_blank,
    trimChars_blanks_append spaced.before_blank]

/-- The blanks around a text are still around it after its colons were made plain. -/
theorem trimChars_unescape_whole (spaced : Spaced) :
    trimChars (unescape ':' spaced.whole) = trimChars (unescape ':' spaced.text) := by
  have unmarked : ∀ {blanks : List Char}, (∀ c ∈ blanks, isBlank c = true) →
      unescape ':' blanks = blanks := by
    intro blanks blank
    rw [unescape_eq_self_iff (by decide)]
    intro occurs
    exact absurd (blank '\\' (occurs.subset (by simp))) (by decide)
  have beforeClosed := closed_of_blank spaced.before_blank
  have textClosed := getLast?_append_ne beforeClosed spaced.text_closed
  rw [whole, unescape_append (by decide) (fun last => absurd last textClosed),
    unescape_append (by decide) (fun last => absurd last beforeClosed),
    unmarked spaced.before_blank, unmarked spaced.after_blank,
    trimChars_append_blanks _ spaced.after_blank, trimChars_blanks_append spaced.before_blank]

end Spaced

/-! ## Segments -/

/-- A segment of a rule string: a name and, where a colon follows it, arguments. -/
structure Segment where
  name : Spaced
  args : Option (List Spaced)

namespace Segment

/-- The same segment without the blanks around its texts. -/
def tight (segment : Segment) : Segment :=
  ⟨segment.name.tight, segment.args.map (List.map Spaced.tight)⟩

/-- How a segment is written. -/
def write (segment : Segment) : List Char :=
  match segment.args with
  | none => segment.name.write ['|', ':']
  | some args =>
      segment.name.write ['|', ':'] ++ ':' :: [','].intercalate (args.map (Spaced.write ['|', ',']))

/-- Nothing but blanks stands after the colon that follows a name. -/
def Dangling (segment : Segment) : Prop :=
  trimChars segment.name.text ≠ [] ∧
    ∃ arg, segment.args = some [arg] ∧ arg.text = [] ∧ arg.whole ≠ []

/-- A segment with its bars plain, as the first split leaves it. -/
def cut (segment : Segment) : List Char :=
  match segment.args with
  | none => escape [':'] segment.name.whole
  | some args =>
      escape [':'] segment.name.whole ++
        ':' :: [','].intercalate ((args.map Spaced.whole).map (escape [',']))

/-- The arguments as the splits leave them. -/
def argTexts (segment : Segment) : List (List Char) :=
  match segment.args with
  | none => []
  | some args => listed ((args.map Spaced.whole).map (unescape ':'))

theorem write_eq (segment : Segment) : segment.write = escape ['|'] segment.cut := by
  have nameEq : segment.name.write ['|', ':'] = escape ['|'] (escape [':'] segment.name.whole) := by
    rw [Spaced.write_eq (by simp [isBlank]), escape_escape (by decide) (by decide)]
  unfold write cut
  cases segment.args with
  | none => exact nameEq
  | some args =>
      have argsEq : args.map (Spaced.write ['|', ',']) =
          ((args.map Spaced.whole).map (escape [','])).map (escape ['|']) := by
        rw [List.map_map, List.map_map]
        apply List.map_congr_left
        intro arg _
        rw [Spaced.write_eq (by simp [isBlank]), Function.comp_apply, Function.comp_apply,
          escape_escape (by decide) (by decide)]
      rw [escape_append, escape_cons_plain (by decide), escape_intercalate (by decide), ← nameEq,
        ← argsEq]

theorem cut_closed (segment : Segment) : segment.cut.getLast? ≠ some '\\' := by
  have nameClosed : (escape [':'] segment.name.whole).getLast? ≠ some '\\' := by
    rw [getLast?_escape]
    exact segment.name.whole_closed
  unfold cut
  cases segment.args with
  | none => exact nameClosed
  | some args =>
      have argsClosed : ∀ text ∈ (args.map Spaced.whole).map (escape [',']),
          text.getLast? ≠ some '\\' := by
        simp only [List.forall_mem_map, getLast?_escape]
        intro arg _
        exact arg.whole_closed
      have colonClosed : [':'].getLast? ≠ some '\\' := by decide
      exact getLast?_append_ne nameClosed
        (getLast?_append_ne colonClosed (getLast?_intercalate_ne (by decide) argsClosed))

/-- What the last two splits make of a segment. -/
theorem ofSegment?_cut (segment : Segment) :
    ofSegment? segment.cut = ofTexts? segment.name.whole segment.argTexts := by
  unfold cut argTexts
  cases segment.args with
  | none => exact ofSegment?_escape segment.name.whole
  | some args =>
      have closed : ∀ text ∈ ((args.map Spaced.whole).map (unescape ':')).dropLast,
          text.getLast? ≠ some '\\' := by
        intro text isText
        obtain ⟨whole, isWhole, rfl⟩ := List.mem_map.mp (List.dropLast_subset _ isText)
        obtain ⟨arg, _, rfl⟩ := List.mem_map.mp isWhole
        rw [getLast?_unescape (by decide)]
        exact arg.whole_closed
      rw [ofSegment?_escape_append_colon segment.name.whole_closed,
        unescape_intercalate_escape (by decide) (by decide) (by decide),
        fields_intercalate_escape (by decide) closed]

/-- One empty argument is what stands for no argument. -/
theorem map_unescape_eq_lone_nil_iff (text : Spaced → List Char) {args : List Spaced} :
    (args.map text).map (unescape ':') = [[]] ↔ ∃ arg, args = [arg] ∧ text arg = [] := by
  have notBackslash : ':' ≠ '\\' := by decide
  rw [List.map_map, List.map_eq_singleton_iff]
  simp only [Function.comp_apply, unescape_eq_nil_iff notBackslash]

/-- Trimming hides the blanks around arguments, unless all that they hide is
whether there is an argument. -/
theorem map_trimChars_argTexts_eq_iff (segment : Segment) :
    segment.argTexts.map trimChars = segment.tight.argTexts.map trimChars ↔
      ¬∃ arg, segment.args = some [arg] ∧ arg.text = [] ∧ arg.whole ≠ [] := by
  rcases segment with ⟨name, _ | args⟩
  · simp [argTexts, tight]
  have trimmedEq : ((args.map Spaced.whole).map (unescape ':')).map trimChars =
      ((args.map Spaced.text).map (unescape ':')).map trimChars := by
    simp only [List.map_map]
    apply List.map_congr_left
    intro arg _
    exact arg.trimChars_unescape_whole
  have tightEq : (tight ⟨name, some args⟩).argTexts =
      listed ((args.map Spaced.text).map (unescape ':')) := by
    simp [argTexts, tight, Function.comp_def]
  rw [tightEq, argTexts]
  by_cases loneEmpty : ∃ arg, args = [arg] ∧ arg.text = []
  · obtain ⟨arg, rfl, textEq⟩ := loneEmpty
    by_cases blankless : arg.whole = []
    · simp [textEq, blankless]
    · have visible : unescape ':' arg.whole ≠ [] := by
        rwa [ne_eq, unescape_eq_nil_iff (by decide)]
      simp [textEq, blankless, visible, listed]
  · -- No list that is compared here is the one that stands for none.
    have textsNe : (args.map Spaced.text).map (unescape ':') ≠ [[]] := fun lone =>
      loneEmpty ((map_unescape_eq_lone_nil_iff Spaced.text).mp lone)
    have wholesNe : (args.map Spaced.whole).map (unescape ':') ≠ [[]] := by
      intro lone
      obtain ⟨arg, argsEq, wholeEq⟩ := (map_unescape_eq_lone_nil_iff Spaced.whole).mp lone
      rw [Spaced.whole, List.append_eq_nil_iff, List.append_eq_nil_iff] at wholeEq
      exact loneEmpty ⟨arg, argsEq, wholeEq.1.2⟩
    simp only [listed, if_neg textsNe, if_neg wholesNe, trimmedEq, true_iff]
    rintro ⟨arg, argsEq, textEq, _⟩
    exact loneEmpty ⟨arg, Option.some.inj argsEq, textEq⟩

/-- A segment is read the same without the blanks, unless it is a dangling one. -/
theorem ofSegment?_cut_tight_iff (segment : Segment) :
    ofSegment? segment.cut = ofSegment? segment.tight.cut ↔ ¬segment.Dangling := by
  have sameName : trimChars segment.name.whole = trimChars segment.tight.name.whole := by
    rw [segment.name.trimChars_whole]
    exact congrArg trimChars segment.name.whole_tight.symm
  rw [ofSegment?_cut, ofSegment?_cut, ofTexts?_eq_iff sameName, map_trimChars_argTexts_eq_iff,
    segment.name.trimChars_whole, Dangling, not_and]

/-- Blanks cannot make a segment appear or disappear. -/
theorem isSome_ofSegment?_cut_tight (segment : Segment) :
    (ofSegment? segment.cut).isSome = (ofSegment? segment.tight.cut).isSome := by
  have noneIff : ofSegment? segment.cut = none ↔ ofSegment? segment.tight.cut = none := by
    rw [ofSegment?_cut, ofSegment?_cut, ofTexts?_eq_none_iff, ofTexts?_eq_none_iff,
      segment.name.trimChars_whole]
    change _ ↔ trimChars segment.name.tight.whole = []
    rw [Spaced.whole_tight]
  rw [Bool.eq_iff_iff, Option.isSome_iff_ne_none, Option.isSome_iff_ne_none, ne_eq, ne_eq, noneIff]

end Segment

/-! ## Rule strings -/

/-- The rule string of some segments. -/
def written (segments : List Segment) : String :=
  String.ofList (['|'].intercalate (segments.map Segment.write))

/-- The bars of a written rule string separate its segments. -/
theorem parse_written (segments : List Segment) :
    parse (written segments) = segments.filterMap fun segment => ofSegment? segment.cut := by
  by_cases nonempty : segments = []
  · subst nonempty
    exact parse_empty
  have joinedEq : segments.map Segment.write = (segments.map Segment.cut).map (escape ['|']) := by
    rw [List.map_map]
    apply List.map_congr_left
    intro segment _
    exact segment.write_eq
  have closed : ∀ text ∈ (segments.map Segment.cut).dropLast, text.getLast? ≠ some '\\' := by
    intro text isText
    obtain ⟨segment, _, rfl⟩ := List.mem_map.mp (List.dropLast_subset _ isText)
    exact segment.cut_closed
  have piecesEq : pieces '|' (written segments).toList = segments.map Segment.cut := by
    rw [written, String.toList_ofList, joinedEq]
    exact (pieces_intercalate_escape_iff (by decide) (by simpa using nonempty)).mpr closed
  rw [parse_eq, piecesEq, List.filterMap_map]
  rfl

theorem filterMap_eq_filterMap_iff {α β : Type} {f g : α → Option β} {l : List α}
    (same : ∀ a ∈ l, (f a).isSome = (g a).isSome) :
    l.filterMap f = l.filterMap g ↔ ∀ a ∈ l, f a = g a := by
  induction l with
  | nil => simp
  | cons a l ih =>
      rw [List.forall_mem_cons] at same
      have rest := ih same.2
      have here := same.1
      rw [List.filterMap_cons, List.filterMap_cons, List.forall_mem_cons]
      cases first : f a <;> cases second : g a <;> simp_all

/-- Blanks around the names and the arguments of a rule string change what is read
exactly if they are all that follows the colon of a named segment. -/
theorem parse_written_tight_iff (segments : List Segment) :
    parse (written segments) = parse (written (segments.map Segment.tight)) ↔
      ∀ segment ∈ segments, ¬segment.Dangling := by
  rw [parse_written, parse_written, List.filterMap_map, filterMap_eq_filterMap_iff]
  · apply forall₂_congr
    intro segment _
    exact segment.ofSegment?_cut_tight_iff
  · intro segment _
    exact segment.isSome_ofSegment?_cut_tight

/-- One blank after the colon makes an argument out of none. -/
theorem parse_written_dangling :
    let blank : Spaced := ⟨[], [], [' '], by simp, by simp [isBlank], by simp⟩
    let segment : Segment :=
      ⟨⟨[], "between".toList, [], by simp, by simp, by decide⟩, some [blank]⟩
    written [segment] = "between: " ∧ written [segment.tight] = "between:" ∧
      parse "between: " = [⟨"between", [""]⟩] ∧ parse "between:" = [⟨"between", []⟩] := by
  decide

end Rulebook.Call
