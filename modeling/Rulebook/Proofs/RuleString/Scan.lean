import Rulebook.Proofs.Text.Escape
import Rulebook.Rule.Call

/-!
# Rule strings in one scan

`Call.parse` splits a rule string three times, and what one split leaves is the
input of the next.  This module defines a reader that goes through the string
once, from left to right, and proves that both find the same calls.

The scan distinguishes the zone of the name from the zone of the arguments.  A
backslash is held back until the next character says what it means.
-/

namespace Rulebook.Call

open Text

/-- The zone of a segment that a scan is in. -/
inductive Zone where
  | name
  /-- After the first plain colon: the arguments that have ended, and the
  characters of the one that has not. -/
  | args (ended : List (List Char)) (current : List Char)

namespace Zone

/-- The characters that a backslash makes plain. -/
def marks : Zone → List Char
  | name => ['|', ':']
  | args _ _ => ['|', ':', ',']

/-- The arguments at the end of a segment.  There are none if the zone of the
arguments was never entered or holds no character. -/
def texts : Zone → List (List Char)
  | name => []
  | args [] [] => []
  | args ended current => ended ++ [current]

end Zone

/-- The call that a name and arguments make.  Blanks at the ends of the texts do
not count, and without a name there is none. -/
def ofTexts? (name : List Char) (args : List (List Char)) : Option Call :=
  if (trimChars name).isEmpty then none
  else some ⟨String.ofList (trimChars name), args.map fun arg => String.ofList (trimChars arg)⟩

/-- What a scan has read of a rule string. -/
structure Scan where
  /-- The calls of the segments that have ended. -/
  calls : List Call
  /-- The characters of the name in this segment. -/
  name : List Char
  zone : Zone
  /-- The last character was a backslash that nothing was done about yet. -/
  held : Bool

namespace Scan

/-- The start of a segment. -/
def start (calls : List Call) : Scan :=
  ⟨calls, [], .name, false⟩

/-- Adds a character to the text at hand. -/
def copy (scan : Scan) (c : Char) : Scan :=
  match scan.zone with
  | .name => { scan with name := scan.name ++ [c] }
  | .args ended current => { scan with zone := .args ended (current ++ [c]) }

/-- The call of a segment that ends here. -/
def call? (scan : Scan) : Option Call :=
  ofTexts? scan.name scan.zone.texts

/-- Reads a character that no backslash belongs to. -/
def readPlain (scan : Scan) (c : Char) : Scan :=
  if c = '\\' then { scan with held := true }
  else if c = '|' then start (scan.calls ++ scan.call?.toList)
  else
    match scan.zone with
    | .name => if c = ':' then { scan with zone := .args [] [] } else scan.copy c
    | .args ended current =>
        if c = ',' then { scan with zone := .args (ended ++ [current]) [] } else scan.copy c

/-- Gives up on a held backslash, which then is a character like any other. -/
def release (scan : Scan) : Scan :=
  if scan.held then { scan.copy '\\' with held := false } else scan

/-- Reads one character. -/
def step (scan : Scan) (c : Char) : Scan :=
  if scan.held && scan.zone.marks.contains c then { scan.copy c with held := false }
  else scan.release.readPlain c

/-- The calls at the end of the string. -/
def finish (scan : Scan) : List Call :=
  scan.calls ++ scan.release.call?.toList

end Scan

/-- The calls that one scan of a rule string finds. -/
def scan (rules : String) : List Call :=
  (rules.toList.foldl Scan.step (Scan.start [])).finish

/-! ## The three splits -/

theorem Zone.texts_args (ended : List (List Char)) (current : List Char) :
    (Zone.args ended current).texts = listed (ended ++ [current]) := by
  rcases ended with _ | ⟨text, ended⟩
  · cases current <;> rfl
  · have several : text :: ended ++ [current] ≠ [[]] := by simp
    rw [listed, if_neg several]
    rfl

theorem ofSegment?_eq {segment key : List Char} {rest : List (List Char)}
    (piecesEq : pieces ':' segment = key :: rest) :
    ofSegment? segment =
      ofTexts? key (if rest.isEmpty then [] else fields ',' ([':'].intercalate rest)) := by
  cases segment with
  | nil =>
      rw [pieces_nil, List.cons.injEq] at piecesEq
      simp [← piecesEq.1, ofTexts?, ofSegment?]
  | cons c segment =>
      have fieldsEq : fields ':' (c :: segment) = key :: rest := piecesEq
      unfold ofSegment?
      rw [fieldsEq]
      rfl

/-- The empty string needs no case of its own: its one empty segment has no name. -/
theorem parse_eq (rules : String) :
    parse rules = (pieces '|' rules.toList).filterMap ofSegment? := by
  unfold parse
  cases rules.toList <;> rfl

/-- A bar that no backslash makes plain separates the calls of two rule strings. -/
theorem parse_bar {first : String} (closed : first.toList.getLast? ≠ some '\\')
    (second : String) : parse (first ++ "|" ++ second) = parse first ++ parse second := by
  have textEq : (first ++ "|" ++ second).toList = first.toList ++ '|' :: second.toList := by simp
  rw [parse_eq, parse_eq, parse_eq, textEq, pieces_append_mark (by decide) closed,
    List.filterMap_append]

namespace Scan

/-- The call that the last two splits make of the rest of a segment, added to
what a scan has read of it. -/
def close (scan : Scan) (rest : List Char) : Option Call :=
  match scan.zone with
  | .name =>
      match pieces ':' rest with
      | [] => none
      | key :: args =>
          ofTexts? (scan.name ++ key)
            (if args.isEmpty then [] else fields ',' ([':'].intercalate args))
  | .args ended current =>
      ofTexts? scan.name
        (listed (ended ++ (pieces ',' (unescape ':' rest)).modifyHead (current ++ ·)))

/-- The calls that the last two splits make of segments of which the first has
been read in part. -/
def closeAll (scan : Scan) : List (List Char) → List Call
  | [] => scan.calls
  | segment :: segments =>
      scan.calls ++ (scan.close segment).toList ++ segments.filterMap ofSegment?

/-- The calls that the three splits find in the rest of a string, of which a
held backslash is still a part. -/
def resume (scan : Scan) (rest : List Char) : List Call :=
  scan.closeAll (pieces '|' (if scan.held then '\\' :: rest else rest))

theorem close_start (calls : List Call) (segment : List Char) :
    (start calls).close segment = ofSegment? segment := by
  obtain ⟨key, rest, piecesEq⟩ := exists_pieces_eq_cons ':' segment
  rw [ofSegment?_eq piecesEq]
  change (match pieces ':' segment with
    | [] => none
    | key :: args => _) = _
  rw [piecesEq]
  rfl

theorem closeAll_start (calls : List Call) (segments : List (List Char)) :
    (start calls).closeAll segments = calls ++ segments.filterMap ofSegment? := by
  cases segments with
  | nil => simp [closeAll, start]
  | cons segment segments =>
      rw [closeAll, close_start, List.filterMap_cons]
      cases ofSegment? segment <;> simp [start]

/-- At the end of a segment the call is the one read so far. -/
theorem close_nil (scan : Scan) : scan.close [] = scan.call? := by
  rcases scan with ⟨calls, name, zone, held⟩
  cases zone with
  | name => simp [close, call?, Zone.texts]
  | args ended current => simp [close, call?, Zone.texts_args]

/-- A character that is copied can be read before the splits or by them.  For a
backslash the next character must be none that it makes plain. -/
theorem close_cons (scan : Scan) {c : Char} {rest : List Char}
    (inName : scan.zone = .name → c ≠ ':')
    (inArgs : ∀ ended current, scan.zone = .args ended current → c ≠ ',')
    (free : c = '\\' → ∀ mark ∈ scan.zone.marks, mark ≠ '|' → rest.head? ≠ some mark) :
    scan.close (c :: rest) = (scan.copy c).close rest := by
  rcases scan with ⟨calls, name, zone, held⟩
  cases zone with
  | name =>
      obtain ⟨key, args, piecesEq⟩ := exists_pieces_eq_cons ':' rest
      have freeColon : c = '\\' → rest.head? ≠ some ':' := fun backslash =>
        free backslash ':' (by simp [Zone.marks]) (by decide)
      simp [close, copy, pieces_cons (inName rfl) freeColon, piecesEq]
  | args ended current =>
      have freeColon : c = '\\' → rest.head? ≠ some ':' := fun backslash =>
        free backslash ':' (by simp [Zone.marks]) (by decide)
      have freeComma : c = '\\' → (unescape ':' rest).head? ≠ some ',' := fun backslash =>
        head?_unescape_ne (by decide) (by decide)
          (free backslash ',' (by simp [Zone.marks]) (by decide))
      have piecesEq := pieces_cons (inArgs ended current rfl) freeComma
      simp [close, copy, unescape_cons (by decide) freeColon, piecesEq, Function.comp_def]

/-- So can a character that a backslash makes plain. -/
theorem close_escaped (scan : Scan) {c : Char} (isMark : c ∈ scan.zone.marks) (notBar : c ≠ '|')
    (rest : List Char) : scan.close ('\\' :: c :: rest) = (scan.copy c).close rest := by
  rcases scan with ⟨calls, name, zone, held⟩
  cases zone with
  | name =>
      obtain rfl : c = ':' := by simpa [Zone.marks, notBar] using isMark
      obtain ⟨key, args, piecesEq⟩ := exists_pieces_eq_cons ':' rest
      simp [close, copy, piecesEq]
  | args ended current =>
      have isColonOrComma : c = ':' ∨ c = ',' := by simpa [Zone.marks, notBar] using isMark
      rcases isColonOrComma with rfl | rfl
      · have piecesEq : pieces ',' (':' :: unescape ':' rest) =
            (pieces ',' (unescape ':' rest)).modifyHead (':' :: ·) :=
          pieces_cons_plain (by decide) (by decide) _
        simp [close, copy, piecesEq, Function.comp_def]
      · have textEq : unescape ':' ('\\' :: ',' :: rest) = '\\' :: ',' :: unescape ':' rest := by
          rw [unescape_cons (by decide) (by simp), unescape_cons (by decide) (by simp)]
        simp [close, copy, textEq, Function.comp_def]

/-- A plain colon in the zone of the name opens the zone of the arguments. -/
theorem close_colon (calls : List Call) (name rest : List Char) (held : Bool) :
    close ⟨calls, name, .name, held⟩ (':' :: rest) =
      close ⟨calls, name, .args [] [], held⟩ rest := by
  obtain ⟨text, texts, textsEq⟩ := exists_pieces_eq_cons ':' rest
  have piecesEq : pieces ':' (':' :: rest) = [] :: text :: texts := by
    rw [pieces_mark (by decide), textsEq]
  have joined : fields ',' ([':'].intercalate (text :: texts)) =
      listed (pieces ',' (unescape ':' rest)) := by
    rw [fields_eq_listed (by decide), ← textsEq]
    rfl
  simp [close, piecesEq, joined]

/-- A plain comma in the zone of the arguments ends one. -/
theorem close_comma (calls : List Call) (name : List Char) (ended : List (List Char))
    (current rest : List Char) (held : Bool) :
    close ⟨calls, name, .args ended current, held⟩ (',' :: rest) =
      close ⟨calls, name, .args (ended ++ [current]) [], held⟩ rest := by
  have textEq : unescape ':' (',' :: rest) = ',' :: unescape ':' rest :=
    unescape_cons_plain (by decide) (by decide) rest
  have piecesEq : pieces ',' (',' :: unescape ':' rest) = [] :: pieces ',' (unescape ':' rest) :=
    pieces_mark (by decide) _
  simp [close, textEq, piecesEq]

theorem closeAll_modifyHead {scan next : Scan} {change : List Char → List Char}
    {segments : List (List Char)} (callsEq : next.calls = scan.calls)
    (closeEq : ∀ segment ∈ segments.head?, scan.close (change segment) = next.close segment) :
    next.closeAll segments = scan.closeAll (segments.modifyHead change) := by
  cases segments with
  | nil => exact callsEq
  | cons segment segments =>
      rw [List.modifyHead_cons, closeAll, closeAll, callsEq, closeEq segment rfl]

@[simp]
theorem calls_copy (scan : Scan) (c : Char) : (scan.copy c).calls = scan.calls := by
  rcases scan with ⟨calls, name, zone, held⟩
  cases zone <;> rfl

/-! ## Steps -/

theorem held_release (scan : Scan) : scan.release.held = false := by
  unfold release
  split
  · rfl
  · next free => simpa using free

/-- Reading a character that no backslash belongs to leaves the same calls to be
found. -/
theorem resume_readPlain {scan : Scan} (notHeld : scan.held = false) (c : Char)
    (rest : List Char) : (scan.readPlain c).resume rest = scan.resume (c :: rest) := by
  rcases scan with ⟨calls, name, zone, held⟩
  obtain rfl : held = false := notHeld
  by_cases backslash : c = '\\'
  · subst backslash
    change closeAll ⟨calls, name, zone, true⟩ (pieces '|' ('\\' :: rest)) =
      closeAll ⟨calls, name, zone, false⟩ (pieces '|' ('\\' :: rest))
    cases pieces '|' ('\\' :: rest) <;> rfl
  by_cases bar : c = '|'
  · subst bar
    change closeAll (start _) (pieces '|' rest) = closeAll _ (pieces '|' ('|' :: rest))
    rw [closeAll_start, pieces_mark (by decide), closeAll, close_nil]
  have piecesEq := pieces_cons_plain bar backslash rest
  change _ = closeAll ⟨calls, name, zone, false⟩ (pieces '|' (c :: rest))
  rw [piecesEq]
  cases zone with
  | name =>
      by_cases colon : c = ':'
      · subst colon
        exact closeAll_modifyHead rfl fun segment _ => close_colon calls name segment false
      · have copied :
            readPlain ⟨calls, name, .name, false⟩ c = copy ⟨calls, name, .name, false⟩ c := by
          simp [readPlain, backslash, bar, colon]
        rw [copied]
        exact closeAll_modifyHead rfl fun segment _ =>
          close_cons _ (fun _ => colon) nofun (fun same => absurd same backslash)
  | args ended current =>
      by_cases comma : c = ','
      · subst comma
        exact closeAll_modifyHead rfl fun segment _ =>
          close_comma calls name ended current segment false
      · have copied : readPlain ⟨calls, name, .args ended current, false⟩ c =
            copy ⟨calls, name, .args ended current, false⟩ c := by
          simp [readPlain, backslash, bar, comma]
        rw [copied]
        exact closeAll_modifyHead rfl fun segment _ =>
          close_cons _ nofun (fun _ _ _ => comma) (fun same => absurd same backslash)

/-- A held backslash may be given up where it makes nothing plain. -/
theorem resume_release (scan : Scan) {rest : List Char}
    (free : ∀ mark ∈ scan.zone.marks, rest.head? ≠ some mark) :
    scan.release.resume rest = scan.resume rest := by
  rcases scan with ⟨calls, name, zone, held⟩
  cases held with
  | false => rfl
  | true =>
      have bar : rest.head? ≠ some '|' := free '|' (by cases zone <;> simp [Zone.marks])
      have piecesEq : pieces '|' ('\\' :: rest) = (pieces '|' rest).modifyHead ('\\' :: ·) :=
        pieces_cons (by decide) fun _ => bar
      change closeAll { copy ⟨calls, name, zone, true⟩ '\\' with held := false } (pieces '|' rest) =
        closeAll ⟨calls, name, zone, true⟩ (pieces '|' ('\\' :: rest))
      rw [piecesEq]
      refine closeAll_modifyHead (calls_copy _ _) fun segment first => ?_
      obtain ⟨segments, segmentsEq⟩ := List.head?_eq_some_iff.mp first
      refine close_cons _ (by simp) (by simp) fun _ mark isMark notBar => ?_
      exact head?_ne_of_pieces_eq_cons (by decide) notBar (free mark isMark) segmentsEq

/-- Reading a character leaves the same calls to be found. -/
theorem resume_step (scan : Scan) (c : Char) (rest : List Char) :
    (scan.step c).resume rest = scan.resume (c :: rest) := by
  by_cases escaped : scan.held = true ∧ c ∈ scan.zone.marks
  · rcases scan with ⟨calls, name, zone, held⟩
    obtain ⟨rfl, isMark⟩ : held = true ∧ c ∈ zone.marks := escaped
    have stepEq : step ⟨calls, name, zone, true⟩ c =
        { copy ⟨calls, name, zone, true⟩ c with held := false } := by
      simp [step, isMark]
    rw [stepEq]
    change closeAll _ (pieces '|' rest) =
      closeAll ⟨calls, name, zone, true⟩ (pieces '|' ('\\' :: c :: rest))
    -- The first split makes a bar plain, and the other marks are left to the next two.
    by_cases bar : c = '|'
    · subst bar
      rw [pieces_escaped]
      refine closeAll_modifyHead (calls_copy _ _) fun segment _ => ?_
      exact close_cons _ (by simp) (by simp) (by simp)
    · have backslash : c ≠ '\\' := by
        rintro rfl
        cases zone <;> simp [Zone.marks] at isMark
      rw [pieces_cons (by decide) (by simpa using bar), pieces_cons_plain bar backslash,
        List.modifyHead_modifyHead]
      exact closeAll_modifyHead (calls_copy _ _) fun segment _ => close_escaped _ isMark bar segment
  · have stepEq : scan.step c = scan.release.readPlain c := by
      simp only [step, Bool.and_eq_true, List.contains_iff_mem, if_neg escaped]
    rw [stepEq, resume_readPlain (held_release scan)]
    by_cases held : scan.held = true
    · apply resume_release
      rintro mark isMark first
      obtain rfl : c = mark := by simpa using first
      exact escaped ⟨held, isMark⟩
    · rw [release, if_neg held]

/-- The rest of a string is found by reading it. -/
theorem resume_foldl (scan : Scan) (text rest : List Char) :
    (text.foldl step scan).resume rest = scan.resume (text ++ rest) := by
  induction text generalizing scan with
  | nil => rfl
  | cons c text ih => rw [List.foldl_cons, ih, resume_step, List.cons_append]

/-- At the end of the string nothing is left to be found but the last call. -/
theorem resume_nil (scan : Scan) : scan.resume [] = scan.finish := by
  have callsEq : scan.release.calls = scan.calls := by
    unfold release
    split
    · exact calls_copy scan '\\'
    · rfl
  rw [← resume_release scan (by simp), finish, ← callsEq, ← close_nil]
  have notHeld := held_release scan
  simp [resume, notHeld, closeAll]

end Scan

/-- Splitting three times and scanning once find the same calls. -/
theorem parse_eq_scan (rules : String) : parse rules = scan rules := by
  have whole := Scan.resume_foldl (Scan.start []) rules.toList []
  rw [Scan.resume_nil, List.append_nil] at whole
  rw [scan, whole, parse_eq]
  exact (Scan.closeAll_start [] _).symm

end Rulebook.Call
