import Mathlib.Data.List.Induction
import Rulebook.Proofs.Date.Run
import Rulebook.Proofs.Json.Numeral

/-!
# Dates in one pass

A date is written by one replacement after another, each on what the ones before have left.
Still the result is that of a single pass over the pattern, from left to right, which replaces
the first run of every letter.  That is because no replacement writes a letter that another one
looks for, and none writes nothing: so runs of the pattern neither grow together nor move into
what was written, and the order of the replacements does not count.

There is one exception.  Numbers can be padded up to a limit, and where the first run of a letter
is longer than that, no text comes of the pattern.
-/

namespace Rulebook.Date

/-- The tokens of a date. -/
def tokens (d : DateTime) : List Token :=
  ⟨'y', false, fun width => some (yearEnd d.date.year width)⟩ ::
    (paddedFields d).map (fun field => ⟨field.1, false, padded field.2⟩) ++
    [⟨'S', true, fun _ => some (decimalDigits (d.nanosecond / 1000000))⟩]

/-- Replaces the runs of tokens one after the other. -/
def replaceAll (tokens : List Token) (s : List Char) : Option (List Char) :=
  tokens.foldlM (fun s token => token.replace s) s

theorem formatChars_eq_replaceAll (d : DateTime) (s : List Char) :
    formatChars d s = replaceAll (tokens d) s := by
  simp only [replaceAll, tokens, List.cons_append, List.foldlM_cons, List.foldlM_append,
    List.foldlM_map, List.foldlM_nil, bind_pure]
  rfl

/-! ## One pass -/

/-- A part of a pattern that some runs were replaced in. -/
inductive Piece where
  /-- A character of the pattern. -/
  | kept (c : Char)
  /-- What a run was replaced by, if there was a text for it. -/
  | written (text : Option (List Char))

namespace Piece

/-- The characters of a piece. -/
def text : Piece → Option (List Char)
  | kept c => some [c]
  | written text => text

/-- The characters of pieces in a row, if all of them have a text. -/
def spread : List Piece → Option (List Char)
  | [] => some []
  | piece :: pieces => piece.text.bind fun text => (spread pieces).map fun rest => text ++ rest

theorem spread_cons (piece : Piece) (pieces : List Piece) :
    spread (piece :: pieces) =
      piece.text.bind fun text => (spread pieces).map fun rest => text ++ rest :=
  rfl

theorem spread_cons_eq_some_iff {piece : Piece} {pieces : List Piece} {s : List Char} :
    spread (piece :: pieces) = some s ↔
      ∃ front rest, piece.text = some front ∧ spread pieces = some rest ∧ front ++ rest = s := by
  simp only [spread_cons, Option.bind_eq_some_iff, Option.map_eq_some_iff, exists_and_left]

theorem spread_append (front back : List Piece) :
    spread (front ++ back) =
      (spread front).bind fun text => (spread back).map fun rest => text ++ rest := by
  induction front with
  | nil => simp [spread]
  | cons piece front ih =>
      rw [List.cons_append, spread_cons, spread_cons, ih]
      cases piece.text <;> cases spread front <;> cases spread back <;> simp

theorem spread_replicate_kept (count : Nat) (c : Char) :
    spread (List.replicate count (kept c)) = some (List.replicate count c) := by
  induction count with
  | zero => rfl
  | succ count ih =>
      rw [List.replicate_succ, spread_cons, ih, List.replicate_succ]
      rfl

/-- Pieces in a row have a text unless one of them was written without any. -/
theorem spread_eq_none_iff {pieces : List Piece} :
    spread pieces = none ↔ written none ∈ pieces := by
  induction pieces with
  | nil => simp [spread]
  | cons piece pieces ih =>
      rw [spread_cons, List.mem_cons, ← ih]
      cases piece with
      | kept c => simp [text]
      | written text => cases text <;> simp [Piece.text]

end Piece

open Piece

/-- The tokens with other letters. -/
def without (c : Char) (tokens : List Token) : List Token :=
  tokens.filter fun token => token.letter != c

/-- Goes through a pattern once.  A token that has not had its run yet replaces it as soon as its
letter comes up, and everything else is kept. -/
def pass (waiting : List Token) : List Char → List Piece
  | [] => []
  | c :: rest =>
      match waiting.find? fun token => token.letter == c with
      | some token =>
          written (token.render (token.more rest + 1)) ::
            pass (without c waiting) (rest.drop (token.more rest))
      | none => kept c :: pass waiting rest
termination_by s => s.length
decreasing_by
  · simp only [List.length_cons, List.length_drop]
    omega
  · exact Nat.lt_succ_self _

section

variable {waiting : List Token} {c : Char} {rest : List Char}

theorem pass_cons_of_find? {token : Token}
    (found : waiting.find? (fun token => token.letter == c) = some token) :
    pass waiting (c :: rest) = written (token.render (token.more rest + 1)) ::
      pass (without c waiting) (rest.drop (token.more rest)) := by
  rw [pass, found]

theorem find?_letter_eq_none (foreign : ∀ token ∈ waiting, token.letter ≠ c) :
    (waiting.find? fun token => token.letter == c) = none := by
  simpa using foreign

theorem pass_cons_of_foreign (foreign : ∀ token ∈ waiting, token.letter ≠ c) :
    pass waiting (c :: rest) = kept c :: pass waiting rest := by
  rw [pass, find?_letter_eq_none foreign]

/-- Characters that no token looks for are kept. -/
theorem pass_replicate (foreign : ∀ token ∈ waiting, token.letter ≠ c) (count : Nat)
    (s : List Char) :
    pass waiting (List.replicate count c ++ s) =
      List.replicate count (kept c) ++ pass waiting s := by
  induction count with
  | zero => rfl
  | succ count ih =>
      rw [List.replicate_succ, List.cons_append, pass_cons_of_foreign foreign, ih,
        List.replicate_succ, List.cons_append]

/-- Where no token waits nothing changes. -/
theorem spread_pass_nil (s : List Char) : spread (pass [] s) = some s := by
  induction s with
  | nil =>
      rw [pass]
      rfl
  | cons c rest ih =>
      rw [pass_cons_of_foreign (List.forall_mem_nil _), spread_cons, ih]
      rfl

/-- What is kept first comes first. -/
theorem head?_of_head?_pass {s : List Char} (first : (pass waiting s).head? = some (kept c)) :
    s.head? = some c := by
  cases s with
  | nil => simp [pass] at first
  | cons b rest =>
      rw [pass] at first
      split at first
      · simp at first
      · simpa using first

end

/-! ## The turn of a token -/

/-- What a token does to pieces when it has its turn: it replaces its first run, which consists of
characters of the pattern only, and touches nothing else. -/
inductive Fills (token : Token) : List Piece → List Piece → Prop
  /-- The letter does not come up. -/
  | absent {pieces : List Piece} (absent : kept token.letter ∉ pieces) : Fills token pieces pieces
  /-- The run is as long as it can be, unless the letter stands for the field alone. -/
  | run (front back : List Piece) (count : Nat) (first : kept token.letter ∉ front)
      (alone : token.single = true → count = 0)
      (maximal : token.single = false → back.head? ≠ some (kept token.letter)) :
      Fills token (front ++ (List.replicate (count + 1) (kept token.letter) ++ back))
        (front ++ written (token.render (count + 1)) :: back)

/-! ## Taking turns -/

section

variable {token : Token} {waiting : List Token}

theorem Fills.cons {before after : List Piece} (fills : Fills token before after) {piece : Piece}
    (differs : piece ≠ kept token.letter) : Fills token (piece :: before) (piece :: after) := by
  cases fills with
  | absent absent =>
      apply Fills.absent
      rw [List.mem_cons, not_or]
      exact ⟨Ne.symm differs, absent⟩
  | run front back count first alone maximal =>
      have stillFirst : kept token.letter ∉ piece :: front := by
        rw [List.mem_cons, not_or]
        exact ⟨Ne.symm differs, first⟩
      exact Fills.run (piece :: front) back count stillFirst alone maximal

/-- At its letter, a token takes the run that the others would leave as it is. -/
theorem fills_pass_letter (new : ∀ other ∈ waiting, other.letter ≠ token.letter)
    (rest : List Char) :
    Fills token (kept token.letter :: pass waiting rest)
      (written (token.render (token.more rest + 1)) ::
        pass waiting (rest.drop (token.more rest))) := by
  cases single : token.single with
  | true =>
      rw [Token.more_of_single single, List.drop_zero]
      exact Fills.run [] _ 0 List.not_mem_nil (fun _ => rfl) (fun runs => by simp [single] at runs)
  | false =>
      obtain ⟨count, back, rfl, maximal⟩ := exists_eq_replicate_append token.letter rest
      have stillMaximal : (pass waiting back).head? ≠ some (kept token.letter) :=
        fun first => maximal (head?_of_head?_pass first)
      rw [Token.more_replicate_append single maximal, pass_replicate new,
        List.drop_left' List.length_replicate]
      exact Fills.run [] _ count List.not_mem_nil (fun alone => by simp [single] at alone)
        (fun _ => stillMaximal)

/-- A token that waits with others has its turn in what the others leave. -/
theorem fills_pass (new : ∀ other ∈ waiting, other.letter ≠ token.letter) (s : List Char) :
    Fills token (pass waiting s) (pass (token :: waiting) s) := by
  fun_induction pass waiting s with
  | case1 waiting =>
      rw [pass]
      exact .absent List.not_mem_nil
  | case2 waiting c rest other found ih =>
      have isWaiting := List.mem_of_find?_eq_some found
      have letterEq : other.letter = c := by simpa using List.find?_some found
      have differs : token.letter ≠ c := fun same => new other isWaiting (letterEq.trans same.symm)
      have foundToo : (token :: waiting).find? (fun token => token.letter == c) = some other := by
        rw [List.find?_cons_of_neg (by simpa using differs), found]
      have left : without c (token :: waiting) = token :: without c waiting :=
        List.filter_cons_of_pos (by simpa using differs)
      have newToo : ∀ other ∈ without c waiting, other.letter ≠ token.letter :=
        fun other isLeft => new other (List.mem_of_mem_filter isLeft)
      rw [pass_cons_of_find? foundToo, left]
      exact (ih newToo).cons Piece.noConfusion
  | case3 waiting c rest foreign ih =>
      by_cases same : token.letter = c
      · subst same
        have found : (token :: waiting).find? (fun other => other.letter == token.letter) =
            some token := List.find?_cons_of_pos (beq_self_eq_true _)
        have left : without token.letter (token :: waiting) = waiting := by
          rw [without, List.filter_cons_of_neg (by simp), List.filter_eq_self]
          simpa using new
        rw [pass_cons_of_find? found, left]
        exact fills_pass_letter new rest
      · have foreignToo : ∀ other ∈ token :: waiting, other.letter ≠ c := by
          rw [List.forall_mem_cons]
          exact ⟨same, by simpa using foreign⟩
        rw [pass_cons_of_foreign foreignToo]
        exact (ih new).cons fun isLetter => same (Piece.kept.inj isLetter).symm

end

/-! ## Replacements in texts -/

section

variable {token : Token} {before after : List Piece}

/-- Pieces that hide no letter of a token and are not empty either: each that was written has
some characters, but not the letter. -/
def Clean (token : Token) (pieces : List Piece) : Prop :=
  ∀ text, written (some text) ∈ pieces → text ≠ [] ∧ token.letter ∉ text

theorem Clean.not_mem_of_spread (clean : Clean token before)
    (absent : kept token.letter ∉ before) {s : List Char} (spreads : spread before = some s) :
    token.letter ∉ s := by
  induction before generalizing s with
  | nil =>
      cases spreads
      exact List.not_mem_nil
  | cons piece pieces ih =>
      obtain ⟨front, rest, isFront, isRest, rfl⟩ := spread_cons_eq_some_iff.mp spreads
      have cleanRest : Clean token pieces :=
        fun text isPart => clean text (List.mem_cons_of_mem piece isPart)
      rw [List.mem_cons, not_or] at absent
      rw [List.mem_append, not_or]
      refine ⟨?_, ih cleanRest absent.2 isRest⟩
      cases piece with
      | kept c =>
          obtain rfl := Option.some.inj isFront
          rw [List.mem_singleton]
          rintro rfl
          exact absent.1 rfl
      | written text =>
          rw [Piece.text] at isFront
          exact (clean front (isFront ▸ List.mem_cons_self)).2

theorem Clean.head?_ne_of_spread (clean : Clean token before)
    (maximal : before.head? ≠ some (kept token.letter)) {s : List Char}
    (spreads : spread before = some s) : s.head? ≠ some token.letter := by
  intro first
  cases before with
  | nil =>
      cases spreads
      cases first
  | cons piece pieces =>
      obtain ⟨front, rest, isFront, isRest, rfl⟩ := spread_cons_eq_some_iff.mp spreads
      cases piece with
      | kept c =>
          obtain rfl := Option.some.inj isFront
          have same : c = token.letter := Option.some.inj first
          exact maximal (by rw [List.head?_cons, same])
      | written text =>
          rw [Piece.text] at isFront
          obtain ⟨someText, noLetter⟩ := clean front (isFront ▸ List.mem_cons_self)
          rw [List.head?_append_of_ne_nil _ someText] at first
          exact noLetter (List.mem_of_mem_head? first)

/-- A token that has its turn in clean pieces cannot tell them from their text. -/
theorem Fills.replace_spread (fills : Fills token before after) (clean : Clean token before) :
    (spread before).bind token.replace = spread after := by
  cases fills with
  | absent absent =>
      cases spreads : spread before with
      | none => rfl
      | some s => exact Token.replace_of_not_mem (clean.not_mem_of_spread absent spreads)
  | run front back count first alone maximal =>
      have cleanFront : Clean token front :=
        fun text isPart => clean text (List.mem_append_left _ isPart)
      have cleanBack : Clean token back :=
        fun text isPart => clean text (List.mem_append_right _ (List.mem_append_right _ isPart))
      rw [spread_append, spread_append, spread_replicate_kept, spread_append, spread_cons,
        Piece.text]
      cases isFront : spread front with
      | none => rfl
      | some f =>
          cases isBack : spread back with
          | none => cases token.render (count + 1) <;> rfl
          | some b =>
              have replaced := Token.replace_append_run
                (cleanFront.not_mem_of_spread first isFront) alone
                fun runs => cleanBack.head?_ne_of_spread (maximal runs) isBack
              simp only [Option.bind_some, Option.map_some, replaced]
              cases token.render (count + 1) <;> simp

end

/-! ## Turns in any order -/

/-- Tokens that do not get in each other's way. -/
structure Orderly (tokens : List Token) : Prop where
  distinct : (tokens.map Token.letter).Nodup
  /-- None writes nothing. -/
  ne_nil_of_render : ∀ token ∈ tokens, ∀ n, ∀ text ∈ token.render (n + 1), text ≠ []
  /-- None writes a letter that another one looks for. -/
  not_mem_of_render : ∀ token ∈ tokens, ∀ other ∈ tokens, ∀ n, ∀ text ∈ token.render (n + 1),
    other.letter ∉ text

section

variable {waiting order : List Token}

theorem find?_letter_eq_some_iff (distinct : (waiting.map Token.letter).Nodup) {c : Char}
    {token : Token} :
    waiting.find? (fun token => token.letter == c) = some token ↔
      token ∈ waiting ∧ token.letter = c := by
  induction waiting with
  | nil => simp
  | cons first waiting ih =>
      rw [List.map_cons, List.nodup_cons] at distinct
      by_cases same : first.letter = c
      · have isFirst : ∀ token ∈ waiting, token.letter ≠ c := by
          rintro token isWaiting rfl
          exact distinct.1 (same ▸ List.mem_map_of_mem isWaiting)
        rw [List.find?_cons_of_pos (by simpa using same), Option.some.injEq, List.mem_cons]
        constructor
        · rintro rfl
          exact ⟨.inl rfl, same⟩
        · rintro ⟨rfl | isWaiting, letterEq⟩
          · rfl
          · exact absurd letterEq (isFirst token isWaiting)
      · rw [List.find?_cons_of_neg (by simpa using same), ih distinct.2, List.mem_cons]
        constructor
        · rintro ⟨isWaiting, letterEq⟩
          exact ⟨.inr isWaiting, letterEq⟩
        · rintro ⟨rfl | isWaiting, letterEq⟩
          · exact absurd letterEq same
          · exact ⟨isWaiting, letterEq⟩

/-- A pattern that begins with the run of a token begins with its text when it is written. -/
theorem pass_run (distinct : (waiting.map Token.letter).Nodup) {token : Token}
    (isWaiting : token ∈ waiting) {back : List Char} {count : Nat}
    (alone : token.single = true → count = 0)
    (maximal : token.single = false → back.head? ≠ some token.letter) :
    pass waiting (List.replicate (count + 1) token.letter ++ back) =
      written (token.render (count + 1)) :: pass (without token.letter waiting) back := by
  have found : waiting.find? (fun other => other.letter == token.letter) = some token :=
    (find?_letter_eq_some_iff distinct).mpr ⟨isWaiting, rfl⟩
  rw [List.replicate_succ, List.cons_append, pass_cons_of_find? found,
    Token.more_run alone maximal, List.drop_left' List.length_replicate]

/-- It does not matter in which order tokens wait. -/
theorem pass_perm (distinct : (waiting.map Token.letter).Nodup) (reordered : order.Perm waiting)
    (s : List Char) : pass order s = pass waiting s := by
  have distinctToo : (order.map Token.letter).Nodup :=
    (reordered.map Token.letter).nodup_iff.mpr distinct
  fun_induction pass waiting s generalizing order with
  | case1 => rw [pass]
  | case2 waiting c rest token found ih =>
      obtain ⟨isWaiting, letterEq⟩ := (find?_letter_eq_some_iff distinct).mp found
      have foundToo : order.find? (fun token => token.letter == c) = some token :=
        (find?_letter_eq_some_iff distinctToo).mpr ⟨reordered.mem_iff.mpr isWaiting, letterEq⟩
      have left : (without c order).Perm (without c waiting) := reordered.filter _
      have distinctLeft : ((without c waiting).map Token.letter).Nodup :=
        distinct.sublist (List.filter_sublist.map _)
      rw [pass_cons_of_find? foundToo,
        ih distinctLeft left ((left.map Token.letter).nodup_iff.mpr distinctLeft)]
  | case3 waiting c rest foreign ih =>
      have foreignToo : ∀ token ∈ order, token.letter ≠ c := by
        intro token isWaiting
        rw [reordered.mem_iff] at isWaiting
        simpa using List.find?_eq_none.mp foreign token isWaiting
      rw [pass_cons_of_foreign foreignToo, ih distinct reordered distinctToo]

/-- A pass writes for each token whose letter comes up what its first run renders to, and nothing
else. -/
theorem written_mem_pass_iff (distinct : (waiting.map Token.letter).Nodup) {s : List Char}
    {text : Option (List Char)} :
    written text ∈ pass waiting s ↔
      ∃ token ∈ waiting, token.letter ∈ s ∧ text = token.render (token.width s) := by
  fun_induction pass waiting s with
  | case1 => simp
  | case2 waiting c rest token found ih =>
      obtain ⟨isWaiting, rfl⟩ := (find?_letter_eq_some_iff distinct).mp found
      have distinctLeft : ((without token.letter waiting).map Token.letter).Nodup :=
        distinct.sublist (List.filter_sublist.map _)
      rw [List.mem_cons, Piece.written.injEq, ih distinctLeft]
      constructor
      · rintro (rfl | ⟨other, isLeft, occurs, rfl⟩)
        · exact ⟨token, isWaiting, List.mem_cons_self, by rw [token.width_cons_letter]⟩
        · have differs : other.letter ≠ token.letter := by simpa using List.of_mem_filter isLeft
          refine ⟨other, List.mem_of_mem_filter isLeft, ?_, ?_⟩
          · exact List.mem_cons_of_mem _ ((Token.mem_drop_more differs).mp occurs)
          · rw [Token.width_drop_more differs, Token.width_cons_of_ne (Ne.symm differs)]
      · rintro ⟨other, isOther, occurs, rfl⟩
        by_cases same : other.letter = token.letter
        · have foundOther := (find?_letter_eq_some_iff distinct).mpr ⟨isOther, same⟩
          obtain rfl := Option.some.inj (found.symm.trans foundOther)
          exact .inl (by rw [token.width_cons_letter])
        · refine .inr ⟨other, List.mem_filter.mpr ⟨isOther, by simpa using same⟩, ?_, ?_⟩
          · exact (Token.mem_drop_more same).mpr ((List.mem_cons.mp occurs).resolve_left same)
          · rw [Token.width_drop_more same, Token.width_cons_of_ne (Ne.symm same)]
  | case3 waiting c rest foreign ih =>
      rw [List.mem_cons, or_iff_right Piece.noConfusion, ih distinct]
      apply exists_congr
      intro token
      apply and_congr_right
      intro isWaiting
      have differs : token.letter ≠ c := by
        simpa using List.find?_eq_none.mp foreign token isWaiting
      rw [List.mem_cons, or_iff_right differs, Token.width_cons_of_ne (Ne.symm differs)]

namespace Orderly

theorem perm (orderly : Orderly waiting) (reordered : order.Perm waiting) : Orderly order where
  distinct := (reordered.map Token.letter).nodup_iff.mpr orderly.distinct
  ne_nil_of_render token isToken := orderly.ne_nil_of_render token (reordered.mem_iff.mp isToken)
  not_mem_of_render token isToken other isOther :=
    orderly.not_mem_of_render token (reordered.mem_iff.mp isToken) other
      (reordered.mem_iff.mp isOther)

theorem sublist (orderly : Orderly waiting) (some : order.Sublist waiting) : Orderly order where
  distinct := orderly.distinct.sublist (some.map _)
  ne_nil_of_render token isToken := orderly.ne_nil_of_render token (some.subset isToken)
  not_mem_of_render token isToken other isOther :=
    orderly.not_mem_of_render token (some.subset isToken) other (some.subset isOther)

variable {earlier : List Token} {token : Token}

/-- A token that comes last has its turn in what the earlier ones have left. -/
theorem fills (orderly : Orderly (earlier ++ [token])) (s : List Char) :
    Fills token (pass earlier s) (pass (earlier ++ [token]) s) := by
  have reordered : (token :: earlier).Perm (earlier ++ [token]) :=
    (List.perm_append_singleton token earlier).symm
  have distinct := (orderly.perm reordered).distinct
  rw [List.map_cons, List.nodup_cons] at distinct
  rw [← pass_perm orderly.distinct reordered]
  apply fills_pass
  intro other isOther same
  exact distinct.1 (same ▸ List.mem_map_of_mem isOther)

/-- The earlier tokens have written nothing that the last one could take for its letter. -/
theorem clean (orderly : Orderly (earlier ++ [token])) (s : List Char) :
    Clean token (pass earlier s) := by
  intro text isPart
  have alone := orderly.sublist (List.sublist_append_left earlier [token])
  obtain ⟨other, isEarlier, occurs, renders⟩ := (written_mem_pass_iff alone.distinct).mp isPart
  obtain ⟨n, widthEq⟩ := Token.exists_width_eq occurs
  rw [widthEq] at renders
  have isOther : other ∈ earlier ++ [token] := List.mem_append_left _ isEarlier
  have isToken : token ∈ earlier ++ [token] := List.mem_append_right _ (List.mem_singleton_self _)
  exact ⟨orderly.ne_nil_of_render other isOther n text renders.symm,
    orderly.not_mem_of_render other isOther token isToken n text renders.symm⟩

/-- One more token has its turn after the others. -/
theorem replaceAll_append_singleton (earlier : List Token) (token : Token) (s : List Char) :
    replaceAll (earlier ++ [token]) s = (replaceAll earlier s).bind token.replace := by
  rw [replaceAll, List.foldlM_append]
  simp only [List.foldlM_cons, List.foldlM_nil, bind_pure]
  rfl

/-- Replacements one after the other are one pass. -/
theorem replaceAll_eq (orderly : Orderly order) (s : List Char) :
    replaceAll order s = spread (pass order s) := by
  induction order using List.reverseRecOn with
  | nil => exact (spread_pass_nil s).symm
  | append_singleton earlier token ih =>
      have before := ih (orderly.sublist (List.sublist_append_left _ _))
      calc
        replaceAll (earlier ++ [token]) s = (replaceAll earlier s).bind token.replace :=
          replaceAll_append_singleton earlier token s
        _ = (spread (pass earlier s)).bind token.replace := by rw [before]
        _ = spread (pass (earlier ++ [token]) s) :=
          (orderly.fills s).replace_spread (orderly.clean s)

end Orderly

end

/-! ## The tokens of a date -/

/-- A text for numbers: digits and signs, of which there are some. -/
def IsFigures (text : List Char) : Prop :=
  text ≠ [] ∧ ∀ c ∈ text, c.isDigit = true ∨ c = '-'

theorem isFigures_decimalDigits (n : Nat) : IsFigures (decimalDigits n) :=
  ⟨decimalDigits_ne_nil n, fun _ isPart => .inl (isDigit_of_mem_decimalDigits isPart)⟩

theorem isFigures_zeroFilled (n width : Nat) : IsFigures (zeroFilled n width) := by
  obtain ⟨someDigits, areDigits⟩ := isFigures_decimalDigits n
  refine ⟨fun nothing => someDigits (List.append_eq_nil_iff.mp nothing).2, fun c isPart => ?_⟩
  rcases List.mem_append.mp isPart with isZero | isDigit
  · rw [List.eq_of_mem_replicate isZero]
    exact .inl (by decide)
  · exact areDigits c isDigit

theorem padded_eq_some_iff {n width : Nat} {text : List Char} :
    padded n width = some text ↔ width ≤ greatestWidth ∧ zeroFilled n width = text := by
  rw [padded, Option.ite_none_right_eq_some, Option.some.injEq]

theorem padded_eq_none_iff {n width : Nat} : padded n width = none ↔ greatestWidth < width := by
  rw [padded, ite_eq_right_iff, ← Nat.not_le]
  simp

theorem isFigures_yearText (year : Int) : IsFigures (yearText year) := by
  obtain ⟨someDigits, areDigits⟩ := isFigures_decimalDigits year.natAbs
  rw [yearText]
  split
  · exact ⟨List.cons_ne_nil _ _, List.forall_mem_cons.mpr ⟨.inr rfl, areDigits⟩⟩
  · exact ⟨someDigits, areDigits⟩

theorem isFigures_yearEnd (year : Int) (n : Nat) : IsFigures (yearEnd year (n + 1)) := by
  obtain ⟨someFigures, areFigures⟩ := isFigures_yearText year
  refine ⟨fun nothing => ?_, fun c isPart => areFigures c (List.mem_of_mem_drop isPart)⟩
  have positive := List.length_pos_iff.mpr someFigures
  have all := List.drop_eq_nil_iff.mp nothing
  omega

/-- What a token of a date writes is a number. -/
theorem isFigures_render {d : DateTime} {token : Token} (isToken : token ∈ tokens d) {n : Nat}
    {text : List Char} (renders : token.render (n + 1) = some text) : IsFigures text := by
  rw [tokens, List.mem_append, List.mem_cons, List.mem_map, List.mem_singleton] at isToken
  rcases isToken with (rfl | ⟨field, -, rfl⟩) | rfl
  · obtain rfl := Option.some.inj renders
    exact isFigures_yearEnd _ n
  · obtain ⟨-, rfl⟩ := padded_eq_some_iff.mp renders
    exact isFigures_zeroFilled _ _
  · obtain rfl := Option.some.inj renders
    exact isFigures_decimalDigits _

theorem letters_tokens (d : DateTime) :
    (tokens d).map Token.letter = ['y', 'M', 'd', 'h', 'm', 's', 'q', 'S'] :=
  rfl

theorem orderly_tokens (d : DateTime) : Orderly (tokens d) where
  distinct := by
    rw [letters_tokens]
    decide
  ne_nil_of_render token isToken n text renders := (isFigures_render isToken renders).1
  not_mem_of_render token isToken other isOther n text renders isPart := by
    have isLetter : other.letter ∈ (tokens d).map Token.letter := List.mem_map_of_mem isOther
    have noFigures : ∀ c ∈ ['y', 'M', 'd', 'h', 'm', 's', 'q', 'S'],
        ¬(c.isDigit = true ∨ c = '-') := by simp
    rw [letters_tokens] at isLetter
    exact noFigures _ isLetter ((isFigures_render isToken renders).2 _ isPart)

theorem formatChars_eq_spread_pass (d : DateTime) (s : List Char) :
    formatChars d s = spread (pass (tokens d) s) := by
  rw [formatChars_eq_replaceAll, (orderly_tokens d).replaceAll_eq]

theorem letters_paddedFields (d : DateTime) :
    (paddedFields d).map Prod.fst = ['M', 'd', 'h', 'm', 's', 'q'] :=
  rfl

theorem token_mem_of_mem_paddedFields {d : DateTime} {letter : Char} {n : Nat}
    (isField : (letter, n) ∈ paddedFields d) : (⟨letter, false, padded n⟩ : Token) ∈ tokens d :=
  List.mem_append_left _ (List.mem_cons_of_mem _ (List.mem_map.mpr ⟨_, isField, rfl⟩))

/-- There is no text just where a number would have to be padded to too great a width. -/
theorem formatChars_eq_none_iff (d : DateTime) (s : List Char) :
    formatChars d s = none ↔
      ∃ letter ∈ ['M', 'd', 'h', 'm', 's', 'q'], greatestWidth < (firstRun letter s).length := by
  rw [formatChars_eq_spread_pass, spread_eq_none_iff,
    written_mem_pass_iff (orderly_tokens d).distinct, ← letters_paddedFields d]
  constructor
  · rintro ⟨token, isToken, occurs, noText⟩
    rw [tokens, List.mem_append, List.mem_cons, List.mem_map, List.mem_singleton] at isToken
    rcases isToken with (rfl | ⟨field, isField, rfl⟩) | rfl
    · cases noText
    · exact ⟨field.1, List.mem_map_of_mem isField, padded_eq_none_iff.mp noText.symm⟩
    · cases noText
  · rintro ⟨letter, isLetter, tooWide⟩
    obtain ⟨⟨letter, n⟩, isField, rfl⟩ := List.mem_map.mp isLetter
    have occurs : letter ∈ s := by
      apply mem_of_firstRun_ne_nil
      rintro nothing
      simp [nothing] at tooWide
    exact ⟨_, token_mem_of_mem_paddedFields isField, occurs, (padded_eq_none_iff.mpr tooWide).symm⟩

/-- A date is written by one pass over the pattern.  Whatever the order is in which its tokens
have their turns, the text is the same, and every token replaces characters of the pattern only:
nothing that was written before its turn is touched.  There is such a text for every pattern but
those in which the first run of a letter for a padded field is longer than 65535 characters. -/
theorem format_eq_pass (d : DateTime) (pattern : String) :
    (format d pattern = none ↔
      ∃ letter ∈ ['M', 'd', 'h', 'm', 's', 'q'],
        65535 < (firstRun letter pattern.toList).length) ∧
      format d pattern = (spread (pass (tokens d) pattern.toList)).map String.ofList ∧
      ∀ order : List Token, order.Perm (tokens d) →
        (replaceAll order pattern.toList).map String.ofList = format d pattern ∧
        ∀ earlier token later, order = earlier ++ token :: later →
          Fills token (pass earlier pattern.toList) (pass (earlier ++ [token]) pattern.toList) ∧
          replaceAll earlier pattern.toList = spread (pass earlier pattern.toList) ∧
          (replaceAll earlier pattern.toList).bind token.replace =
            spread (pass (earlier ++ [token]) pattern.toList) := by
  have orderly := orderly_tokens d
  have onePass : format d pattern =
      (spread (pass (tokens d) pattern.toList)).map String.ofList := by
    rw [format, formatChars_eq_spread_pass]
  refine ⟨?_, onePass, fun order reordered => ⟨?_, ?_⟩⟩
  · rw [format, Option.map_eq_none_iff]
    exact formatChars_eq_none_iff d pattern.toList
  · rw [(orderly.perm reordered).replaceAll_eq, pass_perm orderly.distinct reordered, onePass]
  · rintro earlier token later rfl
    have here : Orderly (earlier ++ [token]) := by
      apply (orderly.perm reordered).sublist
      exact (List.Sublist.refl earlier).append (List.singleton_sublist.mpr List.mem_cons_self)
    have before := (here.sublist (List.sublist_append_left _ _)).replaceAll_eq pattern.toList
    refine ⟨here.fills _, before, ?_⟩
    rw [before]
    exact (here.fills _).replace_spread (here.clean _)

/-- A year before zero, letters that come up again, and the tokens from the last to the first. -/
theorem format_eq_pass_backwards :
    let d : DateTime := ⟨⟨-5, 3, 4⟩, 5, 6, 7, 8000000⟩
    let pattern := "yyyyMM-ddThh:mm:ss.SS y"
    (tokens d).reverse.Perm (tokens d) ∧
      (replaceAll (tokens d).reverse pattern.toList).map String.ofList =
        some "-503-04T05:06:07.8S y" ∧
      ∃ earlier token later, (tokens d).reverse = earlier ++ token :: later ∧ token.letter = 'q' ∧
        Fills token (pass earlier pattern.toList) (pass (earlier ++ [token]) pattern.toList) := by
  intro d pattern
  have reordered : (tokens d).reverse.Perm (tokens d) := List.reverse_perm _
  have written : format d pattern = some "-503-04T05:06:07.8S y" := by decide +kernel
  obtain ⟨-, -, anyOrder⟩ := format_eq_pass d pattern
  obtain ⟨same, turns⟩ := anyOrder _ reordered
  refine ⟨reordered, same.trans written, _, _, _, rfl, rfl, (turns [_] _ _ rfl).1⟩

/-- A pattern that is one run of a letter is replaced by its field. -/
theorem formatChars_replicate {d : DateTime} {letter : Char} {n : Nat}
    (isField : (letter, n) ∈ paddedFields d) (count : Nat) :
    formatChars d (List.replicate (count + 1) letter) = padded n (count + 1) := by
  have run : pass (tokens d) (List.replicate (count + 1) letter ++ []) =
      written (padded n (count + 1)) :: pass (without letter (tokens d)) [] :=
    pass_run (orderly_tokens d).distinct (token_mem_of_mem_paddedFields isField) nofun
      (fun _ => nofun)
  rw [List.append_nil, pass] at run
  rw [formatChars_eq_spread_pass, run]
  cases padded n (count + 1) <;> simp [spread, Piece.text]

/-- Three is padded to the greatest width, but not to the next one. -/
theorem format_run_too_long :
    let d : DateTime := ⟨⟨2015, 3, 4⟩, 0, 0, 0, 0⟩
    format d (String.ofList (List.replicate 65535 'M')) =
        some (String.ofList (List.replicate 65534 '0' ++ ['3'])) ∧
      format d (String.ofList (List.replicate 65536 'M')) = none := by
  intro d
  have isField : ('M', 3) ∈ paddedFields d := List.mem_cons_self
  have digits : decimalDigits 3 = ['3'] := by decide
  constructor
  · rw [format, String.toList_ofList, formatChars_replicate isField 65534, padded,
      if_pos (by decide), zeroFilled, digits]
    rfl
  · rw [format, String.toList_ofList, formatChars_replicate isField 65535, padded,
      if_neg (by decide)]
    rfl

end Rulebook.Date
