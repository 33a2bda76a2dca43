import Rulebook.Date.Format

/-!
# Runs of a letter

A field stands in a pattern for the first run of its letter, and its text is as wide as that run
is long.  Where a run begins a text it is the letter some times over in front of something else,
and most facts about runs are read off that form.
-/

namespace Rulebook.Date

/-- What stands for a field in a pattern. -/
structure Token where
  letter : Char
  /-- Whether the letter stands for the field alone rather than with its whole run. -/
  single : Bool
  /-- What a run of some length is replaced by, if there is a text for it. -/
  render : Nat → Option (List Char)

namespace Token

/-- Replaces the run of a token. -/
def replace (token : Token) (s : List Char) : Option (List Char) :=
  replaceRun token.letter token.single token.render s

/-- How many characters behind its letter belong to the run of a token. -/
def more (token : Token) (rest : List Char) : Nat :=
  if token.single then 0 else (rest.takeWhile (· == token.letter)).length

end Token

/-! ## Runs -/

section

variable {c : Char}

/-- Every text starts with a run of a letter, which may be of no length. -/
theorem exists_eq_replicate_append (c : Char) (s : List Char) :
    ∃ count back, s = List.replicate count c ++ back ∧ back.head? ≠ some c := by
  induction s with
  | nil => exact ⟨0, [], rfl, nofun⟩
  | cons b rest ih =>
      by_cases same : b = c
      · subst same
        obtain ⟨count, back, rfl, maximal⟩ := ih
        exact ⟨count + 1, back, rfl, maximal⟩
      · exact ⟨0, b :: rest, rfl, by simpa using same⟩

theorem length_takeWhile_replicate_append {back : List Char} (maximal : back.head? ≠ some c)
    (count : Nat) :
    ((List.replicate count c ++ back).takeWhile (· == c)).length = count := by
  have ends : back.takeWhile (· == c) = [] := by
    cases back with
    | nil => rfl
    | cons b back => exact List.takeWhile_cons_of_neg (by simpa using maximal)
  rw [List.takeWhile_append_of_pos (by simp), ends, List.append_nil, List.length_replicate]

variable {token : Token}

theorem Token.more_of_single (single : token.single = true) (rest : List Char) :
    token.more rest = 0 :=
  if_pos single

theorem Token.more_replicate_append {back : List Char} (runs : token.single = false)
    (maximal : back.head? ≠ some token.letter) (count : Nat) :
    token.more (List.replicate count token.letter ++ back) = count := by
  rw [more, runs]
  exact length_takeWhile_replicate_append maximal count

/-- A run is as long as it can be, unless the letter stands for the field alone. -/
theorem Token.more_run {back : List Char} {count : Nat} (alone : token.single = true → count = 0)
    (maximal : token.single = false → back.head? ≠ some token.letter) :
    token.more (List.replicate count token.letter ++ back) = count := by
  cases single : token.single with
  | true => rw [more_of_single single, alone single]
  | false => exact more_replicate_append single (maximal single) count

/-- The run of a token is made of its letter. -/
theorem Token.replicate_append_drop_more (token : Token) (rest : List Char) :
    List.replicate (token.more rest) token.letter ++ rest.drop (token.more rest) = rest := by
  cases single : token.single with
  | true =>
      rw [more_of_single single]
      rfl
  | false =>
      obtain ⟨count, back, rfl, maximal⟩ := exists_eq_replicate_append token.letter rest
      rw [more_replicate_append single maximal, List.drop_left' List.length_replicate]

/-- Nothing but its letter is in the run of a token. -/
theorem Token.mem_drop_more {rest : List Char} (other : c ≠ token.letter) :
    c ∈ rest.drop (token.more rest) ↔ c ∈ rest := by
  have foreign : c ∉ List.replicate (token.more rest) token.letter :=
    fun isLetter => other (List.eq_of_mem_replicate isLetter)
  calc
    c ∈ rest.drop (token.more rest) ↔
        c ∈ List.replicate (token.more rest) token.letter ++ rest.drop (token.more rest) := by
      rw [List.mem_append, or_iff_right foreign]
    _ ↔ c ∈ rest := by rw [token.replicate_append_drop_more rest]

/-- The first run of a letter in a text. -/
def firstRun (letter : Char) (s : List Char) : List Char :=
  (s.dropWhile (· != letter)).takeWhile (· == letter)

theorem firstRun_cons_self (letter : Char) (s : List Char) :
    firstRun letter (letter :: s) = letter :: s.takeWhile (· == letter) := by
  rw [firstRun, List.dropWhile_cons_of_neg (by simp), List.takeWhile_cons_of_pos (by simp)]

theorem firstRun_cons_of_ne {letter : Char} (other : c ≠ letter) (s : List Char) :
    firstRun letter (c :: s) = firstRun letter s := by
  rw [firstRun, List.dropWhile_cons_of_pos (by simpa using other), firstRun]

theorem firstRun_replicate_append {letter : Char} (other : c ≠ letter) (count : Nat)
    (s : List Char) : firstRun letter (List.replicate count c ++ s) = firstRun letter s := by
  induction count with
  | zero => rfl
  | succ count ih => rw [List.replicate_succ, List.cons_append, firstRun_cons_of_ne other, ih]

theorem mem_of_firstRun_ne_nil {letter : Char} {s : List Char} (some : firstRun letter s ≠ []) :
    letter ∈ s := by
  induction s with
  | nil => exact absurd rfl some
  | cons c s ih =>
      by_cases same : c = letter
      · exact same ▸ List.mem_cons_self
      · rw [firstRun_cons_of_ne same] at some
        exact List.mem_cons_of_mem c (ih some)

namespace Token

/-- How wide a text asks for the text of a token. -/
def width (token : Token) (s : List Char) : Nat :=
  if token.single then 1 else (firstRun token.letter s).length

theorem width_cons_letter (token : Token) (rest : List Char) :
    token.width (token.letter :: rest) = token.more rest + 1 := by
  rw [width, more, firstRun_cons_self]
  split <;> rfl

theorem width_cons_of_ne (other : c ≠ token.letter) (rest : List Char) :
    token.width (c :: rest) = token.width rest := by
  rw [width, width, firstRun_cons_of_ne other]

/-- The run of one token is nothing to another. -/
theorem width_drop_more {other : Token} (differs : other.letter ≠ token.letter)
    (rest : List Char) : other.width (rest.drop (token.more rest)) = other.width rest := by
  calc
    other.width (rest.drop (token.more rest)) = other.width
        (List.replicate (token.more rest) token.letter ++ rest.drop (token.more rest)) := by
      rw [width, width, firstRun_replicate_append (Ne.symm differs)]
    _ = other.width rest := by rw [token.replicate_append_drop_more rest]

/-- A letter that comes up asks for some width. -/
theorem exists_width_eq {s : List Char} (occurs : token.letter ∈ s) :
    ∃ n, token.width s = n + 1 := by
  induction s with
  | nil => simp at occurs
  | cons c s ih =>
      by_cases same : c = token.letter
      · exact ⟨token.more s, by rw [same, width_cons_letter]⟩
      · rw [width_cons_of_ne same]
        exact ih ((List.mem_cons.mp occurs).resolve_left (Ne.symm same))

end Token

end

/-! ## The replacement of a run -/

section

variable {token : Token}

theorem dropWhile_append_of_not_mem {c : Char} {front : List Char} (absent : c ∉ front)
    (back : List Char) : (front ++ back).dropWhile (· != c) = back.dropWhile (· != c) := by
  apply List.dropWhile_append_of_pos
  intro b isPart
  rw [bne_iff_ne]
  rintro rfl
  exact absent isPart

/-- A text without the letter of a token is left as it is. -/
theorem Token.replace_of_not_mem {s : List Char} (absent : token.letter ∉ s) :
    token.replace s = some s := by
  have nothing := dropWhile_append_of_not_mem absent []
  rw [List.append_nil] at nothing
  rw [replace, replaceRun, nothing]
  rfl

/-- Otherwise its first run is replaced, if there is a text for it. -/
theorem Token.replace_append_run {front back : List Char} {count : Nat}
    (first : token.letter ∉ front) (alone : token.single = true → count = 0)
    (maximal : token.single = false → back.head? ≠ some token.letter) :
    token.replace (front ++ (List.replicate (count + 1) token.letter ++ back)) =
      (token.render (count + 1)).map fun text => front ++ text ++ back := by
  have run : List.replicate (count + 1) token.letter ++ back =
      token.letter :: (List.replicate count token.letter ++ back) := rfl
  have noLetter : ∀ c ∈ front, (c != token.letter) = true := by
    intro c isPart
    rw [bne_iff_ne]
    rintro rfl
    exact first isPart
  have dropped : (front ++ (List.replicate (count + 1) token.letter ++ back)).dropWhile
      (· != token.letter) = token.letter :: (List.replicate count token.letter ++ back) := by
    rw [List.dropWhile_append_of_pos noLetter, run, List.dropWhile_cons_of_neg (by simp)]
  have taken : (front ++ (List.replicate (count + 1) token.letter ++ back)).takeWhile
      (· != token.letter) = front := by
    rw [List.takeWhile_append_of_pos noLetter, run, List.takeWhile_cons_of_neg (by simp),
      List.append_nil]
  rw [replace, replaceRun, dropped]
  simp only [taken, ← run]
  cases single : token.single with
  | true =>
      rw [alone single]
      rfl
  | false =>
      rw [length_takeWhile_replicate_append (maximal single), if_neg Bool.false_ne_true,
        List.drop_left' List.length_replicate]

end

end Rulebook.Date
