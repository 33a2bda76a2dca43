import Rulebook.Proofs.Regex.Leads

/-!
# What expressions spell

Without conditions on the characters around a position, where an expression leads depends on
nothing but the text from there on.  The texts that an expression spells are given by its shape,
and an expression that has to match a whole text matches just those texts.
-/

namespace Rulebook.Regex

/-- Whether there is no condition on the characters around a position. -/
def isPlain : Regex → Bool
  | empty | set _ => true
  | look _ => false
  | seq a b | alt a b => a.isPlain && b.isPlain
  | repeated r _ _ | capture r => r.isPlain

/-- Whether a text is one of those of a plain expression. -/
def Spells : Regex → List Char → Prop
  | empty, s => s = []
  | set members, s => ∃ c, members.mem c = true ∧ s = [c]
  | look _, _ => False
  | seq a b, s => ∃ front back, Spells a front ∧ Spells b back ∧ s = front ++ back
  | alt a b, s => Spells a s ∨ Spells b s
  | repeated r least most, s =>
      ∃ parts : List (List Char), least ≤ parts.length ∧
        (∀ m, most = some m → parts.length ≤ max least m) ∧
        (∀ part ∈ parts, Spells r part) ∧ s = parts.flatten
  | capture r, s => Spells r s

/-! ## Spelling and leading -/

section

variable {text : List Char}

theorem singleton_prefix_drop_iff {c : Char} {i : Nat} :
    [c] <+: text.drop i ↔ text[i]? = some c := by
  rw [← List.head?_drop]
  cases text.drop i with
  | nil => simp
  | cons first rest => simp [List.cons_prefix_cons, eq_comm]

theorem append_prefix_drop_iff {front back : List Char} {i : Nat} :
    front ++ back <+: text.drop i ↔
      front <+: text.drop i ∧ back <+: text.drop (i + front.length) := by
  rw [← List.drop_drop]
  constructor
  · rintro ⟨rest, whole⟩
    rw [← whole, List.append_assoc, List.drop_left]
    exact ⟨List.prefix_append _ _, List.prefix_append _ _⟩
  · rintro ⟨⟨rest, whole⟩, after⟩
    rw [← whole, List.drop_left] at after
    rw [← whole, List.prefix_append_right_inj]
    exact after

theorem end_le_length {s : List Char} {i : Nat} (inside : i ≤ text.length)
    (there : s <+: text.drop i) : i + s.length ≤ text.length := by
  have := there.length_le
  rw [List.length_drop] at this
  omega

/-- Rounds spell the parts of a text one after the other. -/
theorem rounds_iff_parts {r : Regex}
    (each : ∀ {i j : Nat}, i ≤ text.length →
      (r.Leads text i j ↔ ∃ s, s <+: text.drop i ∧ r.Spells s ∧ j = i + s.length))
    {n i j : Nat} (inside : i ≤ text.length) :
    Rounds (r.Leads text) n i j ↔ ∃ parts : List (List Char), parts.length = n ∧
      (∀ part ∈ parts, r.Spells part) ∧ parts.flatten <+: text.drop i ∧
      j = i + parts.flatten.length := by
  induction n generalizing i with
  | zero =>
      constructor
      · rintro rfl
        exact ⟨[], rfl, by simp, by simp, rfl⟩
      · rintro ⟨parts, none, -, -, rfl⟩
        cases List.length_eq_zero_iff.mp none
        rfl
  | succ n ih =>
      constructor
      · rintro ⟨k, first, rest⟩
        obtain ⟨part, there, spells, rfl⟩ := (each inside).mp first
        obtain ⟨parts, rfl, spellsAll, thereAll, rfl⟩ := (ih (end_le_length inside there)).mp rest
        refine ⟨part :: parts, rfl, List.forall_mem_cons.mpr ⟨spells, spellsAll⟩, ?_, ?_⟩
        · exact append_prefix_drop_iff.mpr ⟨there, thereAll⟩
        · rw [List.flatten_cons, List.length_append, Nat.add_assoc]
      · rintro ⟨parts, count, spellsAll, thereAll, rfl⟩
        obtain ⟨part, parts, rfl⟩ := List.exists_cons_of_length_eq_add_one count
        rw [List.forall_mem_cons] at spellsAll
        rw [List.flatten_cons, append_prefix_drop_iff] at thereAll
        refine ⟨i + part.length, (each inside).mpr ⟨part, thereAll.1, spellsAll.1, rfl⟩, ?_⟩
        refine (ih (end_le_length inside thereAll.1)).mpr
          ⟨parts, Nat.succ.inj count, spellsAll.2, thereAll.2, ?_⟩
        rw [List.flatten_cons, List.length_append, Nat.add_assoc]

/-- A plain expression leads over the texts that it spells. -/
theorem leads_iff_spells {r : Regex} (plain : r.isPlain = true) {i j : Nat}
    (inside : i ≤ text.length) :
    r.Leads text i j ↔ ∃ s, s <+: text.drop i ∧ r.Spells s ∧ j = i + s.length := by
  induction r generalizing i j with
  | empty =>
      constructor
      · rintro ⟨rfl, -⟩
        exact ⟨[], List.nil_prefix, rfl, rfl⟩
      · rintro ⟨s, -, rfl, rfl⟩
        exact ⟨rfl, inside⟩
  | set members =>
      constructor
      · rintro ⟨rfl, c, there, member⟩
        exact ⟨[c], singleton_prefix_drop_iff.mpr there, ⟨c, member, rfl⟩, rfl⟩
      · rintro ⟨s, there, ⟨c, member, rfl⟩, rfl⟩
        exact ⟨rfl, c, singleton_prefix_drop_iff.mp there, member⟩
  | look l => cases plain
  | seq a b iha ihb =>
      obtain ⟨plainFront, plainBack⟩ := Bool.and_eq_true_iff.mp plain
      constructor
      · rintro ⟨k, first, second⟩
        obtain ⟨front, there, spells, rfl⟩ := (iha plainFront inside).mp first
        obtain ⟨back, thereAfter, spellsAfter, rfl⟩ :=
          (ihb plainBack (end_le_length inside there)).mp second
        exact ⟨front ++ back, append_prefix_drop_iff.mpr ⟨there, thereAfter⟩,
          ⟨front, back, spells, spellsAfter, rfl⟩, by rw [List.length_append, Nat.add_assoc]⟩
      · rintro ⟨s, there, ⟨front, back, spells, spellsAfter, rfl⟩, rfl⟩
        obtain ⟨there, thereAfter⟩ := append_prefix_drop_iff.mp there
        exact ⟨i + front.length, (iha plainFront inside).mpr ⟨front, there, spells, rfl⟩,
          (ihb plainBack (end_le_length inside there)).mpr
            ⟨back, thereAfter, spellsAfter, by rw [List.length_append, Nat.add_assoc]⟩⟩
  | alt a b iha ihb =>
      obtain ⟨plainFirst, plainSecond⟩ := Bool.and_eq_true_iff.mp plain
      rw [Leads, iha plainFirst inside, ihb plainSecond inside, ← exists_or]
      refine exists_congr fun s => ?_
      rw [← and_or_left, ← or_and_right]
      rfl
  | repeated r least most ih =>
      constructor
      · rintro ⟨n, enough, bound, rounds⟩
        obtain ⟨parts, rfl, spells, there, rfl⟩ := (rounds_iff_parts (ih plain) inside).mp rounds
        exact ⟨parts.flatten, there, ⟨parts, enough, bound, spells, rfl⟩, rfl⟩
      · rintro ⟨s, there, ⟨parts, enough, bound, spells, rfl⟩, rfl⟩
        exact ⟨parts.length, enough, bound,
          (rounds_iff_parts (ih plain) inside).mpr ⟨parts, rfl, spells, there, rfl⟩⟩
  | capture r ih => exact ih plain inside

/-- A whole text is matched if it is spelled. -/
theorem isMatchChars_whole_iff_spells {r : Regex} (plain : r.isPlain = true) :
    (whole r).isMatchChars text = true ↔ r.Spells text := by
  rw [isMatchChars_whole_iff, leads_iff_spells plain (Nat.zero_le _), List.drop_zero]
  constructor
  · rintro ⟨s, there, spells, length⟩
    rw [Nat.zero_add] at length
    rwa [there.eq_of_length length.symm] at spells
  · intro spells
    exact ⟨text, List.prefix_refl text, spells, (Nat.zero_add _).symm⟩

end

/-! ## Expressions built from others -/

section

variable {s : List Char}

@[simp]
theorem mem_single {c d : Char} : (CharSet.single c).mem d = true ↔ d = c := by
  simp only [CharSet.mem, CharSet.single, CharSet.has, List.any_cons, List.any_nil, Bool.or_false,
    Bool.and_eq_true, decide_eq_true_iff]
  rw [← Char.toNat_inj]
  omega

theorem spells_char {c : Char} : (char c).Spells s ↔ s = [c] := by
  simp [char, Spells]

theorem spells_seqs_cons {r : Regex} {rs : List Regex} :
    (seqs (r :: rs)).Spells s ↔
      ∃ front back, r.Spells front ∧ (seqs rs).Spells back ∧ s = front ++ back := by
  cases rs with
  | nil => simp [seqs, Spells]
  | cons r' rs => rfl

theorem spells_char_seq {c : Char} {r : Regex} :
    (seq (char c) r).Spells s ↔ ∃ rest, r.Spells rest ∧ s = c :: rest := by
  simp [Spells, spells_char]

theorem spells_seq_char {c : Char} {r : Regex} :
    (seq r (char c)).Spells s ↔ ∃ front, r.Spells front ∧ s = front ++ [c] := by
  simp [Spells, spells_char]

theorem spells_literal {text : String} : (literal text).Spells s ↔ s = text.toList := by
  rw [literal]
  induction text.toList generalizing s with
  | nil => rfl
  | cons c cs ih => simp [spells_seqs_cons, spells_char, ih]

theorem spells_alts {rs : List Regex} : (alts rs).Spells s ↔ ∃ r ∈ rs, r.Spells s := by
  induction rs with
  | nil => simp [alts, Spells, CharSet.none, CharSet.mem, CharSet.has]
  | cons r rs ih =>
      cases rs with
      | nil => simp [alts]
      | cons r' rs =>
          rw [alts, Spells, ih]
          simp only [List.mem_cons, exists_eq_or_imp]
          exact fun none => nomatch none

/-- Parts of a form are made from what gives them the form. -/
theorem forall_mem_exists_iff {α : Type} {p : α → Prop} {form : α → List Char}
    {parts : List (List Char)} :
    (∀ part ∈ parts, ∃ a, p a ∧ part = form a) ↔
      ∃ as : List α, (∀ a ∈ as, p a) ∧ parts = as.map form := by
  constructor
  · intro each
    induction parts with
    | nil => exact ⟨[], by simp, rfl⟩
    | cons part parts ih =>
        rw [List.forall_mem_cons] at each
        obtain ⟨⟨a, holds, rfl⟩, rest⟩ := each
        obtain ⟨as, holdsAll, rfl⟩ := ih rest
        exact ⟨a :: as, List.forall_mem_cons.mpr ⟨holds, holdsAll⟩, rfl⟩
  · rintro ⟨as, holdsAll, rfl⟩ part isPart
    obtain ⟨a, member, rfl⟩ := List.mem_map.mp isPart
    exact ⟨a, holdsAll a member, rfl⟩

/-- Repetitions of an expression whose texts have a form. -/
theorem spells_repeated_iff {r : Regex} {α : Type} {p : α → Prop} {form : α → List Char}
    (each : ∀ part, r.Spells part ↔ ∃ a, p a ∧ part = form a) {least : Nat} {most : Option Nat} :
    (r.repeated least most).Spells s ↔ ∃ as : List α, least ≤ as.length ∧
      (∀ m, most = some m → as.length ≤ max least m) ∧ (∀ a ∈ as, p a) ∧
      s = as.flatMap form := by
  simp only [Spells, each, forall_mem_exists_iff]
  constructor
  · rintro ⟨parts, enough, bound, ⟨as, holds, rfl⟩, rfl⟩
    rw [List.length_map] at enough bound
    exact ⟨as, enough, bound, holds, List.flatMap_def.symm⟩
  · rintro ⟨as, enough, bound, holds, rfl⟩
    refine ⟨as.map form, ?_, ?_, ⟨as, holds, rfl⟩, List.flatMap_def⟩
    · rwa [List.length_map]
    · rwa [List.length_map]

theorem spells_times_iff {r : Regex} {α : Type} {p : α → Prop} {form : α → List Char}
    (each : ∀ part, r.Spells part ↔ ∃ a, p a ∧ part = form a) {count : Nat} :
    (times r count).Spells s ↔
      ∃ as : List α, as.length = count ∧ (∀ a ∈ as, p a) ∧ s = as.flatMap form := by
  rw [times, spells_repeated_iff each]
  constructor
  · rintro ⟨as, enough, bound, holds, rfl⟩
    have notMore := bound count rfl
    rw [Nat.max_self] at notMore
    exact ⟨as, Nat.le_antisymm notMore enough, holds, rfl⟩
  · rintro ⟨as, rfl, holds, rfl⟩
    refine ⟨as, Nat.le_refl _, ?_, holds, rfl⟩
    rintro _ ⟨⟩
    exact Nat.le_max_left _ _

/-- One or more characters of a set. -/
theorem spells_plus_set {members : CharSet} :
    (plus (set members)).Spells s ↔ s ≠ [] ∧ ∀ c ∈ s, members.mem c = true := by
  rw [plus, spells_repeated_iff fun part => Iff.rfl]
  constructor
  · rintro ⟨cs, some, -, holds, rfl⟩
    rw [List.flatMap_singleton']
    exact ⟨List.ne_nil_of_length_pos some, holds⟩
  · rintro ⟨some, holds⟩
    exact ⟨s, List.length_pos_iff.mpr some, by simp, holds, (List.flatMap_singleton' s).symm⟩

theorem spells_optional {r : Regex} : (optional r).Spells s ↔ s = [] ∨ r.Spells s := by
  constructor
  · rintro ⟨parts, -, bound, spells, rfl⟩
    have few : parts.length ≤ 1 := bound 1 rfl
    rcases parts with _ | ⟨part, _ | ⟨_, _⟩⟩
    · exact .inl rfl
    · rw [List.flatten_singleton]
      exact .inr (spells part (List.mem_singleton_self part))
    · simp at few
  · rintro (rfl | spells)
    · exact ⟨[], Nat.le_refl 0, by simp, by simp, rfl⟩
    · exact ⟨[s], Nat.zero_le 1, by simp, by simpa using spells, List.flatten_singleton.symm⟩

end

end Rulebook.Regex
