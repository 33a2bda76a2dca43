import Rulebook.Proofs.Regex.Spelling
import Rulebook.Proofs.Text.Join
import Rulebook.Registry

/-!
# Texts of network addresses

A short address is four numbers with dots in between.  A long one is eight groups of hexadecimal
digits with colons in between, where two colons in a row may stand for at least one missing
group, the last two groups may be written as a short address, and a zone may follow after a
percent sign.  The rule for addresses accepts these texts and no others.
-/

namespace Rulebook.Address

open Regex Format Format.Ip

/-! ## Addresses -/

/-- A number from 0 to 255, without needless zeros. -/
def IsOctet (s : List Char) : Prop :=
  ∃ n ≤ 255, s = decimalDigits n

/-- Four numbers from 0 to 255 with dots in between. -/
def IsShort (s : List Char) : Prop :=
  ∃ octets : List (List Char), octets.length = 4 ∧ (∀ octet ∈ octets, IsOctet octet) ∧
    s = ['.'].intercalate octets

/-- A hexadecimal digit in either case. -/
def IsHexDigit (c : Char) : Prop :=
  ('0' ≤ c ∧ c ≤ '9') ∨ ('A' ≤ c ∧ c ≤ 'F') ∨ ('a' ≤ c ∧ c ≤ 'f')

/-- Up to four hexadecimal digits. -/
structure IsGroup (s : List Char) : Prop where
  some : 1 ≤ s.length
  few : s.length ≤ 4
  hex : ∀ c ∈ s, IsHexDigit c

/-- So many groups with colons in between.  A short address at the end is two of them. -/
inductive IsGroups : Nat → List Char → Prop where
  | hex {groups : List (List Char)} (each : ∀ group ∈ groups, IsGroup group) :
      IsGroups groups.length ([':'].intercalate groups)
  | mixed {groups : List (List Char)} {numbers : List Char}
      (each : ∀ group ∈ groups, IsGroup group) (short : IsShort numbers) :
      IsGroups (groups.length + 2) ([':'].intercalate (groups ++ [numbers]))

/-- Eight groups, or fewer with a gap before, between or after them. -/
inductive IsLong : List Char → Prop where
  | full {s : List Char} (groups : IsGroups 8 s) : IsLong s
  | gap {groups : List (List Char)} {count : Nat} {rest : List Char}
      (each : ∀ group ∈ groups, IsGroup group) (after : IsGroups count rest)
      (missing : groups.length + count < 8) :
      IsLong ([':'].intercalate groups ++ ':' :: ':' :: rest)

/-- A short address, or a long one that may have a zone of one line. -/
inductive IsAddress : List Char → Prop where
  | short {s : List Char} (short : IsShort s) : IsAddress s
  | long {s : List Char} (long : IsLong s) : IsAddress s
  | zoned {s zone : List Char} (long : IsLong s) (some : zone ≠ []) (oneLine : '\n' ∉ zone) :
      IsAddress (s ++ '%' :: zone)

/-! ## Digits -/

section

variable {s : List Char}

theorem spells_oneOf {ranges : List (Char × Char)} :
    (oneOf ranges "").Spells s ↔ ∃ c, (∃ r ∈ ranges, r.1 ≤ c ∧ c ≤ r.2) ∧ s = [c] := by
  refine exists_congr fun c => and_congr_left fun _ => ?_
  simp [CharSet.mem, CharSet.has, CharSet.ofList, Char.le_def, UInt32.le_iff_toNat_le]

theorem toNat_digitChar (d : Fin 10) : (Nat.digitChar d).toNat = 48 + d :=
  Nat.toNat_digitChar_of_lt_ten d.isLt

theorem le_iff_toNat_le {c d : Char} : c ≤ d ↔ c.toNat ≤ d.toNat := by
  rw [Char.le_def, UInt32.le_iff_toNat_le]
  rfl

/-- A digit from one to another. -/
theorem spells_digits (low high : Fin 10) :
    (oneOf [(Nat.digitChar low, Nat.digitChar high)] "").Spells s ↔
      ∃ d, (low ≤ d ∧ d ≤ high) ∧ s = [Nat.digitChar d] := by
  rw [spells_oneOf]
  simp only [List.mem_singleton, exists_eq_left, le_iff_toNat_le, toNat_digitChar]
  constructor
  · rintro ⟨c, ⟨above, below⟩, rfl⟩
    obtain ⟨d, code⟩ : ∃ d : Fin 10, c.toNat = 48 + d :=
      ⟨⟨c.toNat - 48, by omega⟩, by dsimp only; omega⟩
    have same : c = Nat.digitChar d := by rw [← Char.toNat_inj, code, toNat_digitChar]
    exact ⟨d, ⟨by omega, by omega⟩, by rw [same]⟩
  · rintro ⟨d, ⟨above, below⟩, rfl⟩
    exact ⟨Nat.digitChar d, by rw [toNat_digitChar]; omega, rfl⟩

theorem spells_digit : digit.Spells s ↔ ∃ d : Fin 10, s = [Nat.digitChar d] := by
  refine (spells_digits 0 9).trans (exists_congr fun d => ?_)
  exact and_iff_right ⟨Fin.zero_le d, Fin.le_last d⟩

theorem decimalDigits_ones (d : Fin 10) : decimalDigits d = [Nat.digitChar d] :=
  Nat.toDigits_of_lt_base d.isLt

theorem decimalDigits_tens {n : Nat} (positive : 0 < n) (d : Fin 10) :
    decimalDigits (10 * n + d) = decimalDigits n ++ [Nat.digitChar d] := by
  rw [← decimalDigits_ones]
  exact (Nat.toDigits_append_toDigits (by decide) positive d.isLt).symm

theorem decimalDigits_two {t : Fin 10} (positive : 0 < t) (d : Fin 10) :
    decimalDigits (10 * t + d) = [Nat.digitChar t, Nat.digitChar d] := by
  rw [decimalDigits_tens positive, decimalDigits_ones]
  rfl

theorem decimalDigits_three {h : Fin 10} (positive : 0 < h) (t d : Fin 10) :
    decimalDigits (10 * (10 * h + t) + d) =
      [Nat.digitChar h, Nat.digitChar t, Nat.digitChar d] := by
  have front : 0 < 10 * h.val + t := by omega
  rw [decimalDigits_tens front, decimalDigits_two positive]
  rfl

theorem spells_twoDigits (low high : Fin 10) :
    (seq (oneOf [(Nat.digitChar low, Nat.digitChar high)] "") digit).Spells s ↔
      ∃ t d : Fin 10, (low ≤ t ∧ t ≤ high) ∧ s = [Nat.digitChar t, Nat.digitChar d] := by
  constructor
  · rintro ⟨_, _, tens, ones, rfl⟩
    obtain ⟨t, between, rfl⟩ := (spells_digits low high).mp tens
    obtain ⟨d, rfl⟩ := spells_digit.mp ones
    exact ⟨t, d, between, rfl⟩
  · rintro ⟨t, d, between, rfl⟩
    exact ⟨[Nat.digitChar t], [Nat.digitChar d], (spells_digits low high).mpr ⟨t, between, rfl⟩,
      spells_digit.mpr ⟨d, rfl⟩, rfl⟩

/-- The pattern for numbers tells those from 250, from 200 and from 100 on from the rest. -/
theorem spells_octet : octet.Spells s ↔ IsOctet s := by
  constructor
  · rintro (last | third | second | first)
    · obtain ⟨_, _, front, digit, rfl⟩ := last
      obtain ⟨d, ⟨-, below⟩, rfl⟩ := (spells_digits 0 5).mp digit
      refine ⟨10 * (10 * (2 : Fin 10) + (5 : Fin 10)) + d, by omega, ?_⟩
      rw [decimalDigits_three (by decide), spells_literal.mp front]
      rfl
    · obtain ⟨_, two, rfl⟩ := spells_char_seq.mp third
      obtain ⟨t, d, ⟨-, below⟩, rfl⟩ := (spells_twoDigits 0 4).mp two
      refine ⟨10 * (10 * (2 : Fin 10) + t) + d, by omega, ?_⟩
      rw [decimalDigits_three (by decide)]
      rfl
    · obtain ⟨_, two, rfl⟩ := spells_char_seq.mp second
      obtain ⟨t, d, -, rfl⟩ := (spells_twoDigits 0 9).mp two
      refine ⟨10 * (10 * (1 : Fin 10) + t) + d, by omega, ?_⟩
      rw [decimalDigits_three (by decide)]
      rfl
    · obtain ⟨_, _, tens, ones, rfl⟩ := first
      obtain ⟨d, rfl⟩ := spells_digit.mp ones
      rcases spells_optional.mp tens with rfl | tens
      · exact ⟨d, by omega, (decimalDigits_ones d).symm⟩
      · obtain ⟨t, ⟨above, -⟩, rfl⟩ := (spells_digits 1 9).mp tens
        exact ⟨10 * t + d, by omega, (decimalDigits_two above d).symm⟩
  · rintro ⟨n, small, rfl⟩
    obtain ⟨h, t, d, rfl⟩ : ∃ h t d : Fin 10, n = 10 * (10 * h + t) + d :=
      ⟨⟨n / 100, by omega⟩, ⟨n / 10 % 10, by omega⟩, ⟨n % 10, by omega⟩, by dsimp only; omega⟩
    have lastDigit : digit.Spells [Nat.digitChar d] := spells_digit.mpr ⟨d, rfl⟩
    obtain rfl | rfl | rfl : h = 0 ∨ h = 1 ∨ h = 2 := by omega
    · refine .inr (.inr (.inr ?_))
      obtain rfl | positive : t = 0 ∨ 0 < t := by omega
      · have ones : 10 * (10 * (0 : Fin 10).val + (0 : Fin 10)) + d = d := by simp
        rw [ones, decimalDigits_ones]
        exact ⟨[], [Nat.digitChar d], spells_optional.mpr (.inl rfl), lastDigit, rfl⟩
      · have tens : 10 * (10 * (0 : Fin 10).val + t) + d = 10 * t + d := by simp
        rw [tens, decimalDigits_two positive]
        have firstDigit := (spells_digits 1 9).mpr ⟨t, ⟨positive, Fin.le_last t⟩, rfl⟩
        exact ⟨[Nat.digitChar t], [Nat.digitChar d], spells_optional.mpr (.inr firstDigit),
          lastDigit, rfl⟩
    · rw [decimalDigits_three (by decide)]
      refine .inr (.inr (.inl (spells_char_seq.mpr ⟨[Nat.digitChar t, Nat.digitChar d], ?_, rfl⟩)))
      exact (spells_twoDigits 0 9).mpr ⟨t, d, ⟨Fin.zero_le t, Fin.le_last t⟩, rfl⟩
    · rw [decimalDigits_three (by decide)]
      by_cases below : t ≤ 4
      · refine .inr (.inl (spells_char_seq.mpr ⟨[Nat.digitChar t, Nat.digitChar d], ?_, rfl⟩))
        exact (spells_twoDigits 0 4).mpr ⟨t, d, ⟨Fin.zero_le t, below⟩, rfl⟩
      · obtain rfl : t = 5 := by omega
        refine .inl ⟨"25".toList, [Nat.digitChar d], spells_literal.mpr rfl, ?_, rfl⟩
        exact (spells_digits 0 5).mpr ⟨d, ⟨Fin.zero_le d, by omega⟩, rfl⟩

/-! ## Numbers and groups in a row -/

/-- Both patterns for a short address: the dots are read with the number before or after them. -/
theorem spells_dottedQuad : dottedQuad.Spells s ↔ IsShort s := by
  have each (part : List Char) : (seq (char '.') octet).Spells part ↔
      ∃ number, IsOctet number ∧ part = '.' :: number := by
    simp only [spells_char_seq, spells_octet]
  constructor
  · rintro ⟨first, _, isFirst, rest, rfl⟩
    obtain ⟨octets, three, areOctets, rfl⟩ := (spells_times_iff each).mp rest
    refine ⟨first :: octets, by rw [List.length_cons, three], ?_, ?_⟩
    · exact List.forall_mem_cons.mpr ⟨spells_octet.mp isFirst, areOctets⟩
    · exact (Text.intercalate_cons_eq_flatMap '.' first octets).symm
  · rintro ⟨octets, four, areOctets, rfl⟩
    obtain ⟨first, octets, rfl⟩ := List.exists_cons_of_length_eq_add_one four
    rw [List.forall_mem_cons] at areOctets
    rw [Text.intercalate_cons_eq_flatMap]
    exact ⟨first, _, spells_octet.mpr areOctets.1,
      (spells_times_iff each).mpr ⟨octets, Nat.succ.inj four, areOctets.2, rfl⟩, rfl⟩

theorem spells_short : (seq (times (seq octet (char '.')) 3) octet).Spells s ↔ IsShort s := by
  have each (part : List Char) : (seq octet (char '.')).Spells part ↔
      ∃ number, IsOctet number ∧ part = number ++ ['.'] := by
    simp only [spells_seq_char, spells_octet]
  constructor
  · rintro ⟨_, last, front, isLast, rfl⟩
    obtain ⟨octets, three, areOctets, rfl⟩ := (spells_times_iff each).mp front
    refine ⟨octets ++ [last], by rw [List.length_append, three]; rfl, ?_, ?_⟩
    · exact List.forall_mem_append.mpr
        ⟨areOctets, List.forall_mem_singleton.mpr (spells_octet.mp isLast)⟩
    · exact (Text.intercalate_concat_eq_flatMap '.' octets last).symm
  · rintro ⟨octets, four, areOctets, rfl⟩
    rcases List.eq_nil_or_concat' octets with rfl | ⟨octets, last, rfl⟩
    · cases four
    · rw [List.length_append] at four
      rw [List.forall_mem_append, List.forall_mem_singleton] at areOctets
      rw [Text.intercalate_concat_eq_flatMap]
      exact ⟨_, last, (spells_times_iff each).mpr ⟨octets, Nat.succ.inj four, areOctets.1, rfl⟩,
        spells_octet.mpr areOctets.2, rfl⟩

theorem spells_group : group.Spells s ↔ IsGroup s := by
  have each (part : List Char) : hexDigit.Spells part ↔ ∃ c, IsHexDigit c ∧ part = [c] := by
    rw [hexDigit, spells_oneOf]
    simp [IsHexDigit]
  rw [group, between, spells_repeated_iff each]
  constructor
  · rintro ⟨digits, some, bound, hex, rfl⟩
    rw [List.flatMap_singleton']
    exact ⟨some, bound 4 rfl, hex⟩
  · rintro ⟨some, few, hex⟩
    refine ⟨s, some, ?_, hex, (List.flatMap_singleton' s).symm⟩
    rintro _ ⟨⟩
    exact few

/-! ## Long addresses -/

/-- What may stand after groups that each have a colon after them where a gap ends them: a colon
and up to so many groups. -/
def IsAfterGap (room : Nat) (s : List Char) : Prop :=
  ∃ count rest, count ≤ room ∧ IsGroups count rest ∧ s = ':' :: rest

theorem isGroups_nil : IsGroups 0 [] :=
  IsGroups.hex (List.forall_mem_nil IsGroup)

/-- Groups that each have a colon in front. -/
theorem spells_between_colonGroup {least most : Nat} :
    (between colonGroup least most).Spells s ↔ ∃ groups : List (List Char),
      least ≤ groups.length ∧ groups.length ≤ max least most ∧
      (∀ group ∈ groups, IsGroup group) ∧ s = groups.flatMap (':' :: ·) := by
  have each (part : List Char) :
      colonGroup.Spells part ↔ ∃ group, IsGroup group ∧ part = ':' :: group := by
    simp only [colonGroup, spells_char_seq, spells_group]
  rw [between, spells_repeated_iff each]
  simp only [Option.some.injEq, forall_eq']

/-- Numbers stand for two groups, so there is room for two less before them. -/
theorem spells_afterGap {most : Nat} :
    (afterGap (most + 2) most).Spells s ↔ IsAfterGap (most + 2) s := by
  constructor
  · rintro (hex | mixed | alone)
    · obtain ⟨groups, some, bound, areGroups, rfl⟩ := spells_between_colonGroup.mp hex
      refine ⟨_, _, by omega, .hex areGroups, ?_⟩
      rw [Text.cons_intercalate_eq_flatMap (List.ne_nil_of_length_pos some)]
    · obtain ⟨_, _, front, back, rfl⟩ := mixed
      obtain ⟨groups, -, bound, areGroups, rfl⟩ := spells_between_colonGroup.mp front
      obtain ⟨numbers, short, rfl⟩ := spells_char_seq.mp back
      refine ⟨_, _, by omega, .mixed areGroups (spells_dottedQuad.mp short), ?_⟩
      rw [Text.cons_intercalate_eq_flatMap (by simp), List.flatMap_append, List.flatMap_singleton]
    · exact ⟨0, [], Nat.zero_le _, isGroups_nil, spells_char.mp alone⟩
  · rintro ⟨_, _, bound, areGroups, rfl⟩
    cases areGroups with
    | @hex groups each =>
        by_cases none : groups = []
        · subst none
          exact .inr (.inr (spells_char.mpr rfl))
        · rw [Text.cons_intercalate_eq_flatMap none]
          have some := List.length_pos_iff.mpr none
          exact .inl (spells_between_colonGroup.mpr ⟨groups, some, by omega, each, rfl⟩)
    | @mixed groups numbers each short =>
        rw [Text.cons_intercalate_eq_flatMap (by simp), List.flatMap_append,
          List.flatMap_singleton]
        refine .inr (.inl ⟨_, ':' :: numbers, spells_between_colonGroup.mpr
          ⟨groups, Nat.zero_le _, by omega, each, rfl⟩, ?_, rfl⟩)
        exact spells_char_seq.mpr ⟨numbers, spells_dottedQuad.mpr short, rfl⟩

/-- So many groups that each have a colon after them, and what stands after the last colon. -/
def IsRow (count : Nat) (after : List Char → Prop) (s : List Char) : Prop :=
  ∃ (groups : List (List Char)) (rest : List Char), groups.length = count ∧
    (∀ group ∈ groups, IsGroup group) ∧ after rest ∧ s = groups.flatMap (· ++ [':']) ++ rest

theorem isRow_or {count : Nat} {p q : List Char → Prop} :
    IsRow count (fun rest => p rest ∨ q rest) s ↔ IsRow count p s ∨ IsRow count q s := by
  constructor
  · rintro ⟨groups, rest, length, each, first | second, rfl⟩
    · exact .inl ⟨groups, rest, length, each, first, rfl⟩
    · exact .inr ⟨groups, rest, length, each, second, rfl⟩
  · rintro (⟨groups, rest, length, each, first, rfl⟩ | ⟨groups, rest, length, each, second, rfl⟩)
    · exact ⟨groups, rest, length, each, .inl first, rfl⟩
    · exact ⟨groups, rest, length, each, .inr second, rfl⟩

theorem spells_row {count : Nat} {tail : Regex} {after : List Char → Prop}
    (spells : ∀ rest, tail.Spells rest ↔ after rest) :
    (seq (times groupColon count) tail).Spells s ↔ IsRow count after s := by
  have each (part : List Char) :
      groupColon.Spells part ↔ ∃ group, IsGroup group ∧ part = group ++ [':'] := by
    simp only [groupColon, spells_seq_char, spells_group]
  constructor
  · rintro ⟨_, rest, front, back, rfl⟩
    obtain ⟨groups, length, areGroups, rfl⟩ := (spells_times_iff each).mp front
    exact ⟨groups, rest, length, areGroups, (spells rest).mp back, rfl⟩
  · rintro ⟨groups, rest, length, areGroups, back, rfl⟩
    exact ⟨_, rest, (spells_times_iff each).mpr ⟨groups, length, areGroups, rfl⟩,
      (spells rest).mpr back, rfl⟩

theorem isAfterGap_zero_iff : IsAfterGap 0 s ↔ s = [':'] := by
  constructor
  · rintro ⟨_, _, none, areGroups, rfl⟩
    cases areGroups with
    | hex each =>
        rw [List.length_eq_zero_iff.mp (Nat.le_zero.mp none)]
        rfl
    | mixed each short => cases none
  · rintro rfl
    exact ⟨0, [], Nat.le_refl 0, isGroups_nil, rfl⟩

theorem isAfterGap_one_iff :
    IsAfterGap 1 s ↔ s = [':'] ∨ ∃ group, IsGroup group ∧ s = ':' :: group := by
  constructor
  · rintro ⟨_, _, few, areGroups, rfl⟩
    cases areGroups with
    | @hex groups each =>
        rcases groups with _ | ⟨group, _ | ⟨_, _⟩⟩
        · exact .inl rfl
        · rw [List.intercalate_singleton]
          exact .inr ⟨group, each group (List.mem_singleton_self group), rfl⟩
        · simp at few
    | mixed each short => omega
  · rintro (rfl | ⟨group, isGroup, rfl⟩)
    · exact ⟨0, [], Nat.zero_le 1, isGroups_nil, rfl⟩
    · have alone := IsGroups.hex (List.forall_mem_singleton.mpr isGroup)
      rw [List.intercalate_singleton] at alone
      exact ⟨1, group, Nat.le_refl 1, alone, rfl⟩

/-- After seven groups there is room for a group, or for a gap alone. -/
theorem spells_eighth (rest : List Char) :
    (alt group (char ':')).Spells rest ↔ IsGroup rest ∨ IsAfterGap 0 rest := by
  rw [Spells, spells_group, spells_char, isAfterGap_zero_iff]

/-- After six groups there is room for a short address, or for a gap and at most a group. -/
theorem spells_seventh (rest : List Char) :
    (alts [colonGroup, dottedQuad, char ':']).Spells rest ↔ IsShort rest ∨ IsAfterGap 1 rest := by
  change colonGroup.Spells rest ∨ dottedQuad.Spells rest ∨ (char ':').Spells rest ↔ _
  rw [colonGroup, spells_char_seq, spells_dottedQuad, spells_char, isAfterGap_one_iff,
    or_left_comm, or_comm (b := rest = [':'])]
  simp only [spells_group]

/-- Eight groups, by what stands after the last colon. -/
theorem isGroups_eight_iff : IsGroups 8 s ↔ IsRow 7 IsGroup s ∨ IsRow 6 IsShort s := by
  constructor
  · intro areGroups
    -- The number of groups is known in the end only, so the cases are split for any number.
    generalize eight : 8 = count at areGroups
    cases areGroups with
    | @hex groups each =>
        obtain rfl | ⟨groups, last, rfl⟩ := List.eq_nil_or_concat' groups
        · cases eight
        · rw [List.length_append] at eight
          rw [List.forall_mem_append, List.forall_mem_singleton] at each
          exact .inl ⟨groups, last, Nat.succ.inj eight.symm, each.1, each.2,
            Text.intercalate_concat_eq_flatMap ':' groups last⟩
    | @mixed groups numbers each short =>
        exact .inr ⟨groups, numbers, by omega, each, short,
          Text.intercalate_concat_eq_flatMap ':' groups numbers⟩
  · rintro (⟨groups, rest, seven, each, isGroup, rfl⟩ | ⟨groups, rest, six, each, short, rfl⟩)
    · rw [← Text.intercalate_concat_eq_flatMap]
      have areGroups := List.forall_mem_append.mpr ⟨each, List.forall_mem_singleton.mpr isGroup⟩
      have hex := IsGroups.hex areGroups
      rwa [List.length_append, seven] at hex
    · rw [← Text.intercalate_concat_eq_flatMap]
      have mixed := IsGroups.mixed each short
      rwa [six] at mixed

/-- Long addresses by the groups in front of the gap: none of them, or some. -/
theorem isLong_iff : IsLong s ↔ (IsRow 7 IsGroup s ∨ IsRow 6 IsShort s) ∨
    (∃ room < 7, IsRow (7 - room) (IsAfterGap room) s) ∨
      ∃ rest, IsAfterGap 7 rest ∧ s = ':' :: rest := by
  rw [← isGroups_eight_iff]
  constructor
  · rintro (full | @⟨groups, count, rest, each, after, missing⟩)
    · exact .inl full
    · by_cases none : groups = []
      · subst none
        rw [List.length_nil] at missing
        exact .inr (.inr ⟨':' :: rest, ⟨count, rest, by omega, after, rfl⟩, rfl⟩)
      · have some := List.length_pos_iff.mpr none
        refine .inr (.inl ⟨7 - groups.length, by omega, groups, ':' :: rest, by omega, each,
          ⟨count, rest, by omega, after, rfl⟩, ?_⟩)
        exact Text.intercalate_append_cons_eq_flatMap none _
  · rintro (full | ⟨room, fewer, groups, _, length, each, ⟨count, rest, bound, after, rfl⟩, rfl⟩ |
      ⟨_, ⟨count, rest, bound, after, rfl⟩, rfl⟩)
    · exact .full full
    · have some : groups ≠ [] := List.length_pos_iff.mp (by omega)
      rw [← Text.intercalate_append_cons_eq_flatMap some]
      exact .gap each after (by omega)
    · exact .gap (List.forall_mem_nil IsGroup) after (by rw [List.length_nil]; omega)

/-- The expression for long addresses. -/
theorem spells_groups : groups.Spells s ↔ IsLong s := by
  have rows : groups.Spells s ↔
      (seq (times groupColon 7) (alt group (char ':'))).Spells s ∨
      (seq (times groupColon 6) (alts [colonGroup, dottedQuad, char ':'])).Spells s ∨
      (∃ room < 5, (seq (times groupColon (5 - room)) (afterGap (room + 2) room)).Spells s) ∨
      (seq (char ':') (afterGap 7 5)).Spells s := by
    have listed : groups = alts (seq (times groupColon 7) (alt group (char ':')) ::
        seq (times groupColon 6) (alts [colonGroup, dottedQuad, char ':']) ::
        ((List.range 5).map fun room =>
          seq (times groupColon (5 - room)) (afterGap (room + 2) room)) ++
        [seq (char ':') (afterGap 7 5)]) := rfl
    rw [listed, spells_alts]
    simp [or_and_right, exists_or]
  have gapped : (∃ room < 7, IsRow (7 - room) (IsAfterGap room) s) ↔
      IsRow 7 (IsAfterGap 0) s ∨ IsRow 6 (IsAfterGap 1) s ∨
        ∃ room < 5, IsRow (5 - room) (IsAfterGap (room + 2)) s := by
    rw [Nat.exists_lt_succ_left, Nat.exists_lt_succ_left]
    simp only [Nat.reduceSubDiff, Nat.reduceAdd, Nat.add_assoc]
  rw [rows, spells_row spells_eighth, isRow_or, spells_row spells_seventh, isRow_or, isLong_iff,
    gapped]
  simp only [spells_row fun _ => spells_afterGap, spells_char_seq, spells_afterGap, Nat.reduceAdd]
  -- The rows have full addresses and gaps next to each other, the cases keep them apart.
  exact Iff.of_eq (by ac_rfl)

/-! ## The rule -/

theorem isMatch_short {text : String} : Ip.short.isMatch text = true ↔ IsShort text.toList := by
  rw [Regex.isMatch, Ip.short, isMatchChars_whole_iff_spells rfl, spells_short]

theorem spells_zone : zone.Spells s ↔ ∃ name, (name ≠ [] ∧ '\n' ∉ name) ∧ s = '%' :: name := by
  rw [zone, spells_char_seq]
  refine exists_congr fun name => and_congr_left fun _ => ?_
  simp only [spells_plus_set, CharSet.mem_compl, Bool.not_eq_true', ← Bool.not_eq_true, mem_single]
  exact and_congr_right fun _ => List.forall_mem_ne'

theorem isMatch_long {text : String} : Ip.long.isMatch text = true ↔
    IsLong text.toList ∨ ∃ s name, IsLong s ∧ (name ≠ [] ∧ '\n' ∉ name) ∧
      text.toList = s ++ '%' :: name := by
  rw [Regex.isMatch, Ip.long, isMatchChars_whole_iff_spells rfl]
  constructor
  · rintro ⟨s, rest, long, zone, whole⟩
    rw [spells_groups] at long
    rw [whole]
    rcases spells_optional.mp zone with rfl | zone
    · rw [List.append_nil]
      exact .inl long
    · obtain ⟨name, isName, rfl⟩ := spells_zone.mp zone
      exact .inr ⟨s, name, long, isName, rfl⟩
  · rintro (long | ⟨s, name, long, isName, whole⟩)
    · exact ⟨text.toList, [], spells_groups.mpr long, spells_optional.mpr (.inl rfl),
        (List.append_nil _).symm⟩
    · exact ⟨s, '%' :: name, spells_groups.mpr long,
        spells_optional.mpr (.inr (spells_zone.mpr ⟨name, isName, rfl⟩)), whole⟩

/-- There is a rule for addresses, and it accepts just the values whose text is an address. -/
theorem holds_ip_iff : ∃ rule, Registry.builtIn.values.find? "ip" = some rule ∧
    ∀ (patterns : PatternSource) (record : Record) (value : Value),
      rule.holds patterns record value [] = true ↔ IsAddress value.stringify.toList := by
  refine ⟨Kinds.plain isIp, rfl, fun patterns record value => ?_⟩
  have accepts : (Kinds.plain isIp).holds patterns record value [] = isIp value := by
    simp [Kinds.plain, ValueRule.holds, Arity.accepts]
  rw [accepts, isIp, Bool.or_eq_true, isMatch_short, isMatch_long]
  constructor
  · rintro (short | long | ⟨s, name, long, ⟨some, oneLine⟩, whole⟩)
    · exact .short short
    · exact .long long
    · rw [whole]
      exact .zoned long some oneLine
  · intro address
    generalize value.stringify.toList = text at address ⊢
    cases address with
    | short short => exact .inl short
    | long long => exact .inr (.inl long)
    | zoned long some oneLine => exact .inr (.inr ⟨_, _, long, ⟨some, oneLine⟩, rfl⟩)

example : isIp (.string "1:2:3:4:5:6:7::") = true := by decide +kernel

example : isIp (.string "1:2:3:4:5:6::1.2.3.4") = false := by decide +kernel

end

end Rulebook.Address
