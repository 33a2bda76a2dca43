import Rulebook.Proofs.Regex.Characters
import Rulebook.Registry

/-!
# Blanks in locations

A location has no blank, with one exception: a user name and a password are separated by a colon
and a space.  The texts with a blank that the rule for locations passes are just those with both,
and the space between them is then the only blank.
-/

namespace Rulebook.Format

open Regex Text

namespace Url

/-! ## Parts of locations -/

/-- What stands behind the user of a location: its host, its port and its path. -/
def afterUser : Regex :=
  seqs [alt numericHost namedHost, optional portNumber, path]

/-- A user name or a password. -/
def IsLogin (s : List Char) : Prop :=
  (plus userChar).Spells s

/-- A location in which a user name and a password stand behind the scheme. -/
structure HasPassword (text scheme name password rest : List Char) : Prop where
  isScheme : (Regex.optional Url.scheme).Spells scheme
  isName : IsLogin name
  isPassword : IsLogin password
  isRest : afterUser.Spells rest
  whole : text = scheme ++ (name ++ ':' :: ' ' :: (password ++ '@' :: rest))

/-- The user of a location is a login by itself, or a name and a password. -/
theorem spells_user {s : List Char} :
    user.Spells s ↔ (∃ login, IsLogin login ∧ s = login ++ ['@']) ∨
      ∃ name password, IsLogin name ∧ IsLogin password ∧
        s = name ++ ':' :: ' ' :: (password ++ ['@']) := by
  constructor
  · rintro ⟨front, back, named, ⟨password, _, login, isAt, rfl⟩, rfl⟩
    cases spells_char.mp isAt
    rcases spells_optional.mp named with rfl | ⟨name, _, isName, separator, rfl⟩
    · exact .inl ⟨password, login, List.nil_append _⟩
    · cases spells_literal.mp separator
      exact .inr ⟨name, password, isName, login, List.append_assoc _ _ _⟩
  · rintro (⟨login, isLogin, rfl⟩ | ⟨name, password, isName, isLogin, rfl⟩)
    · exact ⟨[], _, spells_optional.mpr (.inl rfl),
        ⟨login, ['@'], isLogin, spells_char.mpr rfl, rfl⟩, (List.nil_append _).symm⟩
    · have separator : (literal ": ").Spells [':', ' '] := spells_literal.mpr rfl
      exact ⟨name ++ [':', ' '], _, spells_optional.mpr (.inr ⟨name, _, isName, separator, rfl⟩),
        ⟨password, ['@'], isLogin, spells_char.mpr rfl, rfl⟩, by simp⟩

end Url

theorem isMatchChars_url_iff {text : List Char} :
    url.isMatchChars text = true ↔ ∃ scheme user rest, (optional Url.scheme).Spells scheme ∧
      (optional Url.user).Spells user ∧ Url.afterUser.Spells rest ∧
        text = scheme ++ (user ++ rest) := by
  rw [url, isMatchChars_whole_iff_spells rfl]
  constructor
  · rintro ⟨scheme, _, isScheme, ⟨user, rest, isUser, isRest, rfl⟩, rfl⟩
    exact ⟨scheme, user, rest, isScheme, isUser, isRest, rfl⟩
  · rintro ⟨scheme, user, rest, isScheme, isUser, isRest, rfl⟩
    exact ⟨scheme, _, isScheme, ⟨user, rest, isUser, isRest, rfl⟩, rfl⟩

/-! ## Blanks -/

/-- Whether one of the characters of a text is a blank. -/
def HasBlank (s : List Char) : Prop :=
  ∃ c ∈ s, isBlank c = true

section

variable {s t : List Char}

theorem not_hasBlank_iff : ¬HasBlank s ↔ ∀ c ∈ s, isBlank c = false := by
  simp [HasBlank]

theorem hasBlank_append : HasBlank (s ++ t) ↔ HasBlank s ∨ HasBlank t := by
  simp only [HasBlank, List.mem_append, or_and_right, exists_or]

theorem isBlank_eq_false_of_visible {c : Char}
    (visible : '!'.toNat ≤ c.toNat ∧ c.toNat ≤ '~'.toNat) : isBlank c = false := by
  obtain ⟨above, below⟩ : 0x21 ≤ c.toNat ∧ c.toNat ≤ 0x7E := visible
  simp [isBlank]
  omega

/-- An expression of visible characters spells no text with a blank. -/
theorem not_hasBlank_of_spells {r : Regex}
    (visible : r.sets.all (·.isWithin '!'.toNat '~'.toNat) = true) (spells : r.Spells s) :
    ¬HasBlank s :=
  not_hasBlank_iff.mpr fun c isChar =>
    isBlank_eq_false_of_visible (spells.within visible c isChar)

end

namespace Url

variable {scheme name password rest : List Char}

theorem not_hasBlank_scheme (isScheme : (Regex.optional Url.scheme).Spells scheme) :
    ¬HasBlank scheme :=
  not_hasBlank_of_spells (by decide) isScheme

theorem IsLogin.not_hasBlank (isLogin : IsLogin name) : ¬HasBlank name :=
  not_hasBlank_of_spells (by decide) isLogin

theorem not_hasBlank_afterUser (isRest : afterUser.Spells rest) : ¬HasBlank rest :=
  not_hasBlank_of_spells (by decide) isRest

/-- It is the user of a location that can have a blank, and then there is a password. -/
theorem spells_user_hasBlank_iff {s : List Char} :
    ((Regex.optional user).Spells s ∧ HasBlank s) ↔
      ∃ name password, IsLogin name ∧ IsLogin password ∧
        s = name ++ ':' :: ' ' :: (password ++ ['@']) := by
  rw [spells_optional, spells_user]
  constructor
  · rintro ⟨rfl | ⟨login, isLogin, rfl⟩ | named, hasBlank⟩
    · simp [HasBlank] at hasBlank
    · have noMark : ¬HasBlank ['@'] := by simp [HasBlank, isBlank]
      exact ((hasBlank_append.mp hasBlank).elim isLogin.not_hasBlank noMark).elim
    · exact named
  · rintro ⟨name, password, isName, isPassword, rfl⟩
    exact ⟨.inr (.inr ⟨name, password, isName, isPassword, rfl⟩), ' ', by simp, rfl⟩

theorem HasPassword.isBlank_eq_false {text : List Char}
    (hasPassword : HasPassword text scheme name password rest) :
    ∀ c ∈ scheme ++ name ++ password ++ rest, isBlank c = false := by
  rw [← not_hasBlank_iff]
  simp only [hasBlank_append, not_or]
  exact ⟨⟨⟨not_hasBlank_scheme hasPassword.isScheme, hasPassword.isName.not_hasBlank⟩,
    hasPassword.isPassword.not_hasBlank⟩, not_hasBlank_afterUser hasPassword.isRest⟩

end Url

/-- The locations with a blank are those with a password. -/
theorem isMatchChars_url_hasBlank_iff {text : List Char} :
    (url.isMatchChars text = true ∧ HasBlank text) ↔
      ∃ scheme name password rest, Url.HasPassword text scheme name password rest := by
  rw [isMatchChars_url_iff]
  constructor
  · rintro ⟨⟨scheme, user, rest, isScheme, isUser, isRest, rfl⟩, hasBlank⟩
    rw [hasBlank_append, hasBlank_append, or_iff_right (Url.not_hasBlank_scheme isScheme),
      or_iff_left (Url.not_hasBlank_afterUser isRest)] at hasBlank
    obtain ⟨name, password, isName, isPassword, rfl⟩ :=
      Url.spells_user_hasBlank_iff.mp ⟨isUser, hasBlank⟩
    exact ⟨scheme, name, password, rest, isScheme, isName, isPassword, isRest, by simp⟩
  · rintro ⟨scheme, name, password, rest, isScheme, isName, isPassword, isRest, rfl⟩
    obtain ⟨isUser, _⟩ :=
      Url.spells_user_hasBlank_iff.mpr ⟨name, password, isName, isPassword, rfl⟩
    refine ⟨⟨scheme, _, rest, isScheme, isUser, isRest, by simp⟩, ?_⟩
    exact hasBlank_append.mpr (.inr ⟨' ', by simp, rfl⟩)

/-! ## The rule -/

/-- A text that passes as a location has no blank, unless a user name and a password stand behind
the scheme.  All texts of that kind pass, and the space between these two is their only blank. -/
theorem blank_in_location {rule : ValueRule}
    (isUrl : Registry.builtIn.values.find? "url" = some rule) (patterns : PatternSource)
    (record : Record) (value : Value) (args : List String) :
    let text := value.stringify.toList
    ((rule.holds patterns record value args = true → ∀ c ∈ text, isBlank c = false) ↔
      ¬∃ scheme name password rest, Url.HasPassword text scheme name password rest) ∧
    ∀ scheme name password rest, Url.HasPassword text scheme name password rest →
      rule.holds patterns record value args = true ∧
        ∀ c ∈ scheme ++ name ++ password ++ rest, isBlank c = false := by
  intro text
  have found : rule = .pattern url := (Option.some.inj isUrl).symm
  subst found
  have blankIff := @isMatchChars_url_hasBlank_iff text
  constructor
  · rw [← blankIff, not_and, not_hasBlank_iff]
    rfl
  · intro scheme name password rest hasPassword
    exact ⟨(blankIff.mpr ⟨scheme, name, password, rest, hasPassword⟩).1,
      hasPassword.isBlank_eq_false⟩

/-- A location with a password, and one without a user. -/
theorem blank_in_location_password :
    let signed : Value := .string "http://user: pass@example.com"
    let unsigned : Value := .string "example.com/path"
    Registry.builtIn.values.find? "url" = some (.pattern url) ∧
      (∃ scheme name password rest,
        Url.HasPassword signed.stringify.toList scheme name password rest) ∧
      (ValueRule.pattern url).holds (fun _ => none) [] unsigned [] = true ∧
      ∀ c ∈ unsigned.stringify.toList, isBlank c = false := by
  intro signed unsigned
  have isUrl : Registry.builtIn.values.find? "url" = some (.pattern url) := rfl
  have signedPasses : (ValueRule.pattern url).holds (fun _ => none) [] signed [] = true := by
    decide +kernel
  have unsignedPasses : (ValueRule.pattern url).holds (fun _ => none) [] unsigned [] = true := by
    decide +kernel
  have space : ' ' ∈ signed.stringify.toList := by decide
  have noMark : '@' ∉ unsigned.stringify.toList := by decide
  obtain ⟨signedIff, _⟩ := blank_in_location isUrl (fun _ => none) [] signed []
  obtain ⟨unsignedIff, _⟩ := blank_in_location isUrl (fun _ => none) [] unsigned []
  refine ⟨isUrl, ?_, unsignedPasses, unsignedIff.mpr ?_ unsignedPasses⟩
  · by_contra absent
    exact absurd (signedIff.mpr absent signedPasses ' ' space) (by decide)
  · rintro ⟨scheme, name, password, rest, hasPassword⟩
    rw [hasPassword.whole] at noMark
    simp at noMark

/-- There are such texts. -/
theorem not_unblanked_location :
    let value : Value := .string "http://user: pass@example.com"
    ∃ rule, Registry.builtIn.values.find? "url" = some rule ∧
      rule.holds (fun _ => none) [] value [] = true ∧
      ¬∀ c ∈ value.stringify.toList, isBlank c = false := by
  intro value
  have space : ' ' ∈ value.stringify.toList := by decide
  exact ⟨_, rfl, by decide +kernel, fun visible => absurd (visible ' ' space) (by decide)⟩

end Rulebook.Format
