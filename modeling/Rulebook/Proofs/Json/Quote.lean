import Rulebook.Json.Reader

/-!
# Strings read back

A string between quotes is read as that string again, whatever characters it has: a quote,
a backslash and control characters are written as escapes, and everything else stands for
itself.
-/

namespace Rulebook.Json

/-! ## One step of the reader -/

section

variable (soFar : Option (List Char))

theorem readString?_plain {c : Char} (noQuote : c ≠ '"') (noBackslash : c ≠ '\\')
    (noControl : ¬c.toNat < 0x20) (rest : List Char) :
    readString? soFar (c :: rest) = readString? (soFar.map (c :: ·)) rest := by
  rw [readString?]
  · simp [noControl, noBackslash]
  · exact noQuote
  · exact fun _ _ _ _ _ _ _ _ _ isBackslash => absurd isBackslash noBackslash
  · exact fun _ _ _ _ _ isBackslash => absurd isBackslash noBackslash
  · exact fun _ _ isBackslash => absurd isBackslash noBackslash

theorem readString?_simple {c plain : Char} (noCode : c ≠ 'u')
    (escape : simpleEscape? c = some plain) (rest : List Char) :
    readString? soFar ('\\' :: c :: rest) = readString? (soFar.map (plain :: ·)) rest := by
  rw [readString?]
  · rw [escape]
  · exact fun _ _ _ _ _ _ _ _ _ isCode => absurd isCode noCode
  · exact fun _ _ _ _ _ isCode => absurd isCode noCode

variable {a b c d : Char}

theorem readString?_broken (broken : hex4? a b c d = none) (rest : List Char) :
    readString? soFar ('\\' :: 'u' :: a :: b :: c :: d :: rest) = none := by
  by_cases another : ∃ e f g h later, rest = '\\' :: 'u' :: e :: f :: g :: h :: later
  · obtain ⟨e, f, g, h, later, rfl⟩ := another
    rw [readString?, broken]
  · rw [readString?, broken]
    exact fun e f g h later isCode => another ⟨e, f, g, h, later, isCode⟩

/-- A code that is no half of a surrogate pair stands for its character, even if another
code comes after it. -/
theorem readString?_code {n : Nat} (code : hex4? a b c d = some n)
    (noHigh : isHighSurrogate n = false) (noLow : isLowSurrogate n = false) (rest : List Char) :
    readString? soFar ('\\' :: 'u' :: a :: b :: c :: d :: rest) =
      readString? (soFar.map (Char.ofNat n :: ·)) rest := by
  by_cases another : ∃ e f g h later, rest = '\\' :: 'u' :: e :: f :: g :: h :: later
  · obtain ⟨e, f, g, h, later, rfl⟩ := another
    cases nextCode : hex4? e f g h with
    | some m =>
        rw [readString?, code, nextCode]
        simp [noHigh, noLow]
    | none =>
        rw [readString?_broken _ nextCode, readString?, code, nextCode]
  · rw [readString?, code]
    · simp [noHigh, noLow]
    · exact fun e f g h later isCode => another ⟨e, f, g, h, later, isCode⟩

end

/-! ## Strings -/

theorem hex4?_control {n : Nat} (isControl : n < 0x20) :
    hex4? '0' '0' (hexDigit (n / 16)) (hexDigit (n % 16)) = some n := by
  have codes : ∀ n < 0x20, hex4? '0' '0' (hexDigit (n / 16)) (hexDigit (n % 16)) = some n := by
    decide
  exact codes n isControl

/-- A character is written as an escape of its own, as a code, or as itself. -/
theorem escapeChar_cases (c : Char) :
    (∃ letter, escapeChar c = ['\\', letter] ∧ letter ≠ 'u' ∧ simpleEscape? letter = some c) ∨
      (c.toNat < 0x20 ∧ escapeChar c =
        ['\\', 'u', '0', '0', hexDigit (c.toNat / 16), hexDigit (c.toNat % 16)]) ∨
      (c ≠ '"' ∧ c ≠ '\\' ∧ ¬c.toNat < 0x20 ∧ escapeChar c = [c]) := by
  unfold escapeChar
  split
  · next isQuote => exact .inl ⟨'"', rfl, by decide, by rw [isQuote]; rfl⟩
  split
  · next isBackslash => exact .inl ⟨'\\', rfl, by decide, by rw [isBackslash]; rfl⟩
  split
  · next isFeed => exact .inl ⟨'n', rfl, by decide, by rw [isFeed]; rfl⟩
  split
  · next isReturn => exact .inl ⟨'r', rfl, by decide, by rw [isReturn]; rfl⟩
  split
  · next isTab => exact .inl ⟨'t', rfl, by decide, by rw [isTab]; rfl⟩
  split
  · next isBack =>
      obtain rfl : c = '\x08' := Char.toNat_inj.mp isBack
      exact .inl ⟨'b', rfl, by decide, rfl⟩
  split
  · next isPage =>
      obtain rfl : c = '\x0c' := Char.toNat_inj.mp isPage
      exact .inl ⟨'f', rfl, by decide, rfl⟩
  split
  · next isControl => exact .inr (.inl ⟨isControl, rfl⟩)
  · next noQuote noBackslash _ _ _ _ _ noControl =>
      exact .inr (.inr ⟨noQuote, noBackslash, noControl, rfl⟩)

/-- Every character is read back as it was. -/
theorem readString?_escapeChar (soFar : Option (List Char)) (c : Char) (rest : List Char) :
    readString? soFar (escapeChar c ++ rest) = readString? (soFar.map (c :: ·)) rest := by
  rcases escapeChar_cases c with
    ⟨letter, written, noCode, escape⟩ | ⟨isControl, written⟩ |
      ⟨noQuote, noBackslash, noControl, written⟩
  · rw [written]
    exact readString?_simple soFar noCode escape rest
  · have noHigh : isHighSurrogate c.toNat = false := by
      simp [isHighSurrogate]
      omega
    have noLow : isLowSurrogate c.toNat = false := by
      simp [isLowSurrogate]
      omega
    have read := readString?_code soFar (hex4?_control isControl) noHigh noLow rest
    rw [c.ofNat_toNat] at read
    rw [written]
    exact read
  · rw [written]
    exact readString?_plain soFar noQuote noBackslash noControl rest

theorem readString?_flatMap_escapeChar (cs soFar rest : List Char) :
    readString? (some soFar) (cs.flatMap escapeChar ++ '"' :: rest) =
      some (some (String.ofList (soFar.reverse ++ cs)), rest) := by
  induction cs generalizing soFar with
  | nil => rw [List.flatMap_nil, List.nil_append, readString?, Option.map_some, List.append_nil]
  | cons c cs ih =>
      rw [List.flatMap_cons, List.append_assoc, readString?_escapeChar, Option.map_some, ih,
        List.reverse_cons, List.append_assoc, List.singleton_append]

/-- A string is read up to its second quote. -/
theorem readString?_quote (s : String) (rest : List Char) :
    readString? (some []) (s.toList.flatMap escapeChar ++ '"' :: rest) = some (some s, rest) := by
  rw [readString?_flatMap_escapeChar, List.reverse_nil, List.nil_append, String.ofList_toList]

end Rulebook.Json
