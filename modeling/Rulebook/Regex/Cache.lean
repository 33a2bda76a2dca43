import Rulebook.Regex.Basic
import Rulebook.Table

/-!
# The pattern cache

Patterns that come with the arguments of a rule are compiled when they are
first used and kept.  The cache holds a limited number of them: before another
one is stored in a full cache, one that is there has to go.  Which one does not
matter, since a pattern that went is compiled again to the same expression.
-/

namespace Rulebook

/-- What compiles patterns.  It gives no expression for a text that is no pattern. -/
abbrev PatternSource := String → Option Regex

/-- Compiled patterns by their text. -/
structure PatternCache where
  compiled : Table Regex

/-- Chooses the place of the pattern that has to go. -/
abbrev Eviction := Table Regex → Nat

namespace PatternCache

/-- How long a pattern in an argument may be, in bytes. -/
def lengthLimit : Nat := 1000

/-- How many patterns are kept. -/
def sizeLimit : Nat := 100

def empty : PatternCache := ⟨[]⟩

instance : Inhabited PatternCache := ⟨empty⟩

/-- Compiles a pattern that came with an argument. -/
def compile? (compile : PatternSource) (pattern : String) : Option Regex :=
  if pattern.utf8ByteSize ≤ lengthLimit then compile pattern else none

/-- Makes room for one more pattern. -/
def makeRoom (evict : Eviction) (cache : PatternCache) : PatternCache :=
  if sizeLimit ≤ cache.compiled.length then
    ⟨cache.compiled.eraseIdx (evict cache.compiled % cache.compiled.length)⟩
  else cache

/-- Looks a pattern up and keeps its expression if it is a new one. -/
def get (compile : PatternSource) (evict : Eviction) (cache : PatternCache) (pattern : String) :
    Option Regex × PatternCache :=
  if pattern.utf8ByteSize ≤ lengthLimit then
    match cache.compiled.find? pattern with
    | some r => (some r, cache)
    | none =>
        match compile pattern with
        | some r =>
            let roomy := cache.makeRoom evict
            (some r, ⟨roomy.compiled.insert pattern r⟩)
        | none => (none, cache)
  else (none, cache)

end PatternCache

end Rulebook
