import Rulebook.Proofs.Table
import Rulebook.Regex.Cache

/-!
# Caches that cannot be seen

What a cache holds under a pattern is what the pattern compiles to.  Every look-up keeps it
so, whichever pattern a full cache drops, and finds what compiling the pattern anew would
give.  A cache that starts out empty never holds more patterns than the limit, since one is
dropped before another is stored.
-/

namespace Rulebook.PatternCache

variable {compile : PatternSource}

/-- Every pattern is kept with what it compiles to. -/
def Coherent (compile : PatternSource) (cache : PatternCache) : Prop :=
  ∀ entry ∈ cache.compiled, compile? compile entry.1 = some entry.2

theorem coherent_empty : empty.Coherent compile :=
  List.forall_mem_nil _

theorem compile?_of_length_le {pattern : String} (short : pattern.utf8ByteSize ≤ lengthLimit) :
    compile? compile pattern = compile pattern :=
  if_pos short

theorem compile?_eq_some_iff {pattern : String} {regex : Regex} :
    compile? compile pattern = some regex ↔
      pattern.utf8ByteSize ≤ lengthLimit ∧ compile pattern = some regex :=
  Option.ite_none_right_eq_some

/-! ## Room for one more -/

section

variable (evict : Eviction) (cache : PatternCache)

theorem makeRoom_sublist : (cache.makeRoom evict).compiled.Sublist cache.compiled := by
  unfold makeRoom
  split
  · exact List.eraseIdx_sublist _ _
  · exact List.Sublist.refl _

theorem not_mem_names_makeRoom {pattern : String} (absent : cache.compiled.find? pattern = none) :
    pattern ∉ (cache.makeRoom evict).compiled.names := by
  intro there
  have isName : pattern ∈ cache.compiled.names :=
    ((cache.makeRoom_sublist evict).map Prod.fst).subset there
  rw [← Table.has_iff_mem_names, Table.has, absent] at isName
  cases isName

/-- No more than one pattern goes, and only if there is no room. -/
theorem length_makeRoom :
    (cache.makeRoom evict).compiled.length =
      if sizeLimit ≤ cache.compiled.length then cache.compiled.length - 1
      else cache.compiled.length := by
  unfold makeRoom
  split
  · next full =>
      have nonempty : 0 < cache.compiled.length := Nat.lt_of_lt_of_le (by decide) full
      exact List.length_eraseIdx_of_lt (Nat.mod_lt _ nonempty)
  · rfl

/-- Any pattern of a full cache may be the one that goes. -/
theorem exists_makeRoom_eq (full : sizeLimit ≤ cache.compiled.length) {i : Nat}
    (there : i < cache.compiled.length) :
    ∃ evict, cache.makeRoom evict = ⟨cache.compiled.eraseIdx i⟩ := by
  refine ⟨fun _ => i, ?_⟩
  rw [makeRoom, if_pos full, Nat.mod_eq_of_lt there]

end

/-! ## Look-ups -/

section

variable {cache : PatternCache}

/-- A pattern is refused, is there, or is compiled and stored. -/
theorem get_cases (cache : PatternCache) (evict : Eviction) (pattern : String) :
    (compile? compile pattern = none ∧ cache.get compile evict pattern = (none, cache)) ∨
      (∃ regex, cache.compiled.find? pattern = some regex ∧
        cache.get compile evict pattern = (some regex, cache)) ∨
      ∃ regex, cache.compiled.find? pattern = none ∧ compile? compile pattern = some regex ∧
        cache.get compile evict pattern =
          (some regex, ⟨(cache.makeRoom evict).compiled ++ [(pattern, regex)]⟩) := by
  unfold get
  split
  · next short =>
      rw [compile?_of_length_le short]
      split
      · next regex found => exact .inr (.inl ⟨regex, found, rfl⟩)
      · next absent =>
          split
          · next regex compiled =>
              have atEnd := Table.insert_eq_append (cache.not_mem_names_makeRoom evict absent) regex
              refine .inr (.inr ⟨regex, absent, compiled, ?_⟩)
              rw [← atEnd]
          · next broken => exact .inl ⟨broken, rfl⟩
  · next long => exact .inl ⟨if_neg long, rfl⟩

/-- A look-up finds what the pattern compiles to. -/
theorem Coherent.get (coherent : cache.Coherent compile) (evict : Eviction) (pattern : String) :
    (cache.get compile evict pattern).1 = compile? compile pattern ∧
      (cache.get compile evict pattern).2.Coherent compile := by
  rcases cache.get_cases evict pattern with
    ⟨refused, result⟩ | ⟨regex, found, result⟩ | ⟨regex, _, compiled, result⟩
  · rw [result]
    exact ⟨refused.symm, coherent⟩
  · rw [result]
    exact ⟨(coherent _ (Table.mem_of_find?_eq_some found)).symm, coherent⟩
  · rw [result]
    refine ⟨compiled.symm, fun entry isEntry => ?_⟩
    rcases List.mem_append.mp isEntry with isOld | isNew
    · exact coherent entry ((cache.makeRoom_sublist evict).subset isOld)
    · obtain rfl := List.mem_singleton.mp isNew
      exact compiled

/-- What is true of a cache at all times. -/
structure Kept (compile : PatternSource) (cache : PatternCache) : Prop where
  /-- No pattern is there twice. -/
  distinct : cache.compiled.Distinct
  length_le : cache.compiled.length ≤ 100
  /-- Each pattern is there with its own expression, and none is too long. -/
  compiled : ∀ entry ∈ cache.compiled,
    entry.1.utf8ByteSize ≤ 1000 ∧ compile entry.1 = some entry.2

theorem kept_empty : empty.Kept compile where
  distinct := List.nodup_nil
  length_le := Nat.zero_le _
  compiled := List.forall_mem_nil _

theorem Kept.coherent (kept : cache.Kept compile) : cache.Coherent compile :=
  fun entry isEntry => compile?_eq_some_iff.mpr (kept.compiled entry isEntry)

/-- Another pattern can be stored once there is room for it. -/
theorem Kept.store (kept : cache.Kept compile) (evict : Eviction) {pattern : String}
    {regex : Regex} (absent : cache.compiled.find? pattern = none)
    (compiled : compile? compile pattern = some regex) :
    Kept compile ⟨(cache.makeRoom evict).compiled ++ [(pattern, regex)]⟩ where
  distinct := by
    have roomy : (cache.makeRoom evict).compiled.Distinct :=
      kept.distinct.sublist ((cache.makeRoom_sublist evict).map Prod.fst)
    rw [← Table.insert_eq_append (cache.not_mem_names_makeRoom evict absent)]
    exact roomy.insert pattern regex
  length_le := by
    have atMost := kept.length_le
    rw [List.length_append, length_makeRoom, List.length_singleton, sizeLimit]
    split <;> omega
  compiled := by
    intro entry isEntry
    rcases List.mem_append.mp isEntry with isOld | isNew
    · exact kept.compiled entry ((cache.makeRoom_sublist evict).subset isOld)
    · obtain rfl := List.mem_singleton.mp isNew
      exact compile?_eq_some_iff.mp compiled

/-- What a look-up answers and what it does to the cache. -/
structure Finds (compile : PatternSource) (cache : PatternCache) (pattern : String)
    (found : Option Regex × PatternCache) : Prop where
  /-- The answer is that of compiling the pattern anew. -/
  answer : found.1 = if pattern.utf8ByteSize ≤ 1000 then compile pattern else none
  /-- A pattern that has an expression is there afterwards. -/
  stored : ∀ regex, found.1 = some regex → found.2.compiled.find? pattern = some regex
  /-- One that has none leaves no trace. -/
  unchanged : found.1 = none → found.2 = cache
  /-- No other pattern comes in. -/
  others : ∀ entry ∈ found.2.compiled, entry.1 = pattern ∨ entry ∈ cache.compiled
  /-- No pattern goes unless another one comes. -/
  length_le : cache.compiled.length ≤ found.2.compiled.length
  kept : found.2.Kept compile

/-- A look-up keeps a cache in order. -/
theorem Kept.finds (kept : cache.Kept compile) (evict : Eviction) (pattern : String) :
    cache.Finds compile pattern (cache.get compile evict pattern) := by
  have answer := (kept.coherent.get evict pattern).1
  rcases cache.get_cases evict pattern with
    ⟨refused, result⟩ | ⟨regex, found, result⟩ | ⟨regex, absent, compiled, result⟩
  · rw [result] at answer ⊢
    exact ⟨answer, nofun, fun _ => rfl, fun _ isOld => .inr isOld, Nat.le_refl _, kept⟩
  · rw [result] at answer ⊢
    exact ⟨answer, fun _ same => found.trans same, fun _ => rfl, fun _ isOld => .inr isOld,
      Nat.le_refl _, kept⟩
  · have stored := kept.store evict absent compiled
    rw [result] at answer ⊢
    refine ⟨answer, ?_, nofun, ?_, ?_, stored⟩
    · intro other same
      rw [← Option.some.inj same]
      exact stored.distinct.find?_eq_some_of_mem (List.mem_append_right _ List.mem_cons_self)
    · intro entry isEntry
      rcases List.mem_append.mp isEntry with isOld | isNew
      · exact .inr ((cache.makeRoom_sublist evict).subset isOld)
      · exact .inl (congrArg Prod.fst (List.mem_singleton.mp isNew))
    · rw [List.length_append, length_makeRoom, List.length_singleton]
      split <;> omega

end

/-! ## Runs -/

/-- Looks patterns up one after the other.  Each time a choice is made of what would have
to go. -/
def getAll (compile : PatternSource) (cache : PatternCache) :
    List (Eviction × String) → List (Option Regex) × PatternCache
  | [] => ([], cache)
  | (evict, pattern) :: calls =>
      let (answer, next) := cache.get compile evict pattern
      let (answers, last) := next.getAll compile calls
      (answer :: answers, last)

theorem Kept.getAll {cache : PatternCache} (kept : cache.Kept compile)
    (calls : List (Eviction × String)) :
    (cache.getAll compile calls).1 = calls.map (fun call => compile? compile call.2) ∧
      (cache.getAll compile calls).2.Kept compile := by
  induction calls generalizing cache with
  | nil => exact ⟨rfl, kept⟩
  | cons call calls ih =>
      have here := kept.finds call.1 call.2
      obtain ⟨answers, keptLast⟩ := ih here.kept
      refine ⟨?_, keptLast⟩
      rw [PatternCache.getAll, List.map_cons, ← answers]
      exact congrArg (· :: _) here.answer

/-- Whatever compiles the patterns, whatever is looked up in a cache that is empty at first, and
whatever it drops on the way, the answers are those of compiling every pattern anew, the cache
is in order, and it is so after any further look-up. -/
theorem getAll_empty (compile : PatternSource) (calls : List (Eviction × String)) :
    (empty.getAll compile calls).1 = calls.map (fun call =>
        if call.2.utf8ByteSize ≤ 1000 then compile call.2 else none) ∧
      (empty.getAll compile calls).2.Kept compile ∧
      ∀ (evict : Eviction) (pattern : String),
        (empty.getAll compile calls).2.Finds compile pattern
          ((empty.getAll compile calls).2.get compile evict pattern) := by
  obtain ⟨answers, kept⟩ := kept_empty.getAll calls
  exact ⟨answers, kept, kept.finds⟩

end Rulebook.PatternCache
