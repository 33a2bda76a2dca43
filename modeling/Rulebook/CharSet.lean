/-!
# Sets of characters

A set of characters is built from ranges of code points by the operations that
character classes of patterns have.  Membership is decided along the way the
set was built.
-/

namespace Rulebook

/-- A set of characters. -/
inductive CharSet where
  /-- The code points of these ranges, both ends included. -/
  | ranges (rs : List (Nat × Nat))
  | union (a b : CharSet)
  | inter (a b : CharSet)
  | diff (a b : CharSet)
  | symmDiff (a b : CharSet)
  | compl (a : CharSet)
deriving Inhabited

namespace CharSet

/-- Whether a code point is in a set. -/
def has : CharSet → Nat → Bool
  | ranges rs, n => rs.any fun r => r.1 ≤ n && n ≤ r.2
  | union a b, n => a.has n || b.has n
  | inter a b, n => a.has n && b.has n
  | diff a b, n => a.has n && !b.has n
  | symmDiff a b, n => a.has n != b.has n
  | compl a, n => !a.has n

/-- Whether a character is in a set. -/
def mem (s : CharSet) (c : Char) : Bool :=
  s.has c.toNat

def none : CharSet := ranges []

def all : CharSet := compl none

/-- The set of one character. -/
def single (c : Char) : CharSet := ranges [(c.toNat, c.toNat)]

/-- The set of the characters listed. -/
def ofList (cs : List Char) : CharSet := ranges (cs.map fun c => (c.toNat, c.toNat))

/-- The characters from one to another. -/
def range (low high : Char) : CharSet := ranges [(low.toNat, high.toNat)]

/-- The ASCII characters. -/
def ascii : CharSet := ranges [(0, 0x7F)]

/-- Adds the other members of every class that has a member in the set. -/
def closeUnder (classes : List (List Nat)) (s : CharSet) : CharSet :=
  let met := classes.filter fun cl => cl.any s.has
  if met.isEmpty then s else union s (ranges (met.flatten.map fun n => (n, n)))

/-- The pairs of ASCII letters that differ in case only. -/
def asciiClasses : List (List Nat) :=
  (List.range 26).map fun i => ['A'.toNat + i, 'a'.toNat + i]

/-- Joins the ranges that meet, the first one being from `low` to `high` and
the others in order. -/
def joinFrom (low high : Nat) : List (Nat × Nat) → List (Nat × Nat)
  | [] => [(low, high)]
  | (low', high') :: rest =>
      if low' ≤ high + 1 then joinFrom low (max high high') rest
      else (low, high) :: joinFrom low' high' rest

/-- Puts ranges in order and joins those that meet. -/
def joinRanges (rs : List (Nat × Nat)) : List (Nat × Nat) :=
  match rs.mergeSort fun a b => a.1 ≤ b.1 with
  | [] => []
  | (low, high) :: rest => joinFrom low high rest

/-- The last code point. -/
def lastCode : Nat := 0x10FFFF

/-- The ranges from `start` on that ranges in order leave free. -/
def gapsFrom (start : Nat) : List (Nat × Nat) → List (Nat × Nat)
  | [] => if start ≤ lastCode then [(start, lastCode)] else []
  | (low, high) :: rest =>
      if start < low then (start, low - 1) :: gapsFrom (high + 1) rest
      else gapsFrom (high + 1) rest

/-- The ranges of a set, in order and apart from each other. -/
def toRanges : CharSet → List (Nat × Nat)
  | ranges rs => joinRanges rs
  | union a b => joinRanges (a.toRanges ++ b.toRanges)
  | inter a b => gapsFrom 0 (joinRanges (gapsFrom 0 a.toRanges ++ gapsFrom 0 b.toRanges))
  | diff a b => gapsFrom 0 (joinRanges (gapsFrom 0 a.toRanges ++ b.toRanges))
  | symmDiff a b =>
      joinRanges
        (gapsFrom 0 (joinRanges (gapsFrom 0 a.toRanges ++ b.toRanges)) ++
          gapsFrom 0 (joinRanges (gapsFrom 0 b.toRanges ++ a.toRanges)))
  | compl a => gapsFrom 0 a.toRanges

@[simp]
theorem mem_union (a b : CharSet) (c : Char) : (union a b).mem c = (a.mem c || b.mem c) :=
  rfl

@[simp]
theorem mem_compl (a : CharSet) (c : Char) : (compl a).mem c = !a.mem c :=
  rfl

end CharSet

end Rulebook
