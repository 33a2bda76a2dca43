import Rulebook.Regex.Basic
import Rulebook.Utf8

/-!
# The room that expressions take

An expression is counted as two machines on the bytes of a text in UTF-8, one
that reads forward and one that reads backward.  A state takes room, and so does
each way out of a state that has several.  An expression that takes too much
room in either direction is not accepted.

A character that stands alone is a state for each of its bytes.  In a set of
several characters that are not all ASCII, the forward machine shares states
that go on alike, the backward machine shares those that begin alike.
-/

namespace Rulebook

/-- The room of an expression in the machine for each direction, in bytes. -/
structure Room where
  forward : Nat
  backward : Nat
deriving DecidableEq, Inhabited

namespace Room

/-- The same room in both directions. -/
def both (size : Nat) : Room := ⟨size, size⟩

instance : Add Room where
  add a b := ⟨a.forward + b.forward, a.backward + b.backward⟩

/-- The room of so many copies. -/
def copies (count : Nat) (a : Room) : Room := ⟨count * a.forward, count * a.backward⟩

/-- The room of a state. -/
def state : Nat := 32

/-- The room of a way out of a state that leads on where a byte is in a range. -/
def step : Nat := 8

/-- The room of a way out of a state that leads on without a byte. -/
def jump : Nat := 4

end Room

namespace Utf8

/-- How many entries two lists have in common at the start. -/
def commonStart : List (Nat × Nat) → List (Nat × Nat) → Nat
  | a :: as, b :: bs => if a = b then commonStart as bs + 1 else 0
  | _, _ => 0

/-- How many different beginnings there are of the sequences of a list in order,
where `last` is the sequence in front of them. -/
def beginnings (last : List (Nat × Nat)) : List (List (Nat × Nat)) → Nat
  | [] => 0
  | s :: rest => s.length - commonStart last s + beginnings s rest

/-- The different sets of endings that are left after a beginning of sequences in
order. -/
def endings (sequences : List (List (Nat × Nat))) : List (List (List (Nat × Nat))) :=
  ((List.range 4).flatMap fun count =>
    ((sequences.filter (count < ·.length)).splitBy fun a b => a.take count == b.take count).map
      fun group => group.map (List.drop count)).eraseDups

/-- The room of a state from which these sequences in order go on. -/
def roomOfState (sequences : List (List (Nat × Nat))) : Nat :=
  Room.state + Room.step * beginnings [] (sequences.map (List.take 1))

/-- The room of the states between which sequences in order are read. -/
def room (sequences : List (List (Nat × Nat))) : Room where
  forward := (endings sequences).foldl (fun total group => total + roomOfState group) 0
  backward := Room.state * beginnings [] sequences + Room.state + Room.jump * sequences.length

end Utf8

namespace CharSet

/-- The room of a set. -/
def room (s : CharSet) : Room :=
  match s.toRanges with
  | [(low, high)] =>
      if low = high then .both (Room.state * (Utf8.bytes low).length)
      else roomOfRanges [(low, high)]
  | rs => roomOfRanges rs
where
  roomOfRanges (rs : List (Nat × Nat)) : Room :=
    if rs.all (·.2 < 0x80) then .both (2 * Room.state + Room.step * rs.length)
    else .both Room.state + Utf8.room (rs.flatMap Utf8.sequences)

end CharSet

namespace Regex

/-- Whether an expression is written so that it can match nothing but the empty
text.  To repeat such an expression is to have it at most once. -/
def isWidthless : Regex → Bool
  | empty => true
  | set _ => false
  | look _ => true
  | seq a b => a.isWidthless && b.isWidthless
  | alt a b => a.isWidthless && b.isWidthless
  | repeated r _ most => r.isWidthless || most == some 0
  | capture r => r.isWidthless

/-- Whether an expression is written so that it can match the empty text. -/
def isSkippable : Regex → Bool
  | empty => true
  | set _ => false
  | look _ => true
  | seq a b => a.isSkippable && b.isSkippable
  | alt a b => a.isSkippable || b.isSkippable
  | repeated r least _ => least == 0 || r.isSkippable
  | capture r => r.isSkippable

/-- The set that a choice among single characters comes to. -/
def toSet? : Regex → Option CharSet
  | set s => some s
  | alt a b =>
      match a.toSet?, b.toSet? with
      | some s, some t => some (.union s t)
      | _, _ => none
  | _ => none

/-- Whether an expression is a choice that does not come to a set. -/
def isChoice : Regex → Bool
  | alt a b => (toSet? (alt a b)).isNone
  | _ => false

/-- Whether an expression takes no room in a sequence. -/
def isVoid : Regex → Bool
  | empty => true
  | repeated _ _ most => most == some 0
  | _ => false

/-- The room of repetitions of an expression that takes the room `once` and may
be skippable. -/
def roomRepeated (once : Room) (skippable : Bool) (least : Nat) (most : Option Nat) : Room :=
  let union := Room.state + 2 * Room.jump
  match most with
  | none =>
      if least = 0 && skippable then once + .both (3 * Room.state + 4 * Room.jump)
      else once.copies (max least 1) + .both union
  | some most =>
      if most = 0 then .both Room.state
      else if least = most then once.copies least
      else
        once.copies most + .both ((most - least) * union + Room.state) +
          .both (if least = 0 && most != 1 then Room.state else 0)

/-- The room of an expression.  Choices are counted with all their branches in a
row. -/
def room : Regex → Room
  | empty => .both Room.state
  | set s => s.room
  | look _ => .both Room.state
  | seq a b =>
      (if a.isVoid then .both 0 else a.room) + (if b.isVoid then .both 0 else b.room)
  | alt a b =>
      match toSet? (alt a b) with
      | some s => s.room
      | none =>
          let sum := a.room + b.room
          let ends := 2 * Room.state
          if a.isChoice && b.isChoice then ⟨sum.forward - ends, sum.backward - ends⟩
          else if a.isChoice || b.isChoice then sum + .both Room.jump
          else sum + .both (ends + 2 * Room.jump)
  | repeated r least most =>
      if r.isWidthless then
        roomRepeated r.room r.isSkippable (min least 1) (some (min (most.getD 1) 1))
      else roomRepeated r.room r.isSkippable least most
  | capture r => r.room + ⟨2 * Room.state, 0⟩

/-- The room that comes with every expression. -/
def roomAround : Room := ⟨208, 144⟩

/-- The room that an expression may take, in bytes. -/
def roomLimit : Nat := 10485760

/-- Whether an expression takes no more room than allowed. -/
def fits (r : Regex) : Bool :=
  let total := r.room + roomAround
  total.forward ≤ roomLimit && total.backward ≤ roomLimit

end Regex

end Rulebook
