import Rulebook.Rule.Kinds

/-!
# Format rules

Fixed formats of text: words for yes and no, letters and digits, mail
addresses, locations and network addresses.  All of them are formats of ASCII
text, except that the zone of a network address may hold any character.
-/

namespace Rulebook.Format

open Regex

/-- A text in which the case of ASCII letters does not matter. -/
def caseless (text : String) : Regex :=
  seqs (text.toList.map fun c => set (.ofList [c.toUpper, c.toLower]))

/-- One character of some ranges, or of a text. -/
def oneOf (ranges : List (Char × Char)) (text : String) : Regex :=
  set (.union (.ranges (ranges.map fun r => (r.1.toNat, r.2.toNat))) (.ofList text.toList))

def digit : Regex := oneOf [('0', '9')] ""

def letter : Regex := oneOf [('A', 'Z'), ('a', 'z')] ""

def letterOrDigit : Regex := oneOf [('0', '9'), ('A', 'Z'), ('a', 'z')] ""

def hexDigit : Regex := oneOf [('0', '9'), ('A', 'F'), ('a', 'f')] ""

/-- An expression with a number of repetitions between two bounds. -/
def between (r : Regex) (least most : Nat) : Regex := .repeated r least (some most)

/-- A word of consent. -/
def accepted : Regex := whole (alts (["yes", "on", "1", "true"].map caseless))

/-- A word for true or false, or a quoted digit for it. -/
def boolean : Regex :=
  whole (alts (["true", "false", "1", "0", "\"1\"", "\"0\"", "'1'", "'0'"].map caseless))

def alpha : Regex := whole (plus letter)

def alphaNum : Regex := whole (plus letterOrDigit)

def alphaDash : Regex := whole (plus (oneOf [('0', '9'), ('A', 'Z'), ('a', 'z')] "_-"))

/-- A mail address: the name of a mailbox, and a host of two labels or more. -/
def email : Regex :=
  whole (seqs [
    oneOf [('A', 'Z'), ('a', 'z'), ('0', '9')] "_",
    star (oneOf [('A', 'Z'), ('a', 'z'), ('0', '9')] "-_.+"),
    char '@',
    plus (seqs [letterOrDigit, plus (oneOf [('A', 'Z'), ('a', 'z'), ('0', '9')] "-"), char '.']),
    between letter 2 14])

namespace Url

/-- The characters of user names and passwords. -/
def userChar : Regex := oneOf [('0', '9'), ('a', 'z')] "_!~*'().&=+$%-"

def scheme : Regex :=
  seq (optional (alts (["https", "http", "ftp", "rtsp", "mms"].map literal))) (literal "://")

def user : Regex :=
  seqs [optional (seq (plus userChar) (literal ": ")), plus userChar, char '@']

/-- Four numbers of up to three digits. -/
def numericHost : Regex :=
  seq (times (seq (between digit 1 3) (char '.')) 3) (between digit 1 3)

/-- Labels separated by dots, of which the last two are checked more closely. -/
def namedHost : Regex :=
  seqs [
    star (seq (plus (oneOf [('0', '9'), ('a', 'z')] "_!~*'()-")) (char '.')),
    optional (seq (oneOf [('0', '9'), ('a', 'z')] "")
      (between (oneOf [('0', '9'), ('a', 'z')] "-") 0 61)),
    oneOf [('0', '9'), ('a', 'z')] "",
    char '.',
    between (oneOf [('a', 'z')] "") 2 6]

def portNumber : Regex := seq (char ':') (between digit 1 4)

def path : Regex :=
  alt (optional (char '/'))
    (seq (plus (seq (char '/') (plus (oneOf [('0', '9'), ('a', 'z')] "_!~*'().;?:@&=+$,%#-"))))
      (optional (char '/')))

end Url

/-- A location in lower case: an optional scheme and user, a host with an optional
number after it, and a path. -/
def url : Regex :=
  whole (seqs [optional Url.scheme, optional Url.user, alt Url.numericHost Url.namedHost,
    optional Url.portNumber, Url.path])

namespace Ip

/-- A number from 0 to 255 without needless zeros. -/
def octet : Regex :=
  alts [
    seq (literal "25") (oneOf [('0', '5')] ""),
    seqs [char '2', oneOf [('0', '4')] "", digit],
    seqs [char '1', digit, digit],
    seq (optional (oneOf [('1', '9')] "")) digit]

/-- Four numbers separated by dots. -/
def dottedQuad : Regex := seq octet (times (seq (char '.') octet) 3)

/-- A group of up to four hexadecimal digits. -/
def group : Regex := between hexDigit 1 4

/-- A group and the colon after it. -/
def groupColon : Regex := seq group (char ':')

/-- A group and the colon in front of it. -/
def colonGroup : Regex := seq (char ':') group

/-- What can follow a colon, or groups that each have one after them: groups with
a gap in front, up to so many of them, a gap and four numbers with up to so many
groups between them, or a gap alone. -/
def afterGap (most mostBeforeNumbers : Nat) : Regex :=
  alts [between colonGroup 1 most,
    seqs [between colonGroup 0 mostBeforeNumbers, char ':', dottedQuad], char ':']

/-- The texts of addresses of eight groups, by how many groups stand in front
of the gap if there is one. -/
def groups : Regex :=
  alts [
    seq (times groupColon 7) (alt group (char ':')),
    seq (times groupColon 6) (alts [colonGroup, dottedQuad, char ':']),
    seq (times groupColon 5) (afterGap 2 0),
    seq (times groupColon 4) (afterGap 3 1),
    seq (times groupColon 3) (afterGap 4 2),
    seq (times groupColon 2) (afterGap 5 3),
    seq (times groupColon 1) (afterGap 6 4),
    seq (char ':') (afterGap 7 5)]

/-- A zone after a percent sign, on one line. -/
def zone : Regex := seq (char '%') (plus (set (.compl (.single '\n'))))

def short : Regex := whole (seq (times (seq octet (char '.')) 3) octet)

def long : Regex := whole (seq groups (optional zone))

end Ip

/-- The text of a network address. -/
def isIp (value : Value) : Bool :=
  let text := value.stringify
  Ip.short.isMatch text || Ip.long.isMatch text

/-- The format rules that are there from the start. -/
def builtIn : Table ValueRule := [
  ("boolean", .pattern boolean),
  ("accepted", .pattern accepted),
  ("alpha", .pattern alpha),
  ("alpha_dash", .pattern alphaDash),
  ("alpha_num", .pattern alphaNum),
  ("email", .pattern email),
  ("url", .pattern url),
  ("ip", Kinds.plain isIp),
  ("regex", .argumentPattern)]

end Rulebook.Format
