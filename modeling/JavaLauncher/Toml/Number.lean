import JavaLauncher.Toml.Value
import JavaLauncher.Toml.Reader

/-!
# Numbers

A number is read in two steps. Its form is looked at first: after a sign come the words `inf`
and `nan`, or digits that a point or an exponent makes a floating-point number; without a sign,
`0x`, `0o` or `0b` introduces an integer in base 16, 8 or 2. A decimal integer and the whole
part of a floating-point number have no leading zero.

Underscores group characters, and each stands between two digits. In an integer those digits may
be hexadecimal whatever its base, and a decimal integer that has an underscore after its first
digits may hold any other characters as well. So the form of an integer does not ensure that it
spells a number. That is the second step: the characters of a decimal integer must all be decimal
digits, and a base must have digits after it. An integer that fails in this step is illegible.
-/
namespace JavaLauncher.Toml

/-- The value of a digit in a base of at most 16. -/
def digitIn? (base : Nat) (c : Char) : Option Nat :=
  (hexDigit? c).filter (· < base)

/-- A hexadecimal digit. -/
def isHexDigit (c : Char) : Bool := (hexDigit? c).isSome

/-- The characters of a text without its underscores, each of which must stand between two
digits of some kind. -/
def ungrouped? (isDigit : Char → Bool) : List Char → Option (List Char)
  | [] => some []
  | '_' :: _ => none
  | [c] => some [c]
  | c :: '_' :: rest =>
    if isDigit c && rest.head?.any isDigit then (ungrouped? isDigit rest).map (c :: ·) else none
  | c :: rest => (ungrouped? isDigit rest).map (c :: ·)

/-- The number that digits of a base write, if there are any and nothing else. -/
def natural? (base : Nat) (digits : List Char) : Option Nat :=
  if digits = [] then none
  else (digits.mapM (digitIn? base)).map (·.foldl (fun number digit => number * base + digit) 0)

/-- The sign at the front of a text, if there is one, and the text after it; true means
negative. -/
def takeSign : List Char → Option Bool × List Char
  | '-' :: rest => (some true, rest)
  | '+' :: rest => (some false, rest)
  | text => (none, text)

/-- A number with a sign. -/
def signed (negative : Bool) (number : Nat) : Int := if negative then -(number : Int) else number

/-- The integer that digits of a base spell. -/
def integerValue (negative : Bool) (base : Nat) (digits : List Char) : Value :=
  match natural? base digits with
  | some number => .integer (signed negative number)
  | none => .illegible

/-- An integer after the letter of its base, which holds digits of the base and underscores. -/
def basedInteger? (base : Nat) (text : List Char) : Option Value :=
  ((ungrouped? isHexDigit text).filter (·.all fun c => (digitIn? base c).isSome)).map
    (integerValue false base)

/-- A text of several characters begins with a zero. -/
def hasLeadingZero : List Char → Bool
  | '0' :: _ :: _ => true
  | _ => false

/-- The decimal digits of a text that has at least one, perhaps grouped, and nothing else. -/
def decimalDigits? (text : List Char) : Option (List Char) :=
  (ungrouped? Char.isDigit text).filter fun digits => digits ≠ [] && digits.all Char.isDigit

/-- A letter of an exponent. -/
def isExponentMark (c : Char) : Bool := c == 'e' || c == 'E'

/-- A character that makes a number a floating-point number. -/
def isFloatMark (c : Char) : Bool := c == '.' || isExponentMark c

/-- The power of ten at the front of the exponent part of a number, which may be missing. -/
def exponent? : List Char → Option Int
  | [] => some 0
  | _ :: rest =>
    ((decimalDigits? (takeSign rest).2).bind (natural? 10)).map
      (signed ((takeSign rest).1.getD false))

/-- The digits after the point at the front of the fraction part of a number, which may be
missing. -/
def fraction? : List Char → Option (List Char)
  | [] => some []
  | '.' :: digits => decimalDigits? digits
  | _ => none

/-- A floating-point number after its sign: a whole part, and a fraction or an exponent or
both. -/
def float? (negative : Bool) (text : List Char) : Option FloatLiteral :=
  let mantissa := text.takeWhile (!isExponentMark ·)
  match decimalDigits? (mantissa.takeWhile (· != '.')), fraction? (mantissa.dropWhile (· != '.')),
      exponent? (text.dropWhile (!isExponentMark ·)) with
  | some whole, some fraction, some power =>
    (natural? 10 (whole ++ fraction)).map fun digits =>
      .decimal negative digits (power - fraction.length)
  | _, _, _ => none

/-- A decimal number after its sign. -/
def decimal? (negative : Bool) (text : List Char) : Option Value :=
  let tail := text.dropWhile Char.isDigit
  if tail.any isFloatMark then
    if hasLeadingZero (text.takeWhile fun c => c.isDigit || c == '_') then none
    else (float? negative text).map .float
  else if text = [] || hasLeadingZero text || tail.head?.any (· != '_') then none
  else (ungrouped? isHexDigit text).map (integerValue negative 10)

/-- The value of a word that has the form of a number. A word with a space in it has not. -/
def numberValue? (word : List Char) : Option Value :=
  if word.contains ' ' then none
  else
    let (sign, magnitude) := takeSign word
    if magnitude = ['i', 'n', 'f'] then some (.float (.infinite (sign.getD false)))
    else if magnitude = ['n', 'a', 'n'] then some (.float .notANumber)
    else
      match sign, magnitude with
      | none, '0' :: 'x' :: digits => basedInteger? 16 digits
      | none, '0' :: 'o' :: digits => basedInteger? 8 digits
      | none, '0' :: 'b' :: digits => basedInteger? 2 digits
      | _, _ => decimal? (sign.getD false) magnitude

end JavaLauncher.Toml
