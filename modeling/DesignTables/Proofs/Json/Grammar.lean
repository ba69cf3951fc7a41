import DesignTables.Number.Integer

/-!
# The JSON grammar

A JSON text is a sequence of tokens with white space anywhere between them. A string is written in
many ways, since every character may be escaped; a literal is written as it is.
-/
namespace DesignTables

/-- A JSON document. Literals, numbers among them, keep their spelling. -/
inductive Json where
  | literal (spelling : String)
  | string (text : String)
  | array (items : List Json)
  | object (members : List (String × Json))

namespace Json

/-- White space between tokens. -/
def isSpace (c : Char) : Bool := c = ' ' || c = '\t' || c = '\n' || c = '\r'

/-- Whether a character may stand for itself in a string. -/
def isPlain (c : Char) : Bool := c ≠ '"' && c ≠ '\\' && 32 ≤ c.toNat

/-- The character that a backslash with one more character stands for. -/
def unescape? : Char → Option Char
  | '"' => some '"'
  | '\\' => some '\\'
  | '/' => some '/'
  | 'b' => some '\x08'
  | 'f' => some '\x0c'
  | 'n' => some '\n'
  | 'r' => some '\r'
  | 't' => some '\t'
  | _ => none

/-- The value of a digit in base sixteen. -/
def hexValue? (c : Char) : Option Nat :=
  if '0' ≤ c ∧ c ≤ '9' then some (c.toNat - '0'.toNat)
  else if 'a' ≤ c ∧ c ≤ 'f' then some (c.toNat - 'a'.toNat + 10)
  else if 'A' ≤ c ∧ c ≤ 'F' then some (c.toNat - 'A'.toNat + 10)
  else none

/-- The value of four digits in base sixteen. -/
def codeUnit? : List Char → Option Nat
  | [a, b, c, d] => do
    return 4096 * (← hexValue? a) + 256 * (← hexValue? b) + 16 * (← hexValue? c) + (← hexValue? d)
  | _ => none

/-- What may stand between the quotes of a string, and the text that it spells. A character beyond
the first 65536 is escaped as two code units. -/
inductive Spells : List Char → List Char → Prop where
  | nil : Spells [] []
  | plain {c : Char} {raw text : List Char} (self : isPlain c = true) (rest : Spells raw text) :
    Spells (c :: raw) (c :: text)
  | short {e c : Char} {raw text : List Char} (escape : unescape? e = some c)
    (rest : Spells raw text) : Spells ('\\' :: e :: raw) (c :: text)
  | unit {digits raw text : List Char} {n : Nat} (unit : codeUnit? digits = some n)
    (valid : n.isValidChar) (rest : Spells raw text) :
    Spells ('\\' :: 'u' :: (digits ++ raw)) (Char.ofNat n :: text)
  | pair {digits digits' raw text : List Char} {high low : Nat}
    (first : codeUnit? digits = some high) (second : codeUnit? digits' = some low)
    (isHigh : 0xD800 ≤ high ∧ high < 0xDC00) (isLow : 0xDC00 ≤ low ∧ low < 0xE000)
    (rest : Spells raw text) :
    Spells ('\\' :: 'u' :: (digits ++ '\\' :: 'u' :: (digits' ++ raw)))
      (Char.ofNat (0x10000 + 0x400 * (high - 0xD800) + (low - 0xDC00)) :: text)

/-- Digits without a needless zero in front. -/
def isWhole (digits : List Char) : Bool :=
  !digits.isEmpty && (digits == ['0'] || digits.head? != some '0')

/-- The exponent of a number, if it has one. -/
def isExponent : List Char → Bool
  | [] => true
  | c :: cs =>
    (c = 'e' || c = 'E') &&
      match cs with
      | '+' :: digits | '-' :: digits => !digits.isEmpty && digits.all isDigit
      | digits => !digits.isEmpty && digits.all isDigit

/-- The fraction of a number, if it has one, and its exponent. -/
def isFraction : List Char → Bool
  | '.' :: cs => !(cs.takeWhile isDigit).isEmpty && isExponent (cs.dropWhile isDigit)
  | cs => isExponent cs

/-- A number that is not negative. -/
def isUnsigned (cs : List Char) : Bool :=
  isWhole (cs.takeWhile isDigit) && isFraction (cs.dropWhile isDigit)

/-- A number. -/
def isNumber : List Char → Bool
  | '-' :: cs => isUnsigned cs
  | cs => isUnsigned cs

/-- A number, or one of the three words. -/
def isLiteral (spelling : String) : Bool :=
  ["true", "false", "null"].contains spelling || isNumber spelling.toList

/-- The tokens of a JSON text. -/
inductive Token where
  | beginArray | endArray | beginObject | endObject | nameSeparator | valueSeparator
  | string (text : String)
  | literal (spelling : String)

namespace Token

/-- The characters of a token when nothing is escaped. -/
def verbatim : Token → List Char
  | beginArray => ['[']
  | endArray => [']']
  | beginObject => ['\x7b']
  | endObject => ['\x7d']
  | nameSeparator => [':']
  | valueSeparator => [',']
  | string text => '"' :: (text.toList ++ ['"'])
  | literal spelling => spelling.toList

/-- What a token may be written as. -/
def IsWritten : Token → List Char → Prop
  | string text, cs => ∃ raw, Spells raw text.toList ∧ cs = '"' :: (raw ++ ['"'])
  | literal spelling, cs => isLiteral spelling = true ∧ cs = spelling.toList
  | token, cs => cs = token.verbatim

/-- Whether a token may be written verbatim. -/
def IsSound : Token → Prop
  | string text => text.toList.all isPlain = true
  | literal spelling => isLiteral spelling = true
  | _ => True

end Token

/-- Tokens as they may be written, with white space anywhere between them. -/
inductive Written (spell : Token → List Char → Prop) : List Token → List Char → Prop where
  | nil : Written spell [] []
  | space {c : Char} {tokens : List Token} {cs : List Char} (blank : isSpace c = true)
    (rest : Written spell tokens cs) : Written spell tokens (c :: cs)
  | token {token : Token} {tokens : List Token} {own cs : List Char} (spelled : spell token own)
    (rest : Written spell tokens cs) : Written spell (token :: tokens) (own ++ cs)

/-- Lists of tokens with commas between them. -/
def separated : List (List Token) → List Token
  | [] => []
  | [tokens] => tokens
  | tokens :: rest => tokens ++ .valueSeparator :: separated rest

mutual

/-- The tokens of a document. -/
def tokens : Json → List Token
  | literal spelling => [.literal spelling]
  | string text => [.string text]
  | array items => .beginArray :: (separated (itemTokens items) ++ [.endArray])
  | object members => .beginObject :: (separated (memberTokens members) ++ [.endObject])

/-- The tokens of each item of an array. -/
def itemTokens : List Json → List (List Token)
  | [] => []
  | item :: items => item.tokens :: itemTokens items

/-- The tokens of each member of an object. -/
def memberTokens : List (String × Json) → List (List Token)
  | [] => []
  | (name, value) :: members =>
    (.string name :: .nameSeparator :: value.tokens) :: memberTokens members

end

/-- Whether a text is a JSON text of the document. -/
def IsReadFrom (document : Json) (text : String) : Prop :=
  Written Token.IsWritten document.tokens text.toList

end Json

end DesignTables
