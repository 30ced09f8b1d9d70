import Mathlib.Algebra.Order.Ring.Rat

/-!
# JSON texts

`json.loads` of Python: the values, the tokens of a text and the reader that
builds a value from them. A text that is not JSON gives the decode error; a
number with too many digits and too deep a nesting give other errors, when the
reader reaches them before the text goes wrong.
-/

namespace Aqts.JsonText

/-- A text. -/
abbrev Text := List Char

/-- What a JSON text is read into. -/
inductive Json
  /-- `None`. -/
  | null
  /-- A truth value. -/
  | bool (b : Bool)
  /-- An integer. -/
  | int (n : ℤ)
  /-- A float, known by being zero or not. -/
  | float (isZero : Bool)
  /-- A string. -/
  | str (text : Text)
  /-- A list. -/
  | array (items : List Json)
  /-- A dictionary, with its members in the order of the text. -/
  | object (members : List (Text×Json))

/-- `bool` of a value. -/
def Json.truthy : Json→Bool
  | .null => false
  | .bool b => b
  | .int n => decide (n≠0)
  | .float isZero => !isZero
  | .str text => !text.isEmpty
  | .array items => !items.isEmpty
  | .object members => !members.isEmpty

/-- A value that may stand in a set: anything but a list and a dictionary. -/
def Json.hashable : Json→Bool
  | .array _ => false
  | .object _ => false
  | _ => true

/-- A dictionary. -/
def Json.isObject : Json→Bool
  | .object _ => true
  | _ => false

/-- The last member with a name, the one a dictionary keeps. -/
def member (name : Text) (members : List (Text×Json)) : Option Json :=
  ((members.filter fun entry => entry.1==name).getLast?).map Prod.snd

/-- `get` with a default. What is no dictionary has no such method. -/
def Json.get (value : Json) (name : Text) (default : Json) : Option Json :=
  match value with
  | .object members => some ((member name members).getD default)
  | _ => none

/-- What `json.loads` raises. -/
inductive Failure
  /-- `JSONDecodeError`. -/
  | decodeError
  /-- Any other error: the limit of digits or of the nesting. -/
  | other
deriving DecidableEq

/-- A token of a text. -/
inductive Token
  /-- A string, a number or a literal. -/
  | atom (value : Json)
  /-- `[`. -/
  | openArray
  /-- `]`. -/
  | closeArray
  /-- An opening brace. -/
  | openObject
  /-- A closing brace. -/
  | closeObject
  /-- `:`. -/
  | colon
  /-- `,`. -/
  | comma
  /-- No token begins here, or reading it raises. -/
  | bad (failure : Failure)

/-- White space between tokens. -/
def isBlank (c : Char) : Bool := decide (c∈[' ','\t','\n','\r'])

/-- The value of a decimal digit. -/
def digitValue (c : Char) : ℕ := c.toNat-48

/-- The value of a hexadecimal digit. -/
def hexValue (c : Char) : Option ℕ :=
  if c.isDigit then some (digitValue c)
  else if c∈['a','b','c','d','e','f'] then some (c.toNat-87)
  else if c∈['A','B','C','D','E','F'] then some (c.toNat-55)
  else none

/-- The code of a four digit escape. -/
def hexCode (a b c d : Char) : Option ℕ := do
  let a ← hexValue a
  let b ← hexValue b
  let c ← hexValue c
  let d ← hexValue d
  pure (((a*16+b)*16+c)*16+d)

/-- The code of a one letter escape. -/
def escaped (c : Char) : Option ℕ :=
  if c∈['\x22','\\','/'] then some c.toNat
  else if c= 'b' then some 8
  else if c= 'f' then some 12
  else if c= 'n' then some 10
  else if c= 'r' then some 13
  else if c= 't' then some 9
  else none

/-- A code in front of those of the rest of a string. -/
def push (code : ℕ) (scanned : List ℕ×Text) : List ℕ×Text := (code::scanned.1,scanned.2)

/-- The codes of a string after its opening quote, and the text after its closing
one. Control characters and unknown escapes are errors. -/
def scanString : Text→Option (List ℕ×Text)
  | [] => none
  | c::rest =>
    if c= '\x22' then some ([],rest)
    else if c= '\\' then
      match rest with
      | [] => none
      | letter::tail =>
        if letter= 'u' then
          match tail with
          | a::b::c::d::after =>
            match hexCode a b c d with
            | none => none
            | some code => (scanString after).map (push code)
          | _ => none
        else
          match escaped letter with
          | none => none
          | some code => (scanString tail).map (push code)
    else if c.toNat<32 then none
    else (scanString rest).map (push c.toNat)

/-- The characters of a string's codes: a high surrogate and a low one make one
character. A lone surrogate, which is no character, becomes the replacement
character. -/
def characters : List ℕ→Text
  | high::low::codes =>
    if 0xD800≤high ∧ high<0xDC00 ∧ 0xDC00≤low ∧ low<0xE000 then
      Char.ofNat (0x10000+(high-0xD800)*0x400+(low-0xDC00))::characters codes
    else (if 0xD800≤high ∧ high<0xE000 then Char.ofNat 0xFFFD else Char.ofNat high)::
      characters (low::codes)
  | [code] => [if 0xD800≤ code ∧ code<0xE000 then Char.ofNat 0xFFFD else Char.ofNat code]
  | [] => []

/-- The number that decimal digits write. -/
def natOf (digits : Text) : ℕ := digits.foldl (fun n c => 10*n+digitValue c) 0

/-- The digits before the point: a single zero, or digits that begin with another. -/
def scanInteger : Text→Option (Text×Text)
  | '0'::rest => some (['0'],rest)
  | text =>
    match text.takeWhile Char.isDigit with
    | [] => none
    | digits => some (digits,text.dropWhile Char.isDigit)

/-- The digits after a point, if there are any. -/
def scanFraction : Text→Option (Text×Text)
  | '.'::rest =>
    match rest.takeWhile Char.isDigit with
    | [] => none
    | digits => some (digits,rest.dropWhile Char.isDigit)
  | _ => none

/-- The digits of an exponent. -/
def scanDigits (sign : ℤ) (text : Text) : Option (ℤ×Text) :=
  match text.takeWhile Char.isDigit with
  | [] => none
  | digits => some (sign*natOf digits,text.dropWhile Char.isDigit)

/-- The exponent, if there is one. -/
def scanExponent : Text→Option (ℤ×Text)
  | c::rest =>
    if c∈['e','E'] then
      match rest with
      | '+'::tail => scanDigits 1 tail
      | '-'::tail => scanDigits (-1) tail
      | _ => scanDigits 1 rest
    else none
  | [] => none

/-- The digits of an integer that `int` still reads. -/
def maxDigits : ℕ := 4300

/-- A decimal fraction that is rounded to zero. -/
def isZero (mantissa : ℕ) (exponent : ℤ) : Bool :=
  decide ((mantissa : ℚ)*10^exponent≤1/2^1075)

/-- A number without its sign. -/
def scanMagnitude (negative : Bool) (text : Text) : Option (Token×Text) :=
  match scanInteger text with
  | none => none
  | some (digits,rest) =>
    match scanFraction rest,scanExponent ((scanFraction rest).elim rest Prod.snd) with
    | none,none =>
      if maxDigits<digits.length then some (.bad .other,rest)
      else some (.atom (.int (if negative then -natOf digits else natOf digits)),rest)
    | some (fraction,after),none =>
      some (.atom (.float (isZero (natOf (digits++fraction)) (-fraction.length))),after)
    | none,some (exponent,after) => some (.atom (.float (isZero (natOf digits) exponent)),after)
    | some (fraction,_),some (exponent,after) =>
      some (.atom (.float (isZero (natOf (digits++fraction)) (exponent-fraction.length))),after)

/-- The literals with their values. -/
def literals : List (Text×Json) :=
  [("null".toList,.null),("true".toList,.bool true),("false".toList,.bool false),
    ("NaN".toList,.float false),("Infinity".toList,.float false),("-Infinity".toList,.float false)]

/-- The first token of a text that does not begin with white space, and the text
after it. -/
def scanToken : Text→Token×Text
  | [] => (.bad .decodeError,[])
  | c::rest =>
    match c with
    | '[' => (.openArray,rest)
    | ']' => (.closeArray,rest)
    | '\x7b' => (.openObject,rest)
    | '\x7d' => (.closeObject,rest)
    | ':' => (.colon,rest)
    | ',' => (.comma,rest)
    | '\x22' =>
      match scanString rest with
      | none => (.bad .decodeError,[])
      | some (codes,after) => (.atom (.str (characters codes)),after)
    | _ =>
      match literals.find? fun literal => literal.1.isPrefixOf (c::rest) with
      | some literal => (.atom literal.2,(c::rest).drop literal.1.length)
      | none =>
        let magnitude := if c= '-' then scanMagnitude true rest else scanMagnitude false (c::rest)
        magnitude.getD (.bad .decodeError,[])

/-- The tokens of a text, after so many characters that belong to the last one. -/
def tokensFrom : ℕ→Text→List Token
  | _,[] => []
  | inside+1,_::rest => tokensFrom inside rest
  | 0,c::rest =>
    if isBlank c then tokensFrom 0 rest
    else
      let scanned := scanToken (c::rest)
      scanned.1::tokensFrom (rest.length-scanned.2.length) rest

/-- A list or a dictionary that the reader is inside of. -/
inductive Frame
  /-- A list with its items so far. -/
  | array (items : List Json)
  /-- A dictionary with its members so far and the name of the next. -/
  | object (members : List (Text×Json)) (name : Text)

/-- What the reader expects. -/
inductive Expected
  /-- A value. -/
  | value
  /-- An item or the end of a list. -/
  | itemOrEnd
  /-- A name or the end of a dictionary. -/
  | nameOrEnd
  /-- The next name of a dictionary. -/
  | name (members : List (Text×Json))
  /-- A colon after a name. -/
  | colon (members : List (Text×Json)) (name : Text)
  /-- The end of a text, a list or a dictionary after a value, or a comma. -/
  | afterValue (value : Json)

/-- The reader takes a token where a value may begin. -/
def readValue (maxDepth : ℕ) (stack : List Frame) : Token→Except Failure (Expected×List Frame)
  | .atom value => .ok (.afterValue value,stack)
  | .openArray =>
    if stack.length< maxDepth then .ok (.itemOrEnd,.array []::stack) else .error .other
  | .openObject => if stack.length< maxDepth then .ok (.nameOrEnd,stack) else .error .other
  | .bad failure => .error failure
  | _ => .error .decodeError

/-- The reader takes a token. -/
def read (maxDepth : ℕ) : Expected→List Frame→Token→Except Failure (Expected×List Frame)
  | .itemOrEnd,.array []::stack,.closeArray => .ok (.afterValue (.array []),stack)
  | .itemOrEnd,stack,token => readValue maxDepth stack token
  | .value,stack,token => readValue maxDepth stack token
  | .nameOrEnd,stack,.closeObject => .ok (.afterValue (.object []),stack)
  | .nameOrEnd,stack,.atom (.str name) => .ok (.colon [] name,stack)
  | .name members,stack,.atom (.str name) => .ok (.colon members name,stack)
  | .colon members name,stack,.colon => .ok (.value,.object members name::stack)
  | .afterValue value,.array items::stack,.comma => .ok (.value,.array (items++[value])::stack)
  | .afterValue value,.array items::stack,.closeArray =>
    .ok (.afterValue (.array (items++[value])),stack)
  | .afterValue value,.object members name::stack,.comma =>
    .ok (.name (members++[(name,value)]),stack)
  | .afterValue value,.object members name::stack,.closeObject =>
    .ok (.afterValue (.object (members++[(name,value)])),stack)
  | _,_,_ => .error .decodeError

/-- The reader takes the tokens to their end. -/
def readAll (maxDepth : ℕ) : Expected→List Frame→List Token→Except Failure Json
  | .afterValue value,[],[] => .ok value
  | _,_,[] => .error .decodeError
  | expected,stack,token::tokens =>
    match read maxDepth expected stack token with
    | .error failure => .error failure
    | .ok (next,inside) => readAll maxDepth next inside tokens

/-- `json.loads`, with the nesting at which the interpreter gives up. -/
def loads (maxDepth : ℕ) (text : Text) : Except Failure Json :=
  readAll maxDepth .value [] (tokensFrom 0 text)

end Aqts.JsonText
