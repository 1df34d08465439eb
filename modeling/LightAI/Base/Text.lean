import Mathlib

/-!
# Text as Rust treats it

`char::is_whitespace` is the Unicode property White_Space, `char::is_control` the category Cc, and
`str::len` counts UTF-8 bytes.
-/

namespace Text

def isWhitespace (c : Char) : Bool :=
  let n := c.toNat
  (9 ≤ n && n ≤ 13) || n = 32 || n = 0x85 || n = 0xA0 || n = 0x1680 || (0x2000 ≤ n && n ≤ 0x200A)
    || n = 0x2028 || n = 0x2029 || n = 0x202F || n = 0x205F || n = 0x3000

def isControl (c : Char) : Bool := c.toNat < 32 || (127 ≤ c.toNat && c.toNat < 160)

/-- `value.trim().is_empty()`. -/
def isBlank (value : String) : Bool := value.toList.all isWhitespace

/-- `str::trim`. -/
def trim (value : String) : String :=
  String.ofList
    ((value.toList.dropWhile isWhitespace).reverse.dropWhile isWhitespace).reverse

/-- `value.chars().take(n)`. -/
def takeChars (n : Nat) (value : String) : String := String.ofList (value.toList.take n)

/-- `value.starts_with(part)`. -/
def startsWith (value part : String) : Bool := part.toList.isPrefixOf value.toList

/-- `value.contains(part)`. -/
def contains (value part : String) : Bool := value.toList.tails.any part.toList.isPrefixOf

/-- `value.rsplit_once(separator)`, the part after the last occurrence. -/
def afterLast (separator : String) (value : String) : Option String :=
  (value.toList.tails.reverse.find? separator.toList.isPrefixOf).map fun tail =>
    String.ofList (tail.drop separator.length)

/-- `str::split_whitespace`. -/
def splitWhitespace (value : String) : List String :=
  ((value.toList.splitOnP isWhitespace).filter (· ≠ [])).map String.ofList

/-- The value of a list of decimal digits. -/
def digitsValue (digits : List Char) : Nat :=
  digits.foldl (fun value digit => 10 * value + (digit.toNat - '0'.toNat)) 0

/-- `value.parse::<u64>()`: decimal digits, perhaps after a plus sign, that do not overflow. -/
def parseU64 (value : String) : Option Nat :=
  let digits := match value.toList with
    | '+' :: rest => rest
    | all => all
  if digits ≠ [] ∧ digits.all (fun c => '0'.toNat ≤ c.toNat && c.toNat ≤ '9'.toNat)
      ∧ digitsValue digits < 2 ^ 64 then
    some (digitsValue digits)
  else none

/-- `str::lines`: without the line ends, and without an empty last line. -/
def lines (value : String) : List String :=
  let pieces := value.toList.splitOn '\n'
  let ended := pieces.dropLast.map fun piece =>
    if piece.getLast? = some '\r' then piece.dropLast else piece
  (ended ++ (pieces.getLast?.filter (· ≠ [])).toList).map String.ofList

/-- `str::to_ascii_lowercase`. -/
def toAsciiLowercase (value : String) : String := value.map Char.toLower

/-- The components of a path that are names or lead to the parent directory. -/
def components (path : String) : List String :=
  ((path.toList.splitOn '/').map String.ofList).filter fun c => c ≠ "" && c ≠ "."

/-- `Path::file_name`: the last component, if it is a name. -/
def fileName (path : String) : Option String := (components path).getLast?.filter (· ≠ "..")

/-- Whether a path is equal to `Path::new("/")`. -/
def isRoot (path : String) : Bool := path.toList.head? = some '/' && (components path).isEmpty

end Text
