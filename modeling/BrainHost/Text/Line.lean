/-! # Lines and blanks

A line ends with a line feed, which a carriage return may precede. The last line may lack its end. -/

namespace BrainHost.Text

def isBlank (c : Char) : Bool :=
  let n := c.toNat
  (0x09 ≤ n && n ≤ 0x0D) || n = 0x20 || n = 0x85 || n = 0xA0 || n = 0x1680
    || (0x2000 ≤ n && n ≤ 0x200A) || n = 0x2028 || n = 0x2029 || n = 0x202F || n = 0x205F
    || n = 0x3000

/-- The text without its trailing blanks. -/
def trimEnd (cs : List Char) : List Char := (cs.reverse.dropWhile isBlank).reverse

/-- The text without its leading and trailing blanks. -/
def trim (cs : List Char) : List Char := trimEnd (cs.dropWhile isBlank)

/-- A finished line, given in reverse, without the carriage return before its end. -/
def finishLine : List Char → List Char
  | '\r' :: rest => rest.reverse
  | cs => cs.reverse

/-- The lines of a text after finished lines and the characters `acc` of the current line, both in
reverse. -/
def linesFrom (done : List (List Char)) (acc : List Char) : List Char → List (List Char)
  | [] => (if acc.isEmpty then done else acc.reverse :: done).reverse
  | c :: rest =>
    if c = '\n' then linesFrom (finishLine acc :: done) [] rest else linesFrom done (c :: acc) rest

/-- The lines of a text, without their ends. -/
def linesOf (cs : List Char) : List (List Char) := linesFrom [] [] cs

/-- The lines of a string, without their ends. -/
def lines (s : String) : List String := (linesOf s.toList).map String.ofList

end BrainHost.Text
