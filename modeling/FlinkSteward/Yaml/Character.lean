/-!
# Characters of YAML

The classes of characters that the structure of a YAML text hangs on. The null character belongs to no
text; where a character is looked at, it stands for the end of the text.

- `isPermitted`: the characters that may be in a text
- `isBreak`, `isSeparator`: what ends a line, and what stands apart an indicator
-/

namespace FlinkSteward.Yaml

/-- Whether a character may be in a text. -/
def isPermitted (c : Char) : Bool :=
  let n := c.toNat
  n = 0x9 || n = 0xa || n = 0xd || (0x20 ≤ n && n ≤ 0x7e) || n = 0x85 || (0xa0 ≤ n && n ≤ 0xd7ff) ||
    (0xe000 ≤ n && n ≤ 0xfffd) || (0x10000 ≤ n && n ≤ 0x10ffff)

/-- Whether a character breaks a line. -/
def isBreak (c : Char) : Bool :=
  c = '\n' || c.toNat = 0x85 || c.toNat = 0x2028 || c.toNat = 0x2029

/-- Whether a character breaks a line or stands for the end. -/
def isBreakOrEnd (c : Char) : Bool :=
  c = '\x00' || isBreak c

/-- Whether a character separates an indicator from what is beside it. -/
def isSeparator (c : Char) : Bool :=
  c = '\x00' || c = ' ' || c = '\t' || c = '\r' || isBreak c

/-- Whether a separator or nothing comes next. -/
def isSeparated : List Char → Bool
  | [] => true
  | c :: _ => isSeparator c

/-- Whether a character may be in the name of an anchor, a directive or a handle. -/
def isWord (c : Char) : Bool :=
  c.isAlphanum || c = '-' || c = '_'

/-- The mark that may open a text and says how its characters are stored. -/
def byteOrderMark : Char := '\ufeff'

end FlinkSteward.Yaml
