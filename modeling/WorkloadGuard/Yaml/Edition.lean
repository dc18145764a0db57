/-!
# Editions of YAML

Policies are written in YAML 1.2 and settings in YAML 1.1. The editions differ in what ends a line,
in the characters that a text may hold, and in many corners of layout; where they do, a reader is
told the edition.
-/

namespace WorkloadGuard.Yaml

/-- An edition of YAML. -/
inductive Edition where
  | v11
  | v12
  deriving DecidableEq, Repr

/-! ## Character classes -/

def isBlank (c : Char) : Bool :=
  c == ' ' || c == '\t'

def isFlowIndicator (c : Char) : Bool :=
  c == ',' || c == '[' || c == ']' || c == '{' || c == '}'

def byteOrderMark : Char :=
  Char.ofNat 0xFEFF

namespace Edition

/-- The characters that end a line once breaks are written alike: the line feed, and in YAML 1.1 the
line and paragraph separators too. -/
def isBreak (edition : Edition) (c : Char) : Bool :=
  c == '\n' || (edition == v11 && (c.toNat == 0x2028 || c.toNat == 0x2029))

def atLineEnd (edition : Edition) : List Char → Bool
  | [] => true
  | c :: _ => edition.isBreak c

/-- Whether a blank comes next, or the end of the line or of the text. -/
def atGap (edition : Edition) : List Char → Bool
  | [] => true
  | c :: _ => isBlank c || edition.isBreak c

/-! ## Preparing a text -/

def isPrintable (c : Char) : Bool :=
  let n := c.toNat
  n == 0x09 || n == 0x0A || n == 0x0D || (0x20 ≤ n && n ≤ 0x7E) || n == 0x85
    || (0xA0 ≤ n && n ≤ 0xFFFD) || 0x10000 ≤ n

/-- Whether a character is written as a line feed, besides the line feed itself. -/
def isLineFeedVariant (edition : Edition) (c : Char) : Bool :=
  c == '\r' || (edition == v11 && c.toNat == 0x85)

def normalizeBreaks (edition : Edition) : List Char → List Char
  | '\r' :: '\n' :: cs => '\n' :: normalizeBreaks edition cs
  | c :: cs => (if edition.isLineFeedVariant c then '\n' else c) :: normalizeBreaks edition cs
  | [] => []

def dropByteOrderMark : List Char → List Char
  | c :: cs => if c = byteOrderMark then cs else c :: cs
  | [] => []

/-- The characters of a text that are read, if the text is one. -/
def prepare? (edition : Edition) (cs : List Char) : Option (List Char) :=
  -- a text of YAML 1.1 must be printable; one of YAML 1.2 ends at its first null character and may
  -- have a byte order mark
  match edition with
  | v11 => if cs.all isPrintable then some (normalizeBreaks v11 cs) else none
  | v12 => some (normalizeBreaks v12 (dropByteOrderMark (cs.takeWhile (·.toNat != 0))))

end Edition

end WorkloadGuard.Yaml
