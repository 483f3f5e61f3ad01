import FeatureFlow.Regex.Ascii
import FeatureFlow.Regex.Weight
import FeatureFlow.Unicode.Property
import FeatureFlow.Text.Blank
import FeatureFlow.Text.Hex
import FeatureFlow.Text.Numeral

/-! The text form of regular expressions. -/
namespace FeatureFlow.Regex

open Unicode

structure Flags where
  ignoreCase : Bool := false
  multiLine : Bool := false
  dotAll : Bool := false
  lazyFirst : Bool := false
  unicode : Bool := true
  crlf : Bool := false
  spaced : Bool := false

structure Cursor where
  rest : List Char
  flags : Flags
  /-- Names of the groups so far. -/
  names : List String

/-- Reads on from a cursor; any fault in the text ends the reading. -/
abbrev Parse := StateT Cursor Option

variable {α : Type}

def fault : Parse α := fun _ => none

def orFault (a : Option α) : Parse α := fun c => a.map (·, c)

def flags : Parse Flags := return (← get).flags

def peek : Parse (Option Char) := return (← get).rest.head?

def setRest (cs : List Char) : Parse Unit := modify fun c => { c with rest := cs }

/-- The text after blanks and comments, which run from a number sign to the end of the line. -/
def dropSpace : Bool → List Char → List Char
  | _, [] => []
  | true, c :: cs => dropSpace (c ≠ '\n') cs
  | false, c :: cs =>
    if Text.isBlank c then dropSpace false cs else if c = '#' then dropSpace true cs else c :: cs

def skipSpace : Parse Unit :=
  modify fun c => if c.flags.spaced then { c with rest := dropSpace false c.rest } else c

/-- The next character, which has to be there. -/
def next : Parse Char := do
  match (← get).rest with
  | c :: cs => setRest cs; return c
  | [] => fault

/-- Drops a text at the front and says whether it stood there. -/
def accept (mark : String) : Parse Bool := do
  let cs := (← get).rest
  if mark.toList.isPrefixOf cs then
    setRest (cs.drop mark.length)
    return true
  else return false

def readWhile (p : Char → Bool) : Parse (List Char) := do
  let cs := (← get).rest
  setRest (cs.dropWhile p)
  return cs.takeWhile p

/-- Characters up to a closing brace and what follows it. In spaced text blanks and comments do not
count; the second flag says that a comment has begun. -/
def braced? (spaced : Bool) : Bool → List Char → Option (List Char × List Char)
  | _, [] => none
  | true, c :: cs => braced? spaced (c ≠ '\n') cs
  | false, c :: cs =>
    if c = '\x7d' then some ([], cs)
    else if spaced && Text.isBlank c then braced? spaced false cs
    else if spaced && c = '#' then braced? spaced true cs
    else (braced? spaced false cs).map fun (body, rest) => (c :: body, rest)

def readBraced : Parse (List Char) := do
  let (body, rest) ← orFault (braced? (← flags).spaced false (← get).rest)
  setRest rest
  return body

def flagged (f : Flags) (on : Bool) : Char → Option Flags
  | 'i' => some { f with ignoreCase := on }
  | 'm' => some { f with multiLine := on }
  | 's' => some { f with dotAll := on }
  | 'U' => some { f with lazyFirst := on }
  | 'u' => some { f with unicode := on }
  | 'R' => some { f with crlf := on }
  | 'x' => some { f with spaced := on }
  | _ => none

/-- Flags up to a colon or a closing parenthesis. No flag and no minus sign comes twice, and no
minus sign comes last. -/
def setFlags (f : Flags) (on : Bool) : List Char → Option Flags
  | [] => some f
  | ['-'] => none
  | '-' :: cs => if on then setFlags f false cs else none
  | c :: cs => if cs.contains c then none else (flagged f on c).bind (setFlags · on cs)

def classOf (f : Flags) (s : CharSet) : Parse CharSet :=
  if f.unicode || s.isAscii then pure s else fault

def negateIf (negated : Bool) (s : CharSet) : CharSet := if negated then s.complement else s

def foldBy (f : Flags) (s : CharSet) : CharSet :=
  if f.ignoreCase then if f.unicode then s.foldCase else s.foldAscii else s

/-- What one character or one escape stands for. -/
inductive Primitive where
  | literal (c : Char)
  /-- A character given by the two digits of its code. -/
  | byte (c : Char)
  | set (s : CharSet)
  | look (a : Assertion)

def charOf? (n : Nat) : Option Char := if n.isValidChar then some (Char.ofNat n) else none

def hexNumber? (ds : List Char) : Option Nat :=
  (ds.mapM Text.hexValue?).map (·.foldl (fun n d => 16 * n + d) 0)

def readHexDigits : Nat → Parse (List Char)
  | 0 => pure []
  | n + 1 => do
    skipSpace
    let c ← next
    return c :: (← readHexDigits n)

/-- A character by its code: so many digits, or any number of them in braces. -/
def readHex (digits : Nat) : Parse Primitive := do
  skipSpace
  if ← accept "\x7b" then
    let ds ← readBraced
    if ds.isEmpty then fault
    else return .literal (← orFault ((hexNumber? ds).bind charOf?))
  else
    let ds ← readHexDigits digits
    let c ← orFault ((hexNumber? ds).bind charOf?)
    return if digits = 2 then .byte c else .literal c

def readProperty (negated : Bool) : Parse Primitive := do
  skipSpace
  let f ← flags
  let text ← if ← accept "\x7b" then readBraced else do
    let c ← next
    if c = '\\' then fault else pure [c]
  let (s, lacking) ← orFault (Property.query? text)
  if f.unicode then return .set (negateIf (negated != lacking) (foldBy f s)) else fault

/-- The kind of word boundary named in braces. Braces that hold no name are a count and stay. -/
def readBoundary (letters : CharSet) : Parse Assertion := do
  match (← get).rest with
  | '{' :: cs =>
    let cs := if (← flags).spaced then dropSpace false cs else cs
    match cs with
    | [] => fault
    | c :: _ =>
      if c.isAlpha || c = '-' then
        setRest cs
        match String.ofList (← readBraced) with
        | "start" => return .startOfWord letters
        | "end" => return .endOfWord letters
        | "start-half" => return .noWordBefore letters
        | "end-half" => return .noWordAfter letters
        | _ => fault
      else return .boundary letters
  | _ => return .boundary letters

/-- The rest of an escape after its backslash. -/
def readEscape : Parse Primitive := do
  let f ← flags
  let c ← next
  let pick (wide ascii : CharSet) : CharSet := if f.unicode then wide else ascii
  let letters := pick Derived.word Ascii.word
  match c with
  | 'x' => readHex 2
  | 'u' => readHex 4
  | 'U' => readHex 8
  | 'p' => readProperty false
  | 'P' => readProperty true
  | 'd' => return .set (pick Category.decimalNumber Ascii.digit)
  | 's' => return .set (pick Listed.whiteSpace Ascii.space)
  | 'w' => return .set letters
  | 'D' => return .set (← classOf f (pick Category.decimalNumber Ascii.digit).complement)
  | 'S' => return .set (← classOf f (pick Listed.whiteSpace Ascii.space).complement)
  | 'W' => return .set (← classOf f letters.complement)
  | 'a' => return .literal '\x07'
  | 'f' => return .literal '\x0c'
  | 't' => return .literal '\t'
  | 'n' => return .literal '\n'
  | 'r' => return .literal '\r'
  | 'v' => return .literal '\x0b'
  | 'A' => return .look .startOfText
  | 'z' => return .look .endOfText
  | 'b' => return .look (← readBoundary letters)
  | 'B' => return .look (.noBoundary letters)
  | '<' => return .look (.startOfWord letters)
  | '>' => return .look (.endOfWord letters)
  | c => if c.toNat < 128 && !c.isAlphanum then return .literal c else fault

inductive SetOp where
  | inter
  | diff
  | symmDiff

def SetOp.apply : SetOp → CharSet → CharSet → CharSet
  | inter => CharSet.inter
  | diff => CharSet.diff
  | symmDiff => CharSet.symmDiff

/-- A class named between colons, if one stands at the front. -/
def readNamedClass (f : Flags) : Parse (Option CharSet) := do
  match (← get).rest with
  | '[' :: ':' :: cs =>
    let (negated, cs) := match cs with
      | '^' :: cs => (true, cs)
      | cs => (false, cs)
    match Ascii.named.find? (String.ofList (cs.takeWhile (· ≠ ':'))), cs.dropWhile (· ≠ ':') with
    | some s, ':' :: ']' :: cs =>
      setRest cs
      return some (← classOf f (negateIf negated (foldBy f s)))
    | _, _ => return none
  | _ => return none

def readClassItem : Parse Primitive := do
  match ← next with
  | '\\' => readEscape
  | c => return .literal c

def Primitive.char? : Primitive → Option Char
  | literal c | byte c => some c
  | _ => none

def Primitive.members? : Primitive → Option CharSet
  | literal c | byte c => some (.single c)
  | set s => some s
  | look _ => none

/-- The character that tells what a hyphen before it means. In spaced text it is the first that is
no blank, after a number sign the next such. -/
def afterHyphen (spaced : Bool) (cs : List Char) : Option Char :=
  if spaced then
    let seen := match cs.dropWhile Text.isBlank with
      | '#' :: cs => cs.dropWhile Text.isBlank
      | cs => cs
    seen.head? <|> cs.head?
  else cs.head?

/-- One item of a class, or a range of characters. A hyphen before the end or another hyphen makes
no range. -/
def readClassRange (f : Flags) : Parse CharSet := do
  let item ← readClassItem
  skipSpace
  let (c, ahead) ← orFault (match (← get).rest with
    | c :: cs => some (c, afterHyphen f.spaced cs)
    | [] => none)
  if c = '-' && ahead ≠ some ']' && ahead ≠ some '-' then
    let _ ← next
    skipSpace
    let low ← orFault item.char?
    let high ← orFault (← readClassItem).char?
    if low ≤ high then classOf f ⟨[(low.toNat, high.toNat)]⟩ else fault
  else classOf f (← orFault item.members?)

/-- Items read one after the other: their union, their number, and how deep the deepest nests. -/
structure ClassItems where
  set : CharSet := .empty
  count : Nat := 0
  deepest : Nat := 0

def ClassItems.add (items : ClassItems) (s : CharSet) (depth : Nat) : ClassItems :=
  ⟨items.set.union s, items.count + 1, max items.deepest depth⟩

/-- Several items are one level deeper than the deepest of them. -/
def ClassItems.depth (items : ClassItems) : Nat :=
  if items.count ≤ 1 then items.deepest else items.deepest + 1

/-- Hyphens at the start of a class stand for themselves. -/
def readHyphens : Nat → ClassItems → Parse ClassItems
  | 0, items => pure items
  | n + 1, items => do
    if ← accept "-" then
      skipSpace
      readHyphens n (items.add (.single '-') 0)
    else return items

/-- The operand that waits, its depth and the operation, then the items after it. -/
structure ClassState where
  left : Option (CharSet × Nat × SetOp) := none
  items : ClassItems := {}

/-- The set read so far and its depth. -/
def ClassState.value (f : Flags) (s : ClassState) : CharSet × Nat :=
  match s.left with
  | some (left, depth, op) =>
    (op.apply (foldBy f left) (foldBy f s.items.set), max depth s.items.depth + 1)
  | none => (s.items.set, s.items.depth)

def ClassState.add (s : ClassState) (t : CharSet) (depth : Nat) : ClassState :=
  { s with items := s.items.add t depth }

def ClassState.operate (f : Flags) (s : ClassState) (op : SetOp) : ClassState :=
  let (left, depth) := s.value f
  { left := some (left, depth, op) }

mutual

/-- A class after its opening bracket: the set and how deep it nests. -/
def readClass : Nat → Parse (CharSet × Nat)
  | 0 => fault
  | fuel + 1 => do
    let f ← flags
    skipSpace
    let negated ← accept "^"
    skipSpace
    let hyphens ← readHyphens (← get).rest.length {}
    let close ← if hyphens.count = 0 then accept "]" else pure false
    let start := if close then hyphens.add (.single ']') 0 else hyphens
    let (s, depth) ← readClassBody fuel { items := start }
    return (← classOf f (negateIf negated (foldBy f s)), depth + 1)

def readClassBody : Nat → ClassState → Parse (CharSet × Nat)
  | 0, _ => fault
  | fuel + 1, s => do
    let f ← flags
    skipSpace
    match ← readNamedClass f with
    | some t => readClassBody fuel (s.add t 0)
    | none =>
      if ← accept "[" then
        let (t, depth) ← readClass fuel
        readClassBody fuel (s.add t depth)
      else if ← accept "]" then return s.value f
      else if ← accept "&&" then readClassBody fuel (s.operate f .inter)
      else if ← accept "--" then readClassBody fuel (s.operate f .diff)
      else if ← accept "~~" then readClassBody fuel (s.operate f .symmDiff)
      else readClassBody fuel (s.add (← readClassRange f) 0)

end

/-- An expression and how deep its parts nest. -/
structure Piece where
  node : Node
  depth : Nat

/-- Digits at the front and what follows them. In spaced text blanks and comments may stand after
each digit; the second flag says that a comment has begun. -/
def digits (spaced : Bool) : Bool → List Char → List Char × List Char
  | _, [] => ([], [])
  | true, c :: cs => digits spaced (c ≠ '\n') cs
  | false, c :: cs =>
    if c.isDigit then
      let (ds, rest) := digits spaced false cs
      (c :: ds, rest)
    else if spaced && Text.isBlank c then digits spaced false cs
    else if spaced && c = '#' then digits spaced true cs
    else ([], c :: cs)

/-- A number among blanks, if there is one. -/
def readDecimal : Parse (Option Nat) := do
  let (ds, rest) := digits (← flags).spaced false ((← get).rest.dropWhile Text.isBlank)
  setRest (rest.dropWhile Text.isBlank)
  if ds.isEmpty then return none
  else return some (← orFault (Text.numeral? (UInt32.size - 1) ds))

/-- A count in braces after the opening one: the least and the greatest number. -/
def readCount : Parse (Nat × Option Nat) := do
  skipSpace
  let least ← orFault (← readDecimal)
  let most ← if ← accept "," then do
      skipSpace
      if (← peek) = some '\x7d' then pure none else pure (some (← orFault (← readDecimal)))
    else pure (some least)
  if (← accept "\x7d") && most.all (least ≤ ·) then return (least, most) else fault

def isNameStart (c : Char) : Bool := c = '_' || Derived.alphabetic.contains c

def isNamePart (c : Char) : Bool :=
  isNameStart c || c = '.' || c = '[' || c = ']' || Category.numbers.contains c

/-- The name of a group up to the closing angle bracket. No two groups have one name. -/
def readGroupName : Parse Unit := do
  let name ← readWhile (· ≠ '>')
  let _ ← next
  match name with
  | [] => fault
  | c :: cs =>
    let name := String.ofList name
    if isNameStart c && cs.all isNamePart && !(← get).names.contains name then
      modify fun s => { s with names := name :: s.names }
    else fault

def looksAround (cs : List Char) : Bool :=
  ["?=", "?!", "?<=", "?<!"].any fun mark => mark.toList.isPrefixOf cs

def charNode (f : Flags) (c : Char) : Node := .set (foldBy f (.single c))

def Primitive.node (f : Flags) : Primitive → Parse Node
  | literal c => return charNode f c
  | byte c => if f.unicode || c.toNat < 128 then return charNode f c else fault
  | set s => return .set s
  | look a => return .look a

def dotNode (f : Flags) : Parse Node :=
  if !f.unicode then fault
  else if f.dotAll then return .set .any
  else if f.crlf then return .set (CharSet.complement ⟨[(0xA, 0xA), (0xD, 0xD)]⟩)
  else return .set (CharSet.complement ⟨[(0xA, 0xA)]⟩)

def readAtom : Parse Node := do
  let f ← flags
  match ← next with
  | '\\' => (← readEscape).node f
  | '.' => dotNode f
  | '^' => return .look (if f.multiLine then .startOfLine f.crlf else .startOfText)
  | '$' => return .look (if f.multiLine then .endOfLine f.crlf else .endOfText)
  | c => return charNode f c

/-- Parts of a sequence, the last first. A change of flags is a part without contents. -/
abbrev Parts := List (Option Piece)

def deepest (depths : List Nat) : Nat := depths.foldl max 0

def Parts.piece (parts : Parts) : Piece :=
  let depths := parts.map fun p => (p.map (·.depth)).getD 0
  let node := (parts.filterMap id).foldl (fun r p => match r with
    | .empty => p.node
    | r => .seq p.node r) Node.empty
  ⟨node, if parts.length ≤ 1 then deepest depths else deepest depths + 1⟩

/-- Repeats the last part; there has to be one with contents. -/
def Parts.repeatLast (parts : Parts) (least : Nat) (most : Option Nat) : Parse Parts :=
  match parts with
  | some p :: parts => return some ⟨.loop p.node least most, p.depth + 1⟩ :: parts
  | _ => fault

def alternatives : List Piece → Piece
  | [] => ⟨.empty, 0⟩
  | [p] => p
  | p :: ps => ⟨ps.foldl (fun r q => .alt r q.node) p.node, deepest ((p :: ps).map (·.depth)) + 1⟩

mutual

/-- Branches up to the end of the group or the text. -/
def readBranches : Nat → Parse (List Piece)
  | 0 => fault
  | fuel + 1 => do
    let p ← readSequence fuel []
    if ← accept "|" then return p :: (← readBranches fuel) else return [p]

def readSequence : Nat → Parts → Parse Piece
  | 0, _ => fault
  | fuel + 1, parts => do
    skipSpace
    let quantified (least : Nat) (most : Option Nat) : Parse Piece := do
      let parts ← parts.repeatLast least most
      let _ ← accept "?"
      readSequence fuel parts
    match ← peek with
    | none | some ')' | some '|' => return parts.piece
    | some '(' =>
      let _ ← next
      readSequence fuel ((← readGroup fuel) :: parts)
    | some '[' =>
      let _ ← next
      let (s, depth) ← readClass fuel
      readSequence fuel (some ⟨.set s, depth⟩ :: parts)
    | some '?' => let _ ← next; quantified 0 (some 1)
    | some '*' => let _ ← next; quantified 0 none
    | some '+' => let _ ← next; quantified 1 none
    | some '{' =>
      let _ ← next
      let (least, most) ← readCount
      skipSpace
      quantified least most
    | some _ =>
      let node ← readAtom
      readSequence fuel (some ⟨node, 0⟩ :: parts)

/-- A group after its opening parenthesis, or a change of flags. -/
def readGroup : Nat → Parse (Option Piece)
  | 0 => fault
  | fuel + 1 => do
    skipSpace
    let outer ← flags
    if looksAround (← get).rest then fault
    else if ← accept "?P<" then
      readGroupName
      readGroupBody fuel true outer
    else if ← accept "?<" then
      readGroupName
      readGroupBody fuel true outer
    else if ← accept "?" then
      let text ← readWhile fun c => c ≠ ':' && c ≠ ')'
      let inner ← orFault (setFlags outer true text)
      match ← next with
      | ':' =>
        modify fun c => { c with flags := inner }
        readGroupBody fuel false outer
      | _ =>
        if text.isEmpty then fault
        else
          modify fun c => { c with flags := inner }
          return none
    else readGroupBody fuel true outer

/-- What stands in parentheses, which may keep what matches. -/
def readGroupBody : Nat → Bool → Flags → Parse (Option Piece)
  | 0, _, _ => fault
  | fuel + 1, keeps, outer => do
    let branches ← readBranches fuel
    if ← accept ")" then
      modify fun c => { c with flags := outer }
      let p := alternatives branches
      return some ⟨if keeps then .group p.node else p.node, p.depth + 1⟩
    else fault

end

/-- Parts nest at most 250 deep. Every character takes four calls at most. -/
def parse? (pattern : List Char) : Option Node := do
  let (branches, c) ← readBranches (4 * pattern.length + 8) ⟨pattern, {}, []⟩
  let p := alternatives branches
  if c.rest = [] ∧ p.depth ≤ 250 then some p.node else none

inductive Malformed where
  | grammar
  | size
  deriving Repr, DecidableEq

/-- The greatest memory an expression may take. -/
def sizeLimit : Nat := 10485760

def Malformed.message : Malformed → String
  | grammar => "regex parse error"
  | size => s!"Compiled regex exceeds size limit of {sizeLimit} bytes."

def compile (pattern : String) : Except Malformed Node :=
  match parse? pattern.toList with
  | none => .error .grammar
  | some r => if r.weight ≤ sizeLimit then .ok r else .error .size

end FeatureFlow.Regex
