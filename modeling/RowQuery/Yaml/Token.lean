import RowQuery.Error
import RowQuery.Text.Utf8

/-!
Tokens of YAML 1.1. Indentation becomes tokens of its own: a block opens where a line is indented
further and ends where one is indented less. A node followed by a colon on its line turns out to be
a key, so the token that marks a key is inserted before it afterwards. The text is read no further
than the next token needs.
-/

namespace RowQuery.Yaml

inductive Token
  /-- The major number of a version. -/
  | version (major : Nat)
  /-- A handle, and the start of the tags it stands for. -/
  | handle (name start : String)
  /-- A directive of another kind. -/
  | directive
  | documentStart
  | documentEnd
  | blockSequence
  | blockMapping
  | blockEnd
  | flowSequence
  | flowMapping
  | flowSequenceEnd
  | flowMappingEnd
  | blockEntry
  | flowEntry
  | key
  | value
  | alias (name : String)
  | anchor (name : String)
  /-- A tag with its handle, none for a tag written out. -/
  | tag (handle : Option String) (suffix : String)
  | scalar (text : String) (plain : Bool)
  | streamEnd
  deriving DecidableEq, Repr

/-- A place where a key may have started: the number of the token that follows it, whether a key has
to stand there, and the position. -/
structure KeyPlace where
  token : Nat
  required : Bool
  index : Nat
  line : Nat
  column : Nat

/-- The state of a scan. -/
structure Scan where
  rest : List Char
  index : Nat := 0
  line : Nat := 0
  column : Nat := 0
  /-- The tokens that are known but not taken, and the number of those taken. -/
  tokens : List Token := []
  taken : Nat := 0
  /-- The end of the text has been reached. -/
  done : Bool := false
  /-- The depth of brackets and braces. -/
  flow : Nat := 0
  indent : Int := -1
  indents : List Int := []
  keyAllowed : Bool := true
  /-- Places where keys may have started, by depth. -/
  places : List (Nat × KeyPlace) := []

abbrev Scanner (α : Type) := StateT Scan (Except Fault) α

namespace Scanner

def malformed {α : Type} : Scanner α := throw .yaml

def isBreak (c : Char) : Bool :=
  c == '\r' || c == '\n' || c == '\x85' || c == '\u2028' || c == '\u2029'

/-- The end of the text counts as a character, which no text holds. -/
def isEnd (c : Char) : Bool := c == '\x00'

def isBreakOrEnd (c : Char) : Bool := isBreak c || isEnd c

/-- A blank, a line end or the end of the text. -/
def isGap (c : Char) : Bool := c == ' ' || c == '\t' || isBreakOrEnd c

/-- The character `n` places ahead. -/
def peek (n : Nat := 0) : Scanner Char := do return ((← get).rest.drop n).headD '\x00'

/-- Passes one character. -/
def advance (s : Scan) : Scan :=
  match s.rest with
  | [] => s
  | c :: cs =>
    let s := { s with rest := cs, index := s.index + 1 }
    if isBreak c && !(c == '\r' && cs.head? == some '\n') then
      { s with line := s.line + 1, column := 0 }
    else if c == '\ufeff' then s
    else { s with column := s.column + 1 }

def advanceBy (s : Scan) : Nat → Scan
  | 0 => s
  | n + 1 => advanceBy (advance s) n

/-- Passes `n` characters and gives them. -/
def take (n : Nat) : Scanner (List Char) := do
  let s ← get
  set (advanceBy s n)
  return s.rest.take n

def skip (n : Nat := 1) : Scanner Unit := modify fun s => advanceBy s n

/-- Passes the characters of a class and gives them. -/
def takeWhile (p : Char → Bool) : Scanner (List Char) := do
  take ((← get).rest.takeWhile p).length

def emit (t : Token) : Scanner Unit := modify fun s => { s with tokens := s.tokens ++ [t] }

/-- Passes a line end and gives it; those of one line are line feeds. -/
def lineBreak : Scanner (List Char) := do
  match (← get).rest with
  | '\r' :: '\n' :: _ => skip 2; return ['\n']
  | '\u2028' :: _ => skip; return ['\u2028']
  | '\u2029' :: _ => skip; return ['\u2029']
  | c :: _ => if isBreak c then do skip; return ['\n'] else return []
  | [] => return []

/-- Three dashes or three points that stand on their own at this place. -/
def atSeparator : Scanner Bool := do
  match (← get).rest with
  | '-' :: '-' :: '-' :: cs => return isGap (cs.headD '\x00')
  | '.' :: '.' :: '.' :: cs => return isGap (cs.headD '\x00')
  | _ => return false

/-- Passes blanks, comments and line ends; outside brackets a new line may start with a key. -/
def skipGaps : (fuel : Nat) → Scanner Unit
  | 0 => return
  | fuel + 1 => do
    let _ ← takeWhile (· == ' ')
    if (← peek) = '#' then
      let _ ← takeWhile fun c => !isBreak c
    match ← lineBreak with
    | [] => return
    | _ => do
      modify fun s => if s.flow = 0 then { s with keyAllowed := true } else s
      skipGaps fuel

/-- Forgets places that lie too far behind; one where a key had to stand is an error. -/
def dropStalePlaces : Scanner Unit := do
  let s ← get
  let isStale := fun (p : KeyPlace) => p.line != s.line || 1024 < s.index - p.index
  if s.places.any fun p => isStale p.2 && p.2.required then malformed
  set { s with places := s.places.filter fun p => !isStale p.2 }

/-- Forgets the place at this depth. -/
def dropPlace : Scanner Unit := do
  let s ← get
  if s.places.any fun p => p.1 == s.flow && p.2.required then malformed
  set { s with places := s.places.filter fun p => p.1 != s.flow }

/-- Notes that a key may start here. -/
def notePlace : Scanner Unit := do
  if (← get).keyAllowed then
    dropPlace
    modify fun s =>
      let place : KeyPlace :=
        { token := s.taken + s.tokens.length, required := s.flow == 0 && s.indent == s.column
          index := s.index, line := s.line, column := s.column }
      { s with places := (s.flow, place) :: s.places }

/-- Ends the blocks that are indented further than a column. -/
def unwind (column : Int) : (fuel : Nat) → Scanner Unit
  | 0 => return
  | fuel + 1 => do
    let s ← get
    if s.flow = 0 && column < s.indent then
      set { s with indent := s.indents.headD (-1), indents := s.indents.tail
                   tokens := s.tokens ++ [Token.blockEnd] }
      unwind column fuel

def unwindAll : Scanner Unit := do unwind (-1) ((← get).indents.length + 1)

/-- Opens a block at a column that is indented further than the current one. -/
def indentTo (column : Nat) : Scanner Bool := do
  let s ← get
  if s.indent < column then
    set { s with indents := s.indent :: s.indents, indent := column }
    return true
  else return false

/-- Places a token before one that was emitted earlier. -/
def insertAt (place : Nat) (t : Token) : Scanner Unit :=
  modify fun s => { s with
    tokens := s.tokens.take (place - s.taken) ++ t :: s.tokens.drop (place - s.taken) }

def allowKey (b : Bool) : Scanner Unit := modify fun s => { s with keyAllowed := b }

def isNameChar (c : Char) : Bool := c.isAlphanum || c == '-' || c == '_'

def isUriChar (c : Char) : Bool :=
  c.isAlphanum || "-;/?:@&=+$,_.!~*'()[]%".toList.contains c

/-- The characters of a tag after the bytes of the escapes right before them. Escapes that follow
each other are the bytes of whole characters. -/
def uriChars? (escaped : List UInt8) : List Char → Option (List Char)
  | '%' :: a :: b :: cs => do
    let x ← Text.hexValue? a
    let y ← Text.hexValue? b
    uriChars? (escaped ++ [UInt8.ofNat (16 * x + y)]) cs
  | '%' :: _ => none
  | c :: cs => do return (← Text.decodeUtf8? escaped) ++ c :: (← uriChars? [] cs)
  | [] => Text.decodeUtf8? escaped

/-- The characters of a tag. -/
def tagUri : Scanner String := do
  match ← takeWhile isUriChar with
  | [] => malformed
  | cs => match uriChars? [] cs with
    | some cs => return String.ofList cs
    | none => malformed

/-- A handle of tags: an exclamation mark before a blank, or a name between two of them. -/
def tagHandle : Scanner String := do
  if (← peek) ≠ '!' then malformed
  skip
  if (← peek) = ' ' then return "!"
  let name ← takeWhile isNameChar
  if (← peek) ≠ '!' then malformed
  skip
  return String.ofList ('!' :: name ++ ['!'])

/-- The rest of a line that may hold a comment only. -/
def restOfLine : Scanner Unit := do
  let _ ← takeWhile (· == ' ')
  if (← peek) = '#' then
    let _ ← takeWhile fun c => !isBreak c
  if !isBreakOrEnd (← peek) then malformed
  let _ ← lineBreak

/-- A number of a version. -/
def versionNumber : Scanner Nat := do
  let digits ← takeWhile Char.isDigit
  if digits.isEmpty then malformed
  if Text.maxDigits < digits.length then throw .value
  return Text.ofDigits (digits.map fun c => c.toNat - 48)

/-- A blank or the end of the line has to follow. -/
def expectBlank : Scanner Unit := do
  let c ← peek
  if !(c == ' ' || isBreakOrEnd c) then malformed

/-- Two numbers with a point between them. -/
def version : Scanner Token := do
  let _ ← takeWhile (· == ' ')
  let major ← versionNumber
  if (← peek) ≠ '.' then malformed
  skip
  let _ ← versionNumber
  expectBlank
  return .version major

/-- A handle of tags and what it stands for. -/
def handleDirective : Scanner Token := do
  let _ ← takeWhile (· == ' ')
  let name ← tagHandle
  if (← peek) ≠ ' ' then malformed
  let _ ← takeWhile (· == ' ')
  let start ← tagUri
  expectBlank
  return .handle name start

def directive : Scanner Unit := do
  unwindAll
  dropPlace
  allowKey false
  skip
  let name ← takeWhile isNameChar
  if name.isEmpty then malformed
  expectBlank
  let t ← if name = "YAML".toList then version
    else if name = "TAG".toList then handleDirective
    else do
      let _ ← takeWhile fun c => !isBreak c
      pure .directive
  restOfLine
  emit t

def separator (t : Token) : Scanner Unit := do
  unwindAll
  dropPlace
  allowKey false
  skip 3
  emit t

def openFlow (t : Token) : Scanner Unit := do
  notePlace
  modify fun s => { s with flow := s.flow + 1 }
  allowKey true
  skip
  emit t

def closeFlow (t : Token) : Scanner Unit := do
  dropPlace
  modify fun s => { s with flow := s.flow - 1 }
  allowKey false
  skip
  emit t

def flowEntry : Scanner Unit := do
  allowKey true
  dropPlace
  skip
  emit .flowEntry

/-- Opens a block at this column when it is not open yet, where one may start at all. -/
def startBlock (t : Token) : Scanner Unit := do
  let s ← get
  if s.flow = 0 then
    if !s.keyAllowed then malformed
    if ← indentTo s.column then emit t

def blockEntry : Scanner Unit := do
  startBlock .blockSequence
  allowKey true
  dropPlace
  skip
  emit .blockEntry

def explicitKey : Scanner Unit := do
  startBlock .blockMapping
  allowKey ((← get).flow == 0)
  dropPlace
  skip
  emit .key

/-- A colon: what started at the noted place of this depth was a key. -/
def valueMark : Scanner Unit := do
  let s ← get
  match s.places.find? fun p => p.1 == s.flow with
  | some (_, place) =>
    set { s with places := s.places.filter fun p => p.1 != s.flow }
    insertAt place.token .key
    if s.flow = 0 then
      if ← indentTo place.column then insertAt place.token .blockMapping
    allowKey false
  | none =>
    startBlock .blockMapping
    allowKey (s.flow == 0)
    dropPlace
  skip
  emit .value

/-- The name of an anchor or an alias. -/
def nodeName : Scanner String := do
  skip
  let name ← takeWhile isNameChar
  let c ← peek
  if name.isEmpty || !(isGap c || "?:,]\x7d%@`".toList.contains c) then malformed
  return String.ofList name

def named (token : String → Token) : Scanner Unit := do
  notePlace
  allowKey false
  emit (token (← nodeName))

def tag : Scanner Unit := do
  notePlace
  allowKey false
  let c ← peek 1
  let t ← if c = '<' then do
      skip 2
      let uri ← tagUri
      if (← peek) ≠ '>' then malformed
      skip
      pure (Token.tag none uri)
    else if isGap c then do
      skip
      pure (Token.tag none "!")
    else do
      let word := ((← get).rest.drop 1).takeWhile fun c => !(c == ' ' || isBreakOrEnd c)
      if word.contains '!' then
        let handle ← tagHandle
        pure (Token.tag (some handle) (← tagUri))
      else
        skip
        pure (Token.tag (some "!") (← tagUri))
  expectBlank
  emit t

/-- Line ends after blanks of at most some indentation. -/
def indentedBreaks (indent : Nat) : (fuel : Nat) → Scanner (List Char)
  | 0 => return []
  | fuel + 1 => do
    let column := (← get).column
    let blanks := ((← get).rest.takeWhile (· == ' ')).length
    skip (min blanks (indent - column))
    match ← lineBreak with
    | [] => return []
    | b => return b ++ (← indentedBreaks indent fuel)

/-- Line ends and blanks before the first line of a block text, and its greatest indentation. -/
def leadingBreaks (greatest : Nat) : (fuel : Nat) → Scanner (List Char × Nat)
  | 0 => return ([], greatest)
  | fuel + 1 => do
    if (← peek) = ' ' then
      skip
      leadingBreaks (max greatest (← get).column) fuel
    else
      match ← lineBreak with
      | [] => return ([], greatest)
      | b =>
        let (more, greatest) ← leadingBreaks greatest fuel
        return (b ++ more, greatest)

/-- What is kept of the line ends after a block text. -/
inductive Chomping
  | strip
  | clip
  | keep
  deriving DecidableEq

def chomping? : Char → Option Chomping
  | '+' => some .keep
  | '-' => some .strip
  | _ => none

def chompingMark : Scanner (Option Chomping) := do
  match chomping? (← peek) with
  | some c => skip; return some c
  | none => return none

def increment : Scanner (Option Nat) := do
  let c ← peek
  if c = '0' then malformed
  else if c.isDigit then
    skip
    return some (c.toNat - 48)
  else return none

/-- How line ends are kept, and the indentation when it is given. -/
def blockHeader : Scanner (Chomping × Option Nat) := do
  let (chomping, width) ← match ← chompingMark with
    | some c => pure (some c, ← increment)
    | none => do
      let width ← increment
      let c ← if width.isSome then chompingMark else pure none
      pure (c, width)
  expectBlank
  restOfLine
  return (chomping.getD .clip, width)

/-- The lines of a block text at some indentation, after the line ends `breaks`; also what is left
of the line ends behind it. -/
def blockLines (folded : Bool) (indent : Nat) (breaks : List Char) :
    (fuel : Nat) → Scanner (List Char × List Char × List Char)
  | 0 => return ([], [], breaks)
  | fuel + 1 => do
    if (← get).column ≠ indent || isEnd (← peek) then return ([], [], breaks)
    let startsBlank := [' ', '\t'].contains (← peek)
    let line ← takeWhile fun c => !isBreak c
    let ending ← lineBreak
    let after ← indentedBreaks indent fuel
    let next ← peek
    if (← get).column = indent && !isEnd next then
      let glue :=
        if folded && ending == ['\n'] && !startsBlank && next != ' ' && next != '\t' then
          if after.isEmpty then [' '] else []
        else ending
      let (more, last, left) ← blockLines folded indent after fuel
      return (breaks ++ line ++ glue ++ more, last, left)
    else return (breaks ++ line, ending, after)

def blockText (folded : Bool) : Scanner Unit := do
  allowKey true
  dropPlace
  skip
  let (chomping, width) ← blockHeader
  let s ← get
  let fuel := s.rest.length + 1
  let least : Nat := (max 1 (s.indent + 1)).toNat
  let (indent, breaks) ← match width with
    | some n => do
      let indent := least + n - 1
      pure (indent, ← indentedBreaks indent fuel)
    | none => do
      let (breaks, greatest) ← leadingBreaks 0 fuel
      pure (max least greatest, breaks)
  let (text, last, left) ← blockLines folded indent breaks fuel
  let tail := match chomping with
    | .strip => []
    | .clip => last
    | .keep => last ++ left
  emit (.scalar (String.ofList (text ++ tail)) false)

/-- Line ends and blanks inside a quoted text; a document may not end there. -/
def quotedBreaks : (fuel : Nat) → Scanner (List Char)
  | 0 => return []
  | fuel + 1 => do
    if ← atSeparator then malformed
    let _ ← takeWhile fun c => c == ' ' || c == '\t'
    match ← lineBreak with
    | [] => return []
    | b => return b ++ (← quotedBreaks fuel)

/-- Line ends inside a text as they read: one is a blank, and each further one a line end. -/
def foldBreaks (first breaks : List Char) : List Char :=
  (if first ≠ ['\n'] then first else if breaks.isEmpty then [' '] else []) ++ breaks

def escapes : List (Char × Char) :=
  [('0', '\x00'), ('a', '\x07'), ('b', '\x08'), ('t', '\t'), ('\t', '\t'), ('n', '\n'),
    ('v', '\x0b'), ('f', '\x0c'), ('r', '\r'), ('e', '\x1b'), (' ', ' '), ('\x22', '\x22'),
    ('\\', '\\'), ('/', '/'), ('N', '\x85'), ('_', '\xa0'), ('L', '\u2028'), ('P', '\u2029')]

/-- The number of hexadecimal digits after an escape's letter. -/
def escapeWidth? : Char → Option Nat
  | 'x' => some 2
  | 'u' => some 4
  | 'U' => some 8
  | _ => none

/-- The number that `width` hexadecimal digits write. -/
def hexNumber (width : Nat) : Scanner Nat := do
  let digits ← take width
  match digits.mapM Text.hexValue? with
  | some ds =>
    if ds.length ≠ width then malformed
    return ds.foldl (fun n d => 16 * n + d) 0
  | none => malformed

/-- The second half of a surrogate pair, when its escape stands here. -/
def lowSurrogate : Scanner (Option Nat) := do
  match (← get).rest with
  | '\\' :: 'u' :: cs =>
    match (cs.take 4).mapM Text.hexValue? with
    | some [w, x, y, z] =>
      let n := ((w * 16 + x) * 16 + y) * 16 + z
      if 0xDC00 ≤ n ∧ n ≤ 0xDFFF then
        skip 6
        return some n
      else return none
    | _ => return none
  | _ => return none

/-- The character of a number. Two halves of a surrogate pair in a row are one character, and half a
pair on its own reads as the replacement character. -/
def character (code : Nat) : Scanner Char := do
  if Nat.pow 2 31 ≤ code then throw .overflow
  if 0x10FFFF < code then throw .value
  if 0xD800 ≤ code ∧ code ≤ 0xDBFF then
    match ← lowSurrogate with
    | some low => return Char.ofNat (0x10000 + (code - 0xD800) * 1024 + (low - 0xDC00))
    | none => return Text.replacement
  else if 0xDC00 ≤ code ∧ code ≤ 0xDFFF then return Text.replacement
  else return Char.ofNat code

/-- An escape after its backslash. -/
def escape (fuel : Nat) : Scanner (List Char) := do
  let c ← peek
  match escapes.find? fun e => e.1 == c with
  | some e => skip; return [e.2]
  | none => match escapeWidth? c with
    | some width => do
      skip
      return [← character (← hexNumber width)]
    | none =>
      match ← lineBreak with
      | [] => malformed
      | _ => quotedBreaks fuel

/-- The rest of a quoted text after its opening quote. -/
def quotedRest (quote : Char) : (fuel : Nat) → Scanner (List Char)
  | 0 => malformed
  | fuel + 1 => do
    let plain ← takeWhile fun c =>
      !(c == '\x27' || c == '\x22' || c == '\\' || isGap c)
    let c ← peek
    if c = quote then
      if quote = '\x27' && (← peek 1) = '\x27' then
        skip 2
        return plain ++ '\x27' :: (← quotedRest quote fuel)
      else
        skip
        return plain
    else if c = '\\' && quote = '\x22' then
      skip
      let e ← escape fuel
      return plain ++ e ++ (← quotedRest quote fuel)
    else if c = '\x27' || c = '\x22' || c = '\\' then
      skip
      return plain ++ c :: (← quotedRest quote fuel)
    else
      let blanks ← takeWhile fun c => c == ' ' || c == '\t'
      let c ← peek
      if isEnd c then malformed
      else if isBreak c then
        let first ← lineBreak
        let breaks ← quotedBreaks fuel
        return plain ++ foldBreaks first breaks ++ (← quotedRest quote fuel)
      else return plain ++ blanks ++ (← quotedRest quote fuel)

def quoted (quote : Char) : Scanner Unit := do
  notePlace
  allowKey false
  skip
  let text ← quotedRest quote ((← get).rest.length + 1)
  emit (.scalar (String.ofList text) false)

/-- Line ends and blanks after the first line end behind a plain text, none at a separator. -/
def plainBreaks : (fuel : Nat) → Scanner (Option (List Char))
  | 0 => return some []
  | fuel + 1 => do
    if ← atSeparator then return none
    let _ ← takeWhile (· == ' ')
    match ← lineBreak with
    | [] => return some []
    | b => return (← plainBreaks fuel).map (b ++ ·)

/-- The blanks and line ends inside a plain text as they read, empty when the text ends here. -/
def plainGap (fuel : Nat) : Scanner (List Char) := do
  let blanks ← takeWhile (· == ' ')
  match ← lineBreak with
  | [] => return blanks
  | first => do
    allowKey true
    match ← plainBreaks fuel with
    | none => return []
    | some breaks => return foldBreaks first breaks

/-- The characters of a plain text up to the next gap or mark. -/
def plainWord (inFlow : Bool) : List Char → List Char
  | [] => []
  | c :: cs =>
    let next := cs.headD '\x00'
    if isGap c || (c == ':' && (isGap next || (inFlow && ",[]\x7b\x7d".toList.contains next))) ||
        (inFlow && ",?[]\x7b\x7d".toList.contains c) then []
    else c :: plainWord inFlow cs

/-- A plain text after the gap before it. -/
def plainRest (indent : Int) (gap : List Char) : (fuel : Nat) → Scanner (List Char)
  | 0 => return []
  | fuel + 1 => do
    if (← peek) = '#' then return []
    let s ← get
    match plainWord (s.flow != 0) s.rest with
    | [] => return []
    | word =>
      allowKey false
      skip word.length
      let next ← plainGap fuel
      let s ← get
      if next.isEmpty || (← peek) = '#' || (s.flow == 0 && s.column < indent) then
        return gap ++ word
      else return gap ++ word ++ (← plainRest indent next fuel)

def plain : Scanner Unit := do
  notePlace
  allowKey false
  let s ← get
  let text ← plainRest (s.indent + 1) [] (s.rest.length + 1)
  emit (.scalar (String.ofList text) true)

/-- A plain text may start with this character. -/
def startsPlain (inFlow : Bool) (c next : Char) : Bool :=
  !(isGap c || "-?:,[]\x7b\x7d#&*!|>'\x22%@`".toList.contains c) ||
    (!isGap next && (c == '-' || (!inFlow && (c == '?' || c == ':'))))

def streamEnd : Scanner Unit := do
  unwindAll
  dropPlace
  modify fun s => { s with done := true, keyAllowed := false, places := [] }
  emit .streamEnd

/-- The next token, and those that indentation puts before it. -/
def next : Scanner Unit := do
  let s ← get
  if s.index = 0 && s.rest.head? == some '\ufeff' then skip
  skipGaps (s.rest.length + 1)
  dropStalePlaces
  let s ← get
  unwind s.column (s.indents.length + 1)
  let c ← peek
  let after ← peek 1
  let inFlow := s.flow != 0
  if isEnd c then streamEnd
  else if c = '%' && s.column == 0 then directive
  else if c = '-' && s.column == 0 && (← atSeparator) then separator .documentStart
  else if c = '.' && s.column == 0 && (← atSeparator) then separator .documentEnd
  else if c = '[' then openFlow .flowSequence
  else if c = '\x7b' then openFlow .flowMapping
  else if c = ']' then closeFlow .flowSequenceEnd
  else if c = '\x7d' then closeFlow .flowMappingEnd
  else if c = ',' then flowEntry
  else if c = '-' && isGap after then blockEntry
  else if c = '?' && (inFlow || isGap after) then explicitKey
  else if c = ':' && (inFlow || isGap after) then valueMark
  else if c = '*' then named .alias
  else if c = '&' then named .anchor
  else if c = '!' then tag
  else if c = '|' && !inFlow then blockText false
  else if c = '>' && !inFlow then blockText true
  else if c = '\x27' || c = '\x22' then quoted c
  else if startsPlain inFlow c after then plain
  else malformed

/-- Reads on until the first token that is not taken is known. One that may turn out to be a key
waits for what follows it. -/
def reach : (fuel : Nat) → Scanner Unit
  | 0 => malformed
  | fuel + 1 => do
    if !(← get).done then
      if !(← get).tokens.isEmpty then dropStalePlaces
      let s ← get
      if s.tokens.isEmpty || s.places.any fun p => p.2.token == s.taken then
        next
        reach fuel

/-- The first token that is not taken. Each step of `reach` passes a character at least, but for the
one that finds the end. -/
def peekToken : Scanner Token := do
  reach ((← get).rest.length + 2)
  return (← get).tokens.headD .streamEnd

def takeToken : Scanner Unit :=
  modify fun s => { s with tokens := s.tokens.tail, taken := s.taken + 1 }

end Scanner

/-- Characters that may occur in a text. -/
def isAllowed (c : Char) : Bool :=
  let n := c.toNat
  n == 9 || n == 10 || n == 13 || (0x20 ≤ n && n ≤ 0x7E) || n == 0x85 ||
    (0xA0 ≤ n && n ≤ 0xFFFD) || 0x10000 ≤ n

/-- The start of a scan, none for a text with characters that may not occur. -/
def Scan.ofString? (s : String) : Option Scan :=
  if s.toList.all isAllowed then some { rest := s.toList } else none

end RowQuery.Yaml
