/-
Reading regular expressions.

The reader goes through the text once, from left to right.  Open groups and classes wait on a
stack, so no part of the text is read twice, and the flags in force are part of the state.  Each
part carries how deeply it is nested, because deeper nesting than `maxDepth` is refused.
-/
import FileTriage.Regex.Syntax

namespace FileTriage.Regex

open FileTriage.Unicode (CodePoints hexDigit?)

/-- How deeply the parts of a regular expression may be nested. -/
def maxDepth : Nat := 250

/-! ## Escapes -/

/-- The value of hexadecimal digits as a character. -/
def hexChar (digits : List Char) : Except Fault Char :=
  let value := digits.foldl (fun n c => n * 16 + (hexDigit? c).getD 0) 0
  if value.isValidChar then .ok (Char.ofNat value) else .error .badHex

/-- Reads exactly `n` hexadecimal digits. -/
def readHexDigits (f : Flags) : Nat → List Char → List Char → Except Fault (List Char × List Char)
  | 0, digits, text => .ok (digits.reverse, text)
  | n + 1, digits, c :: rest =>
    if (hexDigit? c).isSome then readHexDigits f n (c :: digits) (f.skip rest) else .error .badHex
  | _ + 1, _, [] => .error .badHex

/-- Reads up to the closing brace; the flags say whether blanks between the characters count. -/
def readBraced (f : Flags) (fuel : Nat) (read text : List Char) :
    Except Fault (List Char × List Char) :=
  match fuel, text with
  | fuel + 1, c :: rest =>
    if c = '}' then .ok (read.reverse, rest) else readBraced f fuel (c :: read) (f.skip rest)
  | _, _ => .error .badEscape

/-- Reads what follows `\x`, `\u` or `\U`. -/
def readHex (f : Flags) (width : Nat) (text : List Char) : Except Fault (Atom × List Char) :=
  match f.skip text with
  | '{' :: rest => do
    let (digits, rest) ← readBraced f (rest.length + 1) [] (f.skip rest)
    if digits.isEmpty ∨ ¬ digits.all fun c => (hexDigit? c).isSome then .error .badHex
    else .ok (.char (← hexChar digits) false, f.skip rest)
  | text => do
    let (digits, rest) ← readHexDigits f width [] text
    .ok (.char (← hexChar digits) (width = 2), rest)

/-- Reads the property after `\p` or `\P`. -/
def readProperty (f : Flags) (negated : Bool) (text : List Char) :
    Except Fault (Atom × List Char) := do
  let (name, rest) ← match f.skip text with
    | [] => .error .badEscape
    | '\\' :: _ => .error .unknownProperty
    | '{' :: rest => readBraced f (rest.length + 1) [] (f.skip rest)
    | c :: rest => .ok ([c], f.skip rest)
  if !f.unicode then .error .notUnicode
  else match propertyClass? name with
    | none => .error .unknownProperty
    | some (inverse, points) =>
      let points := if f.caseInsensitive then points.closeCase else points
      .ok (.set (if negated != inverse then points.compl else points), rest)

/-- The look that the name in `\b{…}` stands for. -/
def namedLook? (unicode : Bool) (name : List Char) : Option Look :=
  match String.ofList name with
  | "start" => some (.wordStart unicode)
  | "end" => some (.wordEnd unicode)
  | "start-half" => some (.wordStartHalf unicode)
  | "end-half" => some (.wordEndHalf unicode)
  | _ => none

/-- Reads the name of a special word boundary, letter by letter. -/
def readLookName (f : Flags) (fuel : Nat) (name text : List Char) : List Char × List Char :=
  match fuel, text with
  | fuel + 1, c :: rest =>
    if c.isAlpha || c = '-' then readLookName f fuel (c :: name) (f.skip rest)
    else (name.reverse, text)
  | _, _ => (name.reverse, text)

/-- Reads what follows `\b`: a name in braces, or nothing.  Braces that hold no name are left for
the reader of repetitions. -/
def readBoundary (f : Flags) (text : List Char) : Except Fault (Atom × List Char) :=
  match text with
  | '{' :: rest =>
    match f.skip rest with
    | [] => .error .badEscape
    | c :: after =>
      if c.isAlpha || c = '-' then
        let (name, rest) := readLookName f (after.length + 2) [] (c :: after)
        match rest, namedLook? f.unicode name with
        | '}' :: rest, some asked => .ok (.look asked, rest)
        | _, _ => .error .badEscape
      else .ok (.look (.wordBoundary f.unicode), text)
  | _ => .ok (.look (.wordBoundary f.unicode), text)

/-- Reads what follows a backslash. -/
def readEscape (f : Flags) : List Char → Except Fault (Atom × List Char)
  | [] => .error .badEscape
  | c :: rest =>
    let char (c : Char) : Except Fault (Atom × List Char) := .ok (.char c false, rest)
    if '0' ≤ c ∧ c ≤ '9' then .error .backReference
    else match c with
      | 'x' => readHex f 2 rest
      | 'u' => readHex f 4 rest
      | 'U' => readHex f 8 rest
      | 'p' => readProperty f false rest
      | 'P' => readProperty f true rest
      | 'd' | 's' | 'w' | 'D' | 'S' | 'W' => (f.shorthandClass c).map fun points => (.set points, rest)
      | 'a' => char '\x07'
      | 'f' => char '\x0C'
      | 't' => char '\t'
      | 'n' => char '\n'
      | 'r' => char '\r'
      | 'v' => char '\x0B'
      | 'A' => .ok (.look .textStart, rest)
      | 'z' => .ok (.look .textEnd, rest)
      | 'b' => readBoundary f rest
      | 'B' => .ok (.look (.notWordBoundary f.unicode), rest)
      | '<' => .ok (.look (.wordStart f.unicode), rest)
      | '>' => .ok (.look (.wordEnd f.unicode), rest)
      | _ => if isEscapable c then char c else .error .badEscape

/-! ## Classes -/

/-- A part of a class, and how deeply it is nested. -/
structure ClassPart where
  points : CodePoints
  depth : Nat

/-- The parts that stand side by side in a class, as one part. -/
def ClassPart.union : List ClassPart → ClassPart
  | [] => ⟨.empty, 0⟩
  | [part] => part
  | parts => ⟨.unions (parts.map (·.points)), 1 + (parts.map (·.depth)).foldl max 0⟩

/-- An operator between the parts of a class. -/
inductive ClassOp where
  | intersection
  | difference
  | symmetricDifference

/-- What waits while a class is read: an open bracket with the parts before it, or the left side
of an operator. -/
inductive ClassFrame where
  | bracket (before : List ClassPart) (negated : Bool)
  | operator (op : ClassOp) (left : ClassPart)

/-- Applies the operator that waits on top of the stack, if one does. -/
def closeOperator (f : Flags) (right : ClassPart) :
    List ClassFrame → ClassPart × List ClassFrame
  | .operator op left :: frames =>
    let fold (s : CodePoints) : CodePoints :=
      if !f.caseInsensitive then s else if f.unicode then s.closeCase else closeAsciiCase s
    let l := fold left.points
    let r := fold right.points
    let points := match op with
      | .intersection => l.inter r
      | .difference => l.diff r
      | .symmetricDifference => l.symmDiff r
    (⟨points, 1 + max left.depth right.depth⟩, frames)
  | frames => (right, frames)

/-- Reads the opening of a class: its negation, and the hyphens or the bracket that stand for
themselves at its start. -/
def openClass (f : Flags) (text : List Char) :
    Except Fault (Bool × List ClassPart × List Char) := do
  let text := f.skip text
  let (negated, text) := match text with
    | '^' :: rest => (true, f.skip rest)
    | _ => (false, text)
  let single (c : Char) : ClassPart := ⟨.singleton c.toNat, 0⟩
  let rec hyphens (fuel : Nat) (parts : List ClassPart) (text : List Char) :
      List ClassPart × List Char :=
    match fuel, text with
    | fuel + 1, '-' :: rest => hyphens fuel (single '-' :: parts) (f.skip rest)
    | _, _ => (parts, text)
  let (parts, text) := hyphens text.length [] text
  let (parts, text) := match parts, text with
    | [], ']' :: rest => ([single ']'], f.skip rest)
    | _, _ => (parts, text)
  if text.isEmpty then .error .unclosedClass else .ok (negated, parts, text)

/-- A named ASCII class such as `[:alpha:]`, read after its opening bracket and colon; none where
the text is something else. -/
def asciiClassAt? (text : List Char) : Option (Bool × CodePoints × List Char) :=
  let (negated, text) := match text with
    | '^' :: rest => (true, rest)
    | _ => (false, text)
  let name := text.takeWhile (· ≠ ':')
  match text.dropWhile (· ≠ ':') with
  | ':' :: ']' :: rest =>
    (asciiClass? (String.ofList name)).map fun ranges => (negated, .ofRanges ranges, rest)
  | _ => none

/-- The character after the current one, looking over blanks where the flags allow them. -/
def peekOver (f : Flags) (text : List Char) : Option Char :=
  if !f.spaced then text.head?
  else
    let rec look (comment : Bool) : List Char → Option Char
      | [] => text.head?
      | c :: rest =>
        if Text.isBlank c then look comment rest
        else if !comment && c = '#' then look true rest
        else some c
    look false text

/-- The code point of a member of a class; a class of bytes has ASCII members only. -/
def memberPoint (f : Flags) : Atom → Except Fault Nat
  | .char c byte =>
    if f.unicode || c.toNat < 0x80 then .ok c.toNat
    else if byte then .error .notUtf8
    else .error .notUnicode
  | _ => .error .badClassItem

/-- Reads one member of a class or one end of a range. -/
def readMember (f : Flags) : List Char → Except Fault (Atom × List Char)
  | [] => .error .unclosedClass
  | '\\' :: rest => readEscape f rest
  | c :: rest => .ok (.char c false, rest)

/-- Reads a member of a class or a range of members. -/
def readRange (f : Flags) (text : List Char) : Except Fault (ClassPart × List Char) := do
  let (first, rest) ← readMember f text
  let rest := f.skip rest
  let alone : Except Fault (ClassPart × List Char) := match first with
    | .set points => .ok (⟨points, 0⟩, rest)
    | first => do .ok (⟨.singleton (← memberPoint f first), 0⟩, rest)
  match rest with
  | [] => .error .unclosedClass
  | '-' :: after =>
    if peekOver f after = some ']' ∨ peekOver f after = some '-' then alone
    else
      let after := f.skip after
      if after.isEmpty then .error .unclosedClass
      else
        let (last, rest) ← readMember f after
        match first, last with
        | .char _ _, .char _ _ =>
          let lo ← memberPoint f first
          let hi ← memberPoint f last
          if lo ≤ hi then .ok (⟨.range lo hi, 0⟩, rest) else .error .badClassRange
        | _, _ => .error .badClassRange
  | _ => alone

/-- Reads a class up to its closing bracket.  `parts` are the parts since the last bracket or
operator, the latest first. -/
def readClass (f : Flags) (fuel : Nat) (frames : List ClassFrame) (parts : List ClassPart)
    (text : List Char) : Except Fault (ClassPart × List Char) :=
  match fuel with
  | 0 => .error .unclosedClass
  | fuel + 1 =>
    let operator (op : ClassOp) (rest : List Char) : Except Fault (ClassPart × List Char) :=
      let (left, frames) := closeOperator f (ClassPart.union parts) frames
      readClass f fuel (.operator op left :: frames) [] rest
    match f.skip text with
    | [] => .error .unclosedClass
    | '&' :: '&' :: rest => operator .intersection rest
    | '-' :: '-' :: rest => operator .difference rest
    | '~' :: '~' :: rest => operator .symmetricDifference rest
    | '[' :: rest => do
      let named := match rest with
        | ':' :: name => if frames.isEmpty then none else asciiClassAt? name
        | _ => none
      match named with
      | some (negated, points, rest) =>
        let points ← f.finishClass negated points
        readClass f fuel frames (⟨points, 0⟩ :: parts) rest
      | none =>
        let (negated, inner, rest) ← openClass f rest
        readClass f fuel (.bracket parts negated :: frames) inner rest
    | ']' :: rest =>
      match closeOperator f (ClassPart.union parts) frames with
      | (inner, .bracket before negated :: frames) => do
        let part : ClassPart := ⟨← f.finishClass negated inner.points, 1 + inner.depth⟩
        if frames.isEmpty then .ok (part, rest)
        else readClass f fuel frames (part :: before) rest
      | _ => .error .unclosedClass
    | text => do
      let (part, rest) ← readRange f text
      readClass f fuel frames (part :: parts) rest

/-! ## Groups, repetitions and the whole pattern -/

/-- A part of a pattern: `isFlags` for a change of flags, which cannot be repeated. -/
structure Part where
  pattern : Pattern
  depth : Nat
  isFlags : Bool := false

/-- Parts one after the other, the latest first. -/
def Part.concat : List Part → Part
  | [] => ⟨.empty, 0, false⟩
  | [part] => part
  | parts =>
    ⟨.concat (parts.reverse.map (·.pattern)), 1 + (parts.map (·.depth)).foldl max 0, false⟩

/-- Alternatives, the latest first. -/
def Part.anyOf : List Part → Part
  | [part] => part
  | parts => ⟨.anyOf (parts.reverse.map (·.pattern)), 1 + (parts.map (·.depth)).foldl max 0, false⟩

/-- What is being read between two parentheses: the alternatives before and the parts of the
current one, the latest first. -/
structure Level where
  alternatives : List Part := []
  parts : List Part := []

/-- All that a level holds. -/
def Level.close (l : Level) : Part := Part.anyOf (Part.concat l.parts :: l.alternatives)

/-- A group that waits for its closing parenthesis. -/
structure OpenGroup where
  outer : Level
  flags : Flags
  captures : Bool

/-- Reads the letters of a group of flags up to `:` or `)`.  `seen` holds the letters so far, and
`dangling` says that the last one was a hyphen. -/
def readFlags (seen : List Char) (on dangling : Bool) (f : Flags) :
    List Char → Except Fault (Flags × Bool × List Char)
  | [] => .error .badFlags
  | c :: rest =>
    if c = ':' ∨ c = ')' then
      if dangling then .error .badFlags else .ok (f, seen.isEmpty, c :: rest)
    else if seen.contains c then .error .badFlags
    else if c = '-' then readFlags (c :: seen) false true f rest
    else match f.set? c on with
      | some f => readFlags (c :: seen) on false f rest
      | none => .error .badFlags

/-- Reads a decimal number of a repetition; blanks around it do not count. -/
def readCount (f : Flags) (text : List Char) : Except Fault (Nat × List Char) :=
  let rec digits (fuel : Nat) (read text : List Char) : List Char × List Char :=
    match fuel, text with
    | fuel + 1, c :: rest =>
      if '0' ≤ c ∧ c ≤ '9' then digits fuel (c :: read) (f.skip rest) else (read.reverse, text)
    | _, _ => (read.reverse, text)
  let (read, rest) := digits (text.length + 1) [] (text.dropWhile Text.isBlank)
  let value := read.foldl (fun n c => n * 10 + (c.toNat - '0'.toNat)) 0
  if read.isEmpty ∨ UInt32.size ≤ value then .error .badCount
  else .ok (value, f.skip (rest.dropWhile Text.isBlank))

/-- Reads a counted repetition after its opening brace. -/
def readCounts (f : Flags) (text : List Char) : Except Fault (Nat × Option Nat × List Char) := do
  let (least, rest) ← readCount f (f.skip text)
  let (least, most, rest) ← match rest with
    | ',' :: rest =>
      match f.skip rest with
      | '}' :: rest => .ok (least, none, '}' :: rest)
      | rest => do
        let (most, rest) ← readCount f rest
        .ok (least, some most, rest)
    | rest => .ok (least, some least, rest)
  match rest with
  | '}' :: rest =>
    if most.any (· < least) then .error .badCount
    else .ok (least, most, match f.skip rest with
      | '?' :: rest => rest
      | rest => rest)
  | _ => .error .badCount

/-- The pattern of one atom outside a class. -/
def atomPattern (f : Flags) : Atom → Except Fault Pattern
  | .set points => .ok (.ofPoints points)
  | .look asked => .ok (.look asked)
  | .dot =>
    if !f.unicode then .error .notUtf8
    else if f.dotAll then .ok (.ofPoints .all)
    else if f.crlf then .ok (.ofPoints (CodePoints.compl (.ofRanges [(0xA, 0xA), (0xD, 0xD)])))
    else .ok (.ofPoints (CodePoints.singleton 0xA).compl)
  | .char c byte =>
    if !f.unicode && byte && c.toNat ≥ 0x80 then .error .notUtf8
    else
      let variants :=
        if !f.caseInsensitive then []
        else if f.unicode then Unicode.caseVariants c.toNat
        else if c.isUpper then [c.toLower.toNat]
        else if c.isLower then [c.toUpper.toNat]
        else []
      if variants.isEmpty then .ok (.literal c)
      else .ok (.ofPoints (.ofRanges ((c.toNat :: variants).map fun n => (n, n))))

/-- Reads the characters of a group's name up to `>`. -/
def readGroupName (names : List (List Char)) (text : List Char) :
    Except Fault (List Char × List Char) :=
  let name := text.takeWhile (· ≠ '>')
  match name, text.dropWhile (· ≠ '>') with
  | first :: others, '>' :: rest =>
    if !isGroupNameChar true first || !others.all (isGroupNameChar false) then .error .badGroupName
    else if names.contains name then .error .duplicateGroupName
    else .ok (name, rest)
  | _, _ => .error .badGroupName

/-- What an opening parenthesis starts. -/
inductive Opened where
  | group (captures : Bool) (flags : Flags) (names : List (List Char)) (rest : List Char)
  | flags (flags : Flags) (rest : List Char)

/-- Reads what follows an opening parenthesis. -/
def openGroup (f : Flags) (names : List (List Char)) (text : List Char) : Except Fault Opened :=
  let named (rest : List Char) : Except Fault Opened := do
    let (name, rest) ← readGroupName names rest
    .ok (.group true f (name :: names) rest)
  match f.skip text with
  | '?' :: '=' :: _ | '?' :: '!' :: _ | '?' :: '<' :: '=' :: _ | '?' :: '<' :: '!' :: _ =>
    .error .lookAround
  | '?' :: 'P' :: '<' :: rest => named rest
  | '?' :: '<' :: rest => named rest
  | '?' :: rest => do
    match ← readFlags [] true false f rest with
    | (flags, none?, ')' :: rest) =>
      if none? then .error .nothingToRepeat else .ok (.flags flags rest)
    | (flags, _, _ :: rest) => .ok (.group false flags names rest)
    | (_, _, []) => .error .badFlags
  | rest => .ok (.group true f names rest)

/-- Repeats the last part of a level. -/
def Level.repeatLast (l : Level) (least : Nat) (most : Option Nat) : Except Fault Level :=
  match l.parts with
  | [] => .error .nothingToRepeat
  | last :: parts =>
    if last.isFlags then .error .nothingToRepeat
    else .ok { l with parts := ⟨last.pattern.repeated least most, last.depth + 1, false⟩ :: parts }

/-- Reads a pattern up to the end of the text.  `groups` are the open groups, the innermost
first, and `names` the names that groups have so far. -/
def readPattern (fuel : Nat) (f : Flags) (names : List (List Char)) (groups : List OpenGroup)
    (level : Level) (text : List Char) : Except Fault Part :=
  match fuel with
  | 0 => .error .unclosedGroup
  | fuel + 1 =>
    let push (part : Part) : Level := { level with parts := part :: level.parts }
    let repeatBy (least : Nat) (most : Option Nat) (rest : List Char) : Except Fault Part := do
      let level ← level.repeatLast least most
      readPattern fuel f names groups level (match rest with
        | '?' :: rest => rest
        | rest => rest)
    let atom (a : Atom) (rest : List Char) : Except Fault Part := do
      readPattern fuel f names groups (push ⟨← atomPattern f a, 0, false⟩) rest
    match f.skip text with
    | [] => if groups.isEmpty then .ok level.close else .error .unclosedGroup
    | '(' :: rest => do
      match ← openGroup f names rest with
      | .flags flags rest => readPattern fuel flags names groups (push ⟨.empty, 0, true⟩) rest
      | .group captures flags names rest =>
        readPattern fuel flags names (⟨level, f, captures⟩ :: groups) {} rest
    | ')' :: rest =>
      match groups with
      | [] => .error .unopenedGroup
      | group :: groups =>
        let inner := level.close
        let pattern := if group.captures then .capture inner.pattern else inner.pattern
        let outer := { group.outer with
          parts := ⟨pattern, inner.depth + 1, false⟩ :: group.outer.parts }
        readPattern fuel group.flags names groups outer rest
    | '|' :: rest =>
      readPattern fuel f names groups
        { alternatives := Part.concat level.parts :: level.alternatives, parts := [] } rest
    | '[' :: rest => do
      let (negated, inner, rest) ← openClass f rest
      let (part, rest) ← readClass f (rest.length + 1) [.bracket [] negated] inner rest
      readPattern fuel f names groups (push ⟨.ofPoints part.points, part.depth, false⟩) rest
    | '?' :: rest => repeatBy 0 (some 1) rest
    | '*' :: rest => repeatBy 0 none rest
    | '+' :: rest => repeatBy 1 none rest
    | '{' :: rest => do
      if level.parts.head?.all (·.isFlags) then .error .nothingToRepeat
      else
        let (least, most, rest) ← readCounts f rest
        let level ← level.repeatLast least most
        readPattern fuel f names groups level rest
    | '.' :: rest => atom .dot rest
    | '^' :: rest =>
      atom (.look (if !f.multiLine then .textStart
        else if f.crlf then .crlfLineStart else .lineStart)) rest
    | '$' :: rest =>
      atom (.look (if !f.multiLine then .textEnd else if f.crlf then .crlfLineEnd else .lineEnd)) rest
    | '\\' :: rest => do
      let (a, rest) ← readEscape f rest
      atom a rest
    | c :: rest => atom (.char c false) rest

/-- The pattern that a text describes, or why it describes none. -/
def Pattern.parse (text : String) : Except Fault Pattern := do
  let part ← readPattern (text.length + 1) {} [] [] {} text.toList
  if maxDepth < part.depth then .error .tooDeep else .ok part.pattern

end FileTriage.Regex
