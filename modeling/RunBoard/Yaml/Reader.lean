import RunBoard.Yaml.Node

/-!
# Reading YAML

Reads a stream of at most one document: block and flow collections, plain, quoted and
block scalars, anchors and aliases. Tags are read over.
-/

namespace RunBoard.Yaml

inductive Fault where
  | controlCharacter
  | noToken
  | keyNotAllowed
  | entryNotAllowed
  | missingColon
  | unclosed
  | badEscape
  | badHeader
  | unknownAnchor
  | badIndentation
  | unexpectedContent
  | severalDocuments
  | tooDeep
  deriving DecidableEq, Repr

/-! ## The text -/

/-- Line breaks of every kind as one. -/
def unifyBreaks : List Char → List Char
  | '\r' :: '\n' :: rest => '\n' :: unifyBreaks rest
  | c :: rest =>
      (if c = '\r' || c = '\u0085' || c = '\u2028' || c = '\u2029' then '\n' else c) ::
        unifyBreaks rest
  | [] => []

def isAllowed (c : Char) : Bool :=
  c = '\n' || c = '\t' || (0x20 ≤ c.toNat && c.toNat ≤ 0x7e) ||
    (0xa0 ≤ c.toNat && c ≠ '\ufeff' && c ≠ '\ufffe' && c ≠ '\uffff')

def isSpace (c : Char) : Bool := c = ' ' || c = '\t'

/-- Whether a text ends here or goes on with a blank. -/
def isBlankOrEnd : List Char → Bool
  | [] => true
  | c :: _ => isSpace c || c = '\n'

/-- Where reading has come to. -/
structure Place where
  rest : List Char
  line : Nat
  column : Nat
  anchors : List (List Char × Node)

abbrev Reading := StateT Place (Except Fault)

namespace Reading

def fail {α : Type} (fault : Fault) : Reading α := throw fault

def rest : Reading (List Char) := return (← get).rest

def column : Reading Nat := return (← get).column

def line : Reading Nat := return (← get).line

def next : Reading Unit :=
  modify fun place =>
    match place.rest with
    | [] => place
    | '\n' :: rest => { place with rest := rest, line := place.line + 1, column := 0 }
    | _ :: rest => { place with rest := rest, column := place.column + 1 }

def skip (count : Nat) : Reading Unit := (List.range count).forM fun _ => next

/-- Passes over the characters that a test holds for, and gives them. -/
def takeWhile (test : Char → Bool) : Reading (List Char) := do
  let taken := (← rest).takeWhile test
  skip taken.length
  return taken

def atDocumentMark : Reading Bool := do
  let place ← get
  let mark := String.ofList (place.rest.take 3)
  return place.column = 0 && (mark = "---" || mark = "...") && isBlankOrEnd (place.rest.drop 3)

def atEnd : Reading Bool := do return (← rest).isEmpty || (← atDocumentMark)

/-- Passes over blanks, comments and line breaks; says whether a key may begin here. Tabs
count as blanks only where no key may begin. -/
def toToken (inFlow : Bool) (keyAllowed : Bool) : Nat → Reading Bool
  | 0 => fail .tooDeep
  | fuel + 1 => do
      let _ ← takeWhile fun c => c = ' ' || (c = '\t' && (inFlow || !keyAllowed))
      match ← rest with
      | '#' :: _ => do
          let _ ← takeWhile fun c => c ≠ '\n'
          toToken inFlow keyAllowed fuel
      | '\n' :: _ => do
          next
          toToken inFlow (keyAllowed || !inFlow) fuel
      | _ => return keyAllowed

/-- How often the functions below may call each other. -/
def toTokenHere (inFlow : Bool) (keyAllowed : Bool) : Reading Bool := do
  toToken inFlow keyAllowed ((← rest).length + 2)

end Reading

open Reading

/-! ## Scalars -/

/-- What stands for line breaks inside a scalar: one break is a blank, of more the first
does not count. -/
def folded (breaks : Nat) : List Char :=
  if breaks = 1 then [' '] else List.replicate (breaks - 1) '\n'

/-- Blanks and line breaks between two words of a scalar. -/
structure Gap where
  blanks : List Char
  breaks : Nat

def Gap.text (gap : Gap) : List Char :=
  if gap.breaks = 0 then gap.blanks else folded gap.breaks

/-- Passes over blanks and line breaks. -/
def gap : Nat → Reading Gap
  | 0 => fail .tooDeep
  | fuel + 1 => do
      let blanks ← takeWhile isSpace
      match ← rest with
      | '\n' :: _ => do
          next
          let behind ← gap fuel
          return ⟨[], behind.breaks + 1⟩
      | _ => return ⟨blanks, 0⟩

def isFlowMark (c : Char) : Bool := ",[]\x7b\x7d".contains c

/-- Whether a plain scalar ends before this text. -/
def endsPlain (inFlow : Bool) : List Char → Bool
  | [] => true
  | ':' :: behind =>
      isBlankOrEnd behind || (inFlow && behind.head?.any isFlowMark)
  | c :: _ => isSpace c || c = '\n' || (inFlow && isFlowMark c)

/-- Passes over the characters up to a blank or an end. -/
def plainWord (inFlow : Bool) : Nat → Reading (List Char)
  | 0 => fail .tooDeep
  | fuel + 1 => do
      match ← rest with
      | c :: behind =>
          if endsPlain inFlow (c :: behind) then return []
          else do
            next
            return c :: (← plainWord inFlow fuel)
      | [] => return []

/-- A plain scalar of which `taken` is there; its lines stand deeper than `indent`. Gives
the line that it ends on, too. -/
def plainRest (inFlow : Bool) (indent : Int) (taken : List Char) (lastLine : Nat) :
    Nat → Reading (List Char × Nat)
  | 0 => fail .tooDeep
  | fuel + 1 => do
      let space ← gap ((← rest).length + 2)
      let ended ← atEnd
      let text ← rest
      if ended || text.head? = some '#' then return (taken, lastLine)
      else if !inFlow && 0 < space.breaks && (← column) ≤ indent then return (taken, lastLine)
      else if endsPlain inFlow text then return (taken, lastLine)
      else do
        let word ← plainWord inFlow (text.length + 1)
        plainRest inFlow indent (taken ++ space.text ++ word) (← line) fuel

def plain (inFlow : Bool) (indent : Int) : Reading (List Char × Nat) := do
  let length := (← rest).length
  let word ← plainWord inFlow (length + 1)
  plainRest inFlow indent word (← line) (length + 2)

def canBeginPlain (inFlow : Bool) : List Char → Bool
  | [] => false
  | c :: behind =>
      if c = '-' then !isBlankOrEnd behind
      else if c = '?' || c = ':' then !inFlow && !isBlankOrEnd behind
      else !("# \t\n,[]\x7b\x7d&*!|>\'\"%@`".contains c)

/-- The characters of an escape by code: so many hexadecimal digits. -/
def escapedCode (count : Nat) : Reading (List Char) := do
  let text := (← rest).take count
  match Text.number? 16 text with
  | some code =>
      if text.length = count && Nat.isValidChar code then do
        skip count
        return [Char.ofNat code]
      else fail .badEscape
  | none => fail .badEscape

/-- The characters that an escape stands for. -/
def escaped (c : Char) : Reading (List Char) :=
  match c with
  | '0' => return ['\x00']
  | 'a' => return ['\x07']
  | 'b' => return ['\x08']
  | 't' | '\t' => return ['\t']
  | 'n' => return ['\n']
  | 'v' => return ['\x0b']
  | 'f' => return ['\x0c']
  | 'r' => return ['\r']
  | 'e' => return ['\x1b']
  | ' ' | '"' | '/' | '\\' => return [c]
  | 'N' => return ['\u0085']
  | '_' => return ['\u00a0']
  | 'L' => return ['\u2028']
  | 'P' => return ['\u2029']
  | 'x' => escapedCode 2
  | 'u' => escapedCode 4
  | 'U' => escapedCode 8
  | _ => fail .badEscape

/-- A quoted scalar behind its opening quote. -/
def quotedRest (double : Bool) : Nat → Reading (List Char)
  | 0 => fail .tooDeep
  | fuel + 1 => do
      if ← atDocumentMark then fail .unclosed
      match ← rest with
      | [] => fail .unclosed
      | '"' :: _ => do
          next
          if double then return [] else return '"' :: (← quotedRest double fuel)
      | '\'' :: behind => do
          next
          if double then return '\'' :: (← quotedRest double fuel)
          else if behind.head? = some '\'' then do
            next
            return '\'' :: (← quotedRest double fuel)
          else return []
      | '\\' :: c :: _ => do
          next
          if !double then return '\\' :: (← quotedRest double fuel)
          else if c = '\n' then do
            next
            let space ← gap ((← rest).length + 2)
            return List.replicate space.breaks '\n' ++ (← quotedRest double fuel)
          else do
            next
            let chars ← escaped c
            return chars ++ (← quotedRest double fuel)
      | c :: _ =>
          if isSpace c || c = '\n' then do
            let space ← gap ((← rest).length + 2)
            return space.text ++ (← quotedRest double fuel)
          else do
            next
            return c :: (← quotedRest double fuel)

/-! ### Block scalars -/

/-- What becomes of the line breaks at the end of a block scalar. -/
inductive Chomping where
  | strip
  | clip
  | keep
  deriving DecidableEq

structure BlockHeader where
  folds : Bool
  chomping : Chomping
  indentation : Option Nat

/-- The marks behind the sign of a block scalar, in either order. -/
def blockHeader (folds : Bool) : Reading BlockHeader := do
  let marks ← takeWhile fun c => c = '+' || c = '-' || c.isDigit
  let chomping :=
    if marks.contains '+' then Chomping.keep
    else if marks.contains '-' then Chomping.strip
    else Chomping.clip
  let digits := marks.filter Char.isDigit
  let signs := marks.filter fun c => !c.isDigit
  if 1 < digits.length || 1 < signs.length || digits = ['0'] then fail .badHeader
  let _ ← takeWhile isSpace
  match ← rest with
  | '#' :: _ => do let _ ← takeWhile fun c => c ≠ '\n'
  | _ => pure ()
  match ← rest with
  | [] => pure ()
  | '\n' :: _ => next
  | _ => fail .badHeader
  return ⟨folds, chomping, digits.head?.map fun c => c.toNat - 48⟩

/-- Passes over empty lines and up to `indent` blanks of the line behind them. Counts the
lines. -/
def emptyLines (indent : Nat) : Nat → Reading Nat
  | 0 => fail .tooDeep
  | fuel + 1 => do
      let blanks := ((← rest).takeWhile (· = ' ')).length
      skip (min blanks (indent - (← column)))
      match ← rest with
      | '\n' :: _ => do
          next
          return (← emptyLines indent fuel) + 1
      | _ => return 0

/-- The indentation of the first line that is not empty, and the deepest before it. -/
def detectIndent (least : Nat) (text : List Char) : Nat :=
  let lines := text.splitOn '\n'
  let depth := fun (line : List Char) => (line.takeWhile (· = ' ')).length
  let isEmpty := fun (line : List Char) => line.all (· = ' ')
  let before := lines.takeWhile isEmpty
  let first := (lines.dropWhile isEmpty).head?.map depth
  let deepest := (before.map depth).foldl max 0
  max least (max deepest (first.getD 0))

structure BlockText where
  text : List Char
  ending : List Char
  empty : Nat
  afterBlank : Bool

/-- The lines of a block scalar that stand at `indent`. -/
def blockLines (folds : Bool) (indent : Nat) (before : BlockText) : Nat → Reading BlockText
  | 0 => fail .tooDeep
  | fuel + 1 => do
      let text ← rest
      if text.isEmpty || (← column) ≠ indent || (← atDocumentMark) then return before
      else do
        let startsBlank := text.head?.any isSpace
        let joined :=
          if folds && before.ending = ['\n'] && !before.afterBlank && !startsBlank then
            if before.empty = 0 then [' '] else []
          else before.ending
        let line ← takeWhile fun c => c ≠ '\n'
        let ending := if (← rest).isEmpty then [] else ['\n']
        next
        let empty ← emptyLines indent ((← rest).length + 2)
        blockLines folds indent
          ⟨before.text ++ joined ++ List.replicate before.empty '\n' ++ line, ending, empty,
            startsBlank⟩ fuel

/-- A block scalar behind its sign, in a block at `indent`. -/
def blockScalar (folds : Bool) (indent : Int) : Reading (List Char) := do
  let header ← blockHeader folds
  let parent := (indent + 1).toNat
  let text ← rest
  let depth :=
    match header.indentation with
    | some extra => (max 0 indent).toNat + extra
    | none => detectIndent (max 1 parent) text
  let length := text.length
  let empty ← emptyLines depth (length + 2)
  let lines ← blockLines header.folds depth ⟨[], [], empty, false⟩ (length + 2)
  let newlines := List.replicate lines.empty '\n'
  match header.chomping with
  | .strip => return lines.text
  | .clip => return lines.text ++ lines.ending
  | .keep => return lines.text ++ lines.ending ++ newlines

/-! ## Nodes -/

def isName (c : Char) : Bool := c.isAlphanum || c = '-' || c = '_'

/-- The node that a name was given to. -/
def aliased (name : List Char) : Reading Node := do
  match (← get).anchors.lookup name with
  | some node => return node
  | none => fail .unknownAnchor

def anchor (name : List Char) (node : Node) : Reading Node := do
  modify fun place => { place with anchors := (name, node) :: place.anchors }
  return node

mutual

/-- A node inside of flow brackets. -/
def flowNode : Nat → Reading Node
  | 0 => fail .tooDeep
  | fuel + 1 => do
      let _ ← toTokenHere true false
      match ← rest with
      | '[' :: _ => do
          next
          return .sequence (← flowItems fuel)
      | '\x7b' :: _ => do
          next
          return .mapping (← flowEntries fuel)
      | '"' :: _ => do
          next
          return .scalar false (← quotedRest true ((← rest).length + 1))
      | '\'' :: _ => do
          next
          return .scalar false (← quotedRest false ((← rest).length + 1))
      | '*' :: _ => do
          next
          aliased (← takeWhile isName)
      | '&' :: _ => do
          next
          let name ← takeWhile isName
          anchor name (← flowNode fuel)
      | '!' :: _ => do
          let _ ← takeWhile fun c => !isSpace c && c ≠ '\n' && !isFlowMark c
          flowNode fuel
      | text =>
          if text.head?.any fun c => c = ':' || c = ',' || c = ']' || c = '\x7d' then
            return .nothing
          else if canBeginPlain true text then do
            let (chars, _) ← plain true 0
            return .scalar true chars
          else fail .noToken

/-- The value behind a colon, if there is one. -/
def flowValue : Nat → Reading (Option Node)
  | 0 => fail .tooDeep
  | fuel + 1 => do
      let _ ← toTokenHere true false
      match ← rest with
      | ':' :: _ => do
          next
          return some (← flowNode fuel)
      | _ => return none

/-- The items behind an opening bracket. -/
def flowItems : Nat → Reading (List Node)
  | 0 => fail .tooDeep
  | fuel + 1 => do
      let _ ← toTokenHere true false
      match ← rest with
      | ']' :: _ => do
          next
          return []
      | ',' :: _ => fail .noToken
      | _ => do
          let key ← flowNode fuel
          let item :=
            match ← flowValue fuel with
            | some value => .mapping [(key, value)]
            | none => key
          let _ ← toTokenHere true false
          match ← rest with
          | ',' :: _ => do
              next
              return item :: (← flowItems fuel)
          | ']' :: _ => do
              next
              return [item]
          | _ => fail .unclosed

/-- The entries behind an opening brace. -/
def flowEntries : Nat → Reading (List (Node × Node))
  | 0 => fail .tooDeep
  | fuel + 1 => do
      let _ ← toTokenHere true false
      match ← rest with
      | '\x7d' :: _ => do
          next
          return []
      | ',' :: _ => fail .noToken
      | _ => do
          let key ← flowNode fuel
          let entry := (key, (← flowValue fuel).getD .nothing)
          let _ ← toTokenHere true false
          match ← rest with
          | ',' :: _ => do
              next
              return entry :: (← flowEntries fuel)
          | '\x7d' :: _ => do
              next
              return [entry]
          | _ => fail .unclosed

end

def atDash : Reading Bool := do
  match ← rest with
  | '-' :: behind => return isBlankOrEnd behind
  | _ => return false

def atQuestion : Reading Bool := do
  match ← rest with
  | '?' :: behind => return isBlankOrEnd behind
  | _ => return false

def atColon : Reading Bool := do
  match ← rest with
  | ':' :: behind => return isBlankOrEnd behind
  | _ => return false

/-- A node that can stand before a colon, and the line that it ends on. -/
def inlineNode (indent : Int) (fuel : Nat) : Reading (Node × Nat) := do
  let text ← rest
  match text with
  | '[' :: _ | '\x7b' :: _ | '"' :: _ | '\'' :: _ | '*' :: _ => do
      let node ← flowNode fuel
      let lastLine ← line
      let _ ← takeWhile isSpace
      return (node, lastLine)
  | text =>
      if canBeginPlain false text then do
        let (chars, lastLine) ← plain false indent
        return (.scalar true chars, lastLine)
      else fail .noToken

mutual

/-- A node inside of a block at `indent`. A sequence may stand as deep as the key that it
belongs to. -/
def blockNode (indent : Int) (keyAllowed besideKey : Bool) : Nat → Reading Node
  | 0 => fail .tooDeep
  | fuel + 1 => do
      let keyAllowed ← toTokenHere false keyAllowed
      if ← atEnd then return .nothing
      let column : Int := ← column
      let isDash ← atDash
      if column < indent || (column = indent && !(besideKey && isDash && keyAllowed)) then
        return .nothing
      if isDash then
        if keyAllowed then return .sequence (← blockItems column.toNat fuel)
        else fail .entryNotAllowed
      else if ← atQuestion then
        if keyAllowed then return .mapping (← blockEntries column.toNat fuel)
        else fail .keyNotAllowed
      else
        match ← rest with
        | '&' :: _ => do
            next
            let name ← takeWhile isName
            anchor name (← blockNode indent keyAllowed besideKey fuel)
        | '!' :: _ => do
            let _ ← takeWhile fun c => !isSpace c && c ≠ '\n'
            blockNode indent keyAllowed besideKey fuel
        | '|' :: _ => do
            next
            return .scalar false (← blockScalar false indent)
        | '>' :: _ => do
            next
            return .scalar false (← blockScalar true indent)
        | _ => do
            let firstLine ← line
            let (node, lastLine) ← inlineNode indent fuel
            if (← atColon) && (← line) = lastLine then
              if keyAllowed && firstLine = lastLine then do
                next
                let value ← blockNode column false true fuel
                return .mapping ((node, value) :: (← moreEntries column.toNat fuel))
              else fail .keyNotAllowed
            else return node

/-- The items of a sequence whose dashes stand in this column. -/
def blockItems (column : Nat) : Nat → Reading (List Node)
  | 0 => fail .tooDeep
  | fuel + 1 => do
      next
      let item ← blockNode column true false fuel
      let _ ← toTokenHere false true
      if (← atEnd) || (← Reading.column) ≠ column || !(← atDash) then return [item]
      else return item :: (← blockItems column fuel)

/-- The entries of a mapping from one on that begins in this column. -/
def blockEntries (column : Nat) : Nat → Reading (List (Node × Node))
  | 0 => fail .tooDeep
  | fuel + 1 => do
      if ← atQuestion then do
        next
        let key ← blockNode column true true fuel
        let _ ← toTokenHere false true
        if (← Reading.column) = column && (← atColon) then do
          next
          let value ← blockNode column true true fuel
          return (key, value) :: (← moreEntries column fuel)
        else return (key, .nothing) :: (← moreEntries column fuel)
      else do
        let firstLine ← line
        let (key, lastLine) ← inlineNode column fuel
        if (← atColon) && firstLine = lastLine && (← line) = firstLine then do
          next
          let value ← blockNode column false true fuel
          return (key, value) :: (← moreEntries column fuel)
        else fail .missingColon

/-- The entries behind one that has ended. -/
def moreEntries (column : Nat) : Nat → Reading (List (Node × Node))
  | 0 => fail .tooDeep
  | fuel + 1 => do
      let _ ← toTokenHere false true
      if (← atEnd) || (← Reading.column) < column then return []
      else if (← Reading.column) = column then blockEntries column fuel
      else fail .badIndentation

end

/-! ## Documents -/

/-- Passes over the directives before a document; says whether there are any. -/
def directives : Nat → Reading Bool
  | 0 => fail .tooDeep
  | fuel + 1 => do
      let _ ← toTokenHere false true
      match ← rest with
      | '%' :: _ => do
          let _ ← takeWhile fun c => c ≠ '\n'
          let _ ← directives fuel
          return true
      | _ => return false

/-- What is behind a document: at most its end mark. -/
def streamEnd : Reading Unit := do
  let _ ← toTokenHere false true
  if (← atDocumentMark) && (← rest).head? = some '.' then do
    skip 3
    let _ ← toTokenHere false true
    if (← rest).isEmpty then return () else fail .severalDocuments
  else if ← atDocumentMark then fail .severalDocuments
  else if (← rest).isEmpty then return ()
  else fail .unexpectedContent

/-- The one document of a stream, if there is one. -/
def document : Reading (Option Node) := do
  let fuel := 4 * (← rest).length + 8
  let directed ← directives fuel
  if (← atDocumentMark) && (← rest).head? = some '-' then do
    skip 3
    let node ← blockNode (-1) false false fuel
    streamEnd
    return some node
  else if directed then fail .unexpectedContent
  else if (← rest).isEmpty then return none
  else do
    let node ← blockNode (-1) true false fuel
    streamEnd
    return some node

/-- The document that a text holds, if it holds one. -/
def read (text : String) : Except Fault (Option Node) :=
  let chars := unifyBreaks text.toList
  let chars := if chars.head? = some '\ufeff' then chars.drop 1 else chars
  if chars.all isAllowed then (document ⟨chars, 0, 0, []⟩).map Prod.fst
  else .error .controlCharacter

end RunBoard.Yaml
