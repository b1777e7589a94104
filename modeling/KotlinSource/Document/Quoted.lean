/-!
# Quoted text in a document

Text in a TOML document stands between double quotes, where a backslash starts an escape, or
between single quotes, where it does not.  Between three quotes of either kind the text may have
several lines; a line break directly behind the opening quotes is dropped, every other one belongs
to the text as it is written, with its carriage return if it has one, and one or two quotes may
stand directly before the closing ones.

## Main definitions

* `Quotes`: the kinds of quotation.
* `Quotes.open?`: the opening quotes at the start of a list of characters.
* `Mode`, `Mode.next`: where the reader stands in an escape or a line break, and what a character
  does there.
* `quotedText?`: the quoted text at the start of a list of characters.
-/

namespace KotlinSource.Document

/-- The characters that text may hold besides line breaks. -/
def isTextChar (c : Char) : Bool := c == '\t' || 0x20 ≤ c.toNat && c.toNat != 0x7f

/-- A space or tab. -/
def isSpace (c : Char) : Bool := c == ' ' || c == '\t'

/-- A kind of quotation. -/
structure Quotes where
  quote : Char
  /-- Whether a backslash starts an escape. -/
  escapes : Bool
  /-- Whether the text may have several lines. -/
  multiline : Bool
  deriving DecidableEq, Repr

/-- A list of characters without the line break at its start. -/
def dropLineBreak : List Char → List Char
  | '\n' :: rest => rest
  | '\x0d' :: '\n' :: rest => rest
  | s => s

/-- The opening quotes at the start of a list of characters, and what stands behind them. -/
def Quotes.open? : List Char → Option (Quotes × List Char)
  | '"' :: '"' :: '"' :: rest => some (⟨'"', true, true⟩, dropLineBreak rest)
  | '"' :: rest => some (⟨'"', true, false⟩, rest)
  | '\x27' :: '\x27' :: '\x27' :: rest => some (⟨'\x27', false, true⟩, dropLineBreak rest)
  | '\x27' :: rest => some (⟨'\x27', false, false⟩, rest)
  | _ => none

/-! ### Escapes -/

/-- The value of a hexadecimal digit. -/
def hexValue? (c : Char) : Option Nat :=
  if '0' ≤ c ∧ c ≤ '9' then some (c.toNat - 48)
  else if 'a' ≤ c ∧ c ≤ 'f' then some (c.toNat - 87)
  else if 'A' ≤ c ∧ c ≤ 'F' then some (c.toNat - 55)
  else none

/-- The character that a single character behind a backslash stands for. -/
def escapedChar? : Char → Option Char
  | 'b' => some '\x08'
  | 't' => some '\t'
  | 'n' => some '\n'
  | 'f' => some '\x0c'
  | 'r' => some '\x0d'
  | 'e' => some '\x1b'
  | '"' => some '"'
  | '\\' => some '\\'
  | _ => none

/-- The number of hexadecimal digits of an escape. -/
def escapeDigits? : Char → Option Nat
  | 'x' => some 2
  | 'u' => some 4
  | 'U' => some 8
  | _ => none

/-- Where the reader of a text stands. -/
inductive Mode where
  /-- Between two characters of the text. -/
  | plain
  /-- Behind a backslash. -/
  | escaped
  /-- Inside a hexadecimal escape: the digits to come, and the value of those read. -/
  | digits (left value : Nat)
  /-- Behind a backslash and spaces; the line has to end. -/
  | lineEnd
  /-- Behind a line that ended in a backslash; spaces and line breaks are dropped. -/
  | skipping
  /-- Behind a carriage return in the text; the line has to break. -/
  | carriageReturn
  /-- Behind a carriage return that is dropped. -/
  | droppedReturn
  deriving DecidableEq, Repr

namespace Mode

/-- What a character does between two characters of the text. -/
def nextPlain (q : Quotes) (c : Char) : Option (List Char × Mode) :=
  if c = '\\' && q.escapes then some ([], .escaped)
  else if isTextChar c then some ([c], .plain)
  else if !q.multiline then none
  else if c = '\n' then some (['\n'], .plain)
  else if c = '\x0d' then some ([], .carriageReturn)
  else none

/-- What a character does behind a backslash and perhaps spaces, if the line may end there. -/
def nextLineEnd (q : Quotes) (c : Char) : Option (List Char × Mode) :=
  if !q.multiline then none
  else if isSpace c then some ([], .lineEnd)
  else if c = '\n' then some ([], .skipping)
  else if c = '\x0d' then some ([], .droppedReturn)
  else none

/-- What a character adds to the text, and where the reader stands behind it. -/
def next (q : Quotes) (c : Char) : Mode → Option (List Char × Mode)
  | .plain => nextPlain q c
  | .escaped =>
    match escapedChar? c, escapeDigits? c with
    | some e, _ => some ([e], .plain)
    | none, some left => some ([], .digits left 0)
    | none, none => nextLineEnd q c
  | .digits left value => do
    let value := 16 * value + (← hexValue? c)
    if left > 1 then some ([], .digits (left - 1) value)
    else if value.isValidChar then some ([Char.ofNat value], .plain)
    else none
  | .lineEnd => nextLineEnd q c
  | .skipping =>
    if isSpace c || c = '\n' then some ([], .skipping)
    else if c = '\x0d' then some ([], .droppedReturn)
    else nextPlain q c
  | .carriageReturn => if c = '\n' then some (['\x0d', '\n'], .plain) else none
  | .droppedReturn => if c = '\n' then some ([], .skipping) else none

/-- Whether a quote counts as a quote here. -/
def seesQuotes : Mode → Bool
  | .plain => true
  | .skipping => true
  | _ => false

end Mode

/-! ### Quoted text -/

/-- The end of a text of several lines: three quotes close it, one or two more before them belong
to it. -/
def closing? (q : Quotes) (count : Nat) (rest : List Char) : Option (List Char × List Char) :=
  if 3 ≤ count ∧ count ≤ 5 then some (List.replicate (count - 3) q.quote, rest) else none

/-- The text behind `count` quotes in a row, and what stands behind its closing quotes. -/
def textFrom? (q : Quotes) (count : Nat) (mode : Mode) :
    List Char → Option (List Char × List Char)
  | [] => closing? q count []
  | c :: rest =>
    if c = q.quote && mode.seesQuotes then
      if q.multiline then textFrom? q (count + 1) .plain rest else some ([], rest)
    else if 3 ≤ count then closing? q count (c :: rest)
    else do
      let (out, mode) ← mode.next q c
      let (text, rest) ← textFrom? q 0 mode rest
      return (List.replicate count q.quote ++ out ++ text, rest)

/-- The quoted text at the start of a list of characters, and what stands behind it. -/
def quotedText? (s : List Char) : Option (String × List Char) := do
  let (q, rest) ← Quotes.open? s
  let (text, rest) ← textFrom? q 0 .plain rest
  return (String.ofList text, rest)

end KotlinSource.Document
