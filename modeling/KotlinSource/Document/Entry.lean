import KotlinSource.Document.Quoted
import KotlinSource.Text.Separated

/-!
# Entries of a document

A TOML document is read as a sequence of entries, each a key with a value on lines of its own.
Values are natural numbers, texts and lists of texts.  Other kinds of values and tables are not
read, since no option takes them.

## Main definitions

* `Value`: the values.
* `natural?`: the value of a number as it is written.
* `key?`, `value?`: a key and a value at the start of a list of characters.
* `entries?`: the entries of a document.
-/

namespace KotlinSource.Document

/-- A value in a document. -/
inductive Value where
  | number (n : Nat)
  | text (s : String)
  | texts (list : List String)
  deriving DecidableEq, Repr

/-! ### Numbers -/

/-- The digits of a number in some base; single underscores may stand between digits. -/
def digits? (base : Nat) (s : List Char) : Option (List Nat) :=
  let groups := Text.pieces '_' s
  if groups.any List.isEmpty then none
  else groups.flatten.mapM fun c => (hexValue? c).filter fun d => d < base

/-- The number with the given digits. -/
def ofDigits (base : Nat) (digits : List Nat) : Nat := digits.foldl (fun n d => base * n + d) 0

/-- A decimal number, without zeros in front. -/
def decimal? (s : List Char) : Option Nat := do
  let digits ← digits? 10 s
  if digits.head? = some 0 ∧ digits.length > 1 then none else return ofDigits 10 digits

/-- The value of a number as it is written.  Decimal numbers may have a sign, but none of them is
negative. -/
def natural? : List Char → Option Nat
  | '0' :: 'x' :: s => (digits? 16 s).map (ofDigits 16)
  | '0' :: 'o' :: s => (digits? 8 s).map (ofDigits 8)
  | '0' :: 'b' :: s => (digits? 2 s).map (ofDigits 2)
  | '+' :: s => decimal? s
  | '-' :: s => (decimal? s).filter fun n => n = 0
  | s => decimal? s

/-! ### Blank space and comments -/

/-- A list of characters without the spaces at its start. -/
def dropSpaces (s : List Char) : List Char := s.dropWhile isSpace

/-- What stands behind spaces, line breaks and comments.  The flag tells whether the reader is
inside a comment. -/
def skipFiller? : Bool → List Char → Option (List Char)
  | _, [] => some []
  | _, '\n' :: rest => skipFiller? false rest
  | _, '\x0d' :: '\n' :: rest => skipFiller? false rest
  | true, c :: rest => if isTextChar c then skipFiller? true rest else none
  | false, c :: rest =>
    if isSpace c then skipFiller? false rest
    else if c = '#' then skipFiller? true rest
    else some (c :: rest)

/-- Whether an entry may end here: at the end, at a line break or at a comment. -/
def endsEntry : List Char → Bool
  | [] => true
  | '\n' :: _ => true
  | '\x0d' :: '\n' :: _ => true
  | '#' :: _ => true
  | _ => false

/-! ### Keys and values -/

/-- The characters of a key without quotes. -/
def isBareKeyChar (c : Char) : Bool := c.isAlphanum || c == '_' || c == '-'

/-- The characters of a number. -/
def isNumberChar (c : Char) : Bool := c.isAlphanum || c == '_' || c == '+' || c == '-'

/-- The key at the start of a list of characters, and what stands behind it. -/
def key? (s : List Char) : Option (String × List Char) :=
  match Quotes.open? s with
  | some (q, _) => if q.multiline then none else quotedText? s
  | none =>
    let bare := s.takeWhile isBareKeyChar
    if bare.isEmpty then none else some (String.ofList bare, s.dropWhile isBareKeyChar)

/-- The texts of a list up to its closing bracket, and what stands behind it.  A comma may stand
behind the last one. -/
def texts? : (fuel : Nat) → List Char → Option (List String × List Char)
  | 0, _ => none
  | fuel + 1, s => do
    match ← skipFiller? false s with
    | ']' :: rest => return ([], rest)
    | s =>
      let (text, rest) ← quotedText? s
      match ← skipFiller? false rest with
      | ']' :: rest => return ([text], rest)
      | ',' :: rest =>
        let (texts, rest) ← texts? fuel rest
        return (text :: texts, rest)
      | _ => none

/-- The value at the start of a list of characters, and what stands behind it. -/
def value? (s : List Char) : Option (Value × List Char) :=
  match s with
  | '[' :: rest => (texts? s.length rest).map fun v => (.texts v.1, v.2)
  | _ =>
    if (Quotes.open? s).isSome then (quotedText? s).map fun v => (.text v.1, v.2)
    else (natural? (s.takeWhile isNumberChar)).map fun n => (.number n, s.dropWhile isNumberChar)

/-! ### Documents -/

/-- The entry at the start of a list of characters, and what stands behind its line. -/
def entry? (s : List Char) : Option ((String × Value) × List Char) := do
  let (key, rest) ← key? s
  match dropSpaces rest with
  | '=' :: rest =>
    let (value, rest) ← value? (dropSpaces rest)
    let rest := dropSpaces rest
    if endsEntry rest then some ((key, value), rest) else none
  | _ => none

/-- The entries of a list of characters; every entry takes at least one character. -/
def entriesFrom? : (fuel : Nat) → List Char → Option (List (String × Value))
  | 0, _ => none
  | fuel + 1, s => do
    match ← skipFiller? false s with
    | [] => return []
    | s =>
      let (entry, rest) ← entry? s
      let entries ← entriesFrom? fuel rest
      return entry :: entries

/-- A document without the byte order mark at its start. -/
def dropByteOrderMark : List Char → List Char
  | '\uFEFF' :: rest => rest
  | s => s

/-- The entries of a document, if it can be read. -/
def entries? (document : String) : Option (List (String × Value)) :=
  let s := dropByteOrderMark document.toList
  entriesFrom? (s.length + 1) s

end KotlinSource.Document
