import KotlinSource.Diagnostic
import KotlinSource.Document.Entry
import KotlinSource.Layout.Options

/-!
# Layout options from a document

Layout options can be given in a TOML document with the keys `indent`, `column_limit` and
`implicit_packages`, each at most once.  Options that are not given keep their defaults.

## Main definitions

* `OptionsError`: a document that gives no options.
* `FormatOptions.setEntry?`: the effect of an entry.
* `FormatOptions.ofDocument`: the options of a document.
-/

namespace KotlinSource

/-- A document that gives no layout options. -/
inductive OptionsError where
  /-- The document cannot be read, or gives something that is no option. -/
  | malformed
  deriving DecidableEq, Repr

/-- The text of a failure to read layout options. -/
def OptionsError.diagnostic : OptionsError → Diagnostic
  | .malformed => ⟨"options::parse", "failed to parse format options", none⟩

/-- The small letter of a capital letter of ASCII. -/
def smallLetter (c : Char) : Char :=
  if 'A' ≤ c ∧ c ≤ 'Z' then Char.ofNat (c.toNat + 32) else c

/-- The unit of indentation that a value stands for: a width of at most 255, or the word `tab` in
capital or small letters. -/
def Indent.ofValue? : Document.Value → Option Indent
  | .number n => if n ≤ 255 then some (.spaces n) else none
  | .text s => if s.toList.map smallLetter = ['t', 'a', 'b'] then some .tab else none
  | .texts _ => none

/-- The greatest column limit. -/
def maxColumnLimit : Nat := 18446744073709551615

namespace FormatOptions

/-- The options after an entry, if the entry is an option. -/
def setEntry? (o : FormatOptions) (key : String) (value : Document.Value) :
    Option FormatOptions :=
  match key, value with
  | "indent", value => (Indent.ofValue? value).map fun i => { o with indent := i }
  | "column_limit", .number n =>
    if n ≤ maxColumnLimit then some { o with columnLimit := n } else none
  | "implicit_packages", .texts list => some { o with implicitPackages := list }
  | _, _ => none

/-- The options of a document. -/
def ofDocument? (document : String) : Option FormatOptions := do
  let entries ← Document.entries? document
  if (entries.map Prod.fst).eraseDups.length < entries.length then none
  else entries.foldlM (fun o e => o.setEntry? e.1 e.2) {}

/-- The options of a document, or the failure to read it. -/
def ofDocument (document : String) : Except OptionsError FormatOptions :=
  match ofDocument? document with
  | some o => .ok o
  | none => .error .malformed

end FormatOptions

end KotlinSource
