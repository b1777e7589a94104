import KotlinSource.Proofs.Layout.Indentation
import KotlinSource.Proofs.Name.Guessing
import KotlinSource.Proofs.Naming.Shadowing

/-!
# Types outside of a file

A type has a canonical text, which says what type it is, and a printed one, which is to be read.
Outside of every file both are made of the same words in the same order: the names of classes and of
type variables, and the signs around them.  A word has two spellings, which differ in the package of
a built-in class, that is not printed, and in the backticks around keywords.

A printed type may break behind every `<`.  A break point there has no width, and nothing in a type
is indented except for the lines behind such a break; without these breaks nothing is left of a
printed type but its words.

## Main definitions

* `TypeSign`, `TypeWord`: the words of types.
* `TypeWord.canonical`, `TypeWord.written`: the two spellings of a word.
* `TypeName.words`: the words of a type.
* `TypeName.Projects`, `TypeName.boundWords`: projections with their bounds, and the words that come
  from bounds.
* `Writer.IsPlain`: a writer that neither indents nor marks its lines.
* `Item.joined`: a break point at which the line goes on after all.

## Main results

* `TypeName.induction`: induction over types through their type arguments.
* `TypeName.spells_words`: the canonical text and the tokens of a type are made of its words.
* `TypeName.Projects.words_eq`: the words of a projection come from its bounds.
* `writtenGlyphs_words`: words are written one behind the other, with a break point behind every
  `<`.
* `TypeName.layout_words`: the printed type without its line breaks, and the canonical text.
-/

namespace KotlinSource

/-! ### Words -/

/-- A sign in a type. -/
inductive TypeSign where
  /-- The start of type arguments. -/
  | opening
  /-- The end of type arguments. -/
  | closing
  /-- What stands between two type arguments. -/
  | comma
  /-- The mark of nullable types. -/
  | nullMark
  /-- The projection to everything. -/
  | star
  /-- The start of a projection to subtypes. -/
  | output
  /-- The start of a projection to supertypes. -/
  | input
  deriving DecidableEq, Repr

/-- The text of a sign. -/
def TypeSign.text : TypeSign → String
  | .opening => "<"
  | .closing => ">"
  | .comma => ", "
  | .nullMark => "?"
  | .star => "*"
  | .output => "out "
  | .input => "in "

/-- A word of a type. -/
inductive TypeWord where
  /-- A built-in type, or the class of arrays. -/
  | builtin (b : Builtin)
  /-- Any other class. -/
  | declared (c : ClassName)
  /-- A type variable. -/
  | variable (name : String)
  | sign (s : TypeSign)
  deriving DecidableEq, Repr

namespace TypeWord

/-- A word in canonical texts, where all classes are qualified. -/
def canonical : TypeWord → String
  | .builtin b => "kotlin." ++ b.className.chain
  | .declared c => Text.joinWith "." (c.packageSegments ++ c.names)
  | .variable name => name
  | .sign s => s.text

/-- A word as it is written outside of every file: the built-in classes are not qualified, and every
segment that is a keyword is between backticks. -/
def written : TypeWord → String
  | .builtin b => b.className.chain
  | .declared c => Text.joinWith "." ((c.packageSegments ++ c.names).map safeName)
  | .variable name => safeName name
  | .sign s => s.text

/-- The break points behind a word: one without width behind the start of type arguments. -/
def points : TypeWord → List Break
  | .sign .opening => [⟨1, false⟩]
  | _ => []

/-- The characters of a written word and the break points behind it. -/
def glyphs (word : TypeWord) : List Glyph :=
  word.written.toList.map .char ++ word.points.map .point

/-- The tokens of a word. -/
def tokens : TypeWord → Tokens
  | .builtin b => [.reference (.builtin b)]
  | .declared c => [.reference (.declared c)]
  | .variable name => nameWord name
  | .sign .opening => word "<" ++ operation .wrapTight
  | .sign s => word s.text

end TypeWord

/-- The words of type arguments: none for no arguments. -/
def argumentWords (arguments : List (List TypeWord)) : List TypeWord :=
  if arguments.isEmpty then []
  else .sign .opening :: ([.sign .comma].intercalate arguments ++ [.sign .closing])

/-- The words of the mark of nullable types: none for other types. -/
def nullableWords (nullable : Bool) : List TypeWord :=
  if nullable then [.sign .nullMark] else []

namespace TypeName

mutual

/-- The words of a type. -/
def words : TypeName → List TypeWord
  | .primitive p => [.builtin (.primitive p)]
  | .array element => .builtin .array :: argumentWords [element.words]
  | .declared type => classWords type
  | .variable v => .variable v.name :: nullableWords v.nullable
  | .star => [.sign .star]
  | .producer upper => .sign .output :: upper.words
  | .consumer lower => .sign .input :: lower.words

/-- The words of a class with type arguments. -/
def classWords : AppliedClass TypeName → List TypeWord
  | ⟨name, arguments, nullable⟩ =>
    .declared name :: (argumentWords (listWords arguments) ++ nullableWords nullable)

/-- The words of the types in a list. -/
def listWords : List TypeName → List (List TypeWord)
  | [] => []
  | type :: rest => type.words :: listWords rest

end

@[simp] theorem listWords_eq_map (types : List TypeName) : listWords types = types.map words := by
  induction types with
  | nil => rfl
  | cons type rest ih => simp [listWords, ih]

theorem sizeOf_lt_of_mem_arguments {type : ClassType} {a : TypeName} (h : a ∈ type.arguments) :
    sizeOf a < sizeOf (TypeName.declared type) := by
  obtain ⟨name, arguments, nullable⟩ := type
  have hlt : sizeOf a < sizeOf arguments := List.sizeOf_lt_of_mem h
  simp only [TypeName.declared.sizeOf_spec, AppliedClass.mk.sizeOf_spec]
  omega

/-- What holds of a type as soon as it holds of its type arguments, or of the type that it projects
to, holds of every type. -/
@[elab_as_elim]
theorem induction {motive : TypeName → Prop} (primitive : ∀ p, motive (.primitive p))
    (array : ∀ element, motive element → motive (.array element))
    (declared : ∀ type : ClassType, (∀ a ∈ type.arguments, motive a) → motive (.declared type))
    (bounded : ∀ v, motive (.variable v)) (star : motive .star)
    (producer : ∀ upper, motive upper → motive (.producer upper))
    (consumer : ∀ lower, motive lower → motive (.consumer lower)) (type : TypeName) :
    motive type := by
  induction hsize : sizeOf type using Nat.strong_induction_on generalizing type with
  | _ size ih =>
    have again (smaller : TypeName) (hsmaller : sizeOf smaller < sizeOf type) : motive smaller :=
      ih (sizeOf smaller) (hsize ▸ hsmaller) smaller rfl
    cases type with
    | primitive p => exact primitive p
    | array element => exact array element (again element (by simp))
    | declared type => exact declared type fun a ha => again a (sizeOf_lt_of_mem_arguments ha)
    | «variable» v => exact bounded v
    | star => exact star
    | producer upper => exact producer upper (again upper (by simp))
    | consumer lower => exact consumer lower (again lower (by simp))

/-! ### Projections -/

/-- A projection and the bounds with which it is made: it projects to the subtypes of a type, to its
supertypes, or to everything. -/
inductive Projects : TypeName → (upperBounds lowerBounds : List TypeName) → Prop
  | toSubtypes (upper : TypeName) : Projects (producerOf upper) [upper] []
  | toSupertypes (lower : TypeName) : Projects (.consumer lower) [nullableAny] [lower]
  | toAll : Projects .star [nullableAny] []

/-- The words of a projection by its bounds: a lower bound counts before an upper one, and the upper
bound `Any?` leaves everything. -/
def boundWords (upperBounds lowerBounds : List TypeName) : List TypeWord :=
  match lowerBounds, upperBounds with
  | lower :: _, _ => .sign .input :: lower.words
  | [], upper :: _ =>
    if upper.canonical = "kotlin.Any?" then [.sign .star] else .sign .output :: upper.words
  | [], [] => [.sign .star]

theorem canonical_nullableAny : nullableAny.canonical = "kotlin.Any?" := by decide

/-- The words of a projection come from its bounds, those with which it is made and those that it
tells. -/
theorem Projects.words_eq {type : TypeName} {upperBounds lowerBounds : List TypeName}
    (h : type.Projects upperBounds lowerBounds) :
    type.words = boundWords upperBounds lowerBounds ∧
      type.words = boundWords type.upperBounds type.lowerBounds := by
  have hstar : boundWords [nullableAny] [] = star.words := by
    rw [boundWords, if_pos canonical_nullableAny, words]
  cases h with
  | toSubtypes upper =>
    by_cases hany : upper.canonical = "kotlin.Any?"
    · have hproducer : producerOf upper = star := if_pos (hany.trans canonical_nullableAny.symm)
      have hbounds : boundWords [upper] [] = [.sign .star] := if_pos hany
      rw [hproducer, hbounds]
      exact ⟨rfl, hstar.symm⟩
    · have hproducer : producerOf upper = producer upper :=
        if_neg (canonical_nullableAny.symm ▸ hany)
      have hbounds : boundWords [upper] [] = .sign .output :: upper.words := if_neg hany
      rw [hproducer]
      exact ⟨hbounds.symm, hbounds.symm⟩
  | toSupertypes lower => exact ⟨rfl, rfl⟩
  | toAll => exact ⟨hstar.symm, hstar.symm⟩

end TypeName

/-! ### Texts and tokens made of words -/

namespace TypeWord

theorem canonicalName_builtin (b : Builtin) :
    b.className.canonicalName = (builtin b).canonical := by
  cases b with
  | primitive p => cases p <;> rfl
  | array => rfl

end TypeWord

/-- A text and printed code that are made of the same words. -/
structure Spells (words : List TypeWord) (text : String) (tokens : Tokens) : Prop where
  text_eq : text = String.join (words.map TypeWord.canonical)
  tokens_eq : tokens = words.flatMap TypeWord.tokens

namespace Spells

theorem nil : Spells [] "" [] := ⟨rfl, rfl⟩

theorem word (w : TypeWord) : Spells [w] w.canonical w.tokens :=
  ⟨by simp, by simp⟩

variable {words more : List TypeWord} {text other : String} {tokens others : Tokens}

theorem append (h : Spells words text tokens) (h' : Spells more other others) :
    Spells (words ++ more) (text ++ other) (tokens ++ others) :=
  ⟨by simp [h.text_eq, h'.text_eq], by simp [h.tokens_eq, h'.tokens_eq]⟩

theorem cons (w : TypeWord) (h : Spells words text tokens) :
    Spells (w :: words) (w.canonical ++ text) (w.tokens ++ tokens) := (word w).append h

theorem nullable (nullable : Bool) :
    Spells (nullableWords nullable) (nullMark nullable) (nullableMark nullable) := by
  cases nullable
  · exact nil
  · exact word (.sign .nullMark)

variable {types : List TypeName}

/-- Types with commas between them. -/
theorem listed (h : ∀ t ∈ types, Spells t.words t.canonical t.tokens) :
    Spells ([.sign .comma].intercalate (types.map TypeName.words))
      (Text.joinWith ", " (types.map TypeName.canonical))
      (KotlinSource.listed (KotlinSource.word ", ") (types.map TypeName.tokens)) := by
  induction types with
  | nil => exact nil
  | cons t rest ih =>
    obtain ⟨ht, hrest⟩ := List.forall_mem_cons.1 h
    cases rest with
    | nil => simpa using ht
    | cons next rest =>
      have hjoined := ht.append ((ih hrest).cons (.sign .comma))
      simpa [TypeWord.canonical, TypeSign.text, TypeWord.tokens, String.append_assoc] using hjoined

/-- Type arguments. -/
theorem arguments (h : ∀ t ∈ types, Spells t.words t.canonical t.tokens) :
    Spells (argumentWords (types.map TypeName.words))
      (argumentList (types.map TypeName.canonical))
      (typeArgumentList (types.map TypeName.tokens)) := by
  cases types with
  | nil => exact nil
  | cons t rest =>
    have hlist := ((listed h).append (word (.sign .closing))).cons (.sign .opening)
    simpa [argumentWords, argumentList, typeArgumentList, TypeWord.canonical, TypeSign.text,
      TypeWord.tokens, String.append_assoc] using hlist

end Spells

namespace TypeName

/-- The canonical text and the tokens of a type are made of its words. -/
theorem spells_words (type : TypeName) : Spells type.words type.canonical type.tokens := by
  induction type using induction with
  | primitive p =>
    rw [words, canonical, ← Builtin.className, TypeWord.canonicalName_builtin]
    exact .word (.builtin (.primitive p))
  | array element ih =>
    have harguments := @Spells.arguments [element] fun t ht => List.mem_singleton.1 ht ▸ ih
    rw [words, canonical, TypeWord.canonicalName_builtin]
    exact harguments.cons (.builtin .array)
  | declared type ih =>
    obtain ⟨name, arguments, nullable⟩ := type
    have hname : name.canonicalName = (TypeWord.declared name).canonical :=
      name.canonicalName_eq_joinWith
    rw [words, classWords, canonical, classCanonical, tokens, classTokens, listWords_eq_map,
      canonicalList_eq_map, listTokens_eq_map, hname, String.append_assoc]
    exact ((Spells.arguments ih).append (.nullable nullable)).cons (.declared name)
  | bounded v => exact (Spells.nullable v.nullable).cons (.variable v.name)
  | star => exact .word (.sign .star)
  | producer upper ih => exact ih.cons (.sign .output)
  | consumer lower ih => exact ih.cons (.sign .input)

end TypeName

/-! ### Writing words -/

/-- At level zero nothing is indented. -/
theorem indentedFrom_zero (unit : List Char) (atLineStart : Bool) (chars : List Char) :
    indentedFrom unit atLineStart (chars.map (0, ·)) = chars := by
  induction chars generalizing atLineStart with
  | nil => rfl
  | cons c chars ih =>
    rw [List.map_cons, indentedFrom]
    split_ifs with hc
    · rw [ih, hc]
    · rw [ih]
      rfl
    · rw [ih]

namespace Writer

/-- A writer at level zero, outside of statements and comments: what it writes is not indented. -/
def IsPlain (w : Writer) : Prop := w.InCode ∧ w.levels = ⟨0, [], []⟩

theorem isPlain_start : start.IsPlain := ⟨inCode_start, rfl⟩

namespace IsPlain

variable (unit : List Char) {w : Writer} (h : w.IsPlain)

include h

theorem emit (s : String) : (w.emit unit s).IsPlain :=
  ⟨(w.mode_emit unit s).trans h.1, (w.levels_emit unit s).trans h.2⟩

/-- Text is written as it is. -/
theorem glyphs_emit (s : String) :
    (w.emit unit s).glyphs = w.glyphs ++ s.toList.map .char := by
  have hlevel : w.level = 0 := congrArg Levels.level h.2
  have hemit := h.1.glyphs_emit unit s []
  rwa [hlevel, List.append_nil, indentedFrom_zero, indentedFrom, List.map_nil,
    List.append_nil] at hemit

/-- A line that breaks goes on one level deeper, which is the first one. -/
theorem step_wrapTight :
    (w.step unit .wrapTight).IsPlain ∧
      (w.step unit .wrapTight).glyphs = w.glyphs ++ [.point ⟨1, false⟩] := by
  have hlevel : w.level = 0 := congrArg Levels.level h.2
  have hstatements : w.statements = [] := congrArg Levels.statements h.2
  have hstep : w.step unit .wrapTight = w.appendPoint false := by
    simp [step, h.1.inDoc, h.1.inComment]
  refine hstep ▸ ⟨h, ?_⟩
  rw [glyphs_appendPoint, continuationLevel, hstatements, hlevel]
  rfl

end IsPlain

end Writer

namespace TypeWord

/-- The operations that write a word. -/
def operations (word : TypeWord) : List LayoutOp :=
  .text word.written :: word.points.map fun _ => .wrapTight

theorem points_eq (word : TypeWord) : word.points = [] ∨ word.points = [⟨1, false⟩] := by
  cases word with
  | sign s =>
    cases s with
    | opening => exact .inr rfl
    | _ => exact .inl rfl
  | _ => exact .inl rfl

/-- A word is written with the break points behind it. -/
theorem isPlain_run_operations (unit : List Char) {w : Writer} (h : w.IsPlain) (word : TypeWord) :
    (w.run unit word.operations).IsPlain ∧
      (w.run unit word.operations).glyphs = w.glyphs ++ word.glyphs := by
  have hplain : (w.emit unit word.written).IsPlain := h.emit unit word.written
  have hrun : w.run unit word.operations =
      (w.emit unit word.written).run unit (word.points.map fun _ => .wrapTight) := rfl
  rw [hrun, glyphs, ← List.append_assoc, ← h.glyphs_emit unit word.written]
  rcases word.points_eq with hpoints | hpoints
  · rw [hpoints]
    exact ⟨hplain, (List.append_nil _).symm⟩
  · rw [hpoints]
    exact hplain.step_wrapTight unit

end TypeWord

namespace NamingContext

theorem aliased?_detached (c : ClassName) : detached.aliased? c = none :=
  List.findSome?_eq_none_iff.2 fun _ _ => rfl

/-- Outside of every file, classes are spelled in the same way everywhere. -/
theorem write_classSpelling_detached (scopes : List Scope) (c : ClassName) :
    (detached.classSpelling scopes c).write none = safeQualified c.canonicalName := by
  have hown : detached.isOwn c = false := Bool.and_false _
  rw [classSpelling, aliased?_detached, hown]
  exact String.append_empty

theorem write_builtinSpelling_detached (b : Builtin) :
    (detached.builtinSpelling b).write none = b.className.chain := by
  rw [builtinSpelling, aliased?_detached]
  exact String.append_empty

/-- The operations of a word. -/
theorem writeIn_detached_tokens (scopes : List Scope) (word : TypeWord) :
    detached.writeIn none scopes word.tokens = word.operations := by
  cases word with
  | builtin b =>
    show [LayoutOp.text ((detached.builtinSpelling b).write none)] = _
    rw [write_builtinSpelling_detached]
    rfl
  | declared c =>
    show [LayoutOp.text ((detached.classSpelling scopes c).write none)] = _
    rw [write_classSpelling_detached, safeQualified, c.splitAt_canonicalName]
    rfl
  | «variable» name => rfl
  | sign s => cases s <;> rfl

theorem foldl_scopesAfter_tokens (scopes : List Scope) (word : TypeWord) :
    word.tokens.foldl scopesAfter scopes = scopes := by
  cases word with
  | sign s => cases s <;> rfl
  | _ => rfl

/-- The operations of words are those of each of them, one behind the other. -/
theorem writeIn_detached_words (scopes : List Scope) (words : List TypeWord) :
    detached.writeIn none scopes (words.flatMap TypeWord.tokens) =
      words.flatMap TypeWord.operations := by
  induction words with
  | nil => rfl
  | cons word rest ih =>
    rw [List.flatMap_cons, writeIn_append, writeIn_detached_tokens, foldl_scopesAfter_tokens, ih,
      List.flatMap_cons]

end NamingContext

/-- Words are written one behind the other, with a break point behind every `<`. -/
theorem writtenGlyphs_words (unit : List Char) (words : List TypeWord) :
    writtenGlyphs unit (NamingContext.detached.write none (words.flatMap TypeWord.tokens)) =
      words.flatMap TypeWord.glyphs := by
  have hrun : ∀ {w : Writer}, w.IsPlain →
      (w.run unit (words.flatMap TypeWord.operations)).glyphs =
        w.glyphs ++ words.flatMap TypeWord.glyphs := by
    induction words with
    | nil => exact fun _ => (List.append_nil _).symm
    | cons word rest ih =>
      intro w hw
      obtain ⟨hplain, hglyphs⟩ := TypeWord.isPlain_run_operations unit hw word
      rw [List.flatMap_cons, Writer.run_append, ih hplain, hglyphs, List.append_assoc,
        List.flatMap_cons]
  have hwrite : NamingContext.detached.write none (words.flatMap TypeWord.tokens) =
      words.flatMap TypeWord.operations := NamingContext.writeIn_detached_words [] words
  rw [writtenGlyphs, hwrite, hrun Writer.isPlain_start]
  rfl

/-! ### Undoing line breaks -/

/-- A break point at which the line goes on even if it broke there. -/
def Item.joined : Item → Item
  | .point b .broken => .point b .kept
  | i => i

/-- What a glyph writes if no line breaks there. -/
def Glyph.unbroken : Glyph → List Char
  | .char c => [c]
  | .point b => b.unbroken

/-- Without its line breaks, a text whose break points have no width is nothing but its
characters. -/
theorem itemsText_map_joined {unit : List Char} {items : List Item}
    (h : ∀ b, .point b ∈ items.map Item.glyph → b.wide = false) :
    itemsText unit (items.map Item.joined) = (items.map Item.glyph).flatMap Glyph.unbroken := by
  induction items with
  | nil => rfl
  | cons i items ih =>
    have ih := ih fun b hb => h b (List.mem_cons_of_mem _ hb)
    rw [List.map_cons, itemsText_cons, ih, List.map_cons, List.flatMap_cons]
    congr 1
    cases i with
    | char c => rfl
    | point b d =>
      have hb : b.wide = false := h b List.mem_cons_self
      have hunbroken : b.unbroken = [] := by simp [Break.unbroken, hb]
      cases d with
      | dropped => exact hunbroken.symm
      | kept => rfl
      | broken => rfl

namespace TypeWord

theorem wide_eq_false {words : List TypeWord} {b : Break}
    (h : .point b ∈ words.flatMap glyphs) : b.wide = false := by
  obtain ⟨word, -, hb⟩ := List.mem_flatMap.1 h
  rcases word.points_eq with hpoints | hpoints
  · simp [glyphs, hpoints] at hb
  · obtain rfl : b = ⟨1, false⟩ := by simpa [glyphs, hpoints] using hb
    rfl

theorem flatMap_unbroken_glyphs (words : List TypeWord) :
    (words.flatMap glyphs).flatMap Glyph.unbroken =
      (String.join (words.map written)).toList := by
  have hchars : ∀ chars : List Char, (chars.map Glyph.char).flatMap Glyph.unbroken = chars := by
    intro chars
    simp [List.flatMap_map, Glyph.unbroken]
  have hword : ∀ word : TypeWord, word.glyphs.flatMap Glyph.unbroken = word.written.toList := by
    intro word
    rw [glyphs, List.flatMap_append, hchars]
    rcases word.points_eq with hpoints | hpoints
    · rw [hpoints]
      exact List.append_nil _
    · rw [hpoints]
      exact List.append_nil _
  rw [List.flatMap_assoc, String.toList_join, List.flatMap_map]
  exact List.flatMap_congr fun word _ => hword word

end TypeWord

namespace TypeName

/-- Outside of every file a type is printed as the words of its canonical text, with line breaks
behind some `<` at most: only the packages of the built-in classes are not printed, and segments
that are keywords stand between backticks.  The words of a projection are those that its bounds
give. -/
theorem layout_words (options : FormatOptions) (type : TypeName) :
    let unit := options.indent.unit
    let items := decided options.columnLimit unit [] (type.words.flatMap TypeWord.glyphs)
    type.tokens.layout options = String.ofList (itemsText unit items) ∧
      String.ofList (itemsText unit (items.map Item.joined)) =
        String.join (type.words.map TypeWord.written) ∧
      type.canonical = String.join (type.words.map TypeWord.canonical) ∧
      ∀ upperBounds lowerBounds, type.Projects upperBounds lowerBounds →
        type.words = boundWords upperBounds lowerBounds ∧
          type.words = boundWords type.upperBounds type.lowerBounds := by
  intro unit items
  have hglyphs : items.map Item.glyph = type.words.flatMap TypeWord.glyphs :=
    map_glyph_decided options.columnLimit unit [] _
  refine ⟨?_, ?_, type.spells_words.text_eq, fun _ _ h => h.words_eq⟩
  · rw [Tokens.layout, layout_eq_itemsText, type.spells_words.tokens_eq, writtenGlyphs_words]
  · rw [itemsText_map_joined fun b hb => TypeWord.wide_eq_false (hglyphs ▸ hb), hglyphs,
      TypeWord.flatMap_unbroken_glyphs, String.ofList_toList]

example :
    let element : TypeName := .variable ⟨"fun", [], none, false, true⟩
    let box : ClassName := ⟨"in.box", "Box", [], by decide⟩
    let type : TypeName := .declared ⟨box, [.array element, .star], true⟩
    type.canonical = "in.box.Box<kotlin.Array<fun?>, *>?" ∧
      type.tokens.layout { columnLimit := 16 } = "`in`.box.Box<\n  Array<\n  `fun`?>, *>?" := by
  decide +kernel

end TypeName

end KotlinSource
