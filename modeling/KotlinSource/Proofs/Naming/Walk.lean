import KotlinSource.File.Rendering

/-!
# Walking over printed code

A file is walked twice.  The first walk has no import table: where it would ask the table it notes
the class or the member that it would ask for, and goes on as if the answer were no.  The table is
made of what has been noted.  The second walk writes the import lines and asks the table.

`Walk` is the state of both.  One function looks a reference up, with a table or without one, so
that both walks look the same references up in the same bodies, and what the one notes is what the
other one asks for.  The references of a file are what the first walk notes, and its operations are
what the second walk writes.

## Main definitions

* `Lookup`: a reference that a walk has come to, and what is written for it.
* `Walk`: the state of a walk.
* `Walk.lookup`: what a walk does about a reference.
* `Walk.step`, `Walk.run`: what it does about one token and about a list of tokens.
* `FileDecl.collecting`, `FileDecl.rendering`: the two walks over a file.

## Main results

* `Walk.lookup_eq`: the text of a reference, and what is noted for it.
* `Walk.run_eq`: what is behind a walk.
* `FileDecl.lookups_collecting_eq`: both walks look the same references up.
* `FileDecl.classes_collecting`, `FileDecl.members_collecting`: what the first walk notes.
* `FileDecl.operations_rendering`: what the second walk writes.
-/

namespace KotlinSource

/-- A reference that a walk has come to. -/
structure Lookup where
  /-- The bodies around it, the innermost one first. -/
  scopes : List Scope
  reference : Reference
  /-- What is written for it. -/
  text : String
  deriving DecidableEq, Repr

/-- The state of a walk over printed code. -/
structure Walk where
  /-- The bodies around the place. -/
  scopes : List Scope
  /-- The references behind the walk. -/
  lookups : List Lookup
  /-- The classes noted for the import table. -/
  classes : List ClassName
  /-- The members noted for the import table. -/
  members : List MemberName
  /-- What has been written. -/
  operations : List LayoutOp

namespace Walk

/-- A walk that has not begun. -/
def start : Walk := ⟨[], [], [], [], []⟩

variable (context : NamingContext) (table : Option ImportTable) (w : Walk)

/-- Ask whether a class is short.  Without a table its outermost class is noted. -/
def askClass (c : ClassName) : Bool × Walk :=
  match table with
  | some t => (t.classIsShort c, w)
  | none => (false, { w with classes := w.classes ++ [c.topLevel] })

/-- Ask whether a top-level member is short.  Without a table the member is noted. -/
def askMember (m : MemberName) : Bool × Walk :=
  match table with
  | some t => (t.memberIsShort m, w)
  | none => (false, { w with members := w.members ++ [m] })

/-- The name of a class: by its import alias, by what can be seen of it in the bodies around the
place if it is a class of the file's own, or else as the table says. -/
def lookupClass (c : ClassName) : String × Walk :=
  match context.aliased? c with
  | some text => (text, w)
  | none =>
    if context.isOwn c then (safeQualified (visibleName w.scopes c), w)
    else
      let answer := w.askClass table c
      (safeQualified (if answer.1 then c.chain else c.canonicalName), answer.2)

/-- The name of a built-in class, which is short unless the table says no. -/
def lookupBuiltin (b : Builtin) : String × Walk :=
  match context.aliased? b.className with
  | some text => (text, w)
  | none =>
    let answer := w.askClass table b.className
    (if table.isNone || answer.1 then b.className.chain else b.className.canonicalName, answer.2)

/-- The name of a member: by its import alias, behind its class, with its package if a function of
a body around the place hides it, or else as the table says. -/
def lookupMember (m : MemberName) : String × Walk :=
  match context.alias? m.canonicalName with
  | some name => (safeName name, w)
  | none =>
    match m.enclosing? with
    | some c =>
      let found := w.lookupClass context table c
      (found.1 ++ "." ++ safeName m.name, found.2)
    | none =>
      if NamingContext.hides w.scopes m then (safeQualified m.canonicalName, w)
      else
        let answer := w.askMember table m
        (if answer.1 then safeName m.name else safeQualified m.canonicalName, answer.2)

/-- The name of a reference. -/
def lookup : Reference → String × Walk
  | .declared c => w.lookupClass context table c
  | .builtin b => w.lookupBuiltin context table b
  | .member m => w.lookupMember context table m

/-- What a walk does about a token. -/
def step (w : Walk) : Token → Walk
  | .layout op => { w with operations := w.operations ++ [op] }
  | .enter type nested functions => { w with scopes := enterScope w.scopes type nested functions }
  | .leave => { w with scopes := w.scopes.tail }
  | .reference r =>
    let found := w.lookup context table r
    { found.2 with
      lookups := w.lookups ++ [⟨w.scopes, r, found.1⟩]
      operations := w.operations ++ [.text found.1] }

/-- What a walk does about a list of tokens. -/
def run (w : Walk) (tokens : Tokens) : Walk := tokens.foldl (step context table) w

end Walk

namespace FileDecl

variable (file : FileDecl)

/-- The walk that collects what the import table is made of. -/
def collecting : Walk := Walk.start.run file.context none (file.tokens [])

/-- The walk that writes the file. -/
def rendering : Walk :=
  Walk.start.run file.context (some file.importTable) (file.tokens file.importTable.lines)

end FileDecl

/-! ### Lookups in printed code -/

/-- The reference that is looked up at a place, with the scopes around it. -/
def Located.lookup? : Located → Option (List Scope × Reference)
  | .layout _ => none
  | .reference scopes r => some (scopes, r)

/-- The references in printed code, in order, with the scopes around them. -/
def lookups (scopes : List Scope) (tokens : Tokens) : List (List Scope × Reference) :=
  (locate scopes tokens).filterMap Located.lookup?

section Cons

variable (scopes : List Scope) (rest : Tokens)

@[simp] theorem lookups_nil : lookups scopes [] = [] := rfl

@[simp] theorem lookups_layout (op : LayoutOp) :
    lookups scopes (.layout op :: rest) = lookups scopes rest := rfl

@[simp] theorem lookups_reference (r : Reference) :
    lookups scopes (.reference r :: rest) = (scopes, r) :: lookups scopes rest := rfl

@[simp] theorem lookups_enter (type : String) (nested functions : List String) :
    lookups scopes (.enter type nested functions :: rest) =
      lookups (enterScope scopes type nested functions) rest := rfl

@[simp] theorem lookups_leave :
    lookups scopes (.leave :: rest) = lookups scopes.tail rest := rfl

end Cons

theorem lookups_append (scopes : List Scope) (left right : Tokens) :
    lookups scopes (left ++ right) =
      lookups scopes left ++ lookups (left.foldl scopesAfter scopes) right := by
  rw [lookups, locate_append, List.filterMap_append]
  rfl

theorem mem_lookups {scopes around : List Scope} {tokens : Tokens} {r : Reference} :
    (around, r) ∈ lookups scopes tokens ↔ .reference around r ∈ locate scopes tokens := by
  rw [lookups, List.mem_filterMap]
  constructor
  · rintro ⟨located, hmem, hlookup⟩
    cases located with
    | layout op => cases hlookup
    | reference scopes' r' =>
      cases hlookup
      exact hmem
  · exact fun h => ⟨_, h, rfl⟩

/-- Printed code of layout operations only. -/
def IsPlain (tokens : Tokens) : Prop := ∀ t ∈ tokens, ∃ op, t = .layout op

theorem IsPlain.lookups_eq_nil {tokens : Tokens} (h : IsPlain tokens) (scopes : List Scope) :
    lookups scopes tokens = [] ∧ tokens.foldl scopesAfter scopes = scopes := by
  induction tokens with
  | nil => exact ⟨rfl, rfl⟩
  | cons t rest ih =>
    obtain ⟨⟨op, rfl⟩, hrest⟩ := List.forall_mem_cons.1 h
    exact ih hrest

theorem isPlain_importLines (imports : List Import) : IsPlain (importLines imports) := by
  intro t ht
  rw [importLines] at ht
  split at ht
  · cases ht
  · rcases List.mem_append.1 ht with ht | ht
    · exact ⟨_, List.mem_singleton.1 ht⟩
    · obtain ⟨i, hi, ht⟩ := List.mem_flatMap.1 ht
      exact ⟨_, List.mem_singleton.1 ht⟩

namespace FileDecl

/-- Import lines hold no references, so that the tokens of a file have the same references with any
of them. -/
theorem lookups_tokens (file : FileDecl) (imports : List Import) :
    KotlinSource.lookups [] (file.tokens imports) = KotlinSource.lookups [] (file.tokens []) := by
  have hwith := fun scopes => (isPlain_importLines imports).lookups_eq_nil scopes
  have hwithout := fun scopes => (isPlain_importLines []).lookups_eq_nil scopes
  simp only [tokens, List.append_assoc, lookups_append, (hwith _).1, (hwith _).2, (hwithout _).1,
    (hwithout _).2]

end FileDecl

/-! ### What is behind a walk -/

/-- What stands behind a spelling is written behind its text. -/
theorem Spelling.write_followedBy (s : Spelling) (suffix : String) (table : Option ImportTable) :
    (s.followedBy suffix).write table = s.write table ++ suffix := by
  cases s with
  | settled text => rfl
  | tabled r behind => exact (String.append_assoc ..).symm

namespace Walk

variable (context : NamingContext) (table : Option ImportTable) (w : Walk)

/-- A walk that has come to a spelling: without a table it has noted what the table would be asked
for. -/
def noting (s : Spelling) : Walk :=
  { w with
    classes := w.classes ++ if table.isNone then s.class?.toList else []
    members := w.members ++ if table.isNone then s.member?.toList else [] }

@[simp] theorem noting_settled (text : String) : w.noting table (.settled text) = w := by
  cases table <;> simp [noting, Spelling.class?, Spelling.member?]

@[simp] theorem noting_some (t : ImportTable) (s : Spelling) : w.noting (some t) s = w := by
  simp [noting]

@[simp] theorem noting_followedBy (s : Spelling) (suffix : String) :
    w.noting table (s.followedBy suffix) = w.noting table s := by
  cases s with
  | settled text => simp [Spelling.followedBy]
  | tabled r behind => cases r <;> rfl

theorem lookupClass_eq (c : ClassName) : w.lookupClass context table c =
    ((context.classSpelling w.scopes c).write table,
      w.noting table (context.classSpelling w.scopes c)) := by
  rw [lookupClass, NamingContext.classSpelling]
  cases context.aliased? c with
  | some text => simp [Spelling.write]
  | none =>
    cases context.isOwn c with
    | true => simp [Spelling.write]
    | false =>
      cases table with
      | none =>
        simp [askClass, noting, Spelling.class?, Spelling.member?, Spelling.write,
          Reference.detached]
      | some t =>
        cases hshort : t.classIsShort c <;>
          simp [askClass, Spelling.write, ImportTable.write, hshort]

theorem lookupBuiltin_eq (b : Builtin) : w.lookupBuiltin context table b =
    ((context.builtinSpelling b).write table, w.noting table (context.builtinSpelling b)) := by
  rw [lookupBuiltin, NamingContext.builtinSpelling]
  cases context.aliased? b.className with
  | some text => simp [Spelling.write]
  | none =>
    cases table with
    | none =>
      have htop : b.className.topLevel = b.className := by cases b <;> rfl
      simp [askClass, noting, Spelling.class?, Spelling.member?, Spelling.write,
        Reference.detached, htop]
    | some t =>
      cases hshort : t.classIsShort b.className <;>
        simp [askClass, Spelling.write, ImportTable.write, hshort]

theorem lookupMember_eq (m : MemberName) : w.lookupMember context table m =
    ((context.memberSpelling w.scopes m).write table,
      w.noting table (context.memberSpelling w.scopes m)) := by
  rw [lookupMember, NamingContext.memberSpelling]
  cases context.alias? m.canonicalName with
  | some name => simp [Spelling.write]
  | none =>
    cases m.enclosing? with
    | some c => simp [lookupClass_eq, Spelling.write_followedBy, String.append_assoc]
    | none =>
      cases NamingContext.hides w.scopes m with
      | true => simp [Spelling.write]
      | false =>
        cases table with
        | none =>
          simp [askMember, noting, Spelling.class?, Spelling.member?, Spelling.write,
            Reference.detached]
        | some t =>
          cases hshort : t.memberIsShort m <;>
            simp [askMember, Spelling.write, ImportTable.write, hshort]

/-- The text of a reference is that of its spelling, and the spelling says what is noted. -/
theorem lookup_eq (r : Reference) : w.lookup context table r =
    ((context.spelling w.scopes r).write table,
      w.noting table (context.spelling w.scopes r)) := by
  cases r with
  | declared c => exact w.lookupClass_eq context table c
  | builtin b => exact w.lookupBuiltin_eq context table b
  | member m => exact w.lookupMember_eq context table m

/-- What is behind a walk, from the place and the state from which it begins. -/
theorem run_eq (tokens : Tokens) : w.run context table tokens =
    { scopes := tokens.foldl scopesAfter w.scopes
      lookups := w.lookups ++ (KotlinSource.lookups w.scopes tokens).map fun found =>
        ⟨found.1, found.2, (context.spelling found.1 found.2).write table⟩
      classes := w.classes ++ if table.isNone then
        (KotlinSource.lookups w.scopes tokens).filterMap fun found =>
          (context.spelling found.1 found.2).class? else []
      members := w.members ++ if table.isNone then
        (KotlinSource.lookups w.scopes tokens).filterMap fun found =>
          (context.spelling found.1 found.2).member? else []
      operations := w.operations ++ (locate w.scopes tokens).map (context.writeLocated table) } := by
  induction tokens generalizing w with
  | nil => simp [run, locate]
  | cons t rest ih =>
    rw [run, List.foldl_cons, ← run, ih]
    cases t with
    | layout op => simp [step, scopesAfter, locate, locateToken, NamingContext.writeLocated]
    | enter type nested functions => simp [step, scopesAfter, locate, locateToken]
    | leave => simp [step, scopesAfter, locate, locateToken]
    | reference r =>
      have hwritten : context.writeLocated table (.reference w.scopes r) =
          .text ((context.spelling w.scopes r).write table) := rfl
      simp only [step, lookup_eq, noting, scopesAfter, List.foldl_cons, lookups_reference, locate,
        locateToken, List.map_cons, List.filterMap_cons, List.append_assoc,
        List.singleton_append, hwritten]
      cases table <;> cases (context.spelling w.scopes r).class? <;>
        cases (context.spelling w.scopes r).member? <;> simp

end Walk

namespace FileDecl

variable (file : FileDecl)

/-- Both walks over a file look the same references up, in the same bodies and in the same order. -/
theorem lookups_collecting_eq :
    file.collecting.lookups.map (fun l => (l.scopes, l.reference)) =
      file.rendering.lookups.map fun l => (l.scopes, l.reference) := by
  have hlookups : ∀ (table : Option ImportTable) (imports : List Import),
      (Walk.start.run file.context table (file.tokens imports)).lookups.map
        (fun l => (l.scopes, l.reference)) = KotlinSource.lookups [] (file.tokens []) := by
    intro table imports
    rw [Walk.run_eq, ← file.lookups_tokens imports]
    exact (List.map_map ..).trans (List.map_id _)
  rw [collecting, rendering, hlookups, hlookups]

/-- What the first walk notes is what the file mentions. -/
theorem spellings_eq (file : FileDecl) : file.spellings =
    (KotlinSource.lookups [] (file.tokens [])).map fun found =>
      file.context.spelling found.1 found.2 := by
  rw [spellings, NamingContext.spellings, KotlinSource.lookups, List.map_filterMap]
  congr 1
  funext located
  cases located <;> rfl

theorem classes_collecting : file.collecting.classes = file.references.classes := by
  simp only [collecting, Walk.run_eq, Walk.start, references, spellings_eq, List.filterMap_map,
    List.nil_append]
  rfl

theorem members_collecting : file.collecting.members = file.references.members := by
  simp only [collecting, Walk.run_eq, Walk.start, references, spellings_eq, List.filterMap_map,
    List.nil_append]
  rfl

/-- What the second walk writes are the operations of the file. -/
theorem operations_rendering : file.rendering.operations = file.operations := by
  rw [rendering, Walk.run_eq]
  rfl

end FileDecl

end KotlinSource
