import KotlinSource.Proofs.Printing.Outline
import Mathlib.Data.List.Chain

/-!
# The body of a type, part by part

The groups of members of a type are made of the members themselves and of dividers between them:
commas, the end of the enum constants, the braces of the companion object and blank lines.  Taken
apart like this, the body says which part stands in front of which.  Enum constants and nested types
without a name are the only parts that do not end their line, and none of them stands in front of a
member.

## Main definitions

* `Member`, `Divider`, `BodyPart`: members, what stands between them, and either of these.
* `Member.preamble`: the documentation and the annotations of a member.
* `TypeDecl.bodyParts`: the body of a type, part by part.
* `LinedUp`: the parts in front of members end their line.
* `TypeDecl.companionCode`, `TypeDecl.initCode`: the code of the initializers.
* `TypeDecl.HasMember`: the members that a type writes in its body.

## Main results

* `TypeDecl.partsTokens_bodyParts`: the body is printed part by part.
* `TypeDecl.linedUp_bodyParts`, `TypeDecl.leavesLineOpen_getLast?_bodyParts`: what stands in front
  of members and at the end of a body.
* `TypeDecl.member_mem_bodyParts`: the body of a type holds exactly its members.
-/

namespace KotlinSource

/-! ### Members and the parts of a body -/

/-- A member of a type that is written in its body. -/
inductive Member where
  | constant (name : String) (body : TypeDecl Tokens)
  | property (p : PropertyDecl Tokens)
  | initializer (code : Tokens)
  /-- A function or constructor, inside an interface or not. -/
  | function (inInterface : Bool) (f : FunctionDecl Tokens)
  | type (t : TypeDecl Tokens)

namespace Member

/-- The tokens of a member. -/
def tokens : Member → Tokens
  | constant name body => TypeDecl.constantTokens name body body.memberGroups
  | property p => p.tokens
  | initializer code => KotlinSource.initializer code
  | function inInterface f => f.tokens inInterface
  | type t => t.tokens

/-- The documentation and the annotations of a member, each on lines of its own. -/
def preamble : Member → Tokens
  | constant _ body => documentation body.doc ++ annotationLines body.annotations
  | property p => documentation p.doc ++ annotationLines p.annotations
  | initializer _ => []
  | function _ f => documentation f.doc ++ annotationLines f.annotations
  | type t => operation .suspend ++
      if t.isAnonymous then []
      else documentation t.documentationTokens ++ annotationLines t.annotations

/-- Whether a member leaves the end of its line to what stands behind it. -/
def leavesLineOpen : Member → Bool
  | constant _ _ => true
  | type t => t.isAnonymous
  | _ => false

end Member

/-- What stands between the members of a type. -/
inductive Divider where
  /-- Between two enum constants. -/
  | comma
  /-- Behind the last enum constant, with a semicolon unless it is the last member. -/
  | constantsEnd (isLast : Bool)
  | companionStart
  | companionEnd
  /-- Between two groups of members. -/
  | blankLine

/-- The tokens of a divider. -/
def Divider.tokens : Divider → Tokens
  | comma => word ",\n"
  | constantsEnd isLast => word (if isLast then "\n" else ";\n")
  | companionStart => word "companion object" ++ word " \x7b\n" ++ operation (.indent 1)
  | companionEnd => operation (.unindent 1) ++ word "\x7d" ++ word "\n"
  | blankLine => operation .blankLine

/-- A part of the body of a type. -/
inductive BodyPart where
  | member (m : Member)
  | divider (divider : Divider)

namespace BodyPart

/-- The tokens of a part. -/
def tokens : BodyPart → Tokens
  | member m => m.tokens
  | divider d => d.tokens

/-- Whether a part leaves the end of its line to what stands behind it. -/
def leavesLineOpen : BodyPart → Bool
  | member m => m.leavesLineOpen
  | divider _ => false

/-- Whether a part is a member. -/
def isMember : BodyPart → Bool
  | member _ => true
  | divider _ => false

end BodyPart

/-- The tokens of parts. -/
def partsTokens (parts : List BodyPart) : Tokens := parts.flatMap BodyPart.tokens

@[simp] theorem partsTokens_nil : partsTokens [] = [] := rfl

@[simp] theorem partsTokens_cons (part : BodyPart) (rest : List BodyPart) :
    partsTokens (part :: rest) = part.tokens ++ partsTokens rest := List.flatMap_cons

theorem partsTokens_append (front back : List BodyPart) :
    partsTokens (front ++ back) = partsTokens front ++ partsTokens back := List.flatMap_append

/-- Groups of parts with a divider between neighbours. -/
def divided (divider : Divider) (groups : List (List BodyPart)) : List BodyPart :=
  List.intercalate [.divider divider] groups

theorem partsTokens_divided (divider : Divider) (groups : List (List BodyPart)) :
    partsTokens (divided divider groups) = listed divider.tokens (groups.map partsTokens) := by
  induction groups with
  | nil => rfl
  | cons g rest ih =>
    cases rest with
    | nil => simp [divided, List.intercalate]
    | cons g' rest =>
      rw [List.map_cons, List.map_cons, listed_cons_cons, ← List.map_cons, ← ih]
      simp [divided, List.intercalate, partsTokens, BodyPart.tokens]

namespace TypeDecl

variable (d : TypeDecl Tokens)

/-! ### The body of a type, part by part -/

/-- The enum constants. -/
def constantParts : List (List BodyPart) :=
  if d.constants.isEmpty then []
  else [divided .comma (d.constants.map fun c => [.member (.constant c.1 c.2)]) ++
    [.divider (.constantsEnd d.laterGroups.isEmpty)]]

/-- Properties on lines of their own. -/
def propertyParts (properties : List (PropertyDecl Tokens)) : List (List BodyPart) :=
  if properties.isEmpty then [] else [properties.map fun p => .member (.property p)]

/-- Initializing code. -/
def initializerParts (code : Tokens) : List (List BodyPart) :=
  if code.isEmpty then [] else [[.member (.initializer code)]]

/-- The companion object. -/
def companionParts : List (List BodyPart) :=
  if !d.hasCompanion || d.staticProperties.isEmpty && d.staticBlock.isEmpty then []
  else [.divider .companionStart :: (divided .blankLine
    (propertyParts d.staticProperties ++ initializerParts d.staticBlock) ++
      [.divider .companionEnd])]

/-- The constructors and functions. -/
def functionParts : List (List BodyPart) :=
  (d.memberFunctions.filter FunctionDecl.isConstructor ++
      d.memberFunctions.filter fun f => !f.isConstructor).map
    fun f => [.member (.function (d.kind == .interface) f)]

/-- The groups of members, part by part. -/
def partGroups : List (List BodyPart) :=
  d.constantParts ++ d.companionParts ++ propertyParts d.ownProperties ++
    initializerParts d.initializingCode ++ d.functionParts ++
    d.types.map fun t => [.member (.type t)]

/-- The body of a type, part by part. -/
def bodyParts : List BodyPart := divided .blankLine d.partGroups

@[simp] theorem map_partsTokens_singletons {α : Type} (f : α → Member) (l : List α) :
    (l.map fun a => [BodyPart.member (f a)]).map partsTokens = l.map fun a => (f a).tokens := by
  simp [partsTokens, BodyPart.tokens]

theorem map_partsTokens_propertyParts (properties : List (PropertyDecl Tokens)) :
    (propertyParts properties).map partsTokens =
      if properties.isEmpty then [] else [properties.flatMap PropertyDecl.tokens] := by
  rw [propertyParts]
  split_ifs
  · rfl
  · simp [partsTokens, BodyPart.tokens, Member.tokens, List.flatMap_map]

theorem map_partsTokens_initializerParts (code : Tokens) :
    (initializerParts code).map partsTokens =
      if code.isEmpty then [] else [initializer code] := by
  rw [initializerParts]
  split_ifs
  · rfl
  · simp [partsTokens, BodyPart.tokens, Member.tokens]

theorem map_partsTokens_constantParts :
    d.constantParts.map partsTokens =
      constantGroup (d.constants.map fun c => constantTokens c.1 c.2 c.2.memberGroups)
        d.laterGroups := by
  rw [constantParts, constantGroup, List.isEmpty_map]
  by_cases hempty : d.constants.isEmpty = true
  · rw [if_pos hempty, if_pos hempty, List.map_nil]
  · rw [if_neg hempty, if_neg hempty, List.map_singleton, partsTokens_append, partsTokens_divided,
      map_partsTokens_singletons]
    simp only [partsTokens_cons, partsTokens_nil, List.append_nil]
    rfl

theorem map_partsTokens_companionParts : d.companionParts.map partsTokens = d.companionGroup := by
  rw [companionParts, companionGroup]
  by_cases hempty : (!d.hasCompanion || d.staticProperties.isEmpty && d.staticBlock.isEmpty) = true
  · rw [if_pos hempty, if_pos hempty, List.map_nil]
  · rw [if_neg hempty, if_neg hempty, List.map_singleton, partsTokens_cons, partsTokens_append,
      partsTokens_divided, List.map_append, map_partsTokens_propertyParts,
      map_partsTokens_initializerParts]
    cases d.staticProperties <;> cases d.staticBlock <;>
      simp [BodyPart.tokens, Divider.tokens, block]

/-- The parts of a body are printed as its groups of members. -/
theorem map_partsTokens_partGroups : d.partGroups.map partsTokens = d.memberGroups := by
  have hfunctions : d.functionParts.map partsTokens = d.functionGroups :=
    map_partsTokens_singletons _ _
  have htypes : (d.types.map fun t => [BodyPart.member (.type t)]).map partsTokens =
      d.types.map tokens := map_partsTokens_singletons _ _
  rw [memberGroups_eq, laterGroups]
  simp only [partGroups, List.map_append, map_partsTokens_constantParts,
    map_partsTokens_companionParts, map_partsTokens_propertyParts, map_partsTokens_initializerParts,
    hfunctions, htypes, laterGroups, propertyGroup, initializerGroup, List.append_assoc]
  rfl

theorem partsTokens_bodyParts : partsTokens d.bodyParts = groupsTokens d.memberGroups := by
  rw [bodyParts, partsTokens_divided, map_partsTokens_partGroups]
  rfl

end TypeDecl

/-! ### Parts and lines -/

/-- The parts in front of members do not leave their lines open. -/
def LinedUp (parts : List BodyPart) : Prop :=
  parts.IsChain fun a b => b.isMember = true → a.leavesLineOpen = false

theorem linedUp_of_forall {parts : List BodyPart} (h : ∀ a ∈ parts, a.leavesLineOpen = false) :
    LinedUp parts := by
  have hpairs : parts.Pairwise fun a b => b.isMember = true → a.leavesLineOpen = false :=
    List.pairwise_of_forall_mem_list fun a ha _ _ _ => h a ha
  exact hpairs.isChain

theorem divided_cons_cons (divider : Divider) (g g' : List BodyPart) (rest : List (List BodyPart)) :
    divided divider (g :: g' :: rest) = g ++ .divider divider :: divided divider (g' :: rest) := by
  simp [divided, List.intercalate]

@[simp] theorem divided_singleton (divider : Divider) (g : List BodyPart) :
    divided divider [g] = g := by
  simp [divided, List.intercalate]

/-- A divider may stand behind any part, and any part behind a divider. -/
theorem LinedUp.append_divider {front back : List BodyPart} (hfront : LinedUp front)
    (divider : Divider) (hback : LinedUp back) : LinedUp (front ++ .divider divider :: back) := by
  refine List.isChain_append.2 ⟨hfront, List.isChain_cons.2 ⟨fun _ _ _ => rfl, hback⟩, ?_⟩
  intro a _ b hb hmember
  obtain rfl : .divider divider = b := by simpa using hb
  cases hmember

theorem linedUp_divided (divider : Divider) {groups : List (List BodyPart)}
    (h : ∀ g ∈ groups, LinedUp g) : LinedUp (divided divider groups) := by
  induction groups with
  | nil => exact .nil
  | cons g rest ih =>
    obtain ⟨hg, hrest⟩ := List.forall_mem_cons.1 h
    cases rest with
    | nil => rwa [divided_singleton]
    | cons g' rest =>
      rw [divided_cons_cons]
      exact hg.append_divider divider (ih hrest)

/-- What stands in front of a member does not leave its line open. -/
theorem LinedUp.leavesLineOpen_getLast? {front back : List BodyPart} {m : Member}
    (h : LinedUp (front ++ .member m :: back)) :
    ∀ last ∈ front.getLast?, last.leavesLineOpen = false := fun last hlast =>
  (List.isChain_append.1 h).2.2 last hlast (.member m) rfl rfl

/-- The last part of several groups is that of the last group. -/
theorem leavesLineOpen_getLast?_divided (divider : Divider) {groups : List (List BodyPart)}
    (h : ∀ g ∈ groups.getLast?, ∀ last ∈ g.getLast?, last.leavesLineOpen = false) :
    ∀ last ∈ (divided divider groups).getLast?, last.leavesLineOpen = false := by
  induction groups with
  | nil => simp [divided, List.intercalate]
  | cons g rest ih =>
    cases rest with
    | nil =>
      rw [divided_singleton]
      exact h g rfl
    | cons g' rest =>
      intro last hlast
      rw [divided_cons_cons, List.getLast?_append, List.getLast?_cons] at hlast
      cases hbehind : (divided divider (g' :: rest)).getLast? with
      | none =>
        obtain rfl : .divider divider = last := by simpa [hbehind] using hlast
        rfl
      | some other =>
        obtain rfl : other = last := by simpa [hbehind] using hlast
        exact ih (by simpa [List.getLast?_cons_cons] using h) other hbehind

namespace TypeDecl

variable (d : TypeDecl Tokens)

theorem leavesLineOpen_propertyParts {properties : List (PropertyDecl Tokens)} :
    ∀ g ∈ propertyParts properties, ∀ part ∈ g, part.leavesLineOpen = false := by
  rw [propertyParts]
  split_ifs <;> simp [BodyPart.leavesLineOpen, Member.leavesLineOpen]

theorem leavesLineOpen_initializerParts {code : Tokens} :
    ∀ g ∈ initializerParts code, ∀ part ∈ g, part.leavesLineOpen = false := by
  rw [initializerParts]
  split_ifs <;> simp [BodyPart.leavesLineOpen, Member.leavesLineOpen]

theorem leavesLineOpen_functionParts :
    ∀ g ∈ d.functionParts, ∀ part ∈ g, part.leavesLineOpen = false := by
  intro g hg part hpart
  obtain ⟨f, -, rfl⟩ := List.mem_map.1 hg
  rw [List.mem_singleton.1 hpart]
  rfl

/-- Enum constants and the companion object have a divider behind them. -/
theorem exists_of_mem_constantParts {g : List BodyPart} (hg : g ∈ d.constantParts) :
    ∃ front divider, g = front ++ [.divider divider] ∧ LinedUp front := by
  rw [constantParts] at hg
  split_ifs at hg
  · simp at hg
  · refine ⟨_, _, List.mem_singleton.1 hg, linedUp_divided _ ?_⟩
    rw [List.forall_mem_map]
    exact fun _ _ => List.isChain_singleton _

theorem exists_of_mem_companionParts {g : List BodyPart} (hg : g ∈ d.companionParts) :
    ∃ front divider, g = front ++ [.divider divider] ∧ LinedUp front := by
  rw [companionParts] at hg
  split_ifs at hg
  · simp at hg
  · refine ⟨.divider .companionStart :: divided .blankLine (propertyParts d.staticProperties ++
      initializerParts d.staticBlock), .companionEnd, List.mem_singleton.1 hg, ?_⟩
    have hnothing : LinedUp [] := .nil
    refine hnothing.append_divider .companionStart (linedUp_divided .blankLine ?_)
    exact List.forall_mem_append.2
      ⟨fun g hg => linedUp_of_forall (leavesLineOpen_propertyParts g hg),
        fun g hg => linedUp_of_forall (leavesLineOpen_initializerParts g hg)⟩

/-- In every group the members stand behind parts that do not leave their line open. -/
theorem linedUp_partGroups : ∀ g ∈ d.partGroups, LinedUp g := by
  simp only [partGroups, List.forall_mem_append]
  refine ⟨⟨⟨⟨⟨fun g hg => ?_, fun g hg => ?_⟩, fun g hg => ?_⟩, fun g hg => ?_⟩, fun g hg => ?_⟩,
    ?_⟩
  · obtain ⟨front, divider, rfl, hfront⟩ := d.exists_of_mem_constantParts hg
    exact hfront.append_divider divider .nil
  · obtain ⟨front, divider, rfl, hfront⟩ := d.exists_of_mem_companionParts hg
    exact hfront.append_divider divider .nil
  · exact linedUp_of_forall (leavesLineOpen_propertyParts g hg)
  · exact linedUp_of_forall (leavesLineOpen_initializerParts g hg)
  · exact linedUp_of_forall (d.leavesLineOpen_functionParts g hg)
  · rw [List.forall_mem_map]
    exact fun _ _ => List.isChain_singleton _

theorem linedUp_bodyParts : LinedUp d.bodyParts := linedUp_divided .blankLine d.linedUp_partGroups

/-- Only a nested type without a name leaves the last line of a body open. -/
theorem leavesLineOpen_getLast?_bodyParts (h : ∀ t ∈ d.types.getLast?, t.isAnonymous = false) :
    ∀ last ∈ d.bodyParts.getLast?, last.leavesLineOpen = false := by
  refine leavesLineOpen_getLast?_divided .blankLine fun g hg => ?_
  rw [partGroups, List.getLast?_append] at hg
  cases htypes : (d.types.map fun t => [BodyPart.member (.type t)]).getLast? with
  | some last =>
    obtain rfl : last = g := by simpa [htypes] using hg
    rw [List.getLast?_map, Option.map_eq_some_iff] at htypes
    obtain ⟨t, ht, rfl⟩ := htypes
    intro last hlast
    obtain rfl : .member (.type t) = last := by simpa using hlast
    exact h t ht
  | none =>
    rw [htypes, Option.none_or] at hg
    have hmem := List.mem_of_getLast? hg
    simp only [List.mem_append] at hmem
    rcases hmem with (((hmem | hmem) | hmem) | hmem) | hmem
    · obtain ⟨front, divider, rfl, -⟩ := d.exists_of_mem_constantParts hmem
      simp [BodyPart.leavesLineOpen]
    · obtain ⟨front, divider, rfl, -⟩ := d.exists_of_mem_companionParts hmem
      simp [BodyPart.leavesLineOpen]
    · exact fun last hlast => leavesLineOpen_propertyParts g hmem last (List.mem_of_getLast? hlast)
    · exact fun last hlast =>
        leavesLineOpen_initializerParts g hmem last (List.mem_of_getLast? hlast)
    · exact fun last hlast =>
        d.leavesLineOpen_functionParts g hmem last (List.mem_of_getLast? hlast)

end TypeDecl

/-! ### The members of a type -/

namespace TypeDecl

/-- Whether what is static in the type is written in a companion object. -/
def separatesStatic (d : TypeDecl Code) : Bool := d.kind != .object && !d.isAnonymous

/-- The code of the initializer in the companion object. -/
def companionCode (d : TypeDecl Code) : Code := if d.separatesStatic then d.staticBlock else []

/-- The code of the initializer outside of the companion object. -/
def initCode (d : TypeDecl Code) : Code :=
  (if d.separatesStatic then [] else d.staticBlock) ++ d.primary.elim [] FunctionDecl.body ++
    d.initBlock

/-- The members that a type writes in its body.  Properties that the primary constructor declares
and the members of an annotation class stand in the header. -/
inductive HasMember (d : TypeDecl Code) : Member → Prop
  | constant {c : String × TypeDecl Code} (h : c ∈ d.constants) :
    HasMember d (.constant c.1 c.2.printed)
  | property {p : PropertyDecl Code} (h : p ∈ d.properties)
    (hline : p.isStatic = true ∨ p.name ∉ d.declaredProperties.map PropertyDecl.name) :
    HasMember d (.property p.printed)
  | companionCode (h : d.companionCode ≠ []) : HasMember d (.initializer d.companionCode.tokens)
  | initCode (h : d.initCode ≠ []) : HasMember d (.initializer d.initCode.tokens)
  | function {f : FunctionDecl Code} (h : f ∈ d.functions) (hkind : d.kind ≠ .annotationClass) :
    HasMember d (.function (d.kind == .interface) f.printed)
  | type {t : TypeDecl Code} (h : t ∈ d.types) : HasMember d (.type t.printed)

end TypeDecl

theorem member_mem_divided {m : Member} {divider : Divider} {groups : List (List BodyPart)} :
    .member m ∈ divided divider groups ↔ .member m ∈ groups.flatten := by
  induction groups with
  | nil => rfl
  | cons g rest ih =>
    cases rest with
    | nil => simp
    | cons g' rest => simp [divided_cons_cons, ih]

namespace TypeDecl

section Parts

variable {d : TypeDecl Tokens} {m : Member}

theorem member_mem_constantParts :
    .member m ∈ d.constantParts.flatten ↔ ∃ c ∈ d.constants, m = .constant c.1 c.2 := by
  rw [constantParts]
  split_ifs with hempty
  · simp [List.isEmpty_iff.1 hempty]
  · simp [member_mem_divided]

theorem member_mem_propertyParts {properties : List (PropertyDecl Tokens)} :
    .member m ∈ (propertyParts properties).flatten ↔ ∃ p ∈ properties, m = .property p := by
  rw [propertyParts]
  split_ifs with hempty
  · simp [List.isEmpty_iff.1 hempty]
  · simp [eq_comm]

theorem member_mem_initializerParts {code : Tokens} :
    .member m ∈ (initializerParts code).flatten ↔ code ≠ [] ∧ m = .initializer code := by
  rw [initializerParts]
  split_ifs with hempty
  · simp [List.isEmpty_iff.1 hempty]
  · simp [List.isEmpty_iff.not.1 hempty]

theorem member_mem_companionParts :
    .member m ∈ d.companionParts.flatten ↔ d.hasCompanion = true ∧
      ((∃ p ∈ d.staticProperties, m = .property p) ∨
        d.staticBlock ≠ [] ∧ m = .initializer d.staticBlock) := by
  rw [← member_mem_propertyParts, ← member_mem_initializerParts, ← List.mem_append,
    ← List.flatten_append, companionParts]
  split_ifs with hempty
  · simp only [Bool.or_eq_true, Bool.not_eq_true', Bool.and_eq_true] at hempty
    rcases hempty with hnone | ⟨hproperties, hcode⟩
    · simp [hnone]
    · simp [propertyParts, initializerParts, hproperties, hcode]
  · simp only [Bool.or_eq_true, Bool.not_eq_true', not_or, Bool.not_eq_false] at hempty
    rw [List.flatten_singleton, List.mem_cons, List.mem_append, member_mem_divided]
    simp [hempty.1]

theorem member_mem_functionParts :
    .member m ∈ d.functionParts.flatten ↔
      ∃ f ∈ d.memberFunctions, m = .function (d.kind == .interface) f := by
  have hsplit : ∀ f, f ∈ d.memberFunctions.filter FunctionDecl.isConstructor ++
      (d.memberFunctions.filter fun f => !f.isConstructor) ↔ f ∈ d.memberFunctions := fun f =>
    (List.filter_append_perm FunctionDecl.isConstructor d.memberFunctions).mem_iff
  simp only [functionParts, List.mem_flatten, List.mem_map, hsplit]
  simp

end Parts

theorem mem_ownProperties {d : TypeDecl Tokens} {p : PropertyDecl Tokens} :
    p ∈ d.ownProperties ↔
      d.hasCompanion = false ∧ p ∈ d.staticProperties ∨ p ∈ d.instanceProperties := by
  rw [ownProperties, List.mem_append]
  cases d.hasCompanion <;> simp

section Printed

variable {d : TypeDecl Code} {m : Member}

/-- Properties have lines unless the primary constructor declares one of their name. -/
theorem mem_lineProperties_printed {p : PropertyDecl Tokens} :
    p ∈ d.printed.staticProperties ∨ p ∈ d.printed.instanceProperties ↔
      ∃ property ∈ d.properties, (property.isStatic = true ∨
        property.name ∉ d.declaredProperties.map PropertyDecl.name) ∧ property.printed = p := by
  rw [staticProperties_printed, instanceProperties_printed_eq_filter, List.mem_map, List.mem_map,
    ← exists_or]
  refine exists_congr fun property => ?_
  cases hstatic : property.isStatic <;> simp [hstatic, and_assoc]

theorem hasCompanion_printed_eq : d.printed.hasCompanion = d.separatesStatic := by
  rw [hasCompanion, kind_printed, isAnonymous_printed]
  rfl

theorem companionCode_of_separatesStatic (h : d.separatesStatic = true) :
    d.companionCode = d.staticBlock := if_pos h

theorem initializingCode_printed_eq : d.printed.initializingCode = d.initCode.tokens := by
  rw [initializingCode, hasCompanion_printed_eq, staticBlock_printed, initBlock_printed,
    primary_printed, initCode]
  simp only [Code.tokens, Code.expand_append]
  cases d.separatesStatic <;> cases d.primary <;> rfl

theorem hasMember_of_mem_bodyParts (h : .member m ∈ d.printed.bodyParts) : d.HasMember m := by
  rw [bodyParts, member_mem_divided, partGroups] at h
  simp only [List.flatten_append, List.mem_append, member_mem_constantParts,
    member_mem_companionParts, member_mem_propertyParts, member_mem_initializerParts,
    member_mem_functionParts] at h
  rcases h with
    ((((⟨c, hc, rfl⟩ | ⟨hcompanion, ⟨p, hp, rfl⟩ | ⟨hcode, rfl⟩⟩) | ⟨p, hp, rfl⟩) | ⟨hcode, rfl⟩) |
      ⟨f, hf, rfl⟩) | htype
  · rw [constants_printed] at hc
    obtain ⟨constant, hconstant, rfl⟩ := List.mem_map.1 hc
    exact .constant hconstant
  · obtain ⟨property, hproperty, hline, rfl⟩ := mem_lineProperties_printed.1 (.inl hp)
    exact .property hproperty hline
  · rw [hasCompanion_printed_eq] at hcompanion
    rw [staticBlock_printed, ← companionCode_of_separatesStatic hcompanion] at hcode ⊢
    exact .companionCode fun hnil => hcode (by rw [hnil]; rfl)
  · obtain ⟨property, hproperty, hline, rfl⟩ :=
      mem_lineProperties_printed.1 ((mem_ownProperties.1 hp).imp_left And.right)
    exact .property hproperty hline
  · rw [initializingCode_printed_eq] at hcode ⊢
    exact .initCode fun hnil => hcode (by rw [hnil]; rfl)
  · rw [memberFunctions, kind_printed] at hf
    split_ifs at hf with hkind
    · simp at hf
    · rw [functions_printed] at hf
      obtain ⟨function, hfunction, rfl⟩ := List.mem_map.1 hf
      rw [kind_printed]
      exact .function hfunction hkind
  · simp only [types_printed, List.map_map, List.mem_flatten, List.mem_map] at htype
    obtain ⟨_, ⟨t, ht, rfl⟩, hm⟩ := htype
    obtain rfl : m = .type t.printed := by simpa using hm
    exact .type ht

theorem HasMember.mem_bodyParts (h : d.HasMember m) : .member m ∈ d.printed.bodyParts := by
  have hcode : ∀ {code : Code}, code ≠ [] → code.tokens ≠ [] := fun {code} hcode => by
    rwa [Ne, ← List.isEmpty_iff, Code.isEmpty_tokens, List.isEmpty_iff]
  rw [bodyParts, member_mem_divided, partGroups]
  simp only [List.flatten_append, List.mem_append, member_mem_constantParts,
    member_mem_companionParts, member_mem_propertyParts, member_mem_initializerParts,
    member_mem_functionParts]
  cases h with
  | @constant c h =>
    refine .inl (.inl (.inl (.inl (.inl ⟨(c.1, c.2.printed), ?_, rfl⟩))))
    rw [constants_printed]
    exact List.mem_map_of_mem h
  | @property p h hline =>
    have hmem := mem_lineProperties_printed.2 ⟨p, h, hline, rfl⟩
    cases hcompanion : d.printed.hasCompanion with
    | true =>
      rcases hmem with hmem | hmem
      · exact .inl (.inl (.inl (.inl (.inr ⟨rfl, .inl ⟨_, hmem, rfl⟩⟩))))
      · exact .inl (.inl (.inl (.inr ⟨_, mem_ownProperties.2 (.inr hmem), rfl⟩)))
    | false =>
      refine .inl (.inl (.inl (.inr ⟨p.printed, mem_ownProperties.2 ?_, rfl⟩)))
      exact hmem.imp_left fun hmem => ⟨hcompanion, hmem⟩
  | companionCode h =>
    have hstatic : d.separatesStatic = true := by
      by_contra hnot
      exact h (if_neg hnot)
    rw [companionCode_of_separatesStatic hstatic] at h ⊢
    rw [staticBlock_printed, hasCompanion_printed_eq]
    exact .inl (.inl (.inl (.inl (.inr ⟨hstatic, .inr ⟨hcode h, rfl⟩⟩))))
  | initCode h =>
    rw [initializingCode_printed_eq]
    exact .inl (.inl (.inr ⟨hcode h, rfl⟩))
  | @function f h hkind =>
    refine .inl (.inr ⟨f.printed, ?_, by rw [kind_printed]⟩)
    rw [memberFunctions, kind_printed, if_neg hkind, functions_printed]
    exact List.mem_map_of_mem h
  | type h =>
    refine .inr (List.mem_flatten.2 ⟨_, List.mem_map_of_mem ?_, List.mem_singleton_self _⟩)
    rw [types_printed]
    exact List.mem_map_of_mem h

/-- The body of a type holds exactly its members. -/
theorem member_mem_bodyParts : .member m ∈ d.printed.bodyParts ↔ d.HasMember m :=
  ⟨hasMember_of_mem_bodyParts, HasMember.mem_bodyParts⟩

end Printed

end TypeDecl

end KotlinSource
