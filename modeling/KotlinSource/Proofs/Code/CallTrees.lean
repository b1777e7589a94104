import KotlinSource.Code.Flow
import KotlinSource.Proofs.Template.Acceptance
import Mathlib.Data.Nat.Init

/-!
# Calls that open and close blocks

Code is made by calls: statements, and calls that open a block, go on with the next one or close it.
Calls that open and close their blocks in pairs describe a tree of statements and constructs, each
construct with one block or several chained ones.  The printer of the tree has no level and counts
the blocks around a line; the calls have no tree and move the level up and down.  Both give the same
lines.

Headers and statements are plain here: templates that stand for their own characters and hold
neither line breaks nor braces.

## Main definitions

* `FlowCall`, `FlowCall.code`, `flowCode`: calls that write statements and blocks, and their code.
* `WellNested`: calls that close exactly the blocks that they open.
* `Flow`, `Branches`: the tree that calls describe; `Flow.lines` is its printer.
* `FlowCall.instructions`, `linesFrom`: the code and the lines of plain calls.

## Main results

* `Flow.exists_calls_eq`, `Flow.eq_of_calls_eq`: well-nested calls describe exactly one tree.
* `flowCode_eq_ok`: plain calls go through.
* `Flow.linesFrom_calls`: the lines of the calls of a tree are those of its printer.
-/

namespace KotlinSource

/-! ### Calls -/

/-- A call that adds to a piece of code. -/
inductive FlowCall where
  /-- A statement. -/
  | statement (text : String)
  /-- A block with a header opens. -/
  | openBlock (header : String)
  /-- A block closes, and the next one of the same construct opens. -/
  | nextBlock (header : String)
  /-- A block closes. -/
  | closeBlock
  deriving DecidableEq, Repr

/-- Text that stands for its own characters in a template, in one line and without braces. -/
def IsPlainText (s : String) : Prop := s ≠ "" ∧ ∀ c ∈ s.toList, c ∉ ['\n', '\x7b', '\x7d', '%']

instance (s : String) : Decidable (IsPlainText s) := inferInstanceAs (Decidable (_ ∧ _))

namespace FlowCall

/-- The code that a call adds. -/
def code : FlowCall → Except TemplateError Code
  | .statement text => Code.statement text []
  | .openBlock header => Code.beginFlow header []
  | .nextBlock header => Code.nextFlow header []
  | .closeBlock => .ok Code.endFlow

/-- Calls whose statements and headers are plain. -/
def IsPlain : FlowCall → Prop
  | .statement text => IsPlainText text
  | .openBlock header => IsPlainText header
  | .nextBlock header => IsPlainText header
  | .closeBlock => True

instance : DecidablePred IsPlain
  | .statement text => inferInstanceAs (Decidable (IsPlainText text))
  | .openBlock header => inferInstanceAs (Decidable (IsPlainText header))
  | .nextBlock header => inferInstanceAs (Decidable (IsPlainText header))
  | .closeBlock => inferInstanceAs (Decidable True)

/-- The number of open blocks behind a call, if there is a block for the call to close. -/
def openAfter? (n : Nat) : FlowCall → Option Nat
  | .statement _ => some n
  | .openBlock _ => some (n + 1)
  | .nextBlock _ => if n = 0 then none else some n
  | .closeBlock => if n = 0 then none else some (n - 1)

end FlowCall

/-- The code of a list of calls.  The first fault wins. -/
def flowCode (calls : List FlowCall) : Except TemplateError Code := do
  let codes ← calls.mapM FlowCall.code
  return codes.flatten

/-- Calls that close exactly the blocks that they open. -/
def WellNested (calls : List FlowCall) : Prop := calls.foldlM FlowCall.openAfter? 0 = some 0

instance (calls : List FlowCall) : Decidable (WellNested calls) :=
  inferInstanceAs (Decidable (_ = _))

/-! ### Trees -/

mutual

/-- Statements and constructs, one behind the other. -/
inductive Flow where
  | done
  | statement (text : String) (rest : Flow)
  /-- A construct with its first block, its further blocks, and what stands behind it. -/
  | construct (header : String) (body : Flow) (more : Branches) (rest : Flow)

/-- The blocks of a construct behind the first one. -/
inductive Branches where
  | none
  | next (header : String) (body : Flow) (more : Branches)

end

mutual

/-- The calls that write a tree. -/
def Flow.calls : Flow → List FlowCall
  | .done => []
  | .statement text rest => .statement text :: rest.calls
  | .construct header body more rest =>
    .openBlock header :: (body.calls ++ more.calls ++ rest.calls)

/-- The calls that write further blocks and close the last one. -/
def Branches.calls : Branches → List FlowCall
  | .none => [.closeBlock]
  | .next header body more => .nextBlock header :: (body.calls ++ more.calls)

end

mutual

/-- The lines of a tree, each with the number of blocks around it. -/
def Flow.lines (depth : Nat) : Flow → List (Nat × String)
  | .done => []
  | .statement text rest => (depth, text) :: rest.lines depth
  | .construct header body more rest =>
    (depth, header ++ " \x7b") :: (body.lines (depth + 1) ++ more.lines depth ++ rest.lines depth)

/-- The lines of further blocks, up to the brace that closes the last one. -/
def Branches.lines (depth : Nat) : Branches → List (Nat × String)
  | .none => [(depth, "\x7d")]
  | .next header body more =>
    (depth, "\x7d " ++ header ++ " \x7b") :: (body.lines (depth + 1) ++ more.lines depth)

end

/-! ### Calls describe a tree -/

/-- Calls behind the body of a block: they do not go on with the body. -/
def EndsBody : List FlowCall → Prop
  | .statement _ :: _ => False
  | .openBlock _ :: _ => False
  | _ => True

theorem Branches.endsBody_calls_append (more : Branches) (rest : List FlowCall) :
    EndsBody (more.calls ++ rest) := by
  cases more <;> exact trivial

mutual

/-- The calls of a tree tell where it ends and what it is. -/
theorem Flow.eq_of_calls_append_eq {flow flow' : Flow} {rest rest' : List FlowCall}
    (hrest : EndsBody rest) (hrest' : EndsBody rest')
    (h : flow.calls ++ rest = flow'.calls ++ rest') : flow = flow' ∧ rest = rest' := by
  match flow, flow' with
  | .done, .done => exact ⟨rfl, h⟩
  | .done, .statement _ _ =>
    obtain rfl : rest = _ := h
    exact hrest.elim
  | .done, .construct _ _ _ _ =>
    obtain rfl : rest = _ := h
    exact hrest.elim
  | .statement _ _, .done =>
    obtain rfl : _ = rest' := h
    exact hrest'.elim
  | .construct _ _ _ _, .done =>
    obtain rfl : _ = rest' := h
    exact hrest'.elim
  | .statement _ _, .construct _ _ _ _ => cases (List.cons.inj h).1
  | .construct _ _ _ _, .statement _ _ => cases (List.cons.inj h).1
  | .statement text tail, .statement text' tail' =>
    obtain ⟨hcall, htail⟩ := List.cons.inj h
    obtain ⟨rfl, hends⟩ := Flow.eq_of_calls_append_eq hrest hrest' htail
    cases hcall
    exact ⟨rfl, hends⟩
  | .construct header body more tail, .construct header' body' more' tail' =>
    simp only [Flow.calls, List.cons_append, List.cons.injEq, FlowCall.openBlock.injEq,
      List.append_assoc] at h
    obtain ⟨rfl, hbehind⟩ := h
    obtain ⟨rfl, hmore⟩ := Flow.eq_of_calls_append_eq (more.endsBody_calls_append _)
      (more'.endsBody_calls_append _) hbehind
    obtain ⟨rfl, htail⟩ := Branches.eq_of_calls_append_eq hmore
    obtain ⟨rfl, hends⟩ := Flow.eq_of_calls_append_eq hrest hrest' htail
    exact ⟨rfl, hends⟩

theorem Branches.eq_of_calls_append_eq {more more' : Branches} {rest rest' : List FlowCall}
    (h : more.calls ++ rest = more'.calls ++ rest') : more = more' ∧ rest = rest' := by
  match more, more' with
  | .none, .none => exact ⟨rfl, (List.cons.inj h).2⟩
  | .none, .next _ _ _ => cases (List.cons.inj h).1
  | .next _ _ _, .none => cases (List.cons.inj h).1
  | .next header body more, .next header' body' more' =>
    simp only [Branches.calls, List.cons_append, List.cons.injEq, FlowCall.nextBlock.injEq,
      List.append_assoc] at h
    obtain ⟨rfl, hbehind⟩ := h
    obtain ⟨rfl, hmore⟩ := Flow.eq_of_calls_append_eq (more.endsBody_calls_append _)
      (more'.endsBody_calls_append _) hbehind
    obtain ⟨rfl, hends⟩ := Branches.eq_of_calls_append_eq hmore
    exact ⟨rfl, hends⟩

end

theorem Flow.eq_of_calls_eq {flow flow' : Flow} (h : flow.calls = flow'.calls) : flow = flow' :=
  (@Flow.eq_of_calls_append_eq flow flow' [] [] trivial trivial (congrArg (· ++ []) h)).1

/-- What calls describe that close `n` blocks more than they open: a tree, or a tree with the rest
of the innermost of these blocks and calls that close the others. -/
def Describes : Nat → List FlowCall → Prop
  | 0, calls => ∃ flow : Flow, flow.calls = calls
  | n + 1, calls => ∃ (flow : Flow) (more : Branches) (rest : List FlowCall),
      flow.calls ++ more.calls ++ rest = calls ∧ rest.foldlM FlowCall.openAfter? n = some 0

/-- A tree may stand in front. -/
theorem Describes.of_append {n : Nat} {front calls : List FlowCall} (h : Describes n calls)
    (hfront : ∀ flow : Flow, ∃ flow' : Flow, flow'.calls = front ++ flow.calls) :
    Describes n (front ++ calls) := by
  cases n with
  | zero =>
    obtain ⟨flow, rfl⟩ := h
    exact hfront flow
  | succ n =>
    obtain ⟨flow, more, rest, rfl, hrest⟩ := h
    obtain ⟨flow', hflow'⟩ := hfront flow
    exact ⟨flow', more, rest, by rw [hflow', List.append_assoc, List.append_assoc,
      List.append_assoc], hrest⟩

/-- Every list of calls that closes its blocks describes a tree, or the rest of one. -/
theorem describes_of_foldlM {n : Nat} {calls : List FlowCall}
    (h : calls.foldlM FlowCall.openAfter? n = some 0) : Describes n calls := by
  -- the calls behind a construct are fewer, though not the ones behind its first call
  induction hlength : calls.length using Nat.strong_induction_on generalizing n calls with
  | _ length ih =>
    subst hlength
    cases calls with
    | nil =>
      obtain rfl := Option.some.inj h
      exact ⟨.done, rfl⟩
    | cons call calls =>
      obtain ⟨m, hcall, hcalls⟩ := Option.bind_eq_some_iff.1 ((List.foldlM_cons ..).symm.trans h)
      have hbehind : Describes m calls := ih _ (Nat.lt_succ_self _) hcalls rfl
      cases call with
      | statement text =>
        obtain rfl := Option.some.inj hcall
        have hfront : Describes n ([.statement text] ++ calls) :=
          hbehind.of_append fun flow => ⟨.statement text flow, rfl⟩
        exact hfront
      | openBlock header =>
        obtain rfl := Option.some.inj hcall
        obtain ⟨body, more, rest, rfl, hrest⟩ := hbehind
        have hlt : rest.length < (FlowCall.openBlock header ::
            (body.calls ++ more.calls ++ rest)).length := by
          simp only [List.length_cons, List.length_append]
          omega
        have hdescribes : Describes n rest := ih _ hlt hrest rfl
        have hfront : Describes n (.openBlock header :: (body.calls ++ more.calls) ++ rest) :=
          hdescribes.of_append fun flow => ⟨.construct header body more flow, rfl⟩
        exact hfront
      | nextBlock header =>
        rw [FlowCall.openAfter?] at hcall
        split_ifs at hcall with hn
        obtain rfl := Option.some.inj hcall
        obtain ⟨n, rfl⟩ := Nat.exists_eq_succ_of_ne_zero hn
        obtain ⟨body, more, rest, rfl, hrest⟩ := hbehind
        exact ⟨.done, .next header body more, rest, rfl, hrest⟩
      | closeBlock =>
        rw [FlowCall.openAfter?] at hcall
        split_ifs at hcall with hn
        obtain rfl := Option.some.inj hcall
        obtain ⟨n, rfl⟩ := Nat.exists_eq_succ_of_ne_zero hn
        exact ⟨.done, .none, calls, rfl, hcalls⟩

/-- Well-nested calls describe a tree. -/
theorem Flow.exists_calls_eq {calls : List FlowCall} (h : WellNested calls) :
    ∃ flow : Flow, flow.calls = calls := describes_of_foldlM h

/-! ### The code of calls -/

namespace IsPlainText

variable {s : String} (h : IsPlainText s)

include h

theorem newline_notMem : '\n' ∉ s.toList := fun hc => h.2 _ hc (by decide)

/-- A plain template gives its own characters. -/
theorem interpret_eq_ok : Template.interpret s [] = .ok [.text s] := by
  have htakes : ∀ {chars : List Char}, '%' ∉ chars →
      Template.Takes [] 0 (chars.map .plain) (chars.map fun c => .text [c]) [] 0 := by
    intro chars hchars
    induction chars with
    | nil => exact .nil 0
    | cons c chars ih =>
      obtain ⟨hc, hrest⟩ := List.ne_and_not_mem_of_not_mem_cons hchars
      exact .plain c hc.symm (ih hrest)
  have hspelled : s.toList = Template.spelled (s.toList.map .plain) := by
    simp [Template.spelled, List.flatMap_map, Piece.chars]
  have hjoined := Template.Joined.texts (s.toList.map fun c => [c]) (Template.isRun_iff.2 rfl)
  have hflatten : (s.toList.map fun c => [c]).flatten = s.toList := by
    rw [← List.flatMap_def, List.flatMap_singleton']
  have hrun : textRun s.toList = [.text s] := by
    rw [textRun, if_neg (by simpa using h.1), String.ofList_toList]
  rw [List.map_map, hflatten, hrun] at hjoined
  refine Template.interpret_eq_ok_iff.2 (Template.Yields.interpretPositional_eq_ok (by decide) ?_)
  exact ⟨_, _, [], hspelled, htakes fun hc => h.2 _ hc (by decide), hjoined⟩

/-- A plain header does not have its brace. -/
theorem opensBlock_eq_false : Code.opensBlock s = false := by
  rw [Code.opensBlock, beq_eq_false_iff_ne]
  intro hlast
  have hmem := List.mem_of_getLast? hlast
  rw [Unicode.trimEnd, List.mem_reverse] at hmem
  have hchar := List.mem_reverse.1 ((List.dropWhile_sublist _).subset hmem)
  exact h.2 _ hchar (by decide)

end IsPlainText

namespace FlowCall

/-- The instructions of a call whose texts are plain. -/
def instructions : FlowCall → Code
  | .statement text => [.beginStatement, .text text, .text "\n", .endStatement]
  | .openBlock header => [.text header, .text " \x7b\n", .indent]
  | .nextBlock header => [.unindent, .text "\x7d ", .text header, .text " \x7b\n", .indent]
  | .closeBlock => [.unindent, .text "\x7d\n"]

theorem code_eq_ok {call : FlowCall} (h : call.IsPlain) : call.code = .ok call.instructions := by
  cases call with
  | statement text =>
    rw [code, Code.statement, IsPlainText.interpret_eq_ok h]
    rfl
  | openBlock header =>
    rw [code, Code.beginFlow, IsPlainText.interpret_eq_ok h, IsPlainText.opensBlock_eq_false h]
    rfl
  | nextBlock header =>
    rw [code, Code.nextFlow, IsPlainText.interpret_eq_ok h]
    rfl
  | closeBlock => rfl

end FlowCall

/-- Plain calls go through. -/
theorem flowCode_eq_ok {calls : List FlowCall} (h : ∀ call ∈ calls, call.IsPlain) :
    flowCode calls = .ok (calls.flatMap FlowCall.instructions) := by
  have hcodes : calls.mapM FlowCall.code = .ok (calls.map FlowCall.instructions) := by
    induction calls with
    | nil => rfl
    | cons call calls ih =>
      obtain ⟨hcall, hcalls⟩ := List.forall_mem_cons.1 h
      rw [List.mapM_cons, FlowCall.code_eq_ok hcall, ih hcalls]
      rfl
  rw [flowCode, hcodes, List.flatMap_def]
  rfl

/-! ### The lines of calls -/

namespace FlowCall

/-- The number of blocks that a call closes. -/
def closes : FlowCall → Nat
  | .nextBlock _ => 1
  | .closeBlock => 1
  | _ => 0

/-- The number of blocks that a call opens. -/
def opens : FlowCall → Nat
  | .openBlock _ => 1
  | .nextBlock _ => 1
  | _ => 0

/-- The line that a call writes. -/
def line : FlowCall → String
  | .statement text => text
  | .openBlock header => header ++ " \x7b"
  | .nextBlock header => "\x7d " ++ header ++ " \x7b"
  | .closeBlock => "\x7d"

theorem IsPlain.line_ne_empty {call : FlowCall} (h : call.IsPlain) : call.line ≠ "" := by
  cases call with
  | statement text => exact h.1
  | openBlock header => simp [line]
  | nextBlock header => simp [line]
  | closeBlock => simp [line]

theorem IsPlain.newline_notMem_line {call : FlowCall} (h : call.IsPlain) :
    '\n' ∉ call.line.toList := by
  cases call with
  | statement text => exact IsPlainText.newline_notMem h
  | openBlock header => simpa [line] using IsPlainText.newline_notMem h
  | nextBlock header => simpa [line] using IsPlainText.newline_notMem h
  | closeBlock => decide

end FlowCall

/-- The lines of calls, each with the level at which it is written, from the given level on. -/
def linesFrom (level : Nat) : List FlowCall → List (Nat × String)
  | [] => []
  | call :: calls =>
    (level - call.closes, call.line) :: linesFrom (level - call.closes + call.opens) calls

mutual

/-- The lines of the calls of a tree are those of its printer. -/
theorem Flow.linesFrom_calls (flow : Flow) (level : Nat) (rest : List FlowCall) :
    linesFrom level (flow.calls ++ rest) = flow.lines level ++ linesFrom level rest := by
  match flow with
  | .done => rfl
  | .statement text tail =>
    have htail := Flow.linesFrom_calls tail level rest
    simp [Flow.calls, Flow.lines, linesFrom, FlowCall.closes, FlowCall.opens, FlowCall.line, htail]
  | .construct header body more tail =>
    have hbody := Flow.linesFrom_calls body (level + 1) (more.calls ++ (tail.calls ++ rest))
    have hmore := Branches.linesFrom_calls more level (tail.calls ++ rest)
    have htail := Flow.linesFrom_calls tail level rest
    simp [Flow.calls, Flow.lines, linesFrom, FlowCall.closes, FlowCall.opens, FlowCall.line,
      hbody, hmore, htail]

/-- In front of further blocks the writer is one level deeper than their braces. -/
theorem Branches.linesFrom_calls (more : Branches) (level : Nat) (rest : List FlowCall) :
    linesFrom (level + 1) (more.calls ++ rest) = more.lines level ++ linesFrom level rest := by
  match more with
  | .none => simp [Branches.calls, Branches.lines, linesFrom, FlowCall.closes, FlowCall.opens,
      FlowCall.line]
  | .next header body more =>
    have hbody := Flow.linesFrom_calls body (level + 1) (more.calls ++ rest)
    have hmore := Branches.linesFrom_calls more level rest
    simp [Branches.calls, Branches.lines, linesFrom, FlowCall.closes, FlowCall.opens,
      FlowCall.line, hbody, hmore]

end

end KotlinSource
