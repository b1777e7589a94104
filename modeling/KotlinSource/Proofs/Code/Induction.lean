import KotlinSource.Code.Expansion
import KotlinSource.Proofs.Declaration.Pieces

/-!
# Induction over code

Code holds anonymous types, and these hold code.  As the code in a type is smaller than the type,
what holds of a piece of code as soon as it holds of the code in its anonymous types holds of every
piece of code.

## Main definitions

* `Code.HasObject`: the anonymous types in a piece of code, at any depth.

## Main results

* `Code.induction`: induction over code through its anonymous types.
-/

namespace KotlinSource

namespace Code

theorem sizeOf_lt_of_mem_object {decl : TypeDecl Code} {piece : Code} (h : piece ∈ decl.pieces)
    (rest : Code) : sizeOf piece < sizeOf (Instruction.object decl :: rest) := by
  have hlt := TypeDecl.sizeOf_lt_of_mem_pieces h
  simp only [List.cons.sizeOf_spec, Instruction.object.sizeOf_spec]
  omega

/-- What holds of an instruction and the code behind it, as soon as it holds of the latter and of
the code in the anonymous type that the instruction may be, holds of every piece of code. -/
theorem induction {P : Code → Prop} (nil : P [])
    (cons : ∀ (i : Instruction) (rest : Code),
      (∀ decl, i = .object decl → ∀ piece ∈ decl.pieces, P piece) → P rest → P (i :: rest))
    (code : Code) : P code :=
  match code with
  | [] => nil
  | i :: rest =>
    have hobject : ∀ decl, i = .object decl → ∀ piece ∈ decl.pieces, P piece :=
      fun decl hi piece hpiece =>
        have : sizeOf piece < sizeOf (i :: rest) := hi ▸ sizeOf_lt_of_mem_object hpiece rest
        induction nil cons piece
    cons i rest hobject (induction nil cons rest)
termination_by sizeOf code
decreasing_by
  · exact this
  · simp only [List.cons.sizeOf_spec]
    omega

/-- A piece of code holds an anonymous type, as one of its instructions or inside of the code of an
anonymous type that it holds. -/
inductive HasObject : Code → TypeDecl Code → Prop
  | here {code : Code} {decl : TypeDecl Code} (h : .object decl ∈ code) : HasObject code decl
  | inside {code piece : Code} {outer decl : TypeDecl Code} (h : .object outer ∈ code)
      (hpiece : piece ∈ outer.pieces) (hinside : HasObject piece decl) : HasObject code decl

theorem HasObject.cons {i : Instruction} {rest : Code} {decl : TypeDecl Code}
    (h : HasObject rest decl) : HasObject (i :: rest) decl := by
  cases h with
  | here h => exact .here (List.mem_cons_of_mem i h)
  | inside h hpiece hinside => exact .inside (List.mem_cons_of_mem i h) hpiece hinside

end Code

end KotlinSource
