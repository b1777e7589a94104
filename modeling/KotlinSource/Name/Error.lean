import KotlinSource.Diagnostic

/-!
# Failures to build a name

## Main definitions

* `NameError`: why a class, member or type name cannot be built.
* `NameError.diagnostic`: the text of such a failure.
-/

namespace KotlinSource

/-- Why a class, member or type name cannot be built. -/
inductive NameError where
  /-- A class name without simple names. -/
  | noSimpleNames
  /-- A simple name that is empty or holds a dot. -/
  | invalidSimpleName (name : String)
  /-- A dotted text that does not show where its package ends. -/
  | unguessable (text : String)
  /-- Type arguments for a type that takes none. -/
  | notGeneric (type : String)
  /-- Type arguments for a class that has some. -/
  | alreadyParameterized (type : String)
  /-- An empty list of type arguments. -/
  | emptyTypeArguments (type : String)
  deriving DecidableEq, Repr

/-- The text of a failure to build a name. -/
def NameError.diagnostic : NameError → Diagnostic
  | .noSimpleNames =>
    ⟨"name::empty", "a class name needs at least one simple name", none⟩
  | .invalidSimpleName name =>
    ⟨"name::invalid_simple_name", "invalid simple name '" ++ name ++ "'",
      some "simple names are non-empty and contain no '.'"⟩
  | .unguessable text =>
    ⟨"name::best_guess", "couldn't make a guess for '" ++ text ++ "'",
      some "build the name explicitly with ClassName::new(package, simple_names)"⟩
  | .notGeneric type =>
    ⟨"name::not_generic", type ++ " cannot be parameterized", none⟩
  | .alreadyParameterized type =>
    ⟨"name::already_parameterized", type ++ " is already parameterized", none⟩
  | .emptyTypeArguments type =>
    ⟨"name::empty_type_arguments", "no type arguments given for " ++ type, none⟩

end KotlinSource
