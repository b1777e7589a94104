import KotlinSource.Name.Type

/-!
# Classes of the standard library

## Main definitions

* `StandardClass`: the classes of the standard library that declarations mention most.
* `StandardClass.className`: their names.
-/

namespace KotlinSource

/-- A class of the standard library. -/
inductive StandardClass where
  | any | string | charSequence | number | nothing | throwable | comparable
  | iterable | list | mutableList | set | map | mutableMap
  deriving DecidableEq, Repr

/-- The name of a class of the standard library. -/
def StandardClass.className : StandardClass → ClassName
  | .any => ClassName.any
  | .string => ClassName.kotlin "String"
  | .charSequence => ClassName.kotlin "CharSequence"
  | .number => ClassName.kotlin "Number"
  | .nothing => ClassName.kotlin "Nothing"
  | .throwable => ClassName.kotlin "Throwable"
  | .comparable => ClassName.kotlin "Comparable"
  | .iterable => ClassName.kotlinCollection "Iterable"
  | .list => ClassName.kotlinCollection "List"
  | .mutableList => ClassName.kotlinCollection "MutableList"
  | .set => ClassName.kotlinCollection "Set"
  | .map => ClassName.kotlinCollection "Map"
  | .mutableMap => ClassName.kotlinCollection "MutableMap"

end KotlinSource
