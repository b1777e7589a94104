import KotlinSource.Diagnostic
import KotlinSource.Modifier

/-!
# Failures to build a declaration

## Main definitions

* `NameRole`: what an identifier names.
* `DeclarationError`: why a declaration or a file cannot be built.
* `DeclarationError.diagnostic`: the text of such a failure.
-/

namespace KotlinSource

/-- What an identifier names. -/
inductive NameRole where
  | package | type | enumConstant | function | property | parameter | typeAlias
  | annotationMember | importAlias
  deriving DecidableEq, Repr

/-- The words for what an identifier names. -/
def NameRole.label : NameRole → String
  | .package => "package"
  | .type => "type"
  | .enumConstant => "enum constant"
  | .function => "function"
  | .property => "property"
  | .parameter => "parameter"
  | .typeAlias => "type alias"
  | .annotationMember => "annotation member"
  | .importAlias => "import alias"

/-- The kinds of types that have no constructors. -/
inductive ConstructorlessKind where
  | anonymousType | interface | annotationClass | object
  deriving DecidableEq, Repr

/-- The words for a kind of type that has no constructors. -/
def ConstructorlessKind.label : ConstructorlessKind → String
  | .anonymousType => "anonymous type"
  | .interface => "interface"
  | .annotationClass => "annotation"
  | .object => "object"

/-- Why a declaration or a file cannot be built. -/
inductive DeclarationError where
  /-- A name that is no identifier. -/
  | invalidName (name : String) (role : NameRole)
  /-- An enum without constants. -/
  | enumWithoutConstants (type : String)
  /-- Enum constants in a type that is no enum. -/
  | constantsOnNonEnum (type : String)
  /-- Two enum constants of one name. -/
  | duplicateEnumConstant (type constant : String)
  /-- A member of an annotation class with a body. -/
  | annotationMemberWithBody (type member : String)
  /-- A member of an annotation class with parameters. -/
  | annotationMemberWithParameters (type member : String)
  /-- A member of an annotation class without a type. -/
  | annotationMemberWithoutType (type member : String)
  /-- A function with a default value that is no member of an annotation class. -/
  | defaultValueOutsideAnnotationClass (type member : String)
  /-- An anonymous type with type variables. -/
  | anonymousTypeVariables
  /-- An anonymous type with modifiers. -/
  | anonymousModifiers
  /-- An anonymous type with more than one supertype. -/
  | anonymousSupertypes
  /-- An interface with code that runs for the type or its instances. -/
  | interfaceInitializer (type : String)
  /-- An interface with a superclass. -/
  | interfaceSuperclass (type : String)
  /-- A constructor in a type that has none. -/
  | constructorNotAllowed (type : String) (kind : ConstructorlessKind)
  /-- A constructor with a return type. -/
  | constructorWithReturnType
  /-- A function that starts with the call of a constructor. -/
  | delegationOnFunction (function : String)
  /-- An abstract function with a body. -/
  | abstractFunctionWithBody (function : String)
  /-- A file with an anonymous type outside all other types. -/
  | anonymousTopLevelType (file : String)
  /-- A file name that is empty, holds a path separator or ends in the extension. -/
  | invalidFileName (name : String)
  /-- One import alias for two targets. -/
  | duplicateImportAlias (importAlias first second : String)
  /-- A type alias with a modifier that type aliases do not have. -/
  | aliasModifier (modifier : Modifier) (typeAlias : String)
  deriving DecidableEq, Repr

/-- The text of a failure to build a declaration. -/
def DeclarationError.diagnostic : DeclarationError → Diagnostic
  | .invalidName name role =>
    ⟨"spec::invalid_name", "invalid " ++ role.label ++ " name '" ++ name ++ "'",
      some "use letters, digits and underscores, starting with a letter or underscore"⟩
  | .enumWithoutConstants type =>
    ⟨"spec::enum_without_constants", "enum " ++ type ++ " has no constants", none⟩
  | .constantsOnNonEnum type =>
    ⟨"spec::constants_on_non_enum", type ++ " is not an enum but declares constants", none⟩
  | .duplicateEnumConstant type constant =>
    ⟨"spec::duplicate_enum_constant",
      "enum " ++ type ++ " declares '" ++ constant ++ "' twice", none⟩
  | .annotationMemberWithBody type member =>
    ⟨"spec::annotation_member_body",
      "annotation member " ++ type ++ "." ++ member ++ " has a body",
      some "annotation members may only carry a default value"⟩
  | .annotationMemberWithParameters type member =>
    ⟨"spec::annotation_member_parameters",
      "annotation member " ++ type ++ "." ++ member ++ " takes parameters", none⟩
  | .annotationMemberWithoutType type member =>
    ⟨"spec::annotation_member_type",
      "annotation member " ++ type ++ "." ++ member ++ " has no type", none⟩
  | .defaultValueOutsideAnnotationClass type member =>
    ⟨"spec::default_value",
      type ++ "." ++ member ++ " has a default value outside an annotation", none⟩
  | .anonymousTypeVariables =>
    ⟨"spec::anonymous_type_variables", "anonymous types cannot declare type variables", none⟩
  | .anonymousModifiers =>
    ⟨"spec::anonymous_modifiers", "anonymous types cannot have modifiers", none⟩
  | .anonymousSupertypes =>
    ⟨"spec::anonymous_supertypes", "anonymous types have at most one supertype", none⟩
  | .interfaceInitializer type =>
    ⟨"spec::interface_initializer",
      "interface " ++ type ++ " cannot have initializer blocks", none⟩
  | .interfaceSuperclass type =>
    ⟨"spec::interface_superclass", "interface " ++ type ++ " cannot extend a class",
      some "list the supertype with add_superinterface instead"⟩
  | .constructorNotAllowed type kind =>
    ⟨"spec::constructor_not_allowed",
      kind.label ++ " " ++ type ++ " cannot have constructors", none⟩
  | .constructorWithReturnType =>
    ⟨"spec::constructor_return_type", "constructors cannot declare a return type", none⟩
  | .delegationOnFunction function =>
    ⟨"spec::delegation_on_function",
      function ++ " is not a constructor and cannot delegate", none⟩
  | .abstractFunctionWithBody function =>
    ⟨"spec::abstract_function_body", "abstract function " ++ function ++ " has a body", none⟩
  | .anonymousTopLevelType file =>
    ⟨"spec::anonymous_top_level_type",
      "file " ++ file ++ " contains an anonymous top-level type", none⟩
  | .invalidFileName name =>
    ⟨"spec::invalid_file_name", "invalid file name '" ++ name ++ "'",
      some "file names are non-empty, without path separators or the .kt extension"⟩
  | .duplicateImportAlias importAlias first second =>
    ⟨"spec::duplicate_import_alias",
      "import alias '" ++ importAlias ++ "' is used for both " ++ first ++ " and " ++ second,
      none⟩
  | .aliasModifier modifier typeAlias =>
    ⟨"spec::modifier_not_allowed",
      "modifier '" ++ modifier.keyword ++ "' is not allowed on type alias " ++ typeAlias, none⟩

end KotlinSource
