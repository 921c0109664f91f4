import AssistedWorkers.Java.AnnotationUse
import AssistedWorkers.Java.Expression
import AssistedWorkers.Java.Type

/-!
# Declarations

Class declarations with their fields, constructors and methods.  Modifiers are a set: they may
be given in any order and more than once, and are written in one fixed order.  A method is
either abstract or has a body, so the body is not stored beside the modifiers but follows from
them.

* `body_of_abstract`, `body_of_concrete` — when a method has a body.
-/

namespace AssistedWorkers.Java

/-- Modifiers of a declaration. -/
inductive Modifier where
  | pub
  | prot
  | priv
  | abstract
  | static
  | final
deriving DecidableEq, Repr

namespace Modifier

/-- Every modifier, in the order in which they are written. -/
def all : List Modifier :=
  [pub, prot, priv, abstract, static, final]

/-- The keyword that stands for the modifier. -/
def keyword : Modifier → String
  | pub => "public"
  | prot => "protected"
  | priv => "private"
  | abstract => "abstract"
  | static => "static"
  | final => "final"

/-- The modifier that a keyword stands for. -/
def ofKeyword? (keyword : String) : Option Modifier :=
  all.find? (·.keyword == keyword)

/-- The given modifiers, each once and in the order in which they are written. -/
def inOrder (given : List Modifier) : List Modifier :=
  all.filter (given.contains ·)

/-- The modifiers as they are written in front of what they modify. -/
def spell (given : List Modifier) : String :=
  String.join ((inOrder given).map (·.keyword ++ " "))

end Modifier

/-- A field. -/
structure Field where
  modifiers : List Modifier
  type : JavaType
  name : String
deriving DecidableEq, Repr

/-- A parameter of a method or constructor. -/
structure FormalParameter where
  annotations : List AnnotationUse
  type : JavaType
  name : String
deriving DecidableEq, Repr

/-- A method, or a constructor when it has no name.  Its statements count only if it is not
abstract. -/
structure Method where
  name : Option String
  annotations : List AnnotationUse
  modifiers : List Modifier
  returns : Option JavaType
  parameters : List FormalParameter
  statements : List Statement
deriving Repr

/-- A class declaration. -/
structure ClassDeclaration where
  name : String
  annotations : List AnnotationUse
  modifiers : List Modifier
  superinterfaces : List JavaType
  fields : List Field
  methods : List Method
deriving Repr

namespace FormalParameter

/-- The classes a parameter refers to: its annotations, then its type. -/
def classes (p : FormalParameter) : List ClassName :=
  p.annotations.flatMap AnnotationUse.classes ++ p.type.classes

/-- The parameter as it is written, annotations on the same line. -/
def spell (nameOf : ClassName → String) (p : FormalParameter) : String :=
  String.join (p.annotations.map fun a => a.spell nameOf .inline ++ " ") ++
    p.type.spell nameOf ++ " " ++ p.name

end FormalParameter

namespace Field

/-- The line that declares a field. -/
def spell (nameOf : ClassName → String) (f : Field) : String :=
  "  " ++ Modifier.spell f.modifiers ++ f.type.spell nameOf ++ " " ++ f.name ++ ";\n"

end Field

namespace Method

/-- Whether this is a constructor. -/
def isConstructor (m : Method) : Bool :=
  m.name.isNone

/-- The statements of a method that is not abstract. -/
def body (m : Method) : Option (List Statement) :=
  if Modifier.abstract ∈ m.modifiers then none else some m.statements

theorem body_of_abstract {m : Method} (h : Modifier.abstract ∈ m.modifiers) : m.body = none := by
  simp [body, h]

theorem body_of_concrete {m : Method} (h : Modifier.abstract ∉ m.modifiers) :
    m.body = some m.statements := by
  simp [body, h]

/-- The classes a method refers to: annotations, return type, parameters, body. -/
def classes (m : Method) : List ClassName :=
  m.annotations.flatMap AnnotationUse.classes ++
    (m.returns.toList.flatMap JavaType.classes ++
      (m.parameters.flatMap FormalParameter.classes ++
        (m.body.getD []).flatMap Statement.classes))

/-- What stands between the modifiers and the parameters: the name of a constructor's class, or
the return type and the name of the method. -/
def spellHead (nameOf : ClassName → String) (className : String) (m : Method) : String :=
  match m.name with
  | none => className
  | some name =>
    match m.returns with
    | some type => type.spell nameOf ++ " " ++ name
    | none => "void " ++ name

/-- The lines of a method inside the class `className`. -/
def spell (nameOf : ClassName → String) (className : String) (m : Method) : String :=
  let annotations := m.annotations.map fun a => "  " ++ a.spell nameOf (.block "  ") ++ "\n"
  let signature := "  " ++ Modifier.spell m.modifiers ++ m.spellHead nameOf className ++ "(" ++
    ", ".intercalate (m.parameters.map (·.spell nameOf)) ++ ")"
  String.join annotations ++ signature ++
    match m.body with
    | none => ";\n"
    | some statements =>
      " \x7b\n" ++ String.join (statements.map fun s => "    " ++ s.spell nameOf ++ "\n") ++
        "  \x7d\n"

end Method

namespace ClassDeclaration

/-- The classes a declaration refers to, from top to bottom as they are written. -/
def classes (d : ClassDeclaration) : List ClassName :=
  d.annotations.flatMap AnnotationUse.classes ++
    (d.superinterfaces.flatMap JavaType.classes ++
      (d.fields.flatMap (·.type.classes) ++ d.methods.flatMap Method.classes))

/-- The methods with an empty line before each one that something stands before. -/
def spellMethods (nameOf : ClassName → String) (d : ClassDeclaration) : String :=
  match d.methods.map (·.spell nameOf d.name) with
  | [] => ""
  | first :: others =>
    (if d.fields.isEmpty then "" else "\n") ++ first ++ String.join (others.map ("\n" ++ ·))

/-- The lines of a class declaration. -/
def spell (nameOf : ClassName → String) (d : ClassDeclaration) : String :=
  let annotations := d.annotations.map fun a => a.spell nameOf (.block "") ++ "\n"
  let interfaces :=
    if d.superinterfaces.isEmpty then ""
    else " implements " ++ ", ".intercalate (d.superinterfaces.map (·.spell nameOf))
  String.join annotations ++ Modifier.spell d.modifiers ++ "class " ++ d.name ++ interfaces ++
    " \x7b\n" ++ String.join (d.fields.map (·.spell nameOf)) ++ d.spellMethods nameOf ++ "\x7d\n"

end ClassDeclaration

end AssistedWorkers.Java
