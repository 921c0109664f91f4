import AssistedWorkers.Java.ClassName
import AssistedWorkers.Java.StringLiteral

/-!
# Annotations

An annotation applied to a class, a method or a parameter, with its members in the order in
which they are written.  An annotation without members is its name alone, and a sole member
called `value` is written without that name.  Other members are named; on a declaration each
has a line of its own, inside a parameter list all share one.
-/

namespace AssistedWorkers.Java

/-- The value of an annotation member. -/
inductive MemberValue where
  /-- A string, quoted when it is written. -/
  | text (value : String)
  /-- The class object of a class. -/
  | classLiteral (c : ClassName)
  /-- Source text that is written as it stands. -/
  | literal (source : String)
deriving DecidableEq, Repr

/-- An annotation with its members in order. -/
structure AnnotationUse where
  type : ClassName
  members : List (String × MemberValue)
deriving DecidableEq, Repr

namespace MemberValue

/-- The class that a member refers to, if it is a class object. -/
def classes : MemberValue → List ClassName
  | classLiteral c => [c]
  | _ => []

/-- The member's value as it is written. -/
def spell (nameOf : ClassName → String) : MemberValue → String
  | text value => StringLiteral.quote value
  | classLiteral c => nameOf c ++ ".class"
  | literal source => source

end MemberValue

namespace AnnotationUse

/-- An annotation without members. -/
def marker (type : ClassName) : AnnotationUse :=
  ⟨type, []⟩

/-- An annotation whose sole member is the string `value`. -/
def withText (type : ClassName) (value : String) : AnnotationUse :=
  ⟨type, [("value", .text value)]⟩

/-- The classes an annotation refers to: its type, then its members. -/
def classes (a : AnnotationUse) : List ClassName :=
  a.type :: a.members.flatMap fun member => member.2.classes

/-- Where the members of an annotation go. -/
inductive Layout where
  /-- All on the line of the annotation. -/
  | inline
  /-- Each on a line of its own, further in than the annotation's `indent`. -/
  | block (indent : String)
deriving DecidableEq, Repr

/-- A member with its name. -/
def spellMember (nameOf : ClassName → String) (member : String × MemberValue) : String :=
  member.1 ++ " = " ++ member.2.spell nameOf

/-- The annotation as it is written. -/
def spell (nameOf : ClassName → String) (layout : Layout) (a : AnnotationUse) : String :=
  let named := a.members.map (spellMember nameOf)
  match a.members with
  | [] => "@" ++ nameOf a.type
  | [("value", value)] => "@" ++ nameOf a.type ++ "(" ++ value.spell nameOf ++ ")"
  | _ =>
    match layout with
    | .inline => "@" ++ nameOf a.type ++ "(" ++ ", ".intercalate named ++ ")"
    | .block indent =>
      "@" ++ nameOf a.type ++ "(\n" ++ ",\n".intercalate (named.map (indent ++ "    " ++ ·)) ++
        "\n" ++ indent ++ ")"

end AnnotationUse

end AssistedWorkers.Java
