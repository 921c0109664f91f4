import AssistedWorkers.Java.ClassName

/-!
# Expressions and statements

What the body of a generated method is made of: names, fields of the object itself, calls,
and the creation of objects, put together to assignments and returns.

* `spellAll_eq_map`, `classesOfAll_eq_flatMap` — what the two functions on argument lists do.
-/

namespace AssistedWorkers.Java

/-- An expression. -/
inductive Expression where
  /-- A local variable, a parameter or a field, by its name. -/
  | name (name : String)
  /-- A field of the object itself. -/
  | ownField (name : String)
  /-- A method called on the value of an expression. -/
  | call (receiver : Expression) (method : String) (arguments : List Expression)
  /-- A static method of a class. -/
  | staticCall (owner : ClassName) (method : String) (arguments : List Expression)
  /-- A new object of a class. -/
  | create (type : ClassName) (arguments : List Expression)
deriving Repr

namespace Expression

mutual

/-- The expression as it is written, with every class named by `nameOf`. -/
def spell (nameOf : ClassName → String) : Expression → String
  | name n => n
  | ownField n => "this." ++ n
  | call receiver method arguments =>
    spell nameOf receiver ++ "." ++ method ++ "(" ++
      ", ".intercalate (spellAll nameOf arguments) ++ ")"
  | staticCall owner method arguments =>
    nameOf owner ++ "." ++ method ++ "(" ++ ", ".intercalate (spellAll nameOf arguments) ++ ")"
  | create type arguments =>
    "new " ++ nameOf type ++ "(" ++ ", ".intercalate (spellAll nameOf arguments) ++ ")"

/-- The expressions of a list as they are written, in order. -/
def spellAll (nameOf : ClassName → String) : List Expression → List String
  | [] => []
  | e :: es => spell nameOf e :: spellAll nameOf es

end

mutual

/-- The classes an expression refers to, from left to right as they are written. -/
def classes : Expression → List ClassName
  | name _ => []
  | ownField _ => []
  | call receiver _ arguments => classes receiver ++ classesOfAll arguments
  | staticCall owner _ arguments => owner :: classesOfAll arguments
  | create type arguments => type :: classesOfAll arguments

/-- The classes the expressions of a list refer to. -/
def classesOfAll : List Expression → List ClassName
  | [] => []
  | e :: es => classes e ++ classesOfAll es

end

@[simp] theorem spellAll_eq_map (nameOf : ClassName → String) (es : List Expression) :
    spellAll nameOf es = es.map (spell nameOf) := by
  induction es with
  | nil => simp [spellAll]
  | cons e es ih => simp [spellAll, ih]

@[simp] theorem classesOfAll_eq_flatMap (es : List Expression) :
    classesOfAll es = es.flatMap classes := by
  induction es with
  | nil => simp [classesOfAll]
  | cons e es ih => simp [classesOfAll, ih]

end Expression

/-- A statement. -/
inductive Statement where
  /-- The target gets the value. -/
  | assign (target value : Expression)
  /-- The method ends with the value. -/
  | returning (value : Expression)
deriving Repr

namespace Statement

/-- The statement as it is written. -/
def spell (nameOf : ClassName → String) : Statement → String
  | assign target value => target.spell nameOf ++ " = " ++ value.spell nameOf ++ ";"
  | returning value => "return " ++ value.spell nameOf ++ ";"

/-- The classes a statement refers to, from left to right as they are written. -/
def classes : Statement → List ClassName
  | assign target value => target.classes ++ value.classes
  | returning value => value.classes

end Statement

end AssistedWorkers.Java
