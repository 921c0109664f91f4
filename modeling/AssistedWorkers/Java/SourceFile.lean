import AssistedWorkers.Java.Declaration
import AssistedWorkers.Java.Imports

/-!
# Source files

A source file declares one class in one package.  Written out, it has the package line, the
imports in order, and the declaration, with an empty line after each of the first two.  `spell`
writes a file with any names for its classes, and `render` with those its own imports give.
-/

namespace AssistedWorkers.Java

/-- A file that declares a class. -/
structure SourceFile where
  package : String
  declaration : ClassDeclaration
deriving Repr

namespace SourceFile

/-- The class that the file declares. -/
def className (file : SourceFile) : ClassName :=
  .topLevelIn file.package file.declaration.name

/-- What the names in the file depend on. -/
def scope (file : SourceFile) : NameScope :=
  ⟨file.package, file.declaration.name, file.declaration.classes⟩

/-- The canonical names of the imported classes, in order. -/
def imports (file : SourceFile) : List String :=
  file.scope.imports

/-- One directory further down a path.  A segment that starts at the root starts the path anew. -/
def descend (path segment : String) : String :=
  if segment.toList.head? = some '/' || path.isEmpty then segment
  else if path.toList.getLast? = some '/' then path ++ segment
  else path ++ "/" ++ segment

/-- The segments of a dotted text that are not empty. -/
def segments (text : String) : List String :=
  ((text.toList.splitOn '.').map String.ofList).filter (!·.isEmpty)

/-- The path of the file below the source root: a directory for each segment of the package. -/
def relativePath (file : SourceFile) : String :=
  descend ((segments file.package).foldl descend "") (file.declaration.name ++ ".java")

/-- The text of a file whose classes are named by `nameOf`. -/
def spell (nameOf : ClassName → String) (imports : List String) (file : SourceFile) : String :=
  (if file.package.isEmpty then "" else "package " ++ file.package ++ ";\n\n") ++
    (if imports.isEmpty then ""
      else String.join (imports.map fun name => "import " ++ name ++ ";\n") ++ "\n") ++
    file.declaration.spell nameOf

/-- The text of the file. -/
def render (file : SourceFile) : String :=
  file.spell file.scope.nameOf file.imports

end SourceFile

end AssistedWorkers.Java
