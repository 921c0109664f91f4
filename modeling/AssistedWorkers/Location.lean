import AssistedWorkers.Json.Record

/-!
# Places in source files

Every declaration and every report has a place: a file, a line and sometimes a column.  Places
are ordered by file, line and column, a place without a column coming first.
-/

namespace AssistedWorkers

open Json

/-- A place in a source file. -/
structure Location where
  file : String
  line : UInt32
  column : Option UInt32
deriving DecidableEq, Repr

namespace Location

/-- The place as it is shown. -/
def display (l : Location) : String :=
  let line := l.file ++ ":" ++ toString l.line.toNat
  match l.column with
  | some column => line ++ ":" ++ toString column.toNat
  | none => line

/-- The order of columns. -/
def compareColumns : Option UInt32 → Option UInt32 → Ordering
  | none, none => .eq
  | none, some _ => .lt
  | some _, none => .gt
  | some m, some n => compare m.toNat n.toNat

instance : Ord Location where
  compare l m :=
    (compare l.file m.file).then
      ((compare l.line.toNat m.line.toNat).then (compareColumns l.column m.column))

/-- The fields of a place. -/
def fields : Fields [String, UInt32, Option UInt32] :=
  (.required "file" textCodec, .required "line" wordCodec, .unlessNone "column" wordCodec, ())

/-- Places as JSON. -/
def codec : Codec Location :=
  recordCodec "SourceLocation" fields
    (fun (file, line, column, ()) => ⟨file, line, column⟩)
    (fun l => (l.file, l.line, l.column, ()))

end Location

end AssistedWorkers
