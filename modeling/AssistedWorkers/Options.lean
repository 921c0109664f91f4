import AssistedWorkers.Java.AnnotationUse
import AssistedWorkers.Java.TypeReader
import AssistedWorkers.Json.Record
import AssistedWorkers.Naming

/-!
# Options

The options of a run: whether the binding module is public in any case, whether generated classes
carry a marker and of which type, and how nesting is written.  They can be read from JSON, where
every one has a default.  The marker's type must name a class, even when no marker is asked for.
-/

namespace AssistedWorkers

open Java Json

namespace NestingStyle

/-- Every nesting style. -/
def all : List NestingStyle :=
  [flattened, reflection]

/-- The name of a nesting style. -/
def name : NestingStyle → String
  | flattened => "flattened"
  | reflection => "reflection"

/-- Nesting styles as JSON. -/
def codec : Codec NestingStyle :=
  choiceCodec all name

end NestingStyle

/-- The options of a run. -/
structure Options where
  publicModule : Bool
  generatedMarker : Bool
  markerType : String
  nestingStyle : NestingStyle
deriving DecidableEq, Repr

/-- Why options were not accepted. -/
inductive OptionsFault where
  | unreadable (fault : Fault)
  | badMarkerType (fault : ClassFault)
deriving DecidableEq, Repr

/-- The message for options that were not accepted. -/
def OptionsFault.message : OptionsFault → String
  | unreadable fault => "invalid processor options: " ++ fault.message
  | badMarkerType fault => "invalid processor options: generated_annotation: " ++ fault.message

namespace Options

/-- The options when nothing else is said. -/
def default : Options :=
  ⟨false, false, Framework.defaultMarkerType, .flattened⟩

/-- The fields of the options. -/
def fields : Fields [Bool, Bool, String, NestingStyle] :=
  (.defaulted "public_module" booleanCodec default.publicModule,
    .defaulted "generated_marker" booleanCodec default.generatedMarker,
    .defaulted "generated_annotation" textCodec default.markerType,
    .defaulted "nesting_style" NestingStyle.codec default.nestingStyle, ())

/-- Options as JSON. -/
def codec : Codec Options :=
  recordCodec "ProcessorOptions" fields
    (fun (publicModule, generatedMarker, markerType, nestingStyle, ()) =>
      ⟨publicModule, generatedMarker, markerType, nestingStyle⟩)
    (fun o => (o.publicModule, o.generatedMarker, o.markerType, o.nestingStyle, ()))

/-- Reads options and checks that the marker's type is a class. -/
def read (text : String) : Except OptionsFault Options :=
  match codec.decode text with
  | .error fault => .error (.unreadable fault)
  | .ok options =>
    match ClassName.read options.markerType with
    | .error fault => .error (.badMarkerType fault)
    | .ok _ => .ok options

/-- The marker of the generated classes. -/
def markerOf (type : ClassName) : AnnotationUse :=
  ⟨type, [("value", .text Framework.processorName),
    ("comments", .text Framework.processorComments)]⟩

/-- The marker that the options ask for, if any. -/
def marker (options : Options) : Except OptionsFault (Option AnnotationUse) :=
  if options.generatedMarker then
    match ClassName.read options.markerType with
    | .error fault => .error (.badMarkerType fault)
    | .ok type => .ok (some (markerOf type))
  else .ok none

end Options

end AssistedWorkers
