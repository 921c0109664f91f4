import AssistedWorkers.Description
import AssistedWorkers.Options
import AssistedWorkers.Proofs.WrittenJson

/-!
# Descriptions and options read back

The codec of every kind of description is lawful: the fields of a record have names of their own,
each is read by the codec that writes it, and the only field that may be left out, the column of a
place, is left out exactly when it has the value that its absence stands for.

* `codec_lawful`, for each kind of description and for the options;
* `descriptions_and_options_read_back` — a round is decoded from what it is encoded as, and so are
  options whose marker is a class; the marker of other options is refused.
-/

namespace AssistedWorkers

open Java Json

/-- No two visibilities are written by the same word. -/
theorem Visibility.codec_lawful : Visibility.codec.Lawful :=
  choiceCodec_lawful fun v => by cases v <;> rfl

/-- No two nesting styles are written by the same word. -/
theorem NestingStyle.codec_lawful : NestingStyle.codec.Lawful :=
  choiceCodec_lawful fun style => by cases style <;> rfl

/-- A place without a column has no field for it, and is read back as one without a column. -/
theorem Location.fields_lawful : Location.fields.Lawful :=
  ⟨.required _ textCodec_lawful.reads_back,
    .required _ wordCodec_lawful.reads_back,
    .unlessNone _ wordCodec_lawful, trivial⟩

/-- Places survive JSON. -/
theorem Location.codec_lawful : Location.codec.Lawful :=
  recordCodec_lawful Location.fields_lawful (by decide) fun _ => rfl

/-- The name of an enclosing class must be there; its visibility has a default. -/
theorem EnclosingDescription.fields_lawful : EnclosingDescription.fields.Lawful :=
  ⟨.required _ textCodec_lawful.reads_back,
    .defaulted _ Visibility.codec_lawful.reads_back _, trivial⟩

theorem EnclosingDescription.codec_lawful : EnclosingDescription.codec.Lawful :=
  recordCodec_lawful EnclosingDescription.fields_lawful (by decide) fun _ => rfl

/-- A qualifier without a value is written with a null, which is read back as no value. -/
theorem QualifierDescription.fields_lawful : QualifierDescription.fields.Lawful :=
  ⟨.required _ textCodec_lawful.reads_back,
    .defaulted _ (optionCodec_readsBack textCodec_lawful) _, trivial⟩

theorem QualifierDescription.codec_lawful : QualifierDescription.codec.Lawful :=
  recordCodec_lawful QualifierDescription.fields_lawful (by decide) fun _ => rfl

/-- Name and type of a parameter must be there; who supplies it and its qualifier have defaults. -/
theorem ParameterDescription.fields_lawful : ParameterDescription.fields.Lawful :=
  ⟨.required _ textCodec_lawful.reads_back,
    .required _ textCodec_lawful.reads_back,
    .defaulted _ booleanCodec_lawful.reads_back _,
    .defaulted _ (optionCodec_readsBack QualifierDescription.codec_lawful) _, trivial⟩

/-- Descriptions of parameters survive JSON. -/
theorem ParameterDescription.codec_lawful : ParameterDescription.codec.Lawful :=
  recordCodec_lawful ParameterDescription.fields_lawful (by decide) fun _ => rfl

/-- Every field of a constructor has a default, the list of its parameters included. -/
theorem ConstructorDescription.fields_lawful : ConstructorDescription.fields.Lawful :=
  ⟨.defaulted _ Visibility.codec_lawful.reads_back _,
    .defaulted _ booleanCodec_lawful.reads_back _,
    .defaulted _ (optionCodec_readsBack Location.codec_lawful) _,
    .defaulted _ (listCodec_lawful ParameterDescription.codec_lawful).reads_back _,
    trivial⟩

/-- Descriptions of constructors survive JSON, by the laws for their parameters and places. -/
theorem ConstructorDescription.codec_lawful : ConstructorDescription.codec.Lawful :=
  recordCodec_lawful ConstructorDescription.fields_lawful (by decide) fun _ => rfl

/-- Only the name and the place of a class must be there. -/
theorem ClassDescription.fields_lawful : ClassDescription.fields.Lawful :=
  ⟨.defaulted _ textCodec_lawful.reads_back _,
    .defaulted _ (listCodec_lawful EnclosingDescription.codec_lawful).reads_back _,
    .required _ textCodec_lawful.reads_back,
    .defaulted _ Visibility.codec_lawful.reads_back _,
    .defaulted _ booleanCodec_lawful.reads_back _,
    .defaulted _ (listCodec_lawful textCodec_lawful).reads_back _,
    .required _ Location.codec_lawful.reads_back,
    .defaulted _ (listCodec_lawful ConstructorDescription.codec_lawful).reads_back _,
    trivial⟩

/-- Descriptions of classes survive JSON, by the laws for what is listed in them. -/
theorem ClassDescription.codec_lawful : ClassDescription.codec.Lawful :=
  recordCodec_lawful ClassDescription.fields_lawful (by decide) fun _ => rfl

/-- The list of included modules is empty unless it is given. -/
theorem DaggerModuleDescription.fields_lawful : DaggerModuleDescription.fields.Lawful :=
  ⟨.defaulted _ (listCodec_lawful textCodec_lawful).reads_back _, trivial⟩

theorem DaggerModuleDescription.codec_lawful : DaggerModuleDescription.codec.Lawful :=
  recordCodec_lawful DaggerModuleDescription.fields_lawful (by decide) fun _ => rfl

/-- A module that is not a Dagger module is written with a null in the place of the annotation. -/
theorem ModuleDescription.fields_lawful : ModuleDescription.fields.Lawful :=
  ⟨.defaulted _ textCodec_lawful.reads_back _,
    .defaulted _ (listCodec_lawful EnclosingDescription.codec_lawful).reads_back _,
    .required _ textCodec_lawful.reads_back,
    .defaulted _ Visibility.codec_lawful.reads_back _,
    .defaulted _ (optionCodec_readsBack DaggerModuleDescription.codec_lawful) _,
    .required _ Location.codec_lawful.reads_back, trivial⟩

/-- Descriptions of modules survive JSON. -/
theorem ModuleDescription.codec_lawful : ModuleDescription.codec.Lawful :=
  recordCodec_lawful ModuleDescription.fields_lawful (by decide) fun _ => rfl

/-- A round may leave out its classes, its modules or both. -/
theorem RoundDescription.fields_lawful : RoundDescription.fields.Lawful :=
  ⟨.defaulted _ (listCodec_lawful ClassDescription.codec_lawful).reads_back _,
    .defaulted _ (listCodec_lawful ModuleDescription.codec_lawful).reads_back _, trivial⟩

/-- Rounds survive JSON. -/
theorem RoundDescription.codec_lawful : RoundDescription.codec.Lawful :=
  recordCodec_lawful RoundDescription.fields_lawful (by decide) fun _ => rfl

/-- Each option has a default of its own. -/
theorem Options.fields_lawful : Options.fields.Lawful :=
  ⟨.defaulted _ booleanCodec_lawful.reads_back _,
    .defaulted _ booleanCodec_lawful.reads_back _,
    .defaulted _ textCodec_lawful.reads_back _,
    .defaulted _ NestingStyle.codec_lawful.reads_back _, trivial⟩

/-- Options survive JSON as data; whether their marker is a class is looked at afterwards. -/
theorem Options.codec_lawful : Options.codec.Lawful :=
  recordCodec_lawful Options.fields_lawful (by decide) fun _ => rfl

/-- Descriptions and options survive JSON.  A round is decoded from the text that it is encoded as.
Options are read from theirs when the type of their marker is a class; else they are refused for
what is wrong with that type, whether a marker is asked for or not. -/
theorem descriptions_and_options_read_back :
    (∀ round : RoundDescription,
      RoundDescription.codec.decode (RoundDescription.codec.encode round) = .ok round) ∧
    ∀ options : Options,
      Options.read (Options.codec.encode options) =
        match ClassName.read options.markerType with
        | .ok _ => .ok options
        | .error fault => .error (.badMarkerType fault) := by
  refine ⟨decode_encode RoundDescription.codec_lawful.reads_back, fun options => ?_⟩
  have hdecode := decode_encode Options.codec_lawful.reads_back options
  simp only [Options.read, hdecode]
  cases ClassName.read options.markerType <;> rfl

end AssistedWorkers
