import ClientSynth.Document.Read

/-!
# Settings of the generator

The names of the client object and of the modules that generated code imports, and which of the
optional artifacts there are.
-/

namespace ClientSynth

/-- Settings of the generator. -/
structure Settings where
  clientName : String
  clientImport : String
  clientFactoryImport : String
  queryLibrary : String
  includeTypes : Bool
  includeHooks : Bool
  deriving DecidableEq

namespace Settings

/-- The settings that a record is. -/
def read (v : Value) : Settings where
  clientName := (v.field "client_name").text?.getD ""
  clientImport := (v.field "client_import").text?.getD ""
  clientFactoryImport := (v.field "client_factory_import").text?.getD ""
  queryLibrary := (v.field "query_library").text?.getD ""
  includeTypes := (v.field "include_types").isTrue
  includeHooks := (v.field "include_hooks").isTrue

/-- Settings as a record in written form. -/
def value (s : Settings) : Value :=
  .object
    [("client_name", .text s.clientName),
     ("client_import", .text s.clientImport),
     ("client_factory_import", .text s.clientFactoryImport),
     ("query_library", .text s.queryLibrary),
     ("include_types", .bool s.includeTypes),
     ("include_hooks", .bool s.includeHooks)]

/-- The settings that nothing sets. -/
def default : Settings :=
  read (RecordName.defaults RecordName.settingsFields)

/-- The settings that a value is, or all rejections in it. -/
def ofValue (v : Value) : Except (List Rejection) Settings :=
  (v.conform (.record .settings)).map read

end Settings

end ClientSynth
