/-
Module: SqlMapper.Store.Settings
Purpose: The settings of a store, and the places they are read from.
Main exports: Settings, Settings.fromVariables, SettingsError, Settings.fromJson?, Settings.read
-/
import SqlMapper.Files.Tree
import SqlMapper.Json.Source
import SqlMapper.Text.Blank

namespace SqlMapper

open SqlMapper.Files SqlMapper.Text

/-- The settings of a store: the directory that holds the mapper files, if it is
known. -/
structure Settings where
  mapPath : Option String
deriving Repr, Inhabited, DecidableEq

/-- Why settings cannot be read from a file. -/
inductive SettingsError where
  | unreadable (path : String) (cause : FileError)
  | notSettings (path : String)
deriving Repr, Inhabited, DecidableEq

/-- The message for a settings file that cannot be read. -/
def SettingsError.message : SettingsError → String
  | .unreadable path cause =>
      let reason := cause.message
      s!"Failed to read settings file {path}: {reason}"
  | .notSettings path => s!"Failed to parse settings file {path}"

namespace Settings

/-- Nothing is set. -/
def unset : Settings := ⟨none⟩

/-- The variable that names the directory of the mapper files. -/
def mapPathVariable : String := "QUARRY_MAP_PATH"

/-- The settings in a set of variables: a path without the blanks around it, and
none if nothing else is there. -/
def fromVariables (lookup : String → Option String) : Settings :=
  match lookup mapPathVariable with
  | none => unset
  | some value =>
      let path := trim value.toList
      if path.isEmpty then unset else ⟨some (String.ofList path)⟩

/-- What is set here, and elsewhere what is set there. -/
def orElse (here there : Settings) : Settings := ⟨here.mapPath.or there.mapPath⟩

/-! ### Settings files

A settings file holds a JSON object with at most one field `map_path`, a text or
null, or a list of at most that value. What other fields hold does not matter,
so that numbers of any size and incomplete characters may stand in them; their
names have to be complete.
-/

/-- The name of the field with the directory of the mapper files. -/
def mapPathField : String := "map_path"

/-- The path that a value stands for: a text, or none if it is null. -/
def path? : Json.Source → Option (Option String)
  | .null => some none
  | .string (some path) => some (some path)
  | _ => none

/-- The settings that a JSON text stands for. -/
def fromJson? : Json.Source → Option Settings
  | .array [] => some unset
  | .array [value] => (path? value).map Settings.mk
  | .object fields =>
      if fields.any (·.1.isNone) then none
      else match fields.filter (·.1 == some mapPathField) with
        | [] => some unset
        | [(_, value)] => (path? value).map Settings.mk
        | _ => none
  | _ => none

/-- Read a settings file. -/
def read (files : FileTree) (path : String) : Except SettingsError Settings :=
  match files.readText path with
  | .error cause => .error (.unreadable path cause)
  | .ok text =>
      match (Json.Source.read? text).bind fromJson? with
      | some settings => .ok settings
      | none => .error (.notSettings path)

end Settings

end SqlMapper
