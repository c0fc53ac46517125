import SampleForge.Settings.Document
import SampleForge.Generation.Request
import SampleForge.Files.OsError
import SampleForge.Text.Quoted

/-!
# The settings of a file

A settings file may have the tables `generate` and `bench`, every key of them is optional, and no
other key is allowed.  `settingsOfText` fits a document to these sections in the order of the document;
the first misfit is the answer.  A section may also be an array that gives the values in the order of
the keys.  Settings that fit are then held to limits.

`Section.fit` and the functions that fit single values stand for what the packages `toml` and `serde` make
of a document, with their texts for a misfit.  Their agreement was tested and is not proved.
-/

namespace SampleForge

open Files Numeric Settings

/-- The settings of generating. -/
structure GenerateSettings where
  count : Option UInt32
  seed : Option Int64
  out : Option String
  training : Option String
  maxDepth : Option UInt32
deriving DecidableEq

/-- The settings of benchmarks. -/
structure BenchSettings where
  tool : Option String
  runs : Option UInt32
  dirs : Option (List String)
deriving DecidableEq

/-- What a settings file settles. -/
structure HarnessSettings where
  generate : GenerateSettings
  bench : BenchSettings
deriving DecidableEq

def GenerateSettings.unset : GenerateSettings := ⟨none, none, none, none, none⟩

def BenchSettings.unset : BenchSettings := ⟨none, none, none⟩

def HarnessSettings.unset : HarnessSettings := ⟨.unset, .unset⟩

/-- Why a document does not fit the sections. -/
inductive Misfit where
  | unknownField (name : String) (known : List String)
  | invalidType (found expected : String)
  | invalidValue (found : Int) (expected : String)
  | invalidLength (length : Nat) (expected : String)
deriving DecidableEq

/-- A name between back quotes. -/
def backQuoted (name : String) : String := "`" ++ name ++ "`"

/-- The names a key may have. -/
def listNames : List String → String
  | [a, b] => backQuoted a ++ " or " ++ backQuoted b
  | names => "one of " ++ String.intercalate ", " (names.map backQuoted)

def Misfit.message : Misfit → String
  | .unknownField name known => "unknown field " ++ backQuoted name ++ ", expected " ++ listNames known
  | .invalidType found expected => "invalid type: " ++ found ++ ", expected " ++ expected
  | .invalidValue found expected =>
    "invalid value: integer " ++ backQuoted (toString found) ++ ", expected " ++ expected
  | .invalidLength length expected =>
    "invalid length " ++ toString length ++ ", expected " ++ expected

/-- What a value is, in words. -/
def Settings.Value.describe : Value → String
  | .integer i => "integer " ++ backQuoted (toString i)
  | .float x => "floating point " ++ backQuoted (x.write .pointed)
  | .boolean b => "boolean " ++ backQuoted (if b then "true" else "false")
  | .text s => "string " ++ Text.quoted s
  | .dateTime => "map"
  | .array _ => "sequence"
  | .table _ _ => "map"
  | .tables _ => "sequence"

/-- Fits a value to a type of its own. -/
abbrev Fit (α : Type) := Value → Except Misfit α

def misfit {α : Type} (expected : String) (value : Value) : Except Misfit α :=
  .error (.invalidType value.describe expected)

def fitUInt32 : Fit UInt32
  | .integer i =>
    if 0 ≤ i ∧ i < 4294967296 then .ok (UInt32.ofNat i.toNat) else .error (.invalidValue i "u32")
  | value => misfit "u32" value

def fitInt64 : Fit Int64
  | .integer i => .ok (Int64.ofInt i)
  | value => misfit "i64" value

def fitPath : Fit String
  | .text s => .ok s
  | value => misfit "path string" value

/-- Lists of tables are sequences like arrays. -/
def Settings.Value.items? : Value → Option (List Value)
  | .array items => some items
  | .tables latest => some (latest.reverse.map (.table .defined))
  | _ => none

def fitPaths (value : Value) : Except Misfit (List String) :=
  match value.items? with
  | some items => items.mapM fitPath
  | none => misfit "a sequence" value

/-- A section with fields in a fixed order, each taken over into the record by a fitting function. -/
structure Section (α : Type) where
  name : String
  empty : α
  fields : List (String × (α → Value → Except Misfit α))

namespace Section

variable {α : Type}

/-- How the section is called where its fields are to be given in order. -/
def describeLength (s : Section α) : String :=
  "struct " ++ s.name ++ " with " ++ toString s.fields.length ++ " elements"

/-- Fits the entries of a table, in their order. -/
def fitEntries (s : Section α) (entries : Entries) : Except Misfit α :=
  entries.foldlM (fun record entry =>
    match s.fields.lookup entry.1 with
    | none => .error (.unknownField entry.1 (s.fields.map Prod.fst))
    | some fit => fit record entry.2) s.empty

/-- Fits the items of a sequence to the fields in order; surplus items mean nothing. -/
def fitItems (s : Section α) (items : List Value) : Except Misfit α := do
  let record ← (s.fields.zip items).foldlM (fun record pair => pair.1.2 record pair.2) s.empty
  if items.length < s.fields.length then .error (.invalidLength items.length s.describeLength)
  else pure record

/-- The only key under which a date or time shows itself as a table. -/
def dateTimeKey : String := "$__toml_private_datetime"

/-- Fits a value to a section. -/
def fit (s : Section α) (value : Value) : Except Misfit α :=
  match value with
  | .table _ entries => s.fitEntries entries
  | .array items => s.fitItems items
  | .tables latest => s.fitItems (latest.reverse.map (.table .defined))
  | .dateTime => .error (.unknownField dateTimeKey (s.fields.map Prod.fst))
  | other => misfit ("struct " ++ s.name) other

end Section

def generateSection : Section GenerateSettings where
  name := "GenerateSection"
  empty := .unset
  fields :=
    [("count", fun r v => do pure { r with count := some (← fitUInt32 v) }),
      ("seed", fun r v => do pure { r with seed := some (← fitInt64 v) }),
      ("out", fun r v => do pure { r with out := some (← fitPath v) }),
      ("training", fun r v => do pure { r with training := some (← fitPath v) }),
      ("max_depth", fun r v => do pure { r with maxDepth := some (← fitUInt32 v) })]

def benchSection : Section BenchSettings where
  name := "BenchSection"
  empty := .unset
  fields :=
    [("curlee", fun r v => do pure { r with tool := some (← fitPath v) }),
      ("runs", fun r v => do pure { r with runs := some (← fitUInt32 v) }),
      ("dirs", fun r v => do pure { r with dirs := some (← fitPaths v) })]

def harnessSection : Section HarnessSettings where
  name := "HarnessConfig"
  empty := .unset
  fields :=
    [("generate", fun r v => do pure { r with generate := ← generateSection.fit v }),
      ("bench", fun r v => do pure { r with bench := ← benchSection.fit v })]

/-- The largest count a settings file may ask for. -/
def settingCountLimit : UInt32 := 9999

/-- A setting beyond its limits. -/
inductive LimitError where
  | countOutOfRange (count : UInt32)
  | depthAboveLimit (depth : UInt32)
  | zeroRuns
deriving DecidableEq

def LimitError.message : LimitError → String
  | .countOutOfRange count =>
    "generate.count must be between 1 and " ++ toString settingCountLimit.toNat ++ ", got " ++
      toString count.toNat
  | .depthAboveLimit depth =>
    "generate.max_depth must be <= " ++ toString depthLimit.toNat ++ ", got " ++ toString depth.toNat
  | .zeroRuns => "bench.runs must be >= 1"

/-- Holds the count, the depth bound and the number of runs to their limits, in this order. -/
def HarnessSettings.check (settings : HarnessSettings) : Except LimitError Unit := do
  match settings.generate.count with
  | some count => if count = 0 ∨ settingCountLimit < count then throw (.countOutOfRange count)
  | none => pure ()
  match settings.generate.maxDepth with
  | some depth => if depthLimit < depth then throw (.depthAboveLimit depth)
  | none => pure ()
  if settings.bench.runs = some 0 then throw .zeroRuns

/-- Why no settings could be had from a file. -/
inductive SettingsError where
  | unreadable (path : String) (error : ReadError)
  | malformed (path : String)
  | misfit (path : String) (cause : Misfit)
  | invalid (cause : LimitError)
deriving DecidableEq

def SettingsError.message : SettingsError → String
  | .unreadable path error => "failed to read config file " ++ path ++ ": " ++ error.message
  | .malformed path => "failed to parse config file " ++ path
  | .misfit path cause => "failed to parse config file " ++ path ++ ": " ++ cause.message
  | .invalid cause => "invalid config value: " ++ cause.message

/-- The settings a text stands for; the path is the one its file was found under. -/
def settingsOfText (path text : String) : Except SettingsError HarnessSettings := do
  match readDocument? text with
  | none => throw (.malformed path)
  | some entries =>
    let settings ← (harnessSection.fitEntries entries).mapError (.misfit path)
    settings.check.mapError .invalid
    pure settings

/-- The settings of a file, from what reading it gave. -/
def settingsOfFile (path : String) (content : Except ReadError String) :
    Except SettingsError HarnessSettings := do
  let text ← content.mapError (.unreadable path)
  settingsOfText path text

end SampleForge
