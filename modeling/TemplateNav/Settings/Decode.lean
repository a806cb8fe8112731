import TemplateNav.Decimal.Layout
import TemplateNav.Json
import TemplateNav.Settings.Basic
import TemplateNav.Text.Quoted

/-!
# Reading settings

A record of settings is given as an object, whose unknown members are ignored,
or as an array of its fields in their fixed order.  What is not given keeps its
default.  The first member that cannot be read is reported.
-/

namespace TemplateNav

/-- What a value was expected to be. -/
inductive ExpectedKind where
  | settings
  | cacheSettings
  | performanceSettings
  /-- A whole number of 64 bits. -/
  | word
  /-- A whole number that counts things. -/
  | size
  deriving DecidableEq

/-- The name of what was expected. -/
def ExpectedKind.label : ExpectedKind → String
  | settings => "struct EjsConfiguration"
  | cacheSettings => "struct CacheSettings"
  | performanceSettings => "struct PerformanceSettings"
  | word => "u64"
  | size => "usize"

/-- Why settings were refused. -/
inductive SettingsError where
  /-- The value is of another kind than expected. -/
  | wrongKind (found : Json) (expected : ExpectedKind)
  /-- The number is negative. -/
  | negative (value : Int) (expected : ExpectedKind)
  /-- The array has more elements than the record has fields. -/
  | tooLong (length : Nat)

namespace SettingsError

/-- Numbers from `0.00001` on and below `10 ^ 16` are written without a power of ten. -/
def decimalLayout : Decimal.Layout where
  least := -5
  greatest := 15

/-- What kind of value was found, and which. -/
def found : Json → String
  | .null => "null"
  | .bool value => "boolean `" ++ (if value then "true" else "false") ++ "`"
  | .integer value => "integer `" ++ toString value ++ "`"
  | .decimal value => "floating point `" ++ decimalLayout.render value ++ "`"
  | .string value => "string " ++ String.ofList (Text.quoted value.toList)
  | .array _ => "sequence"
  | .object _ => "map"

/-- The message for a client. -/
def message : SettingsError → String
  | wrongKind value expected =>
    "invalid type: " ++ found value ++ ", expected " ++ expected.label
  | negative value expected =>
    "invalid value: integer `" ++ toString value ++ "`, expected " ++ expected.label
  | tooLong length => s!"invalid length {length}, expected fewer elements in array"

end SettingsError

namespace Settings

/-- Reads a whole number that fits 64 bits. -/
def readNatural (expected : ExpectedKind) : Json → Except SettingsError Nat
  | .integer value =>
    if value < 0 then .error (.negative value expected)
    else if value.toNat < UInt64.size then .ok value.toNat
    else .error (.wrongKind (.integer value) expected)
  | other => .error (.wrongKind other expected)

/-- A field of a record: its name, and how it is read into the record. -/
structure Field (Record : Type) where
  name : String
  read : Json → Record → Except SettingsError Record

/-- A field that holds a number. -/
def Field.natural {Record : Type} (name : String) (expected : ExpectedKind)
    (put : Nat → Record → Record) : Field Record :=
  ⟨name, fun json record => (readNatural expected json).map fun value => put value record⟩

/-- Reads the members of an object in order. -/
def readMembers {Record : Type} (fields : List (Field Record)) (record : Record) :
    List (String × Json) → Except SettingsError Record
  | [] => .ok record
  | (name, value) :: rest =>
    match fields.find? fun field => field.name == name with
    | none => readMembers fields record rest
    | some field =>
      match field.read value record with
      | .error error => .error error
      | .ok record => readMembers fields record rest

/-- Reads array elements into the fields in order, as long as there are both. -/
def readElements {Record : Type} (record : Record) :
    List (Field Record) → List Json → Except SettingsError Record
  | [], _ => .ok record
  | _, [] => .ok record
  | field :: fields, value :: rest =>
    match field.read value record with
    | .error error => .error error
    | .ok record => readElements record fields rest

/-- Reads a record from an object or an array. -/
def readRecord {Record : Type} (expected : ExpectedKind) (fields : List (Field Record))
    (standard : Record) : Json → Except SettingsError Record
  | .object members => readMembers fields standard members.entries
  | .array items =>
    match readElements standard fields items with
    | .error error => .error error
    | .ok record =>
      if fields.length < items.length then .error (.tooLong items.length) else .ok record
  | other => .error (.wrongKind other expected)

/-- The fields of the cache settings. -/
def cacheFields : List (Field CacheSettings) :=
  [.natural "capacity" .size fun value record => { record with capacity := value },
   .natural "ttlSeconds" .word fun value record => { record with ttlSeconds := value },
   .natural "sweepIntervalSeconds" .word fun value record =>
     { record with sweepIntervalSeconds := value }]

/-- The fields of the performance settings. -/
def performanceFields : List (Field PerformanceSettings) :=
  [.natural "warningThresholdMs" .word fun value record =>
     { record with warningThresholdMs := value },
   .natural "hardThresholdMs" .word fun value record => { record with hardThresholdMs := value },
   .natural "sampleWindow" .size fun value record => { record with sampleWindow := value }]

/-- The fields of the settings. -/
def fields : List (Field Settings) :=
  [.natural "queryTimeoutMs" .word fun value record => { record with queryTimeoutMs := value },
   ⟨"cache", fun json record =>
     (readRecord .cacheSettings cacheFields .standard json).map fun value =>
       { record with cache := value }⟩,
   ⟨"performance", fun json record =>
     (readRecord .performanceSettings performanceFields .standard json).map fun value =>
       { record with performance := value }⟩]

/-- The part of a client's settings that is meant for this server: the member `ejs`, or else all of
them. -/
def sectionOf (json : Json) : Json :=
  (json.member? "ejs").getD json

/-- Reads a client's settings. -/
def decode (json : Json) : Except SettingsError Settings :=
  readRecord .settings fields standard (sectionOf json)

end Settings

end TemplateNav
