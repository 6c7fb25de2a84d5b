import Gatekeeper.Environment
import Gatekeeper.Text.Basic

/-!
# Settings

What the environment says about a run: which configuration file to use and how much to log. A
variable is a setting if its name starts with `SENDER_GATE__`, in either case. The rest of the name
is a path into the settings, its steps between double underscores; where a path leads below a
setting, that setting is no text any more.

`pathOf` is the path that a name stands for and `ofVariable` what a variable makes of a setting: a
text, a map or a sequence (`Shape`). `find` looks for the last variable that makes the setting, and
`ofEnvironment` asks for texts. A variable may ask for an item that no sequence can have;
`isUnreachable` tells such names.
-/

namespace Gatekeeper

/-- The settings of a run. -/
structure Settings where
  configPath : Option String
  logLevel : Option String
deriving DecidableEq

namespace Settings

/-- What a setting is. -/
inductive Shape where
  | text (value : String)
  | map
  | sequence
deriving DecidableEq

/-- A setting that is no text. -/
structure Fault where
  setting : String
  isMap : Bool
deriving DecidableEq

/-- The words for a fault. -/
def Fault.message (fault : Fault) : String :=
  let shape := if fault.isMap then "map" else "sequence"
  "invalid type: " ++ shape ++ ", expected a string for key `" ++ fault.setting ++ "`"

/-- The words for a fault, from the most general to the most particular. -/
def Fault.chain (fault : Fault) : List String :=
  ["Failed to deserialize settings", fault.message]

/-- A character in lower case. Beside the ASCII letters only the Kelvin sign has an ASCII one. -/
def lower (c : Char) : Char :=
  if c == '\u212a' then 'k' else c.toLower

/-- What the names of all settings start with. -/
def marker : List Char := "sender_gate__".toList

/-- A name with a point for each double underscore. -/
def dotted : List Char → List Char
  | '_' :: '_' :: cs => '.' :: dotted cs
  | c :: cs => c :: dotted cs
  | [] => []

/-- A character of a step of a path. -/
def isStepChar (c : Char) : Bool :=
  c.isAlphanum || c == '_' || c == '-' || c == ' '

/-- A step of a path: a name, and the indices of items in brackets after it. -/
structure Step where
  name : String
  indices : List Int
deriving DecidableEq

/-- The first number that is too large for an index of 64 bits, one of them the sign. -/
def indexBound : Nat := 0x8000000000000000

/-- A space or a tab. -/
def isGap (c : Char) : Bool := c == ' ' || c == '\t'

/-- An index of 64 bits, with a sign if it is negative and gaps around it. -/
def readIndex (text : List Char) : Option Int :=
  let text := ((text.dropWhile isGap).reverse.dropWhile isGap).reverse
  let negative := text.head? = some '-'
  let digits := if negative then text.drop 1 else text
  let value := Text.natural digits
  if digits.isEmpty || !digits.all Char.isDigit then none
  else if negative then if value ≤ indexBound then some (-(value : Int)) else none
  else if value < indexBound then some value
  else none

/-- Indices in brackets, any number of them. -/
def readIndices (text : List Char) : Option (List Int) :=
  let pieces := Text.split ']' text
  if pieces.getLast? = some [] then
    pieces.dropLast.mapM fun piece =>
      match piece with
      | '[' :: index => readIndex index
      | _ => none
  else none

/-- A step, if the text is one. -/
def readStep (text : List Char) : Option Step :=
  let name := text.takeWhile isStepChar
  if name.isEmpty then none
  else (readIndices (text.drop name.length)).map (⟨String.ofList name, ·⟩)

/-- The path that the name of a variable spells, if the variable is a setting. -/
def pathOf (name : String) : Option (List Step) :=
  let name := name.toList.map lower
  if marker.isPrefixOf name then
    (Text.split '.' (dotted (name.drop marker.length))).mapM readStep
  else none

/-- The setting that a path leads to or below, and what it is made by a value at the path's end. -/
def settingAt (value : String) : List Step → Option (String × Shape)
  | [] => none
  | step :: below =>
    let shape :=
      if !step.indices.isEmpty then .sequence else if below.isEmpty then .text value else .map
    some (step.name, shape)

/-- The setting that a variable makes, if it makes one. -/
def ofVariable (name value : String) : Option (String × Shape) :=
  (pathOf name).bind (settingAt value)

/-- The items that a sequence can at most hold: as many as fit, at 96 bytes each, into the memory
that 63 bits address. -/
def maxItems : Nat := 96076792050570581

/-- An index leads to an item. A sequence is empty until a path asks for an item and grows as far as
it has to; so there is nothing to count back from its end. -/
def isReachable (index : Int) : Bool := 0 ≤ index && index < maxItems

/-- The name of a variable is a path on which some index leads to no item. -/
def isUnreachable (name : String) : Bool :=
  match pathOf name with
  | none => false
  | some path => path.any fun step => step.indices.any (!isReachable ·)

/-- What the variables make of a setting; the last one counts. -/
def find (env : Environment) (setting : String) : Option Shape :=
  (env.filterMap fun (name, value) => ofVariable name value).reverse.lookup setting

/-- A setting as a text. -/
def textOf (setting : String) : Option Shape → Except Fault (Option String)
  | none => .ok none
  | some (.text value) => .ok (some value)
  | some .map => .error ⟨setting, true⟩
  | some .sequence => .error ⟨setting, false⟩

/-- The settings that an environment makes. -/
def ofEnvironment (env : Environment) : Except Fault Settings := do
  let configPath ← textOf "config_path" (find env "config_path")
  let logLevel ← textOf "log_level" (find env "log_level")
  return ⟨configPath, logLevel⟩

end Settings

end Gatekeeper
