import Gatekeeper.Log.Rule

/-!
# Log filters

A filter is a list of rules, written between commas. Of the rules that cover a record the most
specific one decides, and of equally specific ones the last.

* `Filter.admits` says whether a record is shown.
* `Filter.read` and `Filter.readLenient` read a filter. The first refuses a text with a part that
  denotes no rule, the second complains and leaves that part out. Neither gets past a part that a
  piece cannot be cut out of.
-/

namespace Gatekeeper.Log

/-- A list of rules, in the order in which they are written. -/
structure Filter where
  rules : List Rule
deriving DecidableEq

namespace Filter

/-- The rule that decides on a record. -/
def deciding (filter : Filter) (record : Record) : Option Rule :=
  (filter.rules.filter (·.covers record)).foldl
    (fun best rule =>
      match best with
      | none => some rule
      | some earlier => if rule.outranks earlier then some rule else best)
    none

/-- The record is shown. -/
def admits (filter : Filter) (record : Record) : Bool :=
  match filter.deciding record with
  | none => false
  | some rule => rule.threshold.admits record.severity

/-- The parts of a filter between its commas, the empty ones left out. -/
def parts (text : String) : List (List Char) :=
  (Text.split ',' text.toList).filter (!·.isEmpty)

/-- The filter that a text denotes if all of its parts do. -/
def read (text : String) : Rule.Reading Filter := do
  return ⟨← (parts text).mapM Rule.ofPart⟩

/-- What is said of a part that denotes no rule. -/
def complaint (part : List Char) (fault : Rule.Fault) : String :=
  "ignoring `" ++ String.ofList part ++ "`: " ++ fault.message

/-- The complaints about the parts that denote no rule, and the rules of those that do. At a part
that a piece cannot be cut out of reading ends, and with it complaining. -/
def readParts : List (List Char) → List String × Except Rule.Cut (List Rule)
  | [] => ([], .ok [])
  | part :: parts =>
    match (Rule.ofPart part).run with
    | .error cut => ([], .error cut)
    | .ok (.error fault) =>
      let (complaints, rules) := readParts parts
      (complaint part fault :: complaints, rules)
    | .ok (.ok rule) =>
      let (complaints, rules) := readParts parts
      (complaints, rules.map (rule :: ·))

/-- The complaints about the parts that denote no rule, and the filter of those that do. Where no
part does, errors are shown. -/
def readLenient (text : String) : List String × Except Rule.Cut Filter :=
  let (complaints, rules) := readParts (parts text)
  (complaints, rules.map fun rules =>
    ⟨if rules.isEmpty then [⟨none, .all, some .error⟩] else rules⟩)

end Filter

end Gatekeeper.Log
