import ContextBaggage.Carrier
import ContextBaggage.Text.Utf8

/-!
# The environment of the process

A variable is a line of bytes, its name and its value with an equals sign between them. It is
looked up by the beginning of its line, so a name with an equals sign may find a part of a value;
an empty name and one with a NUL find nothing. Values need not be UTF-8, and those that are not
are no texts.
-/

namespace ContextBaggage

open ContextBaggage.Text

structure Variable where
  name : String
  value : List UInt8
deriving DecidableEq

def Variable.line (v : Variable) : List UInt8 := utf8 v.name.toList ++ 0x3D :: v.value

structure Environment where
  assignments : List Variable
deriving DecidableEq

namespace Environment

/-- What follows `start` in a line that begins with it. -/
def rest? (start line : List UInt8) : Option (List UInt8) :=
  if start.isPrefixOf line then some (line.drop start.length) else none

def find? (env : Environment) (name : String) : Option (List UInt8) :=
  if name.isEmpty || name.toList.contains '\x00' then none
  else env.assignments.findSome? fun v => rest? (utf8 name.toList ++ [0x3D]) v.line

def text? (env : Environment) (name : String) : Option String := (env.find? name).bind ofUtf8?

/-- A field is read from the variable with its name in upper case. -/
def get? (env : Environment) (field : String) : Option String := env.text? (upper field)

/-- All names in lower case. Listing them reads every variable, and each must be a text. -/
def keys (env : Environment) : Except Abort (List String) :=
  if env.assignments.all fun v => (ofUtf8? v.value).isSome then
    .ok (env.assignments.map fun v => lower v.name)
  else .error .variableNotText

def extractor (env : Environment) : Extractor := ⟨env.get?, env.keys⟩

end Environment

end ContextBaggage
