import ScopedResources.Text.Blank

/-!
# Process environment

The environment is a list of entries `name=value`. A variable is found by the first entry that
begins with its name and an equals sign, so the text in front of a later equals sign of an entry
names the rest of it as well. Values are bytes; a value that is no UTF-8 text counts as absent for
readers of text. -/

namespace ScopedResources

/-- The variables of a process, in the order in which they were set. -/
structure Environment where
  entries : List (String × ByteArray) := []

namespace Environment

def entryBytes (entry : String × ByteArray) : List UInt8 :=
  (entry.1 ++ "=").toUTF8.toList ++ entry.2.toList

/-- What follows `start` in `bytes`. -/
def afterStart? : List UInt8 → List UInt8 → Option (List UInt8)
  | [], rest => some rest
  | b :: start, c :: bytes => if b = c then afterStart? start bytes else none
  | _ :: _, [] => none

def value? (env : Environment) (name : String) : Option ByteArray :=
  if name.isEmpty || name.toList.contains (Char.ofNat 0) then none
  else
    (env.entries.findSome? fun entry =>
      afterStart? (name ++ "=").toUTF8.toList (entryBytes entry)).map
      fun bytes => ⟨bytes.toArray⟩

def text? (env : Environment) (name : String) : Option String :=
  (env.value? name).bind String.fromUTF8?

/-- The value of a variable, if it is a text that is not blank. -/
def nonBlank? (env : Environment) (name : String) : Option String :=
  (env.text? name).filter fun value => !Text.isAllBlank value

def unset (env : Environment) (name : String) : Environment :=
  ⟨env.entries.filter fun entry => entry.1 ≠ name⟩

def set (env : Environment) (name : String) (value : ByteArray) : Environment :=
  if env.entries.any fun entry => entry.1 = name then
    ⟨env.entries.map fun entry => if entry.1 = name then (name, value) else entry⟩
  else ⟨env.entries ++ [(name, value)]⟩

end Environment

end ScopedResources
