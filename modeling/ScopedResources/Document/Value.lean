/-!
# Values of data documents

What a document of data holds once it is read: texts, truth values, integers, lists and tables, and
the few things that no declaration asks for.
-/

namespace ScopedResources.Document

/-- A value in a document of data. -/
inductive Value where
  | null
  | bool (b : Bool)
  | integer (n : Int)
  | fraction
  | dateTime
  | text (s : String)
  | list (items : List Value)
  | table (entries : List (String × Value))
  deriving Inhabited

end ScopedResources.Document
