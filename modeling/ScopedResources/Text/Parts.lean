/-!
# Cutting a text at marks

A text is cut at every mark, or once at the last one. The marks themselves belong to no part.
-/

namespace ScopedResources.Text

/-- The parts of a text between the characters that `isMark` names; there is always at least one. -/
def parts (isMark : Char → Bool) : List Char → List (List Char)
  | [] => [[]]
  | c :: rest =>
    if isMark c then [] :: parts isMark rest
    else match parts isMark rest with
      | [] => [[c]]
      | first :: others => (c :: first) :: others

/-- What stands before and after the last `mark`, if there is one. -/
def splitAtLast? (mark : Char) (s : List Char) : Option (List Char × List Char) :=
  match s.reverse.dropWhile (· ≠ mark) with
  | [] => none
  | _ :: before => some (before.reverse, s.drop (before.length + 1))

/-- What stands before and after the first `mark`, if there is one. -/
def splitAtFirst? (mark : Char) (s : List Char) : Option (List Char × List Char) :=
  match s.dropWhile (· ≠ mark) with
  | [] => none
  | _ :: after => some (s.takeWhile (· ≠ mark), after)

end ScopedResources.Text
