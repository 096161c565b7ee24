import FactIntake.Text.Blank

/-!
Paths that designate standard input: the last component is a hyphen with a recognised extension.
-/

namespace FactIntake.Sentinel

/-- What follows the last slash of a path, or the whole path. -/
def baseName (path : List Char) : List Char :=
  (path.reverse.takeWhile (· != '/')).reverse

/-- Whether cutting the extension and its point off the end leaves a hyphen. -/
def cutLeavesHyphen (name extension : List Char) : Bool :=
  ('.' :: extension).isSuffixOf name && name.take (name.length - (extension.length + 1)) == ['-']

/-- Whether a path designates standard input. -/
def isStdin (path : String) (extensions : List String) : Bool :=
  extensions.any fun extension => cutLeavesHyphen (baseName path.toList) extension.toList

end FactIntake.Sentinel
