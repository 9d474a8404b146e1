/-!
# Texts in parts

Results:

* `splitAt`: the parts between the occurrences of a character.
-/

namespace ServiceRegistry.Text

/-- The parts of a text between the occurrences of a character. -/
def splitAt (separator : Char) : List Char → List (List Char)
  | [] => [[]]
  | c :: rest =>
    if c == separator then [] :: splitAt separator rest
    else match splitAt separator rest with
      | [] => [[c]]
      | part :: parts => (c :: part) :: parts

end ServiceRegistry.Text
