import TextGrammar.Text.Integer

/-!
Values that grammars produce. `content` is the text that a value holds, read depth first from left
to right.
-/

namespace TextGrammar

inductive Value
  | text (content : Text)
  | unit
  | integer (number : Int)
  | boolean (truth : Bool)
  | pair (first second : Value)
  | list (items : List Value)
  | tagged (tag : Text) (value : Value)
  | optional (value : Option Value)

namespace Value

mutual

def content : Value → Text
  | .text content => content
  | .unit => []
  | .integer number => decimal number
  | .boolean truth => if truth then ['t', 'r', 'u', 'e'] else ['f', 'a', 'l', 's', 'e']
  | .pair first second => first.content ++ second.content
  | .list items => contentOfList items
  | .tagged _ value => value.content
  | .optional none => []
  | .optional (some value) => value.content

def contentOfList : List Value → Text
  | [] => []
  | item :: rest => item.content ++ contentOfList rest

end

end Value

end TextGrammar
