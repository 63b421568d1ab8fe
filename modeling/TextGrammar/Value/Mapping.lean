import TextGrammar.Value

/-!
Mappings of values. A mapping that asks for one kind of value leaves the other kinds as they are;
a mapping that may reject gives the reason.
-/

namespace TextGrammar.Value

def length : Value → Value
  | .text content => .integer (byteLength content)
  | .list items => .integer items.length
  | other => other

def flatten (value : Value) : Value := .text value.content

def increment : Value → Value
  | .integer number => .integer (number + 1)
  | other => other

def swap : Value → Value
  | .pair first second => .pair second first
  | other => other

def first : Value → Value
  | .pair first _ => first
  | other => other

def second : Value → Value
  | .pair _ second => second
  | other => other

def readInteger (range : IntegerRange) : Value → Except String Value
  | .text content =>
      match range.read content with
      | .ok number => .ok (.integer number)
      | .error error => .error error.message
  | _ => .error "not a string"

def readBoolean : Value → Except String Value
  | .text ['t', 'r', 'u', 'e'] => .ok (.boolean true)
  | .text ['f', 'a', 'l', 's', 'e'] => .ok (.boolean false)
  | _ => .error "provided string was not \x60true\x60 or \x60false\x60"

def nonempty : Value → Except String Value
  | .text [] => .error "empty value"
  | .list [] => .error "empty value"
  | other => .ok other

def reject (_ : Value) : Except String Value := .error "rejected"

end TextGrammar.Value
