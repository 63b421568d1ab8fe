import TextGrammar.Pattern.Matcher
import TextGrammar.Parser.Run

/-!
Lexers: parsers for one token that a pattern describes. The pattern is compiled alone and then
between an anchor and a group, so that it can match at the cursor only; the first compilation
refuses a pattern that would close that group. A lexer sees the remaining text and nothing before
it, so assertions take the cursor for the start of the text.
-/

namespace TextGrammar

structure Lexer where
  pattern : Text
  regex : Regex

namespace Lexer

def anchored (pattern : Text) : Text := ['\\', 'A', '(', '?', ':'] ++ pattern ++ [')']

def build (options : PatternOptions) (pattern : Text) : Except PatternError Lexer :=
  match Regex.compile options pattern with
  | .error source => .error { pattern := pattern, source := source }
  | .ok _ =>
      match Regex.compile options (anchored pattern) with
      | .error source => .error { pattern := pattern, source := source }
      | .ok regex => .ok { pattern := pattern, regex := regex }

def parse (lexer : Lexer) : Parser Text := fun cursor =>
  match lexer.regex.find cursor.remaining with
  | none =>
      { outcome := .failure
        cursor := cursor
        events := [.noMatch lexer.pattern cursor.offset] }
  | some found =>
      match cursor.tryAdvance found.last with
      | .ok (token, next) =>
          { outcome := .success token, cursor := next, events := [.matched lexer.pattern token] }
      | .error error => .panic (.misuse error) cursor

end Lexer

end TextGrammar
