/-!
# String literals

The two ways to write a text between single quotes: the standard one doubles a quote, the other
puts a backslash before quotes and backslashes and spells the NUL character.
-/

namespace SqlCompose.Text

def doubledChar (c : Char) : List Char := if c = '\'' then ['\'', '\''] else [c]

def backslashedChar (c : Char) : List Char :=
  if c = '\\' ∨ c = '\'' ∨ c = '"' then ['\\', c]
  else if c = '\x00' then ['\\', '0']
  else [c]

/-- The text between single quotes, each character written as `write` says. -/
def quoteWith (write : Char → List Char) (s : String) : String :=
  String.ofList (['\''] ++ s.toList.flatMap write ++ ['\''])

def quoteDoubled : String → String := quoteWith doubledChar

def quoteBackslashed : String → String := quoteWith backslashedChar

end SqlCompose.Text
