/-!
Terminal styling inside a text: an escape character and `[`, then parameters, then intermediate characters, and
one final character.
-/

namespace FunctionStack.Text

def isStyleParameter (c : Char) : Bool := '0' ≤ c && c ≤ '?'

def isStyleIntermediate (c : Char) : Bool := ' ' ≤ c && c ≤ '/'

def isStyleFinal (c : Char) : Bool := '@' ≤ c && c ≤ '~'

/-- How many characters the styling sequence at the start of a text has; zero if there is none. -/
def stylingLength : List Char → Nat
  | escape :: '[' :: rest =>
    let parameters := rest.takeWhile isStyleParameter
    let intermediates := (rest.drop parameters.length).takeWhile isStyleIntermediate
    let width := parameters.length + intermediates.length
    match rest.drop width with
    | [] => 0
    | c :: _ => if escape = Char.ofNat 27 && isStyleFinal c then width + 3 else 0
  | _ => 0

/-- Leaves out styling sequences; `skipped` characters of one are still to come. -/
def withoutStyling : Nat → List Char → List Char
  | _, [] => []
  | skipped + 1, _ :: rest => withoutStyling skipped rest
  | 0, c :: rest =>
    match stylingLength (c :: rest) with
    | 0 => c :: withoutStyling 0 rest
    | length + 1 => withoutStyling length rest

def unstyled (text : String) : String := .ofList (withoutStyling 0 text.toList)

end FunctionStack.Text
