namespace BuildHerald.Text

/-- What a piece of a text may look like. Where a pattern fits in several ways, earlier alternatives are
preferred to later ones, presence to absence, and more repetitions to fewer. -/
inductive Pattern
  /-- One character of a kind. -/
  | one (isKind : Char → Bool)
  /-- These letters. -/
  | word (letters : List Char)
  | both (first second : Pattern)
  | either (first second : Pattern)
  | perhaps (pattern : Pattern)
  /-- One or more of them in a row. -/
  | many (pattern : Pattern)

namespace Pattern

/-- What may be left of a text after one step or more of them, first after more steps. A step that takes
nothing is the last one. -/
def repeated (step : List Char → List (List Char)) (text : List Char) : List (List Char) :=
  (step text).flatMap fun rest =>
    if rest.length < text.length then repeated step rest ++ [rest] else [rest]
termination_by text.length

/-- What may be left of a text after the pattern, in order of preference. -/
def rests : Pattern → List Char → List (List Char)
  | one isKind, c :: rest => if isKind c then [rest] else []
  | one _, [] => []
  | word letters, text => if letters.isPrefixOf text then [text.drop letters.length] else []
  | both first second, text => (first.rests text).flatMap second.rests
  | either first second, text => first.rests text ++ second.rests text
  | perhaps pattern, text => pattern.rests text ++ [text]
  | many pattern, text => repeated pattern.rests text

/-- Whether the pattern fits a text as a whole. -/
def fitsAll (pattern : Pattern) (text : List Char) : Bool :=
  (pattern.rests text).any List.isEmpty

end Pattern

end BuildHerald.Text
