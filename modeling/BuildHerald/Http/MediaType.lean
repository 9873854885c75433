import BuildHerald.Text.Lowercase

namespace BuildHerald.Http.MediaType

/-- The characters besides letters and digits that words are made of. -/
def wordSigns : List Char :=
  "!#$%&'*+-.^_\x60|~".toList

/-- Whether a word can contain a character. -/
def isWord (c : Char) : Bool :=
  c.isAlphanum || wordSigns.contains c

/-- Whether a value in quotes can contain a character. -/
def isQuotable (c : Char) : Bool :=
  ' ' ≤ c && c != '\x7f'

/-- A name and the value that it is given. -/
abbrev Parameter := List Char × List Char

/-- What the next character of a list of parameters belongs to. What is read of a word is kept with its
last character first. -/
inductive Place
  | name (read : List Char)
  | value (name read : List Char)
  /-- A value in quotes. -/
  | quoted (name read : List Char)
  /-- What is between a quoted value and the next parameter. -/
  | gap

/-- Where a reader stands, and the parameters before, last one first. -/
abbrev Progress := Place × List Parameter

/-- Takes in a character. Words must not be empty, and a quotation mark right after another one does
not end a value. -/
def step : Progress → Char → Option Progress
  | (.name read, found), c =>
      if c = ' ' ∧ read = [] then some (.name [], found)
      else if c = '=' ∧ read ≠ [] then some (.value read.reverse [], found)
      else if isWord c then some (.name (c :: read), found)
      else none
  | (.value name read, found), c =>
      if c = '"' ∧ read = [] then some (.quoted name [], found)
      else if c = ';' ∧ read ≠ [] then some (.name [], (name, read.reverse) :: found)
      else if isWord c then some (.value name (c :: read), found)
      else none
  | (.quoted name read, found), c =>
      if c = '"' ∧ read ≠ [] then some (.gap, (name, read.reverse) :: found)
      else if isQuotable c then some (.quoted name (c :: read), found)
      else none
  | (.gap, found), c =>
      if c = ';' then some (.name [], found)
      else if c = ' ' then some (.gap, found)
      else none

/-- The parameters before the end of a list, last one first. -/
def finish : Progress → Option (List Parameter)
  | (.name [], found) => some found
  | (.name (_ :: _), _) => none
  | (.value name read, found) => some ((name, read.reverse) :: found)
  | (.quoted .., _) => none
  | (.gap, found) => some found

/-- The parameters of a media type. -/
def parameters? (text : List Char) : Option (List Parameter) :=
  match text.dropWhile isWord with
  | '/' :: rest =>
      if text.head? = some '/' then none
      else
        match rest.dropWhile isWord with
        | [] => some []
        | ';' :: list =>
            if rest.head? = some ';' then none
            else ((list.foldlM step (.name [], [])).bind finish).map List.reverse
        | _ => none
  | _ => none

/-- The value of a parameter, of which the first one counts. -/
def parameter? (name : String) (text : List Char) : Option (List Char) := do
  let parameters ← parameters? text
  (parameters.find? fun p => Text.asciiLower p.1 == name.toList).map (·.2)

end BuildHerald.Http.MediaType
