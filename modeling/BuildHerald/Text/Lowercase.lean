import BuildHerald.Text.Lowercase.Table

namespace BuildHerald.Text.Lowercase

/-- The lower-case form of a character regarded on its own. Only the dotted capital I has one of two
characters. -/
def char (c : Char) : List Char :=
  if c = 'İ' then ['i', '\u0307']
  else
    match runs.find? fun r => r.first ≤ c.toNat && c.toNat ≤ r.last &&
        (c.toNat - r.first) % r.step == 0 with
    | some r => [Char.ofNat (c.toNat + r.shift).toNat]
    | none => [c]

/-- Whether the first character that is not Case_Ignorable is Cased. -/
def leadsToCased (text : List Char) : Bool :=
  match text.dropWhile caseIgnorable.contains with
  | c :: _ => cased.contains c
  | [] => false

/-- Lower-cases the rest of a text; `before` holds what precedes it, nearest character first. A
capital sigma becomes a final one where a cased character precedes it and none follows. -/
def continuing (before : List Char) : List Char → List Char
  | [] => []
  | c :: rest =>
      let lowered :=
        if c = 'Σ' then
          if leadsToCased before && !leadsToCased rest then ['ς'] else ['σ']
        else char c
      lowered ++ continuing (c :: before) rest

end BuildHerald.Text.Lowercase

namespace BuildHerald.Text

/-- Full lower-casing, independent of language. -/
def lower (text : List Char) : List Char :=
  Lowercase.continuing [] text

/-- ASCII letters in lower case, everything else unchanged. -/
def asciiLower (text : List Char) : List Char :=
  text.map Char.toLower

end BuildHerald.Text
