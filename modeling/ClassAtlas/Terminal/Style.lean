import ClassAtlas.Terminal.Colour

/-!
Style definitions: attributes, a colour, a background colour and a link, in words.

Styles have no effect on what is shown here. What matters is when two definitions say the same: a
definition has a normal form, in which attributes have their full names and stand in a fixed order.
-/

namespace ClassAtlas

/-- A style. -/
structure Style where
  /-- Attributes that are turned on or off, the latest first. -/
  attributes : List (String × Bool) := []
  colour : Option String := none
  background : Option String := none
  link : Option String := none

namespace Style

/-- Attributes in the order of the normal form, with their spellings. -/
def attributeSpellings : List (String × List String) := [
  ("bold", ["bold", "b"]),
  ("dim", ["dim", "d"]),
  ("italic", ["italic", "i"]),
  ("underline", ["underline", "u"]),
  ("blink", ["blink"]),
  ("blink2", ["blink2"]),
  ("reverse", ["reverse", "r"]),
  ("conceal", ["conceal", "c"]),
  ("strike", ["strike", "s"]),
  ("underline2", ["underline2", "uu"]),
  ("frame", ["frame"]),
  ("encircle", ["encircle"]),
  ("overline", ["overline", "o"])]

/-- The attribute with a spelling. -/
def attribute? (word : String) : Option String :=
  (attributeSpellings.find? fun (_, spellings) => spellings.contains word).map (·.1)

/-- Turns the attribute with a spelling on or off. -/
def withAttribute? (style : Style) (word : String) (isOn : Bool) : Option Style :=
  (attribute? word).map fun name => { style with attributes := (name, isOn) :: style.attributes }

/-- A style with a word that stands alone: an attribute or a colour. -/
def withWord? (style : Style) (word : String) : Option Style :=
  match style.withAttribute? word true with
  | some style => some style
  | none => if Colour.isColour word then some { style with colour := some word } else none

/-- The words that say what the next word is. -/
def leads : List String := ["on", "not", "link"]

/-- A style with a word after one that says what it is. -/
def withLedWord? (style : Style) (lead word : String) : Option Style :=
  if lead == "on" then
    let background := Text.lower word
    if Colour.isColour background then some { style with background := some background } else none
  else if lead == "not" then style.withAttribute? word false
  else some { style with link := some word }

/-- Reads the words of a definition after what was read before, given the word that says what the next
one is; absent if they are none. -/
def readWords? (style : Style) : Option String → List String → Option Style
  | none, [] => some style
  | some _, [] => none
  | some lead, word :: rest => (style.withLedWord? lead word).bind (readWords? · none rest)
  | none, word :: rest =>
    let word := Text.lower word
    if leads.contains word then readWords? style (some word) rest
    else (style.withWord? word).bind (readWords? · none rest)

/-- The words of a text between blanks. -/
def wordsOf (text : String) : List String :=
  ((Text.pieces Text.isBlank text.toList).filter (!·.isEmpty)).map String.ofList

/-- Reads a definition. -/
def parse? (definition : String) : Option Style :=
  let words := wordsOf definition
  if words == ["none"] then some {} else readWords? {} none words

/-- The normal form of a style. -/
def render (style : Style) : String :=
  let attributes := attributeSpellings.filterMap fun (name, _) =>
    (style.attributes.lookup name).map fun isOn => if isOn then name else "not " ++ name
  let words := attributes ++ style.colour.toList ++
    (style.background.map ("on " ++ ·)).toList ++ (style.link.map ("link " ++ ·)).toList
  if words.isEmpty then "none" else Text.join " " words

/-- The normal form of a definition. A text that is no definition counts without the blanks around it
and without regard to case. -/
def normalForm (definition : String) : String :=
  match parse? definition with
  | some style => style.render
  | none => Text.lower (Text.trim definition)

end Style

end ClassAtlas
