import ModelNav.Terminal.Color
import ModelNav.Text.Space

/-!
# Styles

A style is written as words: attributes that are on or off, a colour, a background colour after
`on`, and a link.  Two ways to write the same style have one name, in which the words stand in a
fixed order.
-/

namespace ModelNav
namespace Terminal

/-- The attributes of a style. -/
inductive Attribute where
  | bold
  | dim
  | italic
  | underline
  | blink
  | blink2
  | reverse
  | conceal
  | strike
  | underline2
  | frame
  | encircle
  | overline
deriving DecidableEq, Repr

namespace Attribute

/-- The attributes in the order in which they are written. -/
def all : List Attribute :=
  [.bold, .dim, .italic, .underline, .blink, .blink2, .reverse, .conceal, .strike, .underline2,
    .frame, .encircle, .overline]

/-- The name of an attribute. -/
def name : Attribute → String
  | .bold => "bold"
  | .dim => "dim"
  | .italic => "italic"
  | .underline => "underline"
  | .blink => "blink"
  | .blink2 => "blink2"
  | .reverse => "reverse"
  | .conceal => "conceal"
  | .strike => "strike"
  | .underline2 => "underline2"
  | .frame => "frame"
  | .encircle => "encircle"
  | .overline => "overline"

/-- The short name of an attribute that has one. -/
def shortName? : Attribute → Option String
  | .bold => some "b"
  | .dim => some "d"
  | .italic => some "i"
  | .underline => some "u"
  | .reverse => some "r"
  | .conceal => some "c"
  | .strike => some "s"
  | .underline2 => some "uu"
  | .overline => some "o"
  | _ => none

/-- The attribute that a word names. -/
def ofWord? (word : Text) : Option Attribute :=
  all.find? fun style =>
    style.name.toList == word || style.shortName?.any fun short => short.toList == word

end Attribute

/-- What a style changes. -/
structure Style where
  switched : Attribute → Option Bool := fun _ => none
  color : Option Text := none
  background : Option Text := none
  link : Option Text := none

namespace Style

/-- The style with an attribute on or off. -/
def switch (style : Style) (changed : Attribute) (value : Bool) : Style :=
  { style with
    switched := fun other => if other = changed then some value else style.switched other }

/-- Reads the words of a style; of two words for the same part the last one counts. -/
def ofWords (style : Style) : List Text → Except StyleFault Style
  | [] => .ok style
  | word :: rest =>
    let plain := Text.lowercase word
    if plain = "on".toList then
      match rest with
      | [] => .error .unknown
      | color :: others => do
        let background ← readColor color
        ofWords { style with background := background } others
    else if plain = "not".toList then
      match rest with
      | [] => .error .unknown
      | name :: others =>
        match Attribute.ofWord? name with
        | none => .error .unknown
        | some changed => ofWords (style.switch changed false) others
    else if plain = "link".toList then
      match rest with
      | [] => .error .unknown
      | link :: others => ofWords { style with link := link } others
    else
      match Attribute.ofWord? plain with
      | some changed => ofWords (style.switch changed true) rest
      | none => do
        let color ← readColor plain
        ofWords { style with color := color } rest

/-- The words of a style, in a fixed order. -/
def words (style : Style) : List Text :=
  (Attribute.all.filterMap fun changed => (style.switched changed).map fun value =>
    ((if value then "" else "not ") ++ changed.name).toList) ++
    style.color.toList ++
    (style.background.map fun color => "on ".toList ++ color).toList ++
    (style.link.map fun link => "link ".toList ++ link).toList

/-- The name by which styles are compared.  A text that writes no style is its own name, without
regard to case. -/
def nameOf (text : Text) : Except StyleFault Text :=
  let plain := Text.trim text
  if plain = [] then .ok "none".toList
  else
    match ofWords {} (Text.fields text) with
    | .ok style => .ok (Text.join [' '] style.words)
    | .error .unknown => .ok (Text.lowercase plain)
    | .error fault => .error fault

end Style
end Terminal
end ModelNav
