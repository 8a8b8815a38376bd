import StyleAudit.Css.Component
import StyleAudit.Text.Casing

/-!
# Colors

Colors by name, by hexadecimal digits and by their parts, and their shortest form: a name where it
is shorter than the digits, and half of the digits where they come in pairs.
-/

namespace StyleAudit.Css

set_option autoImplicit false

def namedColors : List (String × Nat) :=
  [("aliceblue", 0xf0f8ff), ("antiquewhite", 0xfaebd7), ("aqua", 0x00ffff),
    ("aquamarine", 0x7fffd4), ("azure", 0xf0ffff), ("beige", 0xf5f5dc), ("bisque", 0xffe4c4),
    ("black", 0x000000), ("blanchedalmond", 0xffebcd), ("blue", 0x0000ff),
    ("blueviolet", 0x8a2be2), ("brown", 0xa52a2a), ("burlywood", 0xdeb887),
    ("cadetblue", 0x5f9ea0), ("chartreuse", 0x7fff00), ("chocolate", 0xd2691e),
    ("coral", 0xff7f50), ("cornflowerblue", 0x6495ed), ("cornsilk", 0xfff8dc),
    ("crimson", 0xdc143c), ("cyan", 0x00ffff), ("darkblue", 0x00008b), ("darkcyan", 0x008b8b),
    ("darkgoldenrod", 0xb8860b), ("darkgray", 0xa9a9a9), ("darkgreen", 0x006400),
    ("darkgrey", 0xa9a9a9), ("darkkhaki", 0xbdb76b), ("darkmagenta", 0x8b008b),
    ("darkolivegreen", 0x556b2f), ("darkorange", 0xff8c00), ("darkorchid", 0x9932cc),
    ("darkred", 0x8b0000), ("darksalmon", 0xe9967a), ("darkseagreen", 0x8fbc8f),
    ("darkslateblue", 0x483d8b), ("darkslategray", 0x2f4f4f), ("darkslategrey", 0x2f4f4f),
    ("darkturquoise", 0x00ced1), ("darkviolet", 0x9400d3), ("deeppink", 0xff1493),
    ("deepskyblue", 0x00bfff), ("dimgray", 0x696969), ("dimgrey", 0x696969),
    ("dodgerblue", 0x1e90ff), ("firebrick", 0xb22222), ("floralwhite", 0xfffaf0),
    ("forestgreen", 0x228b22), ("fuchsia", 0xff00ff), ("gainsboro", 0xdcdcdc),
    ("ghostwhite", 0xf8f8ff), ("gold", 0xffd700), ("goldenrod", 0xdaa520), ("gray", 0x808080),
    ("green", 0x008000), ("greenyellow", 0xadff2f), ("grey", 0x808080), ("honeydew", 0xf0fff0),
    ("hotpink", 0xff69b4), ("indianred", 0xcd5c5c), ("indigo", 0x4b0082), ("ivory", 0xfffff0),
    ("khaki", 0xf0e68c), ("lavender", 0xe6e6fa), ("lavenderblush", 0xfff0f5),
    ("lawngreen", 0x7cfc00), ("lemonchiffon", 0xfffacd), ("lightblue", 0xadd8e6),
    ("lightcoral", 0xf08080), ("lightcyan", 0xe0ffff), ("lightgoldenrodyellow", 0xfafad2),
    ("lightgray", 0xd3d3d3), ("lightgreen", 0x90ee90), ("lightgrey", 0xd3d3d3),
    ("lightpink", 0xffb6c1), ("lightsalmon", 0xffa07a), ("lightseagreen", 0x20b2aa),
    ("lightskyblue", 0x87cefa), ("lightslategray", 0x778899), ("lightslategrey", 0x778899),
    ("lightsteelblue", 0xb0c4de), ("lightyellow", 0xffffe0), ("lime", 0x00ff00),
    ("limegreen", 0x32cd32), ("linen", 0xfaf0e6), ("magenta", 0xff00ff), ("maroon", 0x800000),
    ("mediumaquamarine", 0x66cdaa), ("mediumblue", 0x0000cd), ("mediumorchid", 0xba55d3),
    ("mediumpurple", 0x9370db), ("mediumseagreen", 0x3cb371), ("mediumslateblue", 0x7b68ee),
    ("mediumspringgreen", 0x00fa9a), ("mediumturquoise", 0x48d1cc), ("mediumvioletred", 0xc71585),
    ("midnightblue", 0x191970), ("mintcream", 0xf5fffa), ("mistyrose", 0xffe4e1),
    ("moccasin", 0xffe4b5), ("navajowhite", 0xffdead), ("navy", 0x000080), ("oldlace", 0xfdf5e6),
    ("olive", 0x808000), ("olivedrab", 0x6b8e23), ("orange", 0xffa500), ("orangered", 0xff4500),
    ("orchid", 0xda70d6), ("palegoldenrod", 0xeee8aa), ("palegreen", 0x98fb98),
    ("paleturquoise", 0xafeeee), ("palevioletred", 0xdb7093), ("papayawhip", 0xffefd5),
    ("peachpuff", 0xffdab9), ("peru", 0xcd853f), ("pink", 0xffc0cb), ("plum", 0xdda0dd),
    ("powderblue", 0xb0e0e6), ("purple", 0x800080), ("rebeccapurple", 0x663399),
    ("red", 0xff0000), ("rosybrown", 0xbc8f8f), ("royalblue", 0x4169e1),
    ("saddlebrown", 0x8b4513), ("salmon", 0xfa8072), ("sandybrown", 0xf4a460),
    ("seagreen", 0x2e8b57), ("seashell", 0xfff5ee), ("sienna", 0xa0522d), ("silver", 0xc0c0c0),
    ("skyblue", 0x87ceeb), ("slateblue", 0x6a5acd), ("slategray", 0x708090),
    ("slategrey", 0x708090), ("snow", 0xfffafa), ("springgreen", 0x00ff7f),
    ("steelblue", 0x4682b4), ("tan", 0xd2b48c), ("teal", 0x008080), ("thistle", 0xd8bfd8),
    ("tomato", 0xff6347), ("turquoise", 0x40e0d0), ("violet", 0xee82ee), ("wheat", 0xf5deb3),
    ("white", 0xffffff), ("whitesmoke", 0xf5f5f5), ("yellow", 0xffff00),
    ("yellowgreen", 0x9acd32)]

structure Color where
  red : Nat
  green : Nat
  blue : Nat
  alpha : Nat
  deriving Repr, DecidableEq

namespace Color

def ofNumber (n : Nat) : Color :=
  ⟨n / 65536 % 256, n / 256 % 256, n % 256, 255⟩

def number (c : Color) : Nat :=
  65536 * c.red + 256 * c.green + c.blue

def ofName? (name : String) : Option Color :=
  match Text.asciiLower name with
  | "transparent" => some ⟨0, 0, 0, 0⟩
  | name => (namedColors.lookup name).map ofNumber

def ofDigits? (digits : String) : Option Color := do
  match ← digits.toList.mapM hexValue? with
  | [r, g, b] => some ⟨17 * r, 17 * g, 17 * b, 255⟩
  | [r, g, b, a] => some ⟨17 * r, 17 * g, 17 * b, 17 * a⟩
  | [r, r', g, g', b, b'] => some ⟨16 * r + r', 16 * g + g', 16 * b + b', 255⟩
  | [r, r', g, g', b, b', a, a'] => some ⟨16 * r + r', 16 * g + g', 16 * b + b', 16 * a + a'⟩
  | _ => none

/-- The whole number nearest to a numeral times a factor, a half going up, kept between 0 and 255.
-/
def level (n : Numeral) (numerator denominator : Nat) : Nat :=
  if n.negative || n.exponent < -1000 then 0
  else
    let (top, bottom) :=
      if 0 ≤ n.exponent then
        (n.digits * Nat.pow 10 (min n.exponent.toNat 4), 1)
      else (n.digits, Nat.pow 10 (-n.exponent).toNat)
    min 255 ((2 * top * numerator + bottom * denominator) / (2 * bottom * denominator))

def part? : Token → Option Nat
  | .number n => some (level n 1 1)
  | .percentage n => some (level n 255 100)
  | _ => none

def alpha? : Token → Option Nat
  | .number n => some (level n 255 1)
  | .percentage n => some (level n 255 100)
  | _ => none

def isNumber : Token → Bool
  | .number _ => true
  | _ => false

/-- The color of three parts, of which none or all are percentages if they stand between commas. -/
def ofParts? (uniform : Bool) (r g b : Token) (alpha : Option Token) : Option Color := do
  guard (!uniform || (isNumber r == isNumber g && isNumber g == isNumber b))
  let alpha ← match alpha with
    | none => some 255
    | some token => alpha? token
  return ⟨← part? r, ← part? g, ← part? b, alpha⟩

def ofArguments? (inside : List Component) : Option Color := do
  let tokens ← inside.mapM Component.token?
  match tokens.filter fun (t : Token) => t != .whitespace with
  | [r, .comma, g, .comma, b] => ofParts? true r g b none
  | [r, .comma, g, .comma, b, .comma, a] => ofParts? true r g b (some a)
  | [r, g, b] => ofParts? false r g b none
  | [r, g, b, .delim '/', a] => ofParts? false r g b (some a)
  | _ => none

def isColorFunction (name : String) : Bool :=
  ["rgb", "rgba"].contains (Text.asciiLower name)

def ofComponent? : Component → Option Color
  | .token (.ident name) => ofName? name
  | .token (.hash digits _) => ofDigits? digits
  | .token _ => none
  | .block (.function name) inside => if isColorFunction name then ofArguments? inside else none
  | .block _ _ => none

/-- The names that are shorter than any digits for their colors. -/
def shortNames : List String :=
  ["navy", "green", "teal", "indigo", "maroon", "purple", "olive", "gray", "sienna", "brown",
    "silver", "peru", "tan", "orchid", "plum", "violet", "khaki", "azure", "wheat", "beige",
    "salmon", "linen", "red", "tomato", "coral", "orange", "pink", "gold", "bisque", "snow",
    "ivory"]

def shortName? (c : Color) : Option String :=
  shortNames.find? fun name => namedColors.lookup name == some c.number

def digit (n : Nat) : Char :=
  Char.ofNat (if n < 10 then '0'.toNat + n else 'a'.toNat + (n - 10))

def digits (parts : List Nat) : List Char :=
  if parts.all fun n => n / 16 == n % 16 then parts.map fun n => digit (n % 16)
  else parts.flatMap fun n => [digit (n / 16), digit (n % 16)]

def text (c : Color) : String :=
  if c.alpha = 255 then
    match c.shortName? with
    | some name => name
    | none => String.ofList ('#' :: digits [c.red, c.green, c.blue])
  else String.ofList ('#' :: digits [c.red, c.green, c.blue, c.alpha])

end Color

end StyleAudit.Css
