/-!
# Blank characters

The Unicode class White_Space, and the cuts made at it: trimming both ends of a text and dividing
a text into words.
-/

namespace StyleAudit.Text

set_option autoImplicit false

/-- The twenty-five characters of the class White_Space. -/
def isBlank (c : Char) : Bool :=
  let n := c.toNat
  (0x9 ≤ n && n ≤ 0xD) || n == 0x20 || n == 0x85 || n == 0xA0 || n == 0x1680 ||
    (0x2000 ≤ n && n ≤ 0x200A) || n == 0x2028 || n == 0x2029 || n == 0x202F || n == 0x205F ||
    n == 0x3000

def trimChars (drop : Char → Bool) (cs : List Char) : List Char :=
  ((cs.dropWhile drop).reverse.dropWhile drop).reverse

def trim (s : String) : String :=
  String.ofList (trimChars isBlank s.toList)

/-- The pieces between the separators. There is one more piece than there are separators, so
pieces may be empty. -/
def pieces (separates : Char → Bool) : List Char → List (List Char)
  | [] => [[]]
  | c :: cs =>
    match pieces separates cs with
    | [] => [[c]]
    | piece :: rest => if separates c then [] :: piece :: rest else (c :: piece) :: rest

/-- The longest runs of characters outside a class. -/
def wordsBy (separates : Char → Bool) (cs : List Char) : List (List Char) :=
  (pieces separates cs).filter fun piece => !piece.isEmpty

def words (cs : List Char) : List (List Char) :=
  wordsBy isBlank cs

theorem pieces_ne_nil (separates : Char → Bool) (cs : List Char) : pieces separates cs ≠ [] := by
  induction cs with
  | nil => simp [pieces]
  | cons c cs ih =>
    cases h : pieces separates cs with
    | nil => exact absurd h ih
    | cons piece rest => by_cases hc : separates c <;> simp [pieces, h, hc]

end StyleAudit.Text
