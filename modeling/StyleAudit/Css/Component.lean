import StyleAudit.Css.Token

/-!
# Component values

CSS tokens with the blocks among them put together. A block ends with the token that closes it. A
block that the text ends in is closed there, and a closing token without a block is an ordinary
token.
-/

namespace StyleAudit.Css

set_option autoImplicit false

inductive Component where
  | token (token : Token)
  | block (opening : Token) (inside : List Component)
  deriving Repr, Inhabited

/-- A block that is still open, with what it holds so far, last first. -/
structure OpenBlock where
  opening : Token
  closing : Token
  inside : List Component

/-- The blocks that are open, innermost first, and what was read outside of them, last first. -/
structure Assembly where
  blocks : List OpenBlock
  done : List Component

namespace Assembly

def add (component : Component) (a : Assembly) : Assembly :=
  match a.blocks with
  | [] => { a with done := component :: a.done }
  | block :: outer =>
    { a with blocks := { block with inside := component :: block.inside } :: outer }

def close (a : Assembly) : Assembly :=
  match a.blocks with
  | [] => a
  | block :: outer => add (.block block.opening block.inside.reverse) { a with blocks := outer }

def read (a : Assembly) (token : Token) : Assembly :=
  let closes :=
    match a.blocks with
    | block :: _ => token == block.closing
    | [] => false
  if closes then a.close
  else
    match closer? token with
    | some closing => { a with blocks := ⟨token, closing, []⟩ :: a.blocks }
    | none => a.add (.token token)

def closeAll : Nat → Assembly → Assembly
  | 0, a => a
  | n + 1, a => closeAll n a.close

def components (a : Assembly) : List Component :=
  (closeAll a.blocks.length a).done.reverse

end Assembly

def componentsOf (tokens : List Token) : List Component :=
  (tokens.foldl Assembly.read ⟨[], []⟩).components

def components (text : String) : List Component :=
  componentsOf (tokens text)

namespace Component

def isSpace : Component → Bool
  | token .whitespace => true
  | _ => false

def token? : Component → Option Token
  | .token t => some t
  | .block _ _ => none

end Component

end StyleAudit.Css
