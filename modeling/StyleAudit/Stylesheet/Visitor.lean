import StyleAudit.Stylesheet.Walk

/-!
# Visitors

A `StyleVisitor` is called by `walk` on every block of a stylesheet in document order and changes a
state with each call. Unless it has a callback for blocks of its own, it is called on the complete
declarations of the block instead. The two ready-made visitors are those of `for_each_block` and
`for_each_declaration`.
-/

namespace StyleAudit

set_option autoImplicit false

variable {σ : Type}

structure Visitor (σ : Type) where
  onDeclaration : σ → Block → Declaration → σ := fun state _ _ => state
  onBlock : σ → Block → σ := fun state block =>
    block.complete.foldl (fun state d => onDeclaration state block d) state

mutual

def Node.walk (visitor : Visitor σ) (state : σ) : Node → σ
  | .sheet rules _ => walkAll visitor state rules
  | .block block => visitor.onBlock state block
  | .group _ _ rules _ => walkAll visitor state rules
  | .keyframes _ _ => state
  | .comment _ => state
  | .importRule _ => state
  | .malformed _ => state

def walkAll (visitor : Visitor σ) (state : σ) : List Node → σ
  | [] => state
  | node :: rest => walkAll visitor (node.walk visitor state) rest

end

namespace Node

def forEachBlock (f : σ → Block → σ) (state : σ) (node : Node) : σ :=
  node.walk { onBlock := f } state

def forEachDeclaration (f : σ → Block → Declaration → σ) (state : σ) (node : Node) : σ :=
  node.walk { onDeclaration := f } state

end Node

end StyleAudit
