/-!
# Finding and replacing text in text
-/

namespace StyleAudit.Text

set_option autoImplicit false

/-- A text mentions another if the other is one of its contiguous parts. -/
def mentionsChars (needle : List Char) : List Char → Bool
  | [] => needle.isEmpty
  | c :: cs => needle.isPrefixOf (c :: cs) || mentionsChars needle cs

def mentions (text needle : String) : Bool :=
  mentionsChars needle.toList text.toList

def endsWith (text tail : String) : Bool :=
  tail.toList.isSuffixOf text.toList

def replaceChar (c : Char) (text cs : List Char) : List Char :=
  cs.flatMap fun d => if d = c then text else [d]

theorem mentionsChars_iff_infix (needle cs : List Char) :
    mentionsChars needle cs = true ↔ needle <:+: cs := by
  induction cs with
  | nil => simp [mentionsChars]
  | cons c cs ih =>
    rw [mentionsChars, Bool.or_eq_true, ih, List.isPrefixOf_iff_prefix, List.infix_cons_iff]

theorem mentions_iff_infix (text needle : String) :
    mentions text needle = true ↔ needle.toList <:+: text.toList :=
  mentionsChars_iff_infix _ _

end StyleAudit.Text
