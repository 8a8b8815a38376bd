import StyleAudit.Json.Printer
import StyleAudit.Proofs.Json.Numeral

/-!
# Tokens of written text

What the writer puts on lines and indents comes apart again into the tokens of the value. A text
ends at its own quote, a word after its letters and a container at its bracket; only a numeral
needs what stands behind it to end.
-/

namespace StyleAudit.Json

set_option autoImplicit false

def textSoFar (done : List Char) : Mode :=
  .text ⟨done, none, true⟩

private theorem control_unit :
    ∀ n < 0x20, hexUnit? '0' '0' (hexDigit (n / 16)) (hexDigit (n % 16)) = some n := by
  decide

private theorem push_control_unit (done : List Char) (c : Char) (control : c.toNat < 0x20) :
    (OpenText.mk done none true).pushUnit c.toNat = ⟨c :: done, none, true⟩ := by
  have below : ¬ 0xD800 ≤ c.toNat := by omega
  have short : ¬ 0xDC00 ≤ c.toNat := by omega
  simp [OpenText.pushUnit, OpenText.push, below, short, Char.ofNat_toNat]

private theorem short_escape_tokens {mark c : Char} (known : shortEscape? mark = some c)
    (done rest : List Char) :
    tokens (textSoFar done) ('\\' :: mark :: rest) = tokens (textSoFar (c :: done)) rest := by
  have mark_not_u : mark ≠ 'u' := by
    intro same
    rw [same] at known
    cases known
  unfold textSoFar
  rw [tokens, known]
  · rfl
  · intro a b c d cs same
    exact absurd same mark_not_u
  · intro same
    exact absurd same mark_not_u

theorem escaped_char_tokens (c : Char) (done rest : List Char) :
    tokens (textSoFar done) (escapeChar c ++ rest) = tokens (textSoFar (c :: done)) rest := by
  unfold escapeChar
  split
  · exact short_escape_tokens rfl done rest
  · exact short_escape_tokens rfl done rest
  · exact short_escape_tokens rfl done rest
  · exact short_escape_tokens rfl done rest
  · exact short_escape_tokens rfl done rest
  · exact short_escape_tokens rfl done rest
  · exact short_escape_tokens rfl done rest
  · rename_i not_quote not_backslash _ _ _ _ _
    unfold textSoFar
    split
    · rename_i control
      simp only [List.cons_append, List.nil_append]
      rw [tokens, control_unit _ control]
      simp only [push_control_unit done c control]
    · rename_i printable
      rw [List.singleton_append, tokens]
      · rw [if_neg printable]
        rfl
      · exact not_quote
      all_goals
        intros
        contradiction

private theorem escaped_chars_tokens (cs done rest : List Char) :
    tokens (textSoFar done) (cs.flatMap escapeChar ++ '"' :: rest) =
      .text (some (String.ofList (done.reverse ++ cs))) :: tokens .between rest := by
  induction cs generalizing done with
  | nil =>
      rw [List.flatMap_nil, List.nil_append, textSoFar, tokens, List.append_nil]
      rfl
  | cons c cs ih =>
      rw [List.flatMap_cons, List.append_assoc, escaped_char_tokens, ih]
      simp

theorem text_tokens (s : String) (rest : List Char) :
    tokens .between (textChars s ++ rest) = .text (some s) :: tokens .between rest := by
  have contents := escaped_chars_tokens s.toList [] rest
  rw [List.reverse_nil, List.nil_append, String.ofList_toList] at contents
  rw [← contents, textChars, List.cons_append, List.cons_append, List.append_assoc]
  rfl

theorem null_tokens (rest : List Char) :
    tokens .between (nullChars ++ rest) = .scalar .null :: tokens .between rest :=
  rfl

theorem bool_tokens (b : Bool) (rest : List Char) :
    tokens .between (boolChars b ++ rest) = .scalar (.bool b) :: tokens .between rest := by
  cases b with
  | true => rfl
  | false => rfl

private theorem blanks_tokens (count : Nat) (rest : List Char) :
    tokens .between (List.replicate count ' ' ++ rest) = tokens .between rest := by
  induction count with
  | zero => rfl
  | succ count ih => exact ih

theorem line_break_tokens (level : Nat) (rest : List Char) :
    tokens .between (lineBreak level ++ rest) = tokens .between rest :=
  blanks_tokens (2 * level) rest

/-- What may stand behind a numeral so that it ends there: nothing, a comma or a line break. -/
inductive Ends : List Char → Prop where
  | nothing : Ends []
  | comma (rest : List Char) : Ends (',' :: rest)
  | line (rest : List Char) : Ends ('\n' :: rest)

theorem line_break_ends (level : Nat) (rest : List Char) : Ends (lineBreak level ++ rest) :=
  .line _

private theorem begin_digit {digit : Char} (isDigit : digit.isDigit = true) :
    begin digit = ([], .number (if digit = '0' then .zero else .whole) [digit]) := by
  unfold begin
  split
  -- No digit begins a blank, a bracket, a mark, a text or a word.
  all_goals try exact absurd isDigit (by decide)
  have not_minus : digit ≠ '-' := by
    intro same
    rw [same] at isDigit
    exact absurd isDigit (by decide)
  by_cases zero : digit = '0'
  · simp [NumberStage.start?, zero]
  · simp [NumberStage.start?, not_minus, zero, isDigit]

private theorem digits_tokens (digits seen rest : List Char)
    (areDigits : ∀ digit ∈ digits, digit.isDigit = true) :
    tokens (.number .whole seen) (digits ++ rest) =
      tokens (.number .whole (digits.reverse ++ seen)) rest := by
  induction digits generalizing seen with
  | nil => rfl
  | cons digit more ih =>
      have next : NumberStage.whole.next? digit = some .whole := by
        simp [NumberStage.next?, areDigits digit]
      rw [List.cons_append, tokens, next]
      dsimp only
      rw [ih _ fun other member => areDigits other (List.mem_cons_of_mem digit member)]
      simp

private theorem numeral_end_tokens {stage : NumberStage} (seen : List Char) {rest : List Char}
    (whole : stage = .zero ∨ stage = .whole) (ends : Ends rest) :
    tokens (.number stage seen) rest = numberToken seen :: tokens .between rest := by
  rcases whole with rfl | rfl
  · cases ends with
    | nothing => rfl
    | comma rest => rfl
    | line rest => rfl
  · cases ends with
    | nothing => rfl
    | comma rest => rfl
    | line rest => rfl

theorem numeral_tokens {n : Nat} (fits : n ≤ largestWord) {rest : List Char} (ends : Ends rest) :
    tokens .between (Nat.toDigits 10 n ++ rest) =
      .scalar (.number (.natural n)) :: tokens .between rest := by
  have token : ∀ seen, seen.reverse = Nat.toDigits 10 n →
      numberToken seen = .scalar (.number (.natural n)) := by
    intro seen digits
    rw [numberToken, digits, number_of_digits fits]
    rfl
  cases digits : Nat.toDigits 10 n with
  | nil => exact absurd digits Nat.toDigits_ne_nil
  | cons first more =>
      have areDigits := digits_are_digits (n := n)
      rw [digits] at areDigits token
      rw [List.cons_append, tokens, begin_digit (areDigits first (by simp))]
      dsimp only
      rw [List.nil_append]
      by_cases zero : first = '0'
      · subst zero
        rw [if_pos rfl, leading_zero_alone digits, List.nil_append,
          numeral_end_tokens _ (.inl rfl) ends, token _ (by rw [leading_zero_alone digits]; rfl)]
      · rw [if_neg zero, digits_tokens more _ _ fun digit member =>
            areDigits digit (List.mem_cons_of_mem first member),
          numeral_end_tokens _ (.inr rfl) ends, token _ (by simp)]

/-- The value has a text that can be read: its numbers fit in 64 bits, all of it is well formed, and
its arrays and objects are not nested deeper than the room given. -/
inductive Fits : Nat → Json → Prop where
  | null {room : Nat} : Fits room .null
  | bool {room : Nat} (b : Bool) : Fits room (.bool b)
  | natural {room n : Nat} (within : n ≤ largestWord) : Fits room (.number (.natural n))
  | text {room : Nat} (s : String) : Fits room (.text s)
  | array {room : Nat} {items : List Json} (each : ∀ item ∈ items, Fits room item) :
      Fits (room + 1) (.array items)
  | object {room : Nat} {members : List (String × Json)}
      (each : ∀ member ∈ members, Fits room member.2) : Fits (room + 1) (.object members)

theorem Fits.sole_member {room : Nat} {value : Json} (name : String) (fits : Fits room value) :
    Fits (room + 1) (.object [(name, value)]) := by
  apply Fits.object
  rw [List.forall_mem_singleton]
  exact fits

theorem Fits.items_of {α : Type} {room : Nat} {write : α → Json} {as : List α}
    (each : ∀ a ∈ as, Fits room (write a)) : Fits (room + 1) (.array (as.map write)) := by
  apply Fits.array
  rw [List.forall_mem_map]
  exact each

mutual

def valueTokens : Json → List Token
  | null => [.scalar .null]
  | bool b => [.scalar (.bool b)]
  | number n => [.scalar (.number n)]
  | text s => [.text (some s)]
  | array items => .openArray :: itemTokens items
  | object members => .openObject :: memberTokens members
  | unread _ => [.scalar .null]
  | flawed _ => [.scalar .null]

def itemTokens : List Json → List Token
  | [] => [.closeArray]
  | [item] => valueTokens item ++ [.closeArray]
  | item :: rest => valueTokens item ++ .comma :: itemTokens rest

def memberTokens : List (String × Json) → List Token
  | [] => [.closeObject]
  | [(name, value)] => .text (some name) :: .colon :: valueTokens value ++ [.closeObject]
  | (name, value) :: rest =>
    .text (some name) :: .colon :: valueTokens value ++ .comma :: memberTokens rest

end

/-- The written value comes apart into its tokens at every level and before every end. -/
def ComesApart (value : Json) : Prop :=
  ∀ (level : Nat) (rest : List Char), Ends rest →
    tokens .between (prettyChars level value ++ rest) = valueTokens value ++ tokens .between rest

private theorem items_tokens (items : List Json) (level : Nat) (rest : List Char)
    (each : ∀ item ∈ items, ComesApart item) :
    tokens .between (prettyItems level items ++ rest) =
      itemTokens items ++ tokens .between rest := by
  induction items with
  | nil =>
      rw [prettyItems, List.append_assoc, line_break_tokens]
      rfl
  | cons item more ih =>
      have first := each item (by simp) (level + 1)
      cases more with
      | nil =>
          simp only [prettyItems, itemTokens, List.append_assoc]
          rw [line_break_tokens, first _ (line_break_ends level _), line_break_tokens]
          rfl
      | cons next more =>
          have others := ih fun other member => each other (List.mem_cons_of_mem item member)
          simp only [prettyItems, itemTokens, List.append_assoc, List.cons_append] at others ⊢
          rw [line_break_tokens, first _ (.comma _), ← others]
          rfl

private theorem members_tokens (members : List (String × Json)) (level : Nat) (rest : List Char)
    (each : ∀ member ∈ members, ComesApart member.2) :
    tokens .between (prettyMembers level members ++ rest) =
      memberTokens members ++ tokens .between rest := by
  have separated : ∀ more, tokens .between (':' :: ' ' :: more) = .colon :: tokens .between more :=
    fun more => rfl
  induction members with
  | nil =>
      rw [prettyMembers, List.append_assoc, line_break_tokens]
      rfl
  | cons member more ih =>
      have first := each member (by simp) (level + 1)
      cases more with
      | nil =>
          simp only [prettyMembers, memberTokens, List.append_assoc, List.cons_append]
          rw [line_break_tokens, text_tokens, separated, first _ (line_break_ends level _),
            line_break_tokens]
          rfl
      | cons next more =>
          have others := ih fun other found => each other (List.mem_cons_of_mem member found)
          simp only [prettyMembers, memberTokens, List.append_assoc, List.cons_append] at others ⊢
          rw [line_break_tokens, text_tokens, separated, first _ (.comma _), ← others]
          rfl

theorem pretty_tokens {room : Nat} {value : Json} (fits : Fits room value) : ComesApart value := by
  induction fits with
  | null => exact fun _ rest _ => null_tokens rest
  | bool b => exact fun _ rest _ => bool_tokens b rest
  | natural within => exact fun _ _ ends => numeral_tokens within ends
  | text s => exact fun _ rest _ => text_tokens s rest
  | @array _ items _ each =>
      intro level rest _
      cases items with
      | nil => rfl
      | cons item more =>
          have inside := items_tokens (item :: more) level rest each
          rw [prettyChars, valueTokens, List.cons_append, List.cons_append, ← inside]
          rfl
  | @object _ members _ each =>
      intro level rest _
      cases members with
      | nil => rfl
      | cons member more =>
          have inside := members_tokens (member :: more) level rest each
          rw [prettyChars, valueTokens, List.cons_append, List.cons_append, ← inside]
          rfl

end StyleAudit.Json
