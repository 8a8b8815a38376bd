import StyleAudit.Json.Token

/-!
# Tokens before a divider

The comma between the items of an array and the bracket behind them end whatever stands before
them. So a text without a break comes apart into the same tokens at the end of everything and inside
an array.
-/

namespace StyleAudit.Json

set_option autoImplicit false

def Token.IsSound : Token → Prop
  | .bad _ => False
  | .badText _ => False
  | _ => True

inductive Divides : List Char → Prop where
  | comma (rest : List Char) : Divides (',' :: rest)
  | bracket (rest : List Char) : Divides (']' :: rest)

section Tokens

variable {behind : List Char}

private theorem not_sound {fault : Fault} : ¬ ∀ token ∈ [Token.bad fault], token.IsSound :=
  fun sound => sound _ (List.mem_singleton.mpr rfl)

private theorem number_divided {stage : NumberStage} (seen : List Char) (divides : Divides behind)
    (complete : stage.isComplete = true) :
    tokens (.number stage seen) behind = numberToken seen :: tokens .between behind := by
  cases divides with
  | comma rest =>
      cases stage with
      | zero | whole | fraction | exponent => rfl
      | minus | point | mark | markSign => cases complete
  | bracket rest =>
      cases stage with
      | zero | whole | fraction | exponent => rfl
      | minus | point | mark | markSign => cases complete

private theorem finish_divided {mode : Mode} (divides : Divides behind) (going : mode ≠ .over)
    (sound : ∀ token ∈ finish mode, token.IsSound) :
    tokens mode behind = finish mode ++ tokens .between behind := by
  match mode with
  | .between => rfl
  | .word expected value => exact absurd sound not_sound
  | .text t => exact (sound _ (List.mem_singleton.mpr rfl)).elim
  | .number stage seen =>
      rw [finish] at sound ⊢
      by_cases complete : stage.isComplete = true
      · rw [if_pos complete]
        exact number_divided seen divides complete
      · rw [if_neg complete] at sound
        exact absurd sound not_sound
  | .over => exact absurd rfl going

private theorem begin_going {c : Char} (sound : ∀ token ∈ (begin c).1, token.IsSound) :
    (begin c).2 ≠ .over := by
  revert sound
  unfold begin
  split
  case h_15 =>
    split
    · simp
    · exact fun sound => absurd sound not_sound
  all_goals simp

/-- A text without a break comes apart into its tokens also if an array goes on behind it. -/
theorem divided_tokens (mode : Mode) (cs : List Char) (divides : Divides behind)
    (going : mode ≠ .over) (sound : ∀ token ∈ tokens mode cs, token.IsSound) :
    tokens mode (cs ++ behind) = tokens mode cs ++ tokens .between behind := by
  fun_induction tokens mode cs with
  | case1 mode => exact finish_divided divides going sound
  | case2 => exact absurd rfl going
  -- Between tokens.
  | case3 c cs ih =>
      obtain ⟨first, others⟩ := List.forall_mem_append.mp sound
      rw [List.cons_append, tokens, ih (begin_going first) others, List.append_assoc]
  -- Within a word.
  | case4 value c cs ih =>
      obtain ⟨first, others⟩ := List.forall_mem_append.mp sound
      rw [List.cons_append, tokens, ih (begin_going first) others, List.append_assoc]
  | case5 value cs last ih =>
      rw [List.cons_append, tokens, if_pos rfl, ih nofun (List.forall_mem_cons.mp sound).2]
      rfl
  | case7 value cs next more further ih =>
      rw [List.cons_append, tokens]
      · rw [if_pos rfl]
        exact ih nofun sound
      · exact further
  -- Within a number.
  | case9 stage seen c cs next found ih =>
      rw [List.cons_append, tokens, found]
      exact ih nofun sound
  | case10 stage seen c cs found ends ih =>
      obtain ⟨first, others⟩ := List.forall_mem_append.mp sound
      rw [List.cons_append, tokens, found]
      dsimp only
      rw [if_pos ends, ih (begin_going (List.forall_mem_cons.mp first).2) others,
        List.append_assoc]
  -- Within a text.
  | case12 t cs ih =>
      rw [List.cons_append, tokens, ih nofun (List.forall_mem_cons.mp sound).2]
      rfl
  | case13 t a b c d cs unit found ih =>
      simp only [List.cons_append]
      rw [tokens, found]
      exact ih nofun sound
  | case16 t mark cs _ apart c known ih =>
      simp only [List.cons_append]
      rw [tokens, known]
      · exact ih nofun sound
      · exact fun _ _ _ _ _ same => absurd same apart
      · exact apart
  | case20 t c cs quote _ _ escape last printable ih =>
      have plain : c ≠ '\\' := by
        rintro rfl
        cases cs with
        | nil => exact last rfl rfl
        | cons mark rest => exact escape mark rest rfl rfl
      rw [List.cons_append, tokens, if_neg printable]
      · exact ih nofun sound
      · exact quote
      all_goals
        intros
        contradiction
  -- What breaks off is no sound token.
  | case15 t cs =>
      split at sound
      · exact (sound _ (List.mem_singleton.mpr rfl)).elim
      · exact absurd sound not_sound
  | case18 t => exact (sound _ (List.mem_singleton.mpr rfl)).elim
  | case6 | case8 | case11 | case14 | case17 | case19 => exact absurd sound not_sound

end Tokens

end StyleAudit.Json
