/-!
# Lines of a text

A line break ends a line, so no further line stands behind a break that ends the text. Texts that
are put together from whole lines end in whole lines, and what is written behind them is the last
line.
-/

namespace StyleAudit.Text

set_option autoImplicit false

/-- The last line of a text, without the break that may end it. -/
def lastLine (s : String) : String :=
  let backwards :=
    match s.toList.reverse with
    | '\n' :: before => before
    | others => others
  String.ofList (backwards.takeWhile (· != '\n')).reverse

def IsLines (s : String) : Prop :=
  s = "" ∨ ∃ before, s = before ++ "\n"

theorem line_is_lines (s : String) : IsLines (s ++ "\n") :=
  .inr ⟨s, rfl⟩

theorem closed_is_lines (before : String) {last : String} (closed : ∃ s, last = s ++ "\n") :
    IsLines (before ++ last) := by
  obtain ⟨s, rfl⟩ := closed
  rw [← String.append_assoc]
  exact line_is_lines _

theorem IsLines.append {first second : String} (one : IsLines first) (other : IsLines second) :
    IsLines (first ++ second) := by
  rcases other with rfl | ⟨before, rfl⟩
  · rw [String.append_empty]
    exact one
  · exact closed_is_lines first ⟨before, rfl⟩

private theorem fold_is_lines {texts : List String} (each : ∀ s ∈ texts, IsLines s) {start : String}
    (whole : IsLines start) : IsLines (texts.foldl (· ++ ·) start) := by
  induction texts generalizing start with
  | nil => exact whole
  | cons first rest ih =>
      rw [List.forall_mem_cons] at each
      exact ih each.2 (whole.append each.1)

theorem join_is_lines {texts : List String} (each : ∀ s ∈ texts, IsLines s) :
    IsLines (String.join texts) :=
  fold_is_lines each (.inl rfl)

theorem last_line_behind_lines {before line : String} (whole : IsLines before)
    (single : '\n' ∉ line.toList) : lastLine (before ++ (line ++ "\n")) = line := by
  have backwards : (before ++ (line ++ "\n")).toList.reverse =
      '\n' :: (line.toList.reverse ++ before.toList.reverse) := by
    simp [String.toList_append]
  have unbroken : ∀ c ∈ line.toList.reverse, (c != '\n') = true := by
    intro c member
    exact bne_iff_ne.mpr fun broken => single (broken ▸ List.mem_reverse.mp member)
  have stops : before.toList.reverse.takeWhile (· != '\n') = [] := by
    rcases whole with rfl | ⟨earlier, rfl⟩
    · rfl
    · rw [String.toList_append, List.reverse_append]
      rfl
  simp only [lastLine, backwards]
  rw [List.takeWhile_append_of_pos unbroken, stops, List.append_nil, List.reverse_reverse,
    String.ofList_toList]

example : lastLine "RESULT: FAIL\n\nRESULT: PASS\n" = "RESULT: PASS" := by decide

end StyleAudit.Text
