import Mathlib.Data.List.TakeDrop
import StyleAudit.Html.Token
import StyleAudit.Proofs.Html.Reading
import StyleAudit.Proofs.Html.Reference
import StyleAudit.Proofs.Page.Escaping
import StyleAudit.Proofs.Page.Number

/-!
# Tokens of written trees

A tag is read back if its name and the names and values of its attributes hold nothing that ends
them or is replaced in them. Then the text of a marked tree has the tokens of that tree: a start tag
and an end tag for each element, and no text between them.
-/

namespace StyleAudit.Html

set_option autoImplicit false

open Page (Tree escapeChar attributeText attributeTexts attribute_chars)

theorem IsNameChar.read {c : Char} (is : IsNameChar c) :
    isSpace c = false ∧ c ≠ '/' ∧ c ≠ '>' ∧ nameChar c = c := by
  obtain ⟨foreign, lower⟩ := is
  simp only [List.mem_cons, List.not_mem_nil, or_false, not_or] at foreign
  obtain ⟨blank, tab, feed, page, return_, slash, bracket, null⟩ := foreign
  refine ⟨?_, slash, bracket, ?_⟩
  · simp [isSpace, blank, tab, feed, page, return_]
  · rw [nameChar, if_neg null, lower]

theorem name_of_kept {cs : List Char} (kept : ∀ c ∈ cs, IsNameChar c) :
    nameOf cs = String.ofList cs := by
  rw [nameOf, List.map_congr_left fun c member => (kept c member).read.2.2.2, List.map_id']

theorem value_of_escaped {value : String} (whole : '\x00' ∉ value.toList) :
    valueOf (value.toList.flatMap escapeChar) = value := by
  have kept : ((value.toList.flatMap escapeChar).map fun c =>
      if c = '\x00' then replacement else c) = value.toList.flatMap escapeChar := by
    rw [List.map_congr_left (g := id), List.map_id]
    intro c member
    rw [if_neg, id]
    rintro rfl
    exact whole (mem_of_mem_escaped (by decide) member)
  rw [valueOf, kept, decode_escaped, String.ofList_toList]

theorem span_before {p : Char → Bool} {before : List Char} {stop : Char} (rest : List Char)
    (kept : ∀ c ∈ before, p c = true) (ends : p stop = false) :
    (before ++ stop :: rest).span p = (before, stop :: rest) := by
  rw [List.span_eq_takeWhile_dropWhile, List.takeWhile_append_of_pos kept,
    List.dropWhile_append_of_pos kept, List.takeWhile_cons_of_neg (by simp [ends]),
    List.dropWhile_cons_of_neg (by simp [ends]), List.append_nil]

theorem value_taken (value rest : List Char) :
    takeValue? ('"' :: (value.flatMap escapeChar ++ '"' :: rest)) =
      some (value.flatMap escapeChar, rest) := by
  have ends : (value.flatMap escapeChar ++ '"' :: rest).span (fun c => c != '"') =
      (value.flatMap escapeChar, '"' :: rest) := by
    refine span_before rest ?_ rfl
    intro c member
    rw [bne_iff_ne]
    rintro rfl
    exact Page.reserved_not_mem_escaped (.inl rfl) value member
  rw [takeValue?, List.dropWhile_cons_of_neg (by decide)]
  simp only [ends]
  rfl

theorem attribute_taken {entry : String × String} (is : IsAttribute entry) (fuel : Nat)
    (rest : List Char) :
    takeAttributes? (fuel + 1) ((" " ++ attributeText entry.1 entry.2).toList ++ rest) =
      (takeAttributes? fuel rest).map fun others => (entry :: others.1, others.2) := by
  obtain ⟨⟨named, kept, unequal⟩, whole, _⟩ := is
  rw [attribute_chars]
  obtain ⟨first, more, name⟩ := List.exists_cons_of_ne_nil named
  have named := name_of_kept kept
  rw [String.ofList_toList] at named
  rw [name] at kept unequal named ⊢
  obtain ⟨solid, no_slash, no_bracket, _⟩ := (kept first List.mem_cons_self).read
  have ends : (more ++ '=' :: '"' :: (entry.2.toList.flatMap escapeChar ++ '"' :: rest)).span
      (fun c => !(isSpace c || c == '/' || c == '>' || c == '=')) =
      (more, '=' :: '"' :: (entry.2.toList.flatMap escapeChar ++ '"' :: rest)) := by
    refine span_before _ ?_ rfl
    intro c member
    obtain ⟨solid, no_slash, no_bracket, _⟩ :=
      (kept c (List.mem_cons_of_mem first member)).read
    have no_equals : c ≠ '=' := fun same => unequal (same ▸ member)
    simp [solid, no_slash, no_bracket, no_equals]
  simp only [List.cons_append, List.append_assoc, List.nil_append]
  rw [takeAttributes?, List.dropWhile_cons_of_pos (by decide),
    List.dropWhile_cons_of_neg (by simp [solid, no_slash])]
  simp only [ends]
  rw [List.dropWhile_cons_of_neg (by decide)]
  simp only [value_taken, Option.bind_eq_bind, Option.bind_some]
  rw [named, value_of_escaped whole]
  cases takeAttributes? fuel rest <;> rfl

theorem attributes_taken {attributes : List (String × String)}
    (each : ∀ entry ∈ attributes, IsAttribute entry) {fuel : Nat}
    (enough : attributes.length < fuel) (rest : List Char) :
    takeAttributes? fuel ((attributeTexts attributes).toList ++ '>' :: rest) =
      some (attributes, rest) := by
  induction attributes generalizing fuel with
  | nil =>
      obtain ⟨fuel, rfl⟩ : ∃ others, fuel = others + 1 := ⟨fuel - 1, by simp at enough; omega⟩
      rfl
  | cons entry attributes ih =>
      obtain ⟨fuel, rfl⟩ : ∃ others, fuel = others + 1 := ⟨fuel - 1, by simp at enough; omega⟩
      have fewer : attributes.length < fuel := by simpa using enough
      have others := ih (fun other member => each other (List.mem_cons_of_mem entry member)) fewer
      rw [attributeTexts, List.map_cons, String.join_cons, String.toList_append, List.append_assoc,
        attribute_taken (each entry List.mem_cons_self), ← attributeTexts, others]
      rfl

theorem first_of_each_distinct {attributes : List (String × String)} (seen : List String)
    (distinct : (attributes.map Prod.fst).Nodup)
    (unseen : ∀ entry ∈ attributes, entry.1 ∉ seen) : firstOfEach seen attributes = attributes := by
  induction attributes generalizing seen with
  | nil => rfl
  | cons entry attributes ih =>
      rw [List.map_cons, List.nodup_cons] at distinct
      have fresh : ¬ seen.contains entry.1 = true := by
        rw [List.contains_iff_mem]
        exact unseen entry List.mem_cons_self
      rw [firstOfEach, if_neg fresh, ih _ distinct.2]
      intro other member again
      rcases List.mem_cons.mp again with same | before
      · exact distinct.1 (List.mem_map.mpr ⟨other, member, same⟩)
      · exact unseen other (List.mem_cons_of_mem entry member) before

theorem attribute_texts_length (attributes : List (String × String)) :
    attributes.length ≤ (attributeTexts attributes).toList.length := by
  induction attributes with
  | nil => exact Nat.zero_le _
  | cons entry attributes ih =>
      rw [attributeTexts, List.map_cons, String.join_cons, ← attributeTexts, String.toList_append,
        List.length_append, attribute_chars, List.length_cons, List.length_cons]
      omega

/-- What stands behind the name of a tag: attributes after a blank each, and the closing bracket. -/
theorem tag_taken {tag : String} {attributes : List (String × String)}
    (kept : ∀ c ∈ tag.toList, IsNameChar c) (each : ∀ entry ∈ attributes, IsAttribute entry)
    (distinct : (attributes.map Prod.fst).Nodup) (rest : List Char) :
    takeTag? (tag.toList ++ (attributeTexts attributes).toList ++ '>' :: rest) =
      some (tag, attributes, rest) := by
  have solid : ∀ c ∈ tag.toList, (!(isSpace c || c == '/' || c == '>')) = true := by
    intro c member
    obtain ⟨solid, no_slash, no_bracket, _⟩ := (kept c member).read
    simp [solid, no_slash, no_bracket]
  have ends : (tag.toList ++ (attributeTexts attributes).toList ++ '>' :: rest).span
      (fun c => !(isSpace c || c == '/' || c == '>')) =
      (tag.toList, (attributeTexts attributes).toList ++ '>' :: rest) := by
    rw [List.append_assoc]
    cases attributes with
    | nil => exact span_before rest solid rfl
    | cons entry attributes =>
        rw [attributeTexts, List.map_cons, String.join_cons, String.toList_append, attribute_chars,
          List.cons_append, List.cons_append]
        exact span_before _ solid rfl
  have long := attribute_texts_length attributes
  rw [takeTag?]
  simp only [ends]
  rw [attributes_taken each (by rw [List.length_append]; omega)]
  rw [Option.bind_eq_bind, Option.bind_some, name_of_kept kept, String.ofList_toList,
    first_of_each_distinct [] distinct fun _ _ => List.not_mem_nil]
  rfl

private theorem tag_begun {c : Char} (letter : c.isAlpha = true) (more : List Char) :
    takeTokens '<' (c :: more) = startTagTokens (c :: more) := by
  rw [takeTokens, if_pos rfl, if_pos letter]
  -- No letter begins a comment, a document type or an end tag.
  all_goals
    intros
    subst_vars
    exact absurd letter (by decide)

theorem IsTagName.begins {tag : String} (is : IsTagName tag) :
    ∃ c more, tag.toList = c :: more ∧ c.isAlpha = true := by
  have letter := is.1
  cases name : tag.toList with
  | nil => simp [name] at letter
  | cons c more => exact ⟨c, more, rfl, by simpa [name] using letter⟩

theorem start_tag_read {tag : String} {attributes : List (String × String)} (is : IsTagName tag)
    (each : ∀ entry ∈ attributes, IsAttribute entry) (distinct : (attributes.map Prod.fst).Nodup)
    (free : tag ∉ textTags) (open_ended : tag ≠ "plaintext") (fuel : Nat) (rest : List Char) :
    tokensFrom (fuel + 1)
      ('<' :: (tag.toList ++ (attributeTexts attributes).toList ++ '>' :: rest)) =
      .startTag tag attributes :: tokensFrom fuel rest := by
  have taken := tag_taken is.2 each distinct rest
  obtain ⟨c, more, name, letter⟩ := is.begins
  rw [textTags, List.mem_append, not_or] at free
  rw [name] at taken ⊢
  rw [tokensFrom, List.cons_append, List.cons_append, tag_begun letter, startTagTokens,
    ← List.cons_append, ← List.cons_append, taken]
  simp [free, open_ended]

theorem bare_tag_taken {tag : String} (kept : ∀ c ∈ tag.toList, IsNameChar c) (rest : List Char) :
    takeTag? (tag.toList ++ '>' :: rest) = some (tag, [], rest) := by
  have none : ∀ entry ∈ ([] : List (String × String)), IsAttribute entry := nofun
  simpa [attributeTexts] using tag_taken kept none List.nodup_nil rest

theorem end_tag_read {tag : String} (is : IsTagName tag) (fuel : Nat) (rest : List Char) :
    tokensFrom (fuel + 1) ('<' :: '/' :: (tag.toList ++ '>' :: rest)) =
      .endTag tag :: tokensFrom fuel rest := by
  have taken := bare_tag_taken is.2 rest
  obtain ⟨c, more, name, letter⟩ := is.begins
  rw [name, List.cons_append] at taken
  have ended : takeTokens '<' ('/' :: c :: (more ++ '>' :: rest)) = ([.endTag tag], rest) := by
    rw [takeTokens, if_pos rfl, if_pos letter, endTagTokens, taken]
  rw [name, tokensFrom, List.cons_append, ended]
  rfl

/-- The end tag of a name, met where a text could stand, ends that text at once. -/
theorem no_text_taken {tag : String} (kept : ∀ c ∈ tag.toList, IsNameChar c) (rest : List Char) :
    takeTextOf tag.toList ('<' :: '/' :: (tag.toList ++ '>' :: rest)) = ([], rest) := by
  have ends : startsEndTag tag.toList ('<' :: '/' :: (tag.toList ++ '>' :: rest)) = true := by
    have same : tag.toList.map nameChar = tag.toList := by
      rw [List.map_congr_left fun c member => (kept c member).read.2.2.2, List.map_id']
    rw [startsEndTag, List.take_left, List.drop_left, same, beq_self_eq_true]
    rfl
  rw [takeTextOf, if_pos ends, List.drop_succ_cons, List.drop_zero, bare_tag_taken kept]

theorem text_element_read {tag : String} {attributes : List (String × String)} (is : IsTagName tag)
    (each : ∀ entry ∈ attributes, IsAttribute entry) (distinct : (attributes.map Prod.fst).Nodup)
    (holds : tag ∈ textTags) (fuel : Nat) (rest : List Char) :
    tokensFrom (fuel + 1)
      ('<' :: (tag.toList ++ (attributeTexts attributes).toList ++
        '>' :: '<' :: '/' :: (tag.toList ++ '>' :: rest))) =
      .textElement tag attributes [] :: tokensFrom fuel rest := by
  have taken := tag_taken is.2 each distinct ('<' :: '/' :: (tag.toList ++ '>' :: rest))
  have ended := no_text_taken is.2 rest
  obtain ⟨c, more, name, letter⟩ := is.begins
  have begun : startTagTokens (tag.toList ++ (attributeTexts attributes).toList ++
      '>' :: '<' :: '/' :: (tag.toList ++ '>' :: rest)) =
      ([.textElement tag attributes []], rest) := by
    rw [startTagTokens, taken]
    simp only [ended]
    by_cases escapable : tag ∈ escapableTextTags
    · rw [if_pos (List.contains_iff_mem.mpr escapable)]
      rfl
    · have raw : tag ∈ rawTextTags := (List.mem_append.mp holds).resolve_left escapable
      rw [if_neg (by rwa [List.contains_iff_mem]), if_pos (List.contains_iff_mem.mpr raw)]
  rw [name, List.cons_append, List.cons_append] at begun ⊢
  rw [tokensFrom, tag_begun letter, begun]
  rfl

mutual

def tokensOf : Tree → List Token
  | .element tag attributes children =>
    if tag ∈ textTags then [.textElement tag attributes []]
    else .startTag tag attributes :: (tokensOfAll children ++ [.endTag tag])
  | .text _ => []

def tokensOfAll : List Tree → List Token
  | [] => []
  | tree :: rest => tokensOf tree ++ tokensOfAll rest

end

theorem marked_attributes_legible {attributes : List (String × String)}
    (each : ∀ entry ∈ attributes, IsAttribute entry) (number : Nat) :
    ∀ entry ∈ Page.markedAttributes number attributes, IsAttribute entry := by
  intro entry member
  rcases List.mem_cons.mp member with rfl | given
  · have digits : ∀ c ∈ (Page.numberId number).toList, c.isDigit = true := by
      rw [Page.number_id_to_list]
      exact Json.digits_are_digits
    have mark : IsAttributeName Page.idAttribute := by decide +kernel
    refine ⟨mark, ?_, ?_⟩
    · intro member
      exact absurd (digits _ member) (by decide)
    · intro member
      exact absurd (digits _ member) (by decide)
  · have own := List.mem_mergeSort.mp given
    exact each entry (List.mem_filter.mp own).1

theorem written_chars (tag : String) (attributes : List (String × String)) (children : List Tree) :
    (Tree.element tag attributes children).written.toList =
      '<' :: (tag.toList ++ (attributeTexts attributes).toList ++
        '>' :: ((Page.writtenAll children).toList ++ '<' :: '/' :: (tag.toList ++ ['>']))) := by
  rw [Tree.written, ← attributeTexts]
  simp

theorem no_elements_written {trees : List Tree} (none : ∀ tree ∈ trees, tree.isElement = false)
    (first : Nat) : Page.writtenAll (Page.markedAll first trees) = "" := by
  induction trees generalizing first with
  | nil => rfl
  | cons tree rest ih =>
      have others := ih (fun other member => none other (List.mem_cons_of_mem tree member))
      cases tree with
      | text content => exact others (first + 0)
      | element tag attributes children => exact absurd (none _ List.mem_cons_self) nofun

mutual

theorem tree_tokens (tree : Tree) (first : Nat) (legible : Legible tree)
    (distinct : tree.NamesDistinct) (fuel : Nat) (rest : List Char) :
    tokensFrom ((tokensOf (tree.marked first)).length + fuel)
      ((tree.marked first).written.toList ++ rest) =
      tokensOf (tree.marked first) ++ tokensFrom fuel rest :=
  match tree with
  | .text _ => by
    rw [Tree.marked, tokensOf, Tree.written, List.length_nil, Nat.zero_add]
    rfl
  | .element tag attributes children => by
    rw [Legible] at legible
    rw [Tree.NamesDistinct] at distinct
    obtain ⟨named, open_ended, each, childless, inner⟩ := legible
    have marked := marked_attributes_legible each first
    have apart := Page.marked_attributes_distinct distinct.1 first
    rw [Tree.marked, written_chars, tokensOf]
    split
    · rename_i holds
      have nothing := no_elements_written (childless holds) (first + 1)
      have step := text_element_read named marked apart holds fuel rest
      rw [nothing, List.length_singleton, Nat.add_comm]
      simpa using step
    · rename_i free
      have content := trees_tokens children (first + 1) inner distinct.2 (fuel + 1)
        ('<' :: '/' :: ((Text.asciiLower tag).toList ++ '>' :: rest))
      have opened := start_tag_read named marked apart free open_ended
      have closed := end_tag_read named fuel rest
      have counted : (tokensOfAll (Page.markedAll (first + 1) children)).length + 1 + 1 + fuel =
          (tokensOfAll (Page.markedAll (first + 1) children)).length + (fuel + 1) + 1 := by omega
      rw [closed] at content
      rw [List.length_cons, List.length_append, List.length_singleton, counted]
      simp only [List.cons_append, List.append_assoc, List.nil_append] at opened ⊢
      rw [opened, content]

theorem trees_tokens (trees : List Tree) (first : Nat) (legible : AllLegible trees)
    (distinct : Page.AllNamesDistinct trees) (fuel : Nat) (rest : List Char) :
    tokensFrom ((tokensOfAll (Page.markedAll first trees)).length + fuel)
      ((Page.writtenAll (Page.markedAll first trees)).toList ++ rest) =
      tokensOfAll (Page.markedAll first trees) ++ tokensFrom fuel rest :=
  match trees with
  | [] => by
    rw [Page.markedAll, tokensOfAll, Page.writtenAll, List.length_nil, Nat.zero_add]
    rfl
  | tree :: others => by
    rw [AllLegible] at legible
    rw [Page.AllNamesDistinct] at distinct
    have here := tree_tokens tree first legible.1 distinct.1
    have later := trees_tokens others (first + tree.size) legible.2 distinct.2 fuel rest
    rw [Page.markedAll, tokensOfAll, Page.writtenAll, List.length_append, Nat.add_assoc,
      String.toList_append, List.append_assoc, here, later, List.append_assoc]

end

theorem plain_line_ends {cs : List Char} (none : '\r' ∉ cs) : withPlainLineEnds cs = cs := by
  induction cs with
  | nil => rfl
  | cons c cs ih =>
      rw [List.mem_cons, not_or] at none
      rw [withPlainLineEnds, ih none.2]
      · rintro _ rfl
        exact absurd rfl none.1
      · rintro rfl
        exact absurd rfl none.1

theorem line_starts_kept {tokens : List Token} (none : ∀ token ∈ tokens, ∀ cs, token ≠ .text cs) :
    dropLineStarts tokens = tokens := by
  induction tokens with
  | nil => rfl
  | cons token tokens ih =>
      rw [dropLineStarts, ih fun other member => none other (List.mem_cons_of_mem token member)]
      rintro _ _ cs rest _ rfl
      exact none _ (List.mem_cons_of_mem token List.mem_cons_self) cs rfl

mutual

theorem tree_token_kinds (tree : Tree) : ∀ token ∈ tokensOf tree, ∀ cs, token ≠ .text cs :=
  match tree with
  | .text _ => by
    rw [tokensOf]
    nofun
  | .element tag attributes children => by
    have inner := trees_token_kinds children
    rw [tokensOf]
    split
    · simp
    · intro token member
      rw [List.mem_cons, List.mem_append, List.mem_singleton] at member
      rcases member with rfl | inside | rfl
      · nofun
      · exact inner token inside
      · nofun

theorem trees_token_kinds (trees : List Tree) :
    ∀ token ∈ tokensOfAll trees, ∀ cs, token ≠ .text cs :=
  match trees with
  | [] => by
    rw [tokensOfAll]
    nofun
  | tree :: rest => by
    intro token member
    rw [tokensOfAll, List.mem_append] at member
    rcases member with here | later
    · exact tree_token_kinds tree token here
    · exact trees_token_kinds rest token later

end

mutual

theorem tree_token_count (tree : Tree) : (tokensOf tree).length ≤ tree.written.toList.length :=
  match tree with
  | .text _ => Nat.zero_le _
  | .element tag attributes children => by
    have inner := trees_token_count children
    rw [tokensOf, written_chars]
    split
    · simp
    · simp only [List.length_cons, List.length_append, List.length_nil]
      omega

theorem trees_token_count (trees : List Tree) :
    (tokensOfAll trees).length ≤ (Page.writtenAll trees).toList.length :=
  match trees with
  | [] => Nat.zero_le _
  | tree :: rest => by
    have here := tree_token_count tree
    have later := trees_token_count rest
    rw [tokensOfAll, Page.writtenAll, String.toList_append, List.length_append, List.length_append]
    omega

end

theorem no_return_in_name {cs : List Char} (kept : ∀ c ∈ cs, IsNameChar c) : '\r' ∉ cs := by
  intro member
  exact absurd (kept _ member).read.1 (by decide)

theorem no_return_in_attributes {attributes : List (String × String)}
    (each : ∀ entry ∈ attributes, IsAttribute entry) :
    '\r' ∉ (attributeTexts attributes).toList := by
  induction attributes with
  | nil => exact List.not_mem_nil
  | cons entry attributes ih =>
      obtain ⟨named, _, value⟩ := each entry List.mem_cons_self
      have name := no_return_in_name named.2.1
      have escaped : '\r' ∉ entry.2.toList.flatMap escapeChar :=
        fun member => value (mem_of_mem_escaped (by decide) member)
      have others := ih fun other member => each other (List.mem_cons_of_mem entry member)
      rw [attributeTexts, List.map_cons, String.join_cons, ← attributeTexts, String.toList_append,
        attribute_chars]
      simp [name, escaped, others]

mutual

theorem no_return_in_tree (tree : Tree) (first : Nat) (legible : Legible tree) :
    '\r' ∉ (tree.marked first).written.toList :=
  match tree with
  | .text _ => List.not_mem_nil
  | .element tag attributes children => by
    rw [Legible] at legible
    obtain ⟨named, _, each, _, inner⟩ := legible
    have name := no_return_in_name named.2
    have marked := no_return_in_attributes (marked_attributes_legible each first)
    have content := no_return_in_trees children (first + 1) inner
    rw [Tree.marked, written_chars]
    simp [name, marked, content]

theorem no_return_in_trees (trees : List Tree) (first : Nat) (legible : AllLegible trees) :
    '\r' ∉ (Page.writtenAll (Page.markedAll first trees)).toList :=
  match trees with
  | [] => List.not_mem_nil
  | tree :: rest => by
    rw [AllLegible] at legible
    have here := no_return_in_tree tree first legible.1
    have later := no_return_in_trees rest (first + tree.size) legible.2
    rw [Page.markedAll, Page.writtenAll, String.toList_append, List.mem_append, not_or]
    exact ⟨here, later⟩

end

theorem tokens_of_plain {source : String} (plain : '\r' ∉ source.toList)
    (begun : source.toList.head? ≠ some byteOrderMark) :
    tokens source = dropLineStarts (tokensFrom (source.toList.length + 1) source.toList) := by
  rw [tokens]
  cases chars : source.toList with
  | nil => rfl
  | cons c rest =>
      have kept : c ≠ byteOrderMark := by
        rintro rfl
        exact begun (by rw [chars]; rfl)
      rw [chars] at plain
      dsimp only
      rw [if_neg kept, plain_line_ends plain]

theorem tokens_of_nothing (fuel : Nat) : tokensFrom fuel [] = [] := by
  cases fuel <;> rfl

/-- The text of a marked tree is read as the tokens of that tree. -/
theorem tokens_of_marked {tree : Tree} (first : Nat) (legible : Legible tree)
    (distinct : tree.NamesDistinct) :
    tokens (tree.marked first).written = tokensOf (tree.marked first) := by
  have begun : (tree.marked first).written.toList.head? ≠ some byteOrderMark := by
    cases tree with
    | text content => nofun
    | element tag attributes children =>
        rw [Tree.marked, written_chars, List.head?_cons]
        decide
  obtain ⟨fuel, enough⟩ := Nat.exists_eq_add_of_le (tree_token_count (tree.marked first))
  have read := tree_tokens tree first legible distinct (fuel + 1) []
  rw [List.append_nil, tokens_of_nothing, List.append_nil] at read
  rw [tokens_of_plain (no_return_in_tree tree first legible) begun, enough, Nat.add_assoc, read]
  exact line_starts_kept (tree_token_kinds _)

end StyleAudit.Html
