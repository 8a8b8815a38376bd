import StyleAudit.Page.Markup
import StyleAudit.Proofs.Keyed

/-!
# Escaped attribute values

A value is escaped by three replacements in a row. Since the ampersands are replaced before any
entity is written, that is the same as writing each character by itself. So no quote and no bracket
is left, an ampersand is always the first character of an entity, and reading the entities gives the
value back. Written between quotes, two values can only be taken for each other if they are equal.
-/

namespace StyleAudit.Page

set_option autoImplicit false

def entities : List (List Char) :=
  ["&amp;".toList, "&quot;".toList, "&lt;".toList]

/-- Reads the entities from left to right. -/
def unescape : List Char → List Char
  | '&' :: 'a' :: 'm' :: 'p' :: ';' :: rest => '&' :: unescape rest
  | '&' :: 'q' :: 'u' :: 'o' :: 't' :: ';' :: rest => '"' :: unescape rest
  | '&' :: 'l' :: 't' :: ';' :: rest => '<' :: unescape rest
  | c :: rest => c :: unescape rest
  | [] => []

theorem escaped_char_cases (c : Char) :
    c = '&' ∧ escapeChar c = "&amp;".toList ∨ c = '"' ∧ escapeChar c = "&quot;".toList ∨
      c = '<' ∧ escapeChar c = "&lt;".toList ∨
      (c ≠ '&' ∧ c ≠ '"' ∧ c ≠ '<') ∧ escapeChar c = [c] := by
  unfold escapeChar
  split
  · simp
  · simp
  · simp
  · rename_i ampersand quote bracket
    exact .inr (.inr (.inr ⟨⟨ampersand, quote, bracket⟩, rfl⟩))

theorem entity_or_plain (c : Char) :
    escapeChar c ∈ entities ∨ (c ≠ '&' ∧ c ≠ '"' ∧ c ≠ '<') ∧ escapeChar c = [c] := by
  rcases escaped_char_cases c with ⟨_, written⟩ | ⟨_, written⟩ | ⟨_, written⟩ | plain
  · exact .inl (by simp [written, entities])
  · exact .inl (by simp [written, entities])
  · exact .inl (by simp [written, entities])
  · exact .inr plain

theorem unescape_plain {c : Char} (plain : c ≠ '&') (rest : List Char) :
    unescape (c :: rest) = c :: unescape rest := by
  rw [unescape]
  all_goals
    intros
    contradiction

theorem unescape_escaped_char (c : Char) (rest : List Char) :
    unescape (escapeChar c ++ rest) = c :: unescape rest := by
  rcases escaped_char_cases c with ⟨rfl, written⟩ | ⟨rfl, written⟩ | ⟨rfl, written⟩ |
    ⟨⟨plain, _⟩, written⟩
  · rw [written]
    rfl
  · rw [written]
    rfl
  · rw [written]
    rfl
  · rw [written, List.singleton_append, unescape_plain plain]

/-- What is written for a character has an ampersand at most at its beginning, and then it is one of
the entities. -/
theorem ampersand_in_escaped_char {c : Char} {before after : List Char}
    (written : escapeChar c = before ++ '&' :: after) :
    before = [] ∧ escapeChar c ∈ entities := by
  have first : ∀ entity ∈ entities, '&' ∉ entity.tail := by decide
  rcases entity_or_plain c with entity | ⟨⟨plain, _⟩, same⟩
  · refine ⟨?_, entity⟩
    cases before with
    | nil => rfl
    | cons other before =>
        have later : '&' ∈ (escapeChar c).tail := by simp [written]
        exact absurd later (first _ entity)
  · have inside : '&' ∈ escapeChar c := by simp [written]
    rw [same, List.mem_singleton] at inside
    exact absurd inside.symm plain

theorem unescape_escaped_chars (cs : List Char) : unescape (cs.flatMap escapeChar) = cs := by
  induction cs with
  | nil => rfl
  | cons c rest ih => rw [List.flatMap_cons, unescape_escaped_char, ih]

theorem reserved_not_mem_escaped {stop : Char} (reserved : stop = '"' ∨ stop = '<')
    (cs : List Char) : stop ∉ cs.flatMap escapeChar := by
  have quote : ∀ entity ∈ entities, '"' ∉ entity := by decide
  have bracket : ∀ entity ∈ entities, '<' ∉ entity := by decide
  intro member
  obtain ⟨c, _, inside⟩ := List.mem_flatMap.mp member
  rcases entity_or_plain c with entity | ⟨⟨_, no_quote, no_bracket⟩, written⟩
  · rcases reserved with rfl | rfl
    · exact quote _ entity inside
    · exact bracket _ entity inside
  · rw [written, List.mem_singleton] at inside
    rcases reserved with rfl | rfl
    · exact no_quote inside.symm
    · exact no_bracket inside.symm

theorem ampersand_begins_entity {cs tail : List Char}
    (inside : '&' :: tail <:+ cs.flatMap escapeChar) :
    ∃ entity ∈ entities, entity <+: '&' :: tail := by
  induction cs with
  | nil => exact absurd (List.suffix_nil.mp inside) (List.cons_ne_nil _ _)
  | cons c rest ih =>
      obtain ⟨before, split⟩ := inside
      rw [List.flatMap_cons, List.append_eq_append_iff] at split
      -- The ampersand is written for the first character, or it stands behind that.
      rcases split with ⟨more, written, remains⟩ | ⟨more, _, remains⟩
      · cases more with
        | nil => exact ih ⟨[], remains⟩
        | cons first more =>
            obtain ⟨rfl, _⟩ := List.cons.inj remains
            obtain ⟨rfl, entity⟩ := ampersand_in_escaped_char written
            refine ⟨escapeChar c, entity, rest.flatMap escapeChar, ?_⟩
            rw [written, remains, List.nil_append]
      · exact ih ⟨more, remains.symm⟩

theorem escape_chars (value : String) :
    (escape value).toList = value.toList.flatMap escapeChar := by
  rw [escape_eq_each, String.toList_ofList]

theorem quotes_aligned {first second rest others : List Char} (none : '"' ∉ first)
    (neither : '"' ∉ second) (same : first ++ '"' :: rest = second ++ '"' :: others) :
    first = second ∧ rest = others := by
  induction first generalizing second with
  | nil =>
      cases second with
      | nil => exact ⟨rfl, (List.cons.inj same).2⟩
      | cons c second =>
          obtain ⟨rfl, _⟩ := List.cons.inj same
          exact absurd List.mem_cons_self neither
  | cons c first ih =>
      cases second with
      | nil =>
          obtain ⟨rfl, _⟩ := List.cons.inj same
          exact absurd List.mem_cons_self none
      | cons d second =>
          obtain ⟨rfl, behind⟩ := List.cons.inj same
          obtain ⟨rfl, remains⟩ := ih (mt (List.mem_cons_of_mem _) none)
            (mt (List.mem_cons_of_mem _) neither) behind
          exact ⟨rfl, remains⟩

theorem quoted_values_apart {first second : List Char} {rest others : List Char}
    (same : first.flatMap escapeChar ++ '"' :: rest = second.flatMap escapeChar ++ '"' :: others) :
    first = second ∧ rest = others := by
  obtain ⟨written, remains⟩ := quotes_aligned (reserved_not_mem_escaped (.inl rfl) first)
    (reserved_not_mem_escaped (.inl rfl) second) same
  have values := congrArg unescape written
  rw [unescape_escaped_chars, unescape_escaped_chars] at values
  exact ⟨values, remains⟩

def attributeTexts (attributes : List (String × String)) : String :=
  String.join (attributes.map fun entry => " " ++ attributeText entry.1 entry.2)

theorem attribute_chars (entry : String × String) :
    (" " ++ attributeText entry.1 entry.2).toList =
      ' ' :: (entry.1.toList ++ '=' :: '"' :: (entry.2.toList.flatMap escapeChar ++ ['"'])) := by
  simp [attributeText, escape_eq_each]

theorem attribute_texts_cons (entry : String × String) (entries : List (String × String)) :
    (attributeTexts (entry :: entries)).toList = ' ' :: (entry.1.toList ++ '=' :: '"' ::
      (entry.2.toList.flatMap escapeChar ++ '"' :: (attributeTexts entries).toList)) := by
  rw [attributeTexts, List.map_cons, String.join_cons, ← attributeTexts, String.toList_append,
    attribute_chars]
  simp

theorem attribute_texts_apart {entries others : List (String × String)} {rest more : List Char}
    (names : entries.map Prod.fst = others.map Prod.fst)
    (same : (attributeTexts entries).toList ++ rest = (attributeTexts others).toList ++ more) :
    entries = others ∧ rest = more := by
  induction entries generalizing others with
  | nil =>
      obtain rfl : others = [] := List.map_eq_nil_iff.mp names.symm
      exact ⟨rfl, List.append_cancel_left same⟩
  | cons entry entries ih =>
      cases others with
      | nil => cases names
      | cons other others =>
          obtain ⟨name, value⟩ := entry
          obtain ⟨otherName, otherValue⟩ := other
          obtain ⟨rfl, otherNames⟩ := List.cons.inj names
          rw [attribute_texts_cons, attribute_texts_cons] at same
          simp only [List.cons_append, List.append_assoc, List.cons.injEq, true_and,
            List.append_cancel_left_eq] at same
          obtain ⟨values, same⟩ := quoted_values_apart same
          obtain ⟨rfl, remains⟩ := ih otherNames same
          rw [String.toList_inj.mp values]
          exact ⟨rfl, remains⟩

/-- The attributes that an element is written with, its id first. -/
def writtenAttributes (id : String) (element : Element) : List (String × String) :=
  (idAttribute, id) :: element.attributes.entries.filter fun entry => entry.1 != idAttribute

theorem open_tag_chars (id : String) (element : Element) :
    (ElementMap.openTag id element).toList =
      '<' :: (element.tag.toList ++ (attributeTexts (writtenAttributes id element)).toList ++
        ['>']) := by
  simp [ElementMap.openTag, attributeTexts, writtenAttributes]

theorem written_names (id : String) (element : Element) :
    (writtenAttributes id element).map Prod.fst =
      idAttribute :: element.attributes.keys.filter fun name => name != idAttribute := by
  rw [writtenAttributes, List.map_cons, Keyed.keys, List.filter_map]
  rfl

theorem get_of_written {first second : Element}
    (same : (first.attributes.entries.filter fun entry => entry.1 != idAttribute) =
      second.attributes.entries.filter fun entry => entry.1 != idAttribute)
    {name : String} (own : name ≠ idAttribute) :
    first.attributes.get? name = second.attributes.get? name := by
  have written (element : Element) (value : String) : element.attributes.get? name = some value ↔
      (name, value) ∈ element.attributes.entries.filter fun entry => entry.1 != idAttribute := by
    rw [Keyed.get_eq_some_iff, List.mem_filter, bne_iff_ne]
    exact (and_iff_left own).symm
  apply Option.ext
  intro value
  rw [written, written, same]

/-- The start tags of two elements of one name, with attributes of the same names, are written alike
only if the ids and all values are equal, whatever is written behind them. -/
theorem open_tags_apart {id other : String} {first second : Element} {rest more : List Char}
    (tags : first.tag = second.tag) (names : first.attributes.keys = second.attributes.keys)
    (same : (ElementMap.openTag id first).toList ++ rest =
      (ElementMap.openTag other second).toList ++ more) :
    id = other ∧ (∀ name, name ≠ idAttribute →
      first.attributes.get? name = second.attributes.get? name) ∧ rest = more := by
  have allNames : (writtenAttributes id first).map Prod.fst =
      (writtenAttributes other second).map Prod.fst := by
    rw [written_names, written_names, names]
  rw [open_tag_chars, open_tag_chars, tags] at same
  simp only [List.cons_append, List.append_assoc, List.cons.injEq, true_and,
    List.append_cancel_left_eq] at same
  obtain ⟨written, remains⟩ := attribute_texts_apart allNames same
  obtain ⟨ids, values⟩ := List.cons.inj written
  exact ⟨(Prod.mk.inj ids).2, fun name => get_of_written values, (List.cons.inj remains).2⟩

/-- The three replacements write each character by itself. They leave no quote, no bracket and no
ampersand but those that begin an entity. Reading the entities from left to right undoes them. Thus
ids and attribute values that differ are written differently, alone and in the start tag of an
element with anything behind it. -/
theorem escaped_values_stay_apart (value : String) :
    escape value = String.ofList (value.toList.flatMap escapeChar) ∧
    '"' ∉ (escape value).toList ∧ '<' ∉ (escape value).toList ∧
    (∀ tail, '&' :: tail <:+ (escape value).toList →
      ∃ entity ∈ entities, entity <+: '&' :: tail) ∧
    unescape (escape value).toList = value.toList ∧
    (∀ other, escape value = escape other → value = other) ∧
    ∀ (id : String) (first second : Element) (rest more : List Char),
      first.tag = second.tag → first.attributes.keys = second.attributes.keys →
      (ElementMap.openTag value first).toList ++ rest =
        (ElementMap.openTag id second).toList ++ more →
      value = id ∧ (∀ name, name ≠ idAttribute →
        first.attributes.get? name = second.attributes.get? name) ∧ rest = more := by
  rw [escape_chars]
  refine ⟨escape_eq_each value, reserved_not_mem_escaped (.inl rfl) _,
    reserved_not_mem_escaped (.inr rfl) _, fun tail => ampersand_begins_entity,
    unescape_escaped_chars _, ?_, ?_⟩
  · intro other same
    have written := congrArg (fun text => unescape text.toList) same
    simp only [escape_chars, unescape_escaped_chars] at written
    exact String.toList_inj.mp written
  · intro id first second rest more tags names same
    exact open_tags_apart tags names same

def remarked (mark : String) : Element :=
  ⟨"p", .ofList [("class", "&lt;<"), (idAttribute, mark)], .empty, none⟩

theorem entity_in_value_is_kept :
    let value := "&lt;<"
    let written := "&amp;lt;&lt;"
    let first := remarked "7"
    let second := remarked "8"
    escape value = written ∧ ('&' :: "lt;".toList) <:+ written.toList ∧
      (∃ entity ∈ entities, entity <+: '&' :: "lt;".toList) ∧
      unescape written.toList = value.toList ∧
      first.tag = second.tag ∧ first.attributes.keys = second.attributes.keys ∧
      (ElementMap.openTag value first).toList = (ElementMap.openTag value second).toList ∧
      (∀ name, name ≠ idAttribute → first.attributes.get? name = second.attributes.get? name) ∧
      first.attributes.get? idAttribute ≠ second.attributes.get? idAttribute := by
  intro value written first second
  have chars : escape value = written := by decide
  have names : first.attributes.keys = second.attributes.keys := by decide
  have tags : (ElementMap.openTag value first).toList = (ElementMap.openTag value second).toList :=
    by decide
  have behind : ('&' :: "lt;".toList) <:+ written.toList := by decide
  obtain ⟨_, _, _, begins, undone, _, apart⟩ := escaped_values_stay_apart value
  rw [chars] at begins undone
  obtain ⟨_, values, _⟩ := apart value first second [] [] rfl names (by rw [tags])
  exact ⟨chars, behind, begins _ behind, undone, rfl, names, tags, values, by decide⟩

end StyleAudit.Page
