import StyleAudit.Proofs.Html.Building
import StyleAudit.Proofs.Page.Outline
import StyleAudit.Proofs.Page.Place
import StyleAudit.Proofs.Page.Rendering
import StyleAudit.Proofs.Selector.Plain

/-!
# From a tree to its map and back

A tree is mapped under the numbers of its elements, as `from_html` does it, and the map is written
as the marked tree by `to_markup`. What is asked of the map after an edit is asked of what HTML
makes of that text. Where it makes the marked tree of it, nothing changes; but the end tag of a line
break is read as one more line break.
-/

namespace StyleAudit.Page

set_option autoImplicit false

theorem Tree.Shows.size_eq {seen tree : Tree} (shows : seen.Shows tree) :
    seen.size = tree.size := by
  have lengths := congrArg List.length shows
  simpa only [List.length_map, List.length_zipIdx, Tree.places, places_length] using lengths

/-- In the map of a tree stands under each number the element of the place with that number, with
the number of the place around it as its parent. -/
theorem mapped_at_place (tree : Tree) {i : Nat} {place : Place}
    (found : tree.places[i]? = some place) :
    ∃ number, (ElementMap.ofTree tree).get? (numberId i) =
        some (elementOf number place.tree.tag place.tree.attributes) ∧
      ((number = none ∧ place.parent? = none) ∨ Encloses tree.places 0 i place number) := by
  obtain ⟨number, entry, enclosing⟩ :=
    numbered_at_place tree (.root tree) rfl none 0 i place found
  rw [Nat.zero_add] at entry
  refine ⟨number, (ElementMap.get_of_tree_iff tree _ _).mpr (List.mem_of_getElem? entry), ?_⟩
  rcases enclosing with ⟨rfl, rfl⟩ | inside
  · exact .inl ⟨rfl, rfl⟩
  · exact .inr inside

/-- A page answers after an edit as it did before, whatever is asked but for texts and marks. -/
def AnswersAlike (parse : Parser) (page edited : Page) : Prop :=
  ∀ selectors, Selector.arePlain selectors = true →
    edited.matched parse selectors = page.matched parse selectors

theorem put_back {parse : Parser} {html : String} {tree : Tree} (parsed : parse html = tree)
    {id : String} {element : Element}
    (found : (ElementMap.ofTree tree).get? id = some element) :
    (ofSource parse html).insert id element = ofMap (ElementMap.ofTree tree) := by
  subst parsed
  rw [insert, ofSource, ElementMap.insert, Keyed.insert_again found]

theorem outline_read_back_alike {tree : Tree} (lower : tree.InLowerCase)
    (distinct : tree.NamesDistinct) (selectors : List Selector.Complex)
    (plain : Selector.arePlain selectors = true) :
    matchedByMark selectors (tree.outline.marked 0) = matchedByNumber selectors tree := by
  rw [(marked_shows tree.outline).matched selectors]
  cases tree with
  | text content => rfl
  | element tag attributes children =>
      exact (Selector.matched_alike plain (outline_alike _ 0 rfl lower distinct)).symm

/-- Where the markup of the map is read back, the map is asked as the tree is. -/
theorem answers_alike {parse : Parser} {html : String} {tree : Tree} (parsed : parse html = tree)
    (markup : (ElementMap.ofTree tree).markup = (tree.marked 0).written)
    (lower : tree.InLowerCase) (distinct : tree.NamesDistinct)
    (readBack : parse (tree.marked 0).written = tree.outline.marked 0) :
    AnswersAlike parse (ofSource parse html) (ofMap (ElementMap.ofTree tree)) := by
  intro selectors plain
  have asked : (ofMap (ElementMap.ofTree tree)).matched parse selectors =
      matchedByMark selectors (tree.outline.marked 0) := by
    rw [← readBack, ← markup]
    rfl
  rw [asked, outline_read_back_alike lower distinct selectors plain, ← parsed]
  rfl

theorem page_echoes_nothing {page : Tree} (is : Html.IsPage page) :
    Html.echo (page.marked 0).tag = [] := by
  unfold Html.IsPage at is
  split at is
  · rw [Tree.marked, Tree.tag, is.1]
    rfl
  · exact absurd is id

/-- The map of a tree whose elements can be numbered holds them under their numbers in document
order, each below the element around it, and is written as the tree with these numbers as marks.
When an element is put back into the map of a page, the page answers by that text. It answers as
before to all that asks neither for texts nor for marks, if the text is read back. Of a text that
HTML reads by its ordinary rules it makes the tree again, but one more element for each line break,
so the elements are seen where they were exactly if there is no line break. -/
theorem mapped_tree_is_written_back (tree : Tree) (distinct : tree.NamesDistinct)
    (fits : tree.size ≤ largestPosition + 1) :
    (ElementMap.ofTree tree).ids = (List.range tree.size).map numberId ∧
    (∀ i place, tree.places[i]? = some place →
      ∃ number, (ElementMap.ofTree tree).get? (numberId i) =
          some (elementOf number place.tree.tag place.tree.attributes) ∧
        ((number = none ∧ place.parent? = none) ∨ Encloses tree.places 0 i place number)) ∧
    (ElementMap.ofTree tree).markup = (tree.marked 0).written ∧ (tree.marked 0).Shows tree ∧
    ∀ (parse : Parser) (html : String), parse html = tree →
      ∀ id element, (ElementMap.ofTree tree).get? id = some element →
        let page := ofSource parse html
        let edited := page.insert id element
        let seen := parse edited.map.markup
        edited.source = none ∧ edited.map = page.map ∧
        (seen = tree.outline.marked 0 → tree.InLowerCase → AnswersAlike parse page edited) ∧
        (Html.ReadsPages parse → Html.Legible tree.outline → Html.IsPage tree.outline →
          seen.size = tree.size + Html.lineBreaks tree ∧
          (seen.Shows tree.outline ↔ Html.lineBreaks tree = 0) ∧
          (Html.lineBreaks tree = 0 → tree.InLowerCase → AnswersAlike parse page edited)) := by
  have markup := ElementMap.markup_of_tree fits distinct
  refine ⟨ElementMap.ids_of_tree fits, fun i place => mapped_at_place tree, markup,
    marked_shows tree, ?_⟩
  intro parse html parsed id element found page edited seen
  have map : edited = ofMap (ElementMap.ofTree tree) := put_back parsed found
  have text : seen = parse (tree.marked 0).written := by
    rw [← markup]
    exact congrArg (fun page => parse page.map.markup) map
  have alike (readBack : seen = tree.outline.marked 0) (lower : tree.InLowerCase) :
      AnswersAlike parse page edited := by
    rw [map]
    rw [text] at readBack
    exact answers_alike parsed markup lower distinct readBack
  refine ⟨by rw [map]; rfl, by rw [map, ← parsed]; rfl, alike, ?_⟩
  intro reads legible isPage
  have readBack : seen = Html.reread (tree.outline.marked 0) := by
    rw [text, ← outline_written]
    exact reads.reads tree.outline (outline_distinct tree distinct) legible isPage
  have size : seen.size = tree.size + Html.lineBreaks tree := by
    have counted := Html.reread_size tree.outline 0
    rwa [page_echoes_nothing isPage, ← readBack, outline_size, outline_line_breaks] at counted
  have whole (unbroken : Html.lineBreaks tree = 0) : seen = tree.outline.marked 0 := by
    rw [readBack]
    exact Html.reread_unbroken tree.outline 0 (outline_line_breaks tree ▸ unbroken)
  refine ⟨size, ⟨?_, ?_⟩, fun unbroken => alike (whole unbroken)⟩
  · intro shows
    have same := shows.size_eq
    rw [outline_size] at same
    omega
  · intro unbroken
    rw [whole unbroken]
    exact marked_shows tree.outline

/-- More than ten siblings, an old mark, a quote to be escaped and an element without content. -/
def crowded : Tree :=
  .element "html" [("lang", "en"), (idAttribute, "7"), ("class", "a\"b")]
    [.element "head" [] [.element "title" [] [.text "title"]], .text " ",
      .element "body" [("id", "x")]
        (.element "hr" [] [] :: List.replicate 11 (.element "p" [] [.text "text"]))]

def crowdedSource : String :=
  "<html lang=en data-css-techniques-id=7 class='a\"b'><head><title>title</title></head> " ++
    "<body id=x><hr>" ++ String.join (List.replicate 11 "<p>text")

set_option maxRecDepth 20000 in
private theorem crowded_parsed : Html.parse crowdedSource = crowded := by rfl

private theorem crowded_legible : Html.Legible crowded.outline := by
  have tags : ∀ tag ∈ ["html", "head", "title", "body", "hr", "p"],
      Html.IsTagName (Text.asciiLower tag) ∧ Text.asciiLower tag ≠ "plaintext" := by
    decide +kernel
  have attributes : ∀ entry ∈ [("lang", "en"), (idAttribute, "7"), ("class", "a\"b"), ("id", "x")],
      Html.IsAttribute entry := by
    decide +kernel
  have filled : ∀ tag ∈ ["html", "head", "body"], Text.asciiLower tag ∉ Html.textTags := by
    decide +kernel
  simp only [List.forall_mem_cons] at tags attributes filled
  simp [crowded, Tree.outline, outlineAll, Html.Legible, Html.AllLegible, List.replicate,
    Tree.isElement, tags, attributes, filled]

private theorem crowded_is_page : Html.IsPage crowded.outline := by
  have rule : Html.Settles ["body", "html"] (Text.asciiLower "hr") := by
    constructor <;> decide +kernel
  have paragraph : Html.Settles ["body", "html"] (Text.asciiLower "p") := by
    constructor <;> decide +kernel
  simp only [crowded, Tree.outline, outlineAll, Tree.isElement, if_true, if_false,
    Bool.false_eq_true, List.replicate, Html.IsPage, Html.Fitting, Html.AllFitting, rule, paragraph,
    List.forall_mem_singleton, Html.IsMetadata, implies_true, and_true]
  decide +kernel

theorem crowded_is_written_back :
    let page := ofSource Html.parse crowdedSource
    let edited := page.insert "4" (elementOf (some 3) "hr" [])
    crowded.NamesDistinct ∧ crowded.size ≤ largestPosition + 1 ∧
    Html.parse crowdedSource = crowded ∧
    (ElementMap.ofTree crowded).get? "4" = some (elementOf (some 3) "hr" []) ∧
    Html.ReadsPages Html.parse ∧ Html.Legible crowded.outline ∧ Html.IsPage crowded.outline ∧
    Html.lineBreaks crowded = 0 ∧ crowded.InLowerCase ∧
    (ElementMap.ofTree crowded).ids = ["0", "1", "2", "3", "4", "5", "6", "7", "8", "9", "10", "11",
      "12", "13", "14", "15"] ∧
    (ElementMap.ofTree crowded).markup = (crowded.marked 0).written ∧
    edited.source = none ∧ edited.map = page.map ∧
    (Html.parse edited.map.markup).Shows crowded.outline ∧ AnswersAlike Html.parse page edited := by
  intro page edited
  have distinct : crowded.NamesDistinct := by
    simp [crowded, Tree.NamesDistinct, AllNamesDistinct, List.replicate, idAttribute]
  have fits : crowded.size ≤ largestPosition + 1 := by decide
  have lower : crowded.InLowerCase := by
    simp only [crowded, Tree.InLowerCase, AllInLowerCase, List.replicate, and_true, and_self]
    decide +kernel
  have parsed := crowded_parsed
  have unbroken : Html.lineBreaks crowded = 0 := by decide +kernel
  have found : (ElementMap.ofTree crowded).get? "4" = some (elementOf (some 3) "hr" []) := by
    decide +kernel
  obtain ⟨ids, _, markup, _, edits⟩ := mapped_tree_is_written_back crowded distinct fits
  obtain ⟨dropped, map, _, readable⟩ := edits Html.parse crowdedSource parsed "4" _ found
  obtain ⟨_, shows, alike⟩ :=
    readable Html.parse_reads_pages crowded_legible crowded_is_page
  exact ⟨distinct, fits, parsed, found, Html.parse_reads_pages, crowded_legible, crowded_is_page,
    unbroken, lower, ids, markup, dropped, map, shows.mpr unbroken, alike unbroken lower⟩

def lineBreak : Tree :=
  .element "html" [] [.element "head" [] [], .element "body" [] [.element "br" [] []]]

def lineBreakMarkup : String :=
  "<html data-css-techniques-id=\"0\"><head data-css-techniques-id=\"1\"></head>" ++
  "<body data-css-techniques-id=\"2\"><br data-css-techniques-id=\"3\"></br></body></html>"

def loneBreak : List Selector.Complex :=
  [.compound [.tag "br", .counted ⟨⟨0, 1⟩, false, false⟩, .counted ⟨⟨0, 1⟩, false, true⟩]]

private theorem line_break_distinct : lineBreak.NamesDistinct := by
  simp [lineBreak, Tree.NamesDistinct, AllNamesDistinct]

private theorem line_break_reread {parse : Parser} (reads : Html.ReadsPages parse) :
    parse (lineBreak.marked 0).written = Html.reread (lineBreak.marked 0) := by
  have tags : ∀ tag ∈ ["html", "head", "body", "br"], Html.IsTagName (Text.asciiLower tag) ∧
      Text.asciiLower tag ≠ "plaintext" ∧ Text.asciiLower tag ∉ Html.textTags := by
    decide +kernel
  have settles : Html.Settles ["body", "html"] (Text.asciiLower "br") := by
    constructor <;> decide +kernel
  simp only [List.forall_mem_cons] at tags
  apply reads.reads lineBreak line_break_distinct
  · simp [lineBreak, Html.Legible, Html.AllLegible, tags]
  · simp only [lineBreak, Html.IsPage, Html.Fitting, Html.AllFitting, settles, implies_true,
      and_true, List.not_mem_nil, false_implies]
    decide +kernel

/-- The line break is written with an end tag, and so HTML reads two of them where there was one. -/
theorem line_break_is_read_back_twice :
    (ElementMap.ofTree lineBreak).markup = lineBreakMarkup ∧
    (ElementMap.ofTree lineBreak).get? "3" = some (elementOf (some 2) "br" []) ∧
    Selector.arePlain loneBreak = true ∧
    Html.ReadsPages Html.parse ∧ Html.parse "<br>" = lineBreak ∧
    ∀ parse : Parser, Html.ReadsPages parse → parse "<br>" = lineBreak →
      let page := ofSource parse "<br>"
      let edited := page.insert "3" (elementOf (some 2) "br" [])
      edited.map = page.map ∧ ¬ (parse edited.map.markup).Shows lineBreak.outline ∧
      page.matched parse loneBreak = ["3"] ∧ edited.matched parse loneBreak = [] := by
  have markup : (ElementMap.ofTree lineBreak).markup = (lineBreak.marked 0).written :=
    ElementMap.markup_of_tree (by decide) line_break_distinct
  have written : (ElementMap.ofTree lineBreak).markup = lineBreakMarkup := by
    rw [markup]
    decide +kernel
  have found : (ElementMap.ofTree lineBreak).get? "3" = some (elementOf (some 2) "br" []) := by
    decide +kernel
  have alone : matchedByNumber loneBreak lineBreak = ["3"] := by decide +kernel
  have beside : matchedByMark loneBreak (Html.reread (lineBreak.marked 0)) = [] := by
    decide +kernel
  refine ⟨written, found, by decide, Html.parse_reads_pages, by rfl, ?_⟩
  intro parse reads parsed page edited
  have map : edited = ofMap (ElementMap.ofTree lineBreak) := put_back parsed found
  have seen : parse (ElementMap.ofTree lineBreak).markup = Html.reread (lineBreak.marked 0) := by
    rw [markup]
    exact line_break_reread reads
  rw [map]
  refine ⟨by rw [← parsed]; rfl, ?_, ?_, ?_⟩
  · intro shows
    have four := shows.size_eq
    rw [ofMap, seen, outline_size] at four
    revert four
    decide +kernel
  · rw [← alone, ← parsed]
    rfl
  · rw [← beside, ← seen]
    rfl

end StyleAudit.Page
