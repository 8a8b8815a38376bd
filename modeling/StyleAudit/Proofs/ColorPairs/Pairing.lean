import Mathlib.Data.List.Forall2
import Mathlib.Tactic.Tauto
import StyleAudit.Proofs.ColorPairs.Search
import StyleAudit.Proofs.Ledger

/-!
# Every color is judged once

The elements come in the order of their ids, which need not be that of the tree, so a background may
be paired before it is met, after it, or by itself. The invariant speaks of the elements seen so
far: each foreground among them has its finding, and the backgrounds that are kept unpaired are the
ones seen that are nearest to no foreground seen.
-/

namespace StyleAudit.ColorPairs

set_option autoImplicit false

open scoped Classical

variable {map : ElementMap} {id : String}

/-- There is a background on the element or above it. -/
def Backed (map : ElementMap) (id : String) : Prop :=
  ∃ x, OnChain map id x ∧ HasBackground map x

/-- Some foreground among the elements has the background as its nearest. -/
def PairedBy (map : ElementMap) (elements : List String) (background : String) : Prop :=
  ∃ id ∈ elements, HasForeground map id ∧ Nearest map id background

/-- The backgrounds among the elements that are nearest to no foreground among them. -/
noncomputable def lonelyBackgrounds (map : ElementMap) (elements : List String) : List String :=
  elements.filter fun id => HasBackground map id ∧ ¬ PairedBy map elements id

noncomputable def foregrounds (map : ElementMap) (elements : List String) : List String :=
  elements.filter fun id => HasForeground map id

/-- The finding that an element with a foreground deserves. -/
inductive Judged (map : ElementMap) (id : String) : Finding → Prop where
  | paired (backed : Backed map id) : Judged map id pairedFinding
  | lonely {property value : String} (own : foreground? map id = some (property, value))
      (unbacked : ¬ Backed map id) : Judged map id (lonelyForeground map id property value)

theorem lonely_foreground_verdict (property value : String) :
    (lonelyForeground map id property value).verdict = .failed :=
  Finding.verdict_withEvidence _ _

theorem lonely_background_verdict : (lonelyBackground map id).verdict = .failed := by
  rw [lonelyBackground]
  cases background? map id with
  | none => rfl
  | some style => exact Finding.verdict_withEvidence _ _

theorem Judged.verdict {f : Finding} (judged : Judged map id f) :
    (f.verdict = .passed ↔ Backed map id) ∧ (f.verdict = .failed ↔ ¬ Backed map id) := by
  cases judged with
  | paired backed => simp [backed, pairedFinding, Finding.bare]
  | lonely own unbacked => simp [unbacked, lonely_foreground_verdict]

namespace Pairing

def unpaired (p : Pairing) : List String :=
  (p.backgrounds.filter fun entry => !entry.2).map Prod.fst

theorem knows_iff (p : Pairing) (id : String) :
    p.knows id = true ↔ (id, true) ∈ p.backgrounds ∨ id ∈ p.unpaired := by
  simp only [knows, unpaired, List.any_eq_true, beq_iff_eq, List.mem_map, List.mem_filter,
    Bool.not_eq_true']
  constructor
  · rintro ⟨⟨_, paired⟩, member, rfl⟩
    cases paired with
    | true => exact .inl member
    | false => exact .inr ⟨_, ⟨member, rfl⟩, rfl⟩
  · rintro (member | ⟨entry, ⟨member, _⟩, rfl⟩)
    · exact ⟨_, member, rfl⟩
    · exact ⟨entry, member, rfl⟩

theorem unpaired_record (p : Pairing) (f : Finding) : (p.record f).unpaired = p.unpaired := rfl

theorem backgrounds_record (p : Pairing) (f : Finding) :
    (p.record f).backgrounds = p.backgrounds := rfl

theorem findings_meet (p : Pairing) (id : String) :
    (p.meetBackground id).findings = p.findings := by
  rw [meetBackground]
  split <;> rfl

theorem findings_pair (p : Pairing) (id : String) : (p.pair id).findings = p.findings := by
  rw [pair]
  split <;> rfl

theorem unpaired_meet (p : Pairing) (id : String) :
    (p.meetBackground id).unpaired =
      p.unpaired ++ if p.knows id = true then [] else [id] := by
  rw [meetBackground]
  split
  · rw [List.append_nil]
  · simp [unpaired]

theorem paired_meet (p : Pairing) (id background : String) :
    (background, true) ∈ (p.meetBackground id).backgrounds ↔
      (background, true) ∈ p.backgrounds := by
  rw [meetBackground]
  split
  · rfl
  · simp

theorem unpaired_pair (p : Pairing) (id : String) :
    (p.pair id).unpaired = p.unpaired.filter fun other => other ≠ id := by
  by_cases known : p.knows id = true
  · rw [pair, if_pos known, unpaired, unpaired]
    induction p.backgrounds with
    | nil => rfl
    | cons entry rest ih =>
        obtain ⟨other, paired⟩ := entry
        by_cases same : other = id <;> cases paired <;> simp_all
  · have missing : id ∉ p.unpaired := fun member => known ((p.knows_iff id).mpr (.inr member))
    have kept : (p.unpaired.filter fun other => other ≠ id) = p.unpaired := by
      rw [List.filter_eq_self]
      intro other member
      simp only [ne_eq, decide_not, Bool.not_eq_true', decide_eq_false_iff_not]
      rintro rfl
      exact missing member
    rw [kept, pair, if_neg known]
    simp [unpaired]

theorem paired_pair (p : Pairing) (id background : String) :
    (background, true) ∈ (p.pair id).backgrounds ↔
      (background, true) ∈ p.backgrounds ∨ background = id := by
  rw [pair]
  split
  · rename_i known
    obtain ⟨⟨_, paired⟩, member, same⟩ := List.any_eq_true.mp known
    obtain rfl := beq_iff_eq.mp same
    simp only [List.mem_map]
    constructor
    · rintro ⟨entry, inside, shape⟩
      split at shape
      · exact .inr (Prod.mk.inj shape).1.symm
      · exact .inl (shape ▸ inside)
    · rintro (inside | rfl)
      · refine ⟨_, inside, ?_⟩
        split
        · rename_i same
          exact Prod.ext (beq_iff_eq.mp same).symm rfl
        · rfl
      · exact ⟨_, member, by simp⟩
  · simp

end Pairing

private theorem paired_by_concat (map : ElementMap) (seen : List String) (id background : String) :
    PairedBy map (seen ++ [id]) background ↔
      PairedBy map seen background ∨ HasForeground map id ∧ Nearest map id background := by
  simp only [PairedBy, List.mem_append, List.mem_singleton]
  constructor
  · rintro ⟨other, inside | rfl, pairs⟩
    · exact .inl ⟨other, inside, pairs⟩
    · exact .inr pairs
  · rintro (⟨other, inside, pairs⟩ | pairs)
    · exact ⟨other, .inl inside, pairs⟩
    · exact ⟨id, .inr rfl, pairs⟩

private theorem lonely_concat_of_found {seen : List String} {background : String}
    (fore : HasForeground map id) (nearest : Nearest map id background) :
    lonelyBackgrounds map (seen ++ [id]) =
      (lonelyBackgrounds map seen).filter fun other => other ≠ background := by
  have new (other : String) : Nearest map id other ↔ other = background := by
    constructor
    · intro also
      exact also.unique nearest
    · rintro rfl
      exact nearest
  have self : ¬ (HasBackground map id ∧ ¬ PairedBy map (seen ++ [id]) id) := by
    rintro ⟨has, unpaired⟩
    exact unpaired ((paired_by_concat map seen id id).mpr (.inr ⟨fore, .own has⟩))
  rw [lonelyBackgrounds, List.filter_append, List.filter_singleton, Bool.cond_decide, if_neg self,
    List.append_nil, lonelyBackgrounds, List.filter_filter]
  apply List.filter_congr
  intro other _
  simp only [paired_by_concat, fore, new, true_and, not_or, decide_eq_decide, ne_eq,
    ← Bool.decide_and]
  tauto

private theorem lonely_concat_of_unpairing {seen : List String}
    (pairs : ∀ other, ¬ (HasForeground map id ∧ Nearest map id other)) :
    lonelyBackgrounds map (seen ++ [id]) = lonelyBackgrounds map seen ++
      if HasBackground map id ∧ ¬ PairedBy map seen id then [id] else [] := by
  simp only [lonelyBackgrounds, paired_by_concat, pairs, or_false, List.filter_append,
    List.filter_singleton, Bool.cond_decide]

/-- What has been noted once some elements have been seen. -/
structure Tracks (map : ElementMap) (seen : List String) (p : Pairing) : Prop where
  findings : List.Forall₂ (Judged map) (foregrounds map seen) p.findings
  unpaired : p.unpaired = lonelyBackgrounds map seen
  paired : ∀ background, (background, true) ∈ p.backgrounds ↔ PairedBy map seen background

theorem start_tracks (map : ElementMap) : Tracks map [] Pairing.start := by
  refine ⟨.nil, rfl, ?_⟩
  intro background
  simp [Pairing.start, PairedBy]

private theorem foregrounds_concat (seen : List String) :
    foregrounds map (seen ++ [id]) =
      foregrounds map seen ++ if HasForeground map id then [id] else [] := by
  simp only [foregrounds, List.filter_append, List.filter_singleton, Bool.cond_decide]

namespace Tracks

variable {seen : List String} {p : Pairing}

theorem paired_off {background : String} (tracks : Tracks map seen p) (fore : HasForeground map id)
    (nearest : Nearest map id background) :
    Tracks map (seen ++ [id]) ((p.record pairedFinding).pair background) := by
  refine ⟨?_, ?_, ?_⟩
  · have backed : Backed map id := exists_nearest_iff.mp ⟨background, nearest⟩
    rw [foregrounds_concat, if_pos fore, Pairing.findings_pair]
    exact List.rel_append tracks.findings (.cons (.paired backed) .nil)
  · rw [Pairing.unpaired_pair, Pairing.unpaired_record, tracks.unpaired,
      lonely_concat_of_found fore nearest]
  · intro other
    have same : Nearest map id other ↔ other = background :=
      ⟨fun also => also.unique nearest, fun equal => equal ▸ nearest⟩
    rw [Pairing.paired_pair, Pairing.backgrounds_record, tracks.paired, paired_by_concat, same]
    simp only [fore, true_and]

theorem left_alone {property value : String} (tracks : Tracks map seen p)
    (style : foreground? map id = some (property, value))
    (nowhere : ¬ ∃ background, Nearest map id background) :
    Tracks map (seen ++ [id]) (p.record (lonelyForeground map id property value)) := by
  have pairs : ∀ other, ¬ (HasForeground map id ∧ Nearest map id other) :=
    fun other both => nowhere ⟨other, both.2⟩
  refine ⟨?_, ?_, ?_⟩
  · have fore : HasForeground map id := foreground_of_style style
    have unbacked : ¬ Backed map id := fun backed => nowhere (exists_nearest_iff.mpr backed)
    rw [foregrounds_concat, if_pos fore]
    exact List.rel_append tracks.findings (.cons (.lonely style unbacked) .nil)
  · have plain : ¬ HasBackground map id := fun has => nowhere ⟨id, .own has⟩
    rw [Pairing.unpaired_record, tracks.unpaired, lonely_concat_of_unpairing pairs,
      if_neg (fun both => plain both.1), List.append_nil]
  · intro other
    rw [Pairing.backgrounds_record, tracks.paired, paired_by_concat]
    simp only [pairs, or_false]

theorem met (tracks : Tracks map seen p) (new : id ∉ seen) (unset : ¬ HasForeground map id)
    (has : HasBackground map id) : Tracks map (seen ++ [id]) (p.meetBackground id) := by
  have pairs : ∀ other, ¬ (HasForeground map id ∧ Nearest map id other) :=
    fun other both => unset both.1
  refine ⟨?_, ?_, ?_⟩
  · rw [foregrounds_concat, if_neg unset, List.append_nil, Pairing.findings_meet]
    exact tracks.findings
  · have known : p.knows id = true ↔ PairedBy map seen id := by
      rw [Pairing.knows_iff, tracks.paired, tracks.unpaired]
      have unseen : id ∉ lonelyBackgrounds map seen := fun member =>
        new (List.mem_filter.mp member).1
      simp only [unseen, or_false]
    rw [Pairing.unpaired_meet, tracks.unpaired, lonely_concat_of_unpairing pairs]
    by_cases paired : PairedBy map seen id <;> simp [known, has, paired]
  · intro other
    rw [Pairing.paired_meet, tracks.paired, paired_by_concat]
    simp only [pairs, or_false]

theorem passed_by (tracks : Tracks map seen p) (unset : ¬ HasForeground map id)
    (plain : ¬ HasBackground map id) : Tracks map (seen ++ [id]) p := by
  have pairs : ∀ other, ¬ (HasForeground map id ∧ Nearest map id other) :=
    fun other both => unset both.1
  refine ⟨?_, ?_, ?_⟩
  · rw [foregrounds_concat, if_neg unset, List.append_nil]
    exact tracks.findings
  · rw [tracks.unpaired, lonely_concat_of_unpairing pairs, if_neg (fun both => plain both.1),
      List.append_nil]
  · intro other
    rw [tracks.paired, paired_by_concat]
    simp only [pairs, or_false]

end Tracks

theorem visit_tracks {seen : List String} {p q : Pairing} (tracks : Tracks map seen p)
    (new : id ∉ seen) (visited : visit map p id = .ok q) : Tracks map (seen ++ [id]) q := by
  rw [visit] at visited
  cases style : foreground? map id with
  | some found =>
      simp only [style] at visited
      cases search : nearestBackground map id with
      | found background =>
          simp only [search, Except.ok.injEq] at visited
          subst visited
          have fore : HasForeground map id := foreground_of_style style
          exact tracks.paired_off fore (nearest_background_found search)
      | nowhere =>
          simp only [search, Except.ok.injEq] at visited
          subst visited
          exact tracks.left_alone style (nearest_background_nowhere search)
      | loop element => simp [search] at visited
  | none =>
      have unset : ¬ HasForeground map id := by
        rw [← foreground_is_some_iff, style]
        simp
      simp only [style, Except.ok.injEq] at visited
      subst visited
      by_cases has : HasBackground map id
      · rw [if_pos (background_is_some_iff.mpr has)]
        exact tracks.met new unset has
      · rw [if_neg (fun found => has (background_is_some_iff.mp found))]
        exact tracks.passed_by unset has

theorem visits_track {seen rest : List String} {p q : Pairing} (tracks : Tracks map seen p)
    (distinct : (seen ++ rest).Nodup) (visited : rest.foldlM (visit map) p = .ok q) :
    Tracks map (seen ++ rest) q := by
  induction rest generalizing seen p with
  | nil =>
      obtain rfl : p = q := Except.ok.inj visited
      rw [List.append_nil]
      exact tracks
  | cons id rest ih =>
      rw [List.foldlM_cons] at visited
      have shape : seen ++ id :: rest = (seen ++ [id]) ++ rest := by
        rw [List.append_assoc, List.singleton_append]
      cases first : visit map p id with
      | error fault =>
          rw [first] at visited
          cases visited
      | ok next =>
          rw [first] at visited
          have new : id ∉ seen := fun member =>
            (List.nodup_append.mp distinct).2.2 id member id List.mem_cons_self rfl
          rw [shape] at distinct ⊢
          exact ih (visit_tracks tracks new first) distinct visited

theorem mem_lonely_backgrounds_iff (map : ElementMap) (id : String) :
    id ∈ lonelyBackgrounds map map.ids ↔
      HasBackground map id ∧ ∀ other, HasForeground map other → ¬ Nearest map other id := by
  rw [lonelyBackgrounds, List.mem_filter, decide_eq_true_eq, ElementMap.mem_ids_iff]
  constructor
  · rintro ⟨_, has, unpaired⟩
    refine ⟨has, fun other fore nearest => unpaired ⟨other, ?_, fore, nearest⟩⟩
    exact (map.mem_ids_iff other).mpr fore.contains
  · rintro ⟨has, unpaired⟩
    refine ⟨has.contains, has, ?_⟩
    rintro ⟨other, _, fore, nearest⟩
    exact unpaired other fore nearest

theorem evaluate_page_completed (completed : (evaluatePage map).ending = .completed) :
    ∃ p, Tracks map map.ids p ∧
      (evaluatePage map).findings = p.findings ++ p.unpaired.map (lonelyBackground map) := by
  rw [evaluatePage] at completed ⊢
  cases folded : map.ids.foldlM (visit map) Pairing.start with
  | error fault =>
      rw [folded] at completed
      cases completed
  | ok p =>
      refine ⟨p, ?_, ?_⟩
      · simpa only [List.nil_append] using
          visits_track (start_tracks map) (by simpa using map.ids_nodup) folded
      · simp only [unpairedFindings, Pairing.unpaired, List.map_map]
        rfl

/-- A run on a page that ends without a fault has judged each foreground in document order, as
passed exactly if there is a background on the element or above it, and then has failed, in document
order and each of them once, exactly the backgrounds that are nearest to no foreground. -/
theorem completed_run_judges_every_color (sheets : List Stylesheet) (map : ElementMap)
    (completed : ((Instance.start technique).execute ⟨sheets, some map⟩).2 = .completed) :
    ∃ judged lonely,
      ((Instance.start technique).execute ⟨sheets, some map⟩).1.ledger.findings =
          judged ++ lonely.map (lonelyBackground map) ∧
        List.Forall₂ (fun id f => Judged map id f ∧ (f.verdict = .passed ↔ Backed map id) ∧
          (f.verdict = .failed ↔ ¬ Backed map id)) (foregrounds map map.ids) judged ∧
        lonely = lonelyBackgrounds map map.ids ∧ lonely.Nodup ∧
        (∀ id, id ∈ lonely ↔
          HasBackground map id ∧ ∀ other, HasForeground map other → ¬ Nearest map other id) ∧
        ∀ id ∈ lonely, (lonelyBackground map id).verdict = .failed := by
  have ending : (evaluatePage map).ending = .completed := completed
  obtain ⟨p, tracks, findings⟩ := evaluate_page_completed ending
  refine ⟨p.findings, lonelyBackgrounds map map.ids, ?_, ?_, rfl, ?_, ?_, ?_⟩
  · rw [← tracks.unpaired, ← findings]
    exact Ledger.start_fill_all_findings _ _
  · exact tracks.findings.imp fun _ _ judged => ⟨judged, judged.verdict⟩
  · exact map.ids_nodup.filter _
  · exact mem_lonely_backgrounds_iff map
  · intro id _
    exact lonely_background_verdict

def styledElement (tag : String) (parent : Option String) (styles : List (String × String)) :
    Element :=
  ⟨tag, .empty, .ofList styles, parent⟩

/-- A child comes before the parent it is paired with, one background stays alone, and one parent is
missing. -/
def crossedPage : ElementMap :=
  ⟨.ofList [("1", styledElement "p" (some "3") [("color", "red")]),
    ("2", styledElement "aside" none [("background-color", "gray")]),
    ("3", styledElement "div" none [("bgcolor", "navy")]),
    ("4", styledElement "td" (some "404") [("text", "white")])]⟩

theorem crossed_page_is_judged :
    ((Instance.start technique).execute ⟨[], some crossedPage⟩).2 = .completed ∧
      ∃ judged lonely,
        ((Instance.start technique).execute ⟨[], some crossedPage⟩).1.ledger.findings =
            judged ++ lonely.map (lonelyBackground crossedPage) ∧
          lonely = lonelyBackgrounds crossedPage crossedPage.ids ∧ lonely.Nodup := by
  have order : crossedPage.ids = ["1", "2", "3", "4"] := by
    apply List.mergeSort_of_pairwise
    decide
  have completed : ((Instance.start technique).execute ⟨[], some crossedPage⟩).2 = .completed := by
    change (evaluatePage crossedPage).ending = .completed
    rw [evaluatePage, order]
    rfl
  obtain ⟨judged, lonely, findings, _, same, distinct, _⟩ :=
    completed_run_judges_every_color [] crossedPage completed
  exact ⟨completed, judged, lonely, findings, same, distinct⟩

end StyleAudit.ColorPairs
