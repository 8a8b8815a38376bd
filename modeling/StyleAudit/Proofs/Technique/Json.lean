import StyleAudit.Technique.Json
import StyleAudit.Proofs.Json.Reading
import StyleAudit.Proofs.Json.Record

/-!
# Findings and assertions read back

Each part of a report is read back from its written form, whatever is absent in it. Evidence that
is there is found among the members of its finding, and none is made up where there is none.
-/

namespace StyleAudit

set_option autoImplicit false

open Json (Fits Fields Placed valuesOf readNullable readText readList)
open Json.Placed (map_ok seq_ok seq_fails seq_fails_before)

section Optional

variable {α : Type} {write : α → Json} {held : Option α}

@[simp]
theorem values_optional_member (name other : String) :
    valuesOf name (optionalMember other (held.map write)) =
      if other = name then (held.map write).toList else [] := by
  cases held with
  | none => simp [optionalMember, valuesOf]
  | some a => by_cases same : other = name <;> simp [optionalMember, valuesOf, same]

theorem forall_mem_optional_member {P : String × Json → Prop} {name : String} :
    (∀ member ∈ optionalMember name (held.map write), P member) ↔
      ∀ a, held = some a → P (name, write a) := by
  cases held with
  | none => simp [optionalMember]
  | some a => simp [optionalMember]

end Optional

theorem word_fits (word : UInt32) (room : Nat) : Fits room (jsonOfNat word.toNat) := by
  have below := word.toNat_lt
  exact .natural (by unfold Json.largestWord; omega)

theorem Location.fits (l : Location) (room : Nat) : Fits (room + 1) l.json := by
  apply Fits.object
  simp only [List.forall_mem_cons]
  exact ⟨word_fits l.line room, word_fits l.column room, by simp⟩

theorem Location.read_json (l : Location) : Location.read l.json = .ok l := by
  refine Json.read_record (a := Location.mk l.line l.column) (seq_ok (map_ok ?_) ?_) (l.fits 0)
  · exact Fields.read_held _ rfl (Json.read_word_of_nat l.line)
  · exact Fields.read_held _ rfl (Json.read_word_of_nat l.column)

theorem Position.fits (p : Position) (room : Nat) : Fits (room + 2) p.json := by
  apply Fits.object
  simp only [List.forall_mem_append, forall_mem_optional_member]
  exact ⟨⟨fun l _ => l.fits room, fun l _ => l.fits room⟩, fun s _ => .text s⟩

theorem Position.read_json (p : Position) : Position.read p.json = .ok p := by
  refine Json.read_record (a := Position.mk p.start p.finish p.source)
    (seq_ok (seq_ok (map_ok ?_) ?_) ?_) (p.fits 0)
  · exact Fields.read_nullable Location.json (by simp) Location.read_json fun _ => nofun
  · exact Fields.read_nullable Location.json (by simp) Location.read_json fun _ => nofun
  · exact Fields.read_nullable jsonOfText (by simp) (fun _ => rfl) fun _ => nofun

theorem SelectorEvidence.fits (e : SelectorEvidence) (room : Nat) : Fits (room + 3) e.json := by
  apply Fits.object
  simp only [List.forall_mem_cons, forall_mem_optional_member]
  exact ⟨.text e.value, fun p _ => p.fits room⟩

theorem SelectorEvidence.read_json (e : SelectorEvidence) :
    SelectorEvidence.read e.json = .ok e := by
  refine Json.read_record (a := SelectorEvidence.mk e.value e.position)
    (seq_ok (map_ok ?_) ?_) (e.fits 0)
  · exact Fields.read_held (.text e.value) (by simp) rfl
  · exact Fields.read_nullable Position.json (by simp) Position.read_json fun _ => nofun

theorem PropertyEvidence.fits (e : PropertyEvidence) (room : Nat) : Fits (room + 3) e.json := by
  apply Fits.object
  simp only [List.forall_mem_cons, forall_mem_optional_member]
  exact ⟨.text e.name, .text e.value, fun p _ => p.fits room⟩

theorem PropertyEvidence.read_json (e : PropertyEvidence) :
    PropertyEvidence.read e.json = .ok e := by
  refine Json.read_record (a := PropertyEvidence.mk e.name e.value e.position)
    (seq_ok (seq_ok (map_ok ?_) ?_) ?_) (e.fits 0)
  · exact Fields.read_held (.text e.name) (by simp) rfl
  · exact Fields.read_held (.text e.value) (by simp) rfl
  · exact Fields.read_nullable Position.json (by simp) Position.read_json fun _ => nofun

namespace Evidence

theorem members_fit (e : Evidence) (room : Nat) :
    ∀ member ∈ e.members, Fits (room + 3) member.2 := by
  unfold members
  simp only [List.forall_mem_append, List.forall_mem_cons, forall_mem_optional_member]
  exact ⟨⟨fun s _ => .text s, fun s _ => .text s⟩, e.selector.fits room, e.property.fits room,
    by simp⟩

theorem found_among_members (e : Evidence) (members : List (String × Json))
    (agree : ∀ name ∈ fieldNames, valuesOf name members = valuesOf name e.members) :
    ofMembers? members = some e := by
  simp only [fieldNames, List.forall_mem_cons] at agree
  obtain ⟨css, file, selector, property, _⟩ := agree
  have found : ofFields (.ofObject fieldNames members) = .ok e := by
    refine seq_ok (seq_ok (seq_ok (map_ok (a := e.css) ?_) (a := e.file) ?_)
      (a := e.selector) ?_) (a := e.property) ?_
    · exact Fields.read_nullable jsonOfText (by simp [css, Evidence.members]) (fun _ => rfl)
        fun _ => nofun
    · exact Fields.read_nullable jsonOfText (by simp [file, Evidence.members]) (fun _ => rfl)
        fun _ => nofun
    · exact Fields.read_held e.selector.json (by simp [selector, Evidence.members])
        e.selector.read_json
    · exact Fields.read_held e.property.json (by simp [property, Evidence.members])
        e.property.read_json
  rw [ofMembers?, found]
  rfl

theorem not_found_among_members (members : List (String × Json))
    (lacking : valuesOf "selector" members = []) : ofMembers? members = none := by
  have fails : (ofFields (.ofObject fieldNames members)).Fails :=
    seq_fails_before (seq_fails (Fields.required_lacking lacking) _) _
  obtain ⟨place, error, failed⟩ := fails
  rw [ofMembers?, failed]
  rfl

end Evidence

theorem Verdict.read_name (v : Verdict) : Verdict.read (.text v.name) = .ok v := by
  cases v with
  | passed => rfl
  | failed => rfl
  | warning => rfl
  | inapplicable => rfl

namespace Finding

def evidenceMembers (f : Finding) : List (String × Json) :=
  (f.evidence.map Evidence.members).getD []

theorem evidence_lacks_foreign (f : Finding) {name : String}
    (foreign : name ∉ Evidence.fieldNames) : valuesOf name f.evidenceMembers = [] := by
  simp only [Evidence.fieldNames, List.mem_cons, not_or] at foreign
  obtain ⟨css, file, selector, property, _⟩ := foreign
  unfold evidenceMembers
  cases f.evidence with
  | none => rfl
  | some e => simp [Evidence.members, Ne.symm css, Ne.symm file, Ne.symm selector, Ne.symm property]

theorem evidence_among_members (f : Finding) (members : List (String × Json))
    (agree : ∀ name ∈ Evidence.fieldNames,
      valuesOf name members = valuesOf name f.evidenceMembers) :
    Evidence.ofMembers? members = f.evidence := by
  unfold evidenceMembers at agree
  cases held : f.evidence with
  | none =>
      rw [held] at agree
      exact Evidence.not_found_among_members members (agree _ (by simp [Evidence.fieldNames]))
  | some e =>
      rw [held] at agree
      exact e.found_among_members members agree

theorem fits (f : Finding) (room : Nat) : Fits (room + 4) f.json := by
  apply Fits.object
  simp only [List.forall_mem_cons]
  refine ⟨.text _, .text _, ?_⟩
  cases f.evidence with
  | none => simp
  | some e => exact e.members_fit room

theorem read_json (f : Finding) : read f.json = .ok f := by
  have written : f.json = .object (("verdict", .text f.verdict.name) ::
      ("description", .text f.description) :: f.evidenceMembers) := rfl
  have apart : ∀ name ∈ Evidence.fieldNames, name ∉ ["verdict", "description"] := by decide
  have fits := f.fits 0
  rw [written] at fits ⊢
  refine Json.read_spread_record (a := Finding.mk f.verdict f.description f.evidence)
    (seq_ok (seq_ok (map_ok ?_) ?_) (a := f.evidence) ?_) fits
  · refine Fields.read_held (.text f.verdict.name) ?_ f.verdict.read_name
    simp [f.evidence_lacks_foreign (show "verdict" ∉ _ by decide)]
  · refine Fields.read_held (.text f.description) ?_ rfl
    simp [f.evidence_lacks_foreign (show "description" ∉ _ by decide)]
  · apply congrArg Placed.ok
    apply f.evidence_among_members
    intro name field
    have foreign := apart name field
    rw [Fields.values_others foreign]
    simp only [List.mem_cons, not_or] at foreign
    simp [Ne.symm foreign.1, Ne.symm foreign.2.1]

end Finding

theorem Principle.read_name (p : Principle) : Principle.read (.text p.name) = .ok p := by
  cases p with
  | perceivable => rfl
  | operable => rfl
  | understandable => rfl
  | robust => rfl

theorem Level.read_name (l : Level) : Level.read (.text l.name) = .ok l := by
  cases l with
  | a => rfl
  | aa => rfl
  | aaa => rfl

theorem texts_fit (ss : List String) (room : Nat) : Fits (room + 1) (jsonOfTexts ss) :=
  .items_of fun s _ => .text s

theorem read_texts (ss : List String) : readList readText (jsonOfTexts ss) = .ok ss :=
  Json.read_list_of_items Json.text readText ss fun _ _ => rfl

theorem Criterion.fits (c : Criterion) (room : Nat) : Fits (room + 1) c.json := by
  apply Fits.object
  simp only [List.forall_mem_cons]
  exact ⟨.text _, .text _, .text _, .text _, by simp⟩

theorem Criterion.read_json (c : Criterion) : Criterion.read c.json = .ok c := by
  refine Json.read_record (a := Criterion.mk c.name c.level c.principle c.url)
    (seq_ok (seq_ok (seq_ok (map_ok ?_) ?_) ?_) ?_) (c.fits 0)
  · exact Fields.read_held (.text c.name) (by simp) rfl
  · exact Fields.read_held (.text c.level.name) (by simp) c.level.read_name
  · exact Fields.read_held (.text c.principle.name) (by simp) c.principle.read_name
  · exact Fields.read_held (.text c.url) (by simp) rfl

theorem criteria_fit (cs : List Criterion) (room : Nat) :
    Fits (room + 2) (.array (cs.map Criterion.json)) :=
  .items_of fun c _ => c.fits room

theorem read_criteria (cs : List Criterion) :
    readList Criterion.read (.array (cs.map Criterion.json)) = .ok cs :=
  Json.read_list_of_items Criterion.json Criterion.read cs fun c _ => c.read_json

theorem Target.fits (t : Target) (room : Nat) : Fits (room + 2) t.json := by
  apply Fits.object
  simp only [List.forall_mem_cons]
  exact ⟨.text _, texts_fit t.attributes room, by simp⟩

theorem Target.read_json (t : Target) : Target.read t.json = .ok t := by
  refine Json.read_record (a := Target.mk t.element t.attributes)
    (seq_ok (map_ok ?_) ?_) (t.fits 0)
  · exact Fields.read_held (.text t.element) (by simp) rfl
  · exact Fields.read_held (jsonOfTexts t.attributes) (by simp) (read_texts t.attributes)

def Tally.FitsWords (t : Tally) : Prop :=
  ∀ v : Verdict, t.count v < 4294967296

namespace Tally

theorem members_fit {t : Tally} (words : t.FitsWords) (room : Nat) :
    ∀ member ∈ t.members, Fits room member.2 := by
  have counts (v : Verdict) : Fits room (jsonOfNat (t.count v)) := by
    have below := words v
    exact .natural (by unfold Json.largestWord; omega)
  simp only [Tally.members, List.forall_mem_cons]
  exact ⟨counts .passed, counts .warning, counts .failed, counts .inapplicable, by simp⟩

theorem read_count_of_nat {n : Nat} (fits : n < 4294967296) : readCount (jsonOfNat n) = .ok n := by
  have word : n = (UInt32.ofNat n).toNat := (UInt32.toNat_ofNat_of_lt fits).symm
  rw [readCount, word, jsonOfNat, Json.read_word_of_nat]
  rfl

theorem found_among_members {t : Tally} (words : t.FitsWords) (members : List (String × Json))
    (agree : ∀ name ∈ fieldNames, valuesOf name members = valuesOf name t.members) :
    ofFields (.ofObject fieldNames members) = .ok t := by
  simp only [fieldNames, List.forall_mem_cons] at agree
  obtain ⟨passed, warning, failed, inapplicable, _⟩ := agree
  refine seq_ok (seq_ok (seq_ok (map_ok (a := t.passed) ?_) (a := t.warning) ?_)
    (a := t.failed) ?_) (a := t.inapplicable) ?_
  · exact Fields.read_held (jsonOfNat t.passed) (by simp [passed, Tally.members])
      (read_count_of_nat (words .passed))
  · exact Fields.read_held (jsonOfNat t.warning) (by simp [warning, Tally.members])
      (read_count_of_nat (words .warning))
  · exact Fields.read_held (jsonOfNat t.failed) (by simp [failed, Tally.members])
      (read_count_of_nat (words .failed))
  · exact Fields.read_held (jsonOfNat t.inapplicable) (by simp [inapplicable, Tally.members])
      (read_count_of_nat (words .inapplicable))

theorem fits {t : Tally} (words : t.FitsWords) (room : Nat) : Fits (room + 1) t.json :=
  .object (members_fit words room)

theorem read_json {t : Tally} (words : t.FitsWords) : read t.json = .ok t :=
  Json.read_record (found_among_members words t.members fun _ _ => rfl) (fits words 0)

end Tally

theorem outcome_fits (outcome : Option Verdict) (room : Nat) :
    Fits room (jsonOfOutcome outcome) := by
  cases outcome with
  | none => exact .null
  | some v => exact .text v.name

theorem read_outcome (outcome : Option Verdict) :
    readNullable Verdict.read (jsonOfOutcome outcome) = .ok outcome := by
  cases outcome with
  | none => rfl
  | some v => exact Json.read_nullable_of_value nofun v.read_name

theorem Summary.fits {s : Summary} (words : s.tally.FitsWords) (room : Nat) :
    Fits (room + 3) s.json := by
  apply Fits.object
  simp only [List.forall_mem_append, List.forall_mem_cons, forall_mem_optional_member]
  refine ⟨⟨⟨⟨s.target.fits room, criteria_fit s.criteria room, texts_fit s.related _, by simp⟩,
    fun url _ => .text url⟩, Tally.members_fit words _⟩, outcome_fits s.outcome _, .text _, by simp⟩

theorem Summary.read_json {s : Summary} (words : s.tally.FitsWords) :
    Summary.read s.json = .ok s := by
  refine Json.read_spread_record
    (a := Summary.mk s.target s.criteria s.related s.url s.tally s.outcome s.description)
    (seq_ok (seq_ok (seq_ok (seq_ok (seq_ok (seq_ok (map_ok ?_) ?_) ?_) ?_) ?_) ?_) ?_)
    (fits words 0)
  · exact Fields.read_held s.target.json (by simp [Tally.members]) s.target.read_json
  · exact Fields.read_held _ (by simp [Tally.members]) (read_criteria s.criteria)
  · exact Fields.read_held _ (by simp [Tally.members]) (read_texts s.related)
  · exact Fields.read_nullable jsonOfText (by simp [Tally.members]) (fun _ => rfl) fun _ => nofun
  · rw [Tally.found_among_members words]
    · rfl
    · simp only [Tally.fieldNames, List.forall_mem_cons]
      refine ⟨?_, ?_, ?_, ?_, by simp⟩
      all_goals
        rw [Fields.values_others (by decide)]
        simp [Tally.members]
  · exact Fields.read_held _ (by simp [Tally.members]) (read_outcome s.outcome)
  · exact Fields.read_held (.text s.description) (by simp [Tally.members]) rfl

theorem Assertion.fits {a : Assertion} (words : a.summary.tally.FitsWords) (room : Nat) :
    Fits (room + 6) a.json := by
  apply Fits.object
  simp only [List.forall_mem_cons]
  exact ⟨.text _, .text _, .text _, .text _, Summary.fits words _, .items_of fun f _ => f.fits room,
    by simp⟩

theorem Assertion.read_json {a : Assertion} (words : a.summary.tally.FitsWords) :
    Assertion.read a.json = .ok a := by
  refine Json.read_record
    (a := Assertion.mk a.name a.code a.mapping a.description a.summary a.findings)
    (seq_ok (seq_ok (seq_ok (seq_ok (seq_ok (map_ok ?_) ?_) ?_) ?_) ?_) ?_) (fits words 0)
  · exact Fields.read_held (.text a.name) (by simp) rfl
  · exact Fields.read_held (.text a.code) (by simp) rfl
  · exact Fields.read_held (.text a.mapping) (by simp) rfl
  · exact Fields.read_held (.text a.description) (by simp) rfl
  · exact Fields.read_held a.summary.json (by simp) (Summary.read_json words)
  · exact Fields.read_held _ (by simp)
      (Json.read_list_of_items Finding.json Finding.read a.findings fun f _ => f.read_json)

end StyleAudit
