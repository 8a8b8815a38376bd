import Mathlib.Data.List.Nodup
import StyleAudit.Proofs.Catalog.View
import StyleAudit.Proofs.History

/-!
# Techniques do not see each other

Two runs are compared whose rosters and inputs may differ in anything. What a report says of a
technique that takes part in both hangs on nothing but what that technique looks at: neither the
other techniques, nor a ledger left over, nor the rest of the input has a say in it.
-/

namespace StyleAudit

set_option autoImplicit false

/-- The account of a technique that starts from a clean ledger. -/
def Technique.account (t : Technique) (input : Input) : Assertion :=
  ((Ledger.start t.descriptor).fillAll
    (t.evaluate (.start t.descriptor) input).findings).assertion

theorem Technique.Respects.account_eq {t : Technique} {same : Input → Input → Prop}
    (respects : t.Respects same) {left right : Input} (related : same left right) :
    t.account left = t.account right := by
  rw [account, account, respects _ left right related]

namespace Roster

theorem fresh_entries (techniques : List Technique) (selection : Option Selection) :
    (fresh techniques selection).entries.map (fun e => e.member.technique) = techniques := by
  cases selection with
  | none =>
      rw [fresh, ofTechniques, List.map_map]
      exact List.map_id techniques
  | some selection =>
      rw [fresh, configure, ofTechniques, List.map_map, List.map_map]
      exact List.map_id techniques

theorem fresh_codes (techniques : List Technique) (selection : Option Selection) :
    (fresh techniques selection).entries.map Entry.code =
      techniques.map fun t => t.descriptor.code := by
  have named : (fresh techniques selection).entries.map Entry.code =
      ((fresh techniques selection).entries.map fun e => e.member.technique).map
        fun t => t.descriptor.code := by
    rw [List.map_map]
    rfl
  rw [named, fresh_entries]

theorem fresh_report_account {techniques : List Technique}
    (distinct : (techniques.map fun t => t.descriptor.code).Nodup) (selection : Option Selection)
    (input : Input) {t : Technique} (member : t ∈ techniques)
    (enabled : t.descriptor.code ∈ (fresh techniques selection).enabledCodes) :
    ((fresh techniques selection).report input).get? t.descriptor.code =
      some (t.account input) := by
  obtain ⟨e, inside, named⟩ := List.mem_map.mp enabled
  obtain ⟨inside, on⟩ := List.mem_filter.mp inside
  have listed : e.member.technique ∈ techniques := by
    rw [← fresh_entries techniques selection]
    exact List.mem_map_of_mem inside
  have same : e.member.technique = t := List.inj_on_of_nodup_map distinct listed member named
  have codes : ((fresh techniques selection).entries.map Entry.code).Nodup := by
    rw [fresh_codes]
    exact distinct
  have accounts := clean_report_accounts (fresh techniques selection) input codes
    (fresh_clean techniques selection)
  obtain ⟨account, held, rfl, _⟩ := accounts.held e inside on
  rw [← named, held, ← same]
  rfl

theorem catalog_codes_distinct : (catalog.map fun t => t.descriptor.code).Nodup := by
  decide

/-- Both runs report on the technique, and in the same way. -/
def ReportedAlike (code : String) (one other : Report) : Prop :=
  ∃ account, one.get? code = some account ∧ other.get? code = some account

theorem reported_alike_of_respects {t : Technique} (member : t ∈ catalog)
    {same : Input → Input → Prop} (respects : t.Respects same) {left right : Input}
    (related : same left right) (one other : Option Selection)
    (inOne : t.descriptor.code ∈ (fresh catalog one).enabledCodes)
    (inOther : t.descriptor.code ∈ (fresh catalog other).enabledCodes) :
    ReportedAlike t.descriptor.code ((fresh catalog one).report left)
      ((fresh catalog other).report right) := by
  refine ⟨t.account left, ?_, ?_⟩
  · exact fresh_report_account catalog_codes_distinct one left member inOne
  · rw [respects.account_eq related]
    exact fresh_report_account catalog_codes_distinct other right member inOther

/-- Two rosters of the built-in techniques may have been configured and run in any way. A technique
for stylesheets that is enabled in both is reported alike on inputs with the same stylesheets, and
the technique for colors on inputs with the same page, whatever else differs. -/
theorem techniques_are_isolated (oneCalls otherCalls : List Call) (left right : Input) :
    let one := oneCalls.foldl call builtIn
    let other := otherCalls.foldl call builtIn
    (left.stylesheets = right.stylesheets →
      ∀ t ∈ catalog, t.descriptor.code ≠ ColorPairs.descriptor.code →
        t.descriptor.code ∈ one.enabledCodes → t.descriptor.code ∈ other.enabledCodes →
          ReportedAlike t.descriptor.code (one.run left).2 (other.run right).2) ∧
    (left.page = right.page →
      ColorPairs.descriptor.code ∈ one.enabledCodes →
        ColorPairs.descriptor.code ∈ other.enabledCodes →
          ReportedAlike ColorPairs.descriptor.code (one.run left).2 (other.run right).2) := by
  intro one other
  have oneFresh : one = fresh catalog _ := calls_fresh catalog oneCalls none
  have otherFresh : other = fresh catalog _ := calls_fresh catalog otherCalls none
  rw [oneFresh, otherFresh]
  constructor
  · intro sheets t member notColors inOne inOther
    rcases catalog_respects member with ⟨_, respects⟩ | rfl
    · exact reported_alike_of_respects member respects (Input.sheets_alike_of_eq sheets) _ _
        inOne inOther
    · exact absurd rfl notColors
  · intro page inOne inOther
    have member : ColorPairs.technique ∈ catalog := by simp [catalog]
    exact reported_alike_of_respects member ColorPairs.technique_respects page _ _ inOne inOther

def pixelSheet : Stylesheet :=
  ⟨"a.css", some ⟨"p \x7b font-size: 12px \x7d", some (.sheet [.block ⟨.rule, ["p"],
    [⟨"font-size", "12px", none⟩], none⟩] none)⟩⟩

/-- The technique for colors ends in a fault here, since the only element is its own parent. -/
def loopedPage : ElementMap :=
  ⟨.ofList [("1", ⟨"p", .empty, .ofList [("color", "red")], some "1"⟩)]⟩

def levelCalls : List Call :=
  [.execute ⟨[pixelSheet], some loopedPage⟩, .configure ⟨["perceivable "], [" aa"], []⟩]

def nameCalls : List Call :=
  [.configure ⟨["Operable"], [], []⟩, .configure ⟨[], [], ["c121314", "F24"]⟩]

theorem sizes_and_colors_are_isolated :
    let one := levelCalls.foldl call builtIn
    let other := nameCalls.foldl call builtIn
    (FontSize.descriptor.code ∈ one.enabledCodes ∧ FontSize.descriptor.code ∈ other.enabledCodes ∧
      ReportedAlike FontSize.descriptor.code (one.run ⟨[pixelSheet], none⟩).2
        (other.run ⟨[pixelSheet], some loopedPage⟩).2) ∧
    (ColorPairs.descriptor.code ∈ one.enabledCodes ∧
      ColorPairs.descriptor.code ∈ other.enabledCodes ∧
      ReportedAlike ColorPairs.descriptor.code (one.run ⟨[], some loopedPage⟩).2
        (other.run ⟨[pixelSheet], some loopedPage⟩).2) ∧
    TextStyling.descriptor.code ∈ one.enabledCodes ∧
      TextStyling.descriptor.code ∉ other.enabledCodes := by
  intro one other
  have sizesInOne : FontSize.descriptor.code ∈ one.enabledCodes := by decide
  have sizesInOther : FontSize.descriptor.code ∈ other.enabledCodes := by decide
  have colorsInOne : ColorPairs.descriptor.code ∈ one.enabledCodes := by decide
  have colorsInOther : ColorPairs.descriptor.code ∈ other.enabledCodes := by decide
  have sizes := (techniques_are_isolated levelCalls nameCalls ⟨[pixelSheet], none⟩
    ⟨[pixelSheet], some loopedPage⟩).1 rfl FontSize.technique (by simp [catalog]) (by decide)
  have colors := (techniques_are_isolated levelCalls nameCalls ⟨[], some loopedPage⟩
    ⟨[pixelSheet], some loopedPage⟩).2 rfl
  refine ⟨⟨sizesInOne, sizesInOther, sizes sizesInOne sizesInOther⟩,
    ⟨colorsInOne, colorsInOther, colors colorsInOne colorsInOther⟩, ?_, ?_⟩
  · decide
  · decide

end Roster

end StyleAudit
