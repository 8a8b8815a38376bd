import StyleAudit.Command.Execution
import StyleAudit.Proofs.Roster

/-!
# A run does not show what happened before it

A roster may be configured, enabled again and run in any order and any number of times. Configuring
decides every flag anew and a run makes every ledger clean again, so all that is left of the calls
made so far is the selection in force. The statements are about rosters of any techniques whose only
state is their ledger; the built-in catalog is one of them.
-/

namespace StyleAudit

set_option autoImplicit false

inductive Call where
  | configure (selection : Selection)
  | enableAll
  | execute (input : Input)

/-- The selection in force after a call. None means that all techniques are enabled. -/
def Call.inForce (before : Option Selection) : Call → Option Selection
  | configure selection => some selection
  | enableAll => none
  | execute _ => before

namespace Roster

def call (r : Roster) : Call → Roster
  | .configure selection => r.configure selection
  | .enableAll => r.enableAll
  | .execute input => (r.run input).1

theorem call_techniques (r : Roster) (c : Call) :
    ((r.call c).entries.map fun e => e.member.technique) =
      r.entries.map fun e => e.member.technique := by
  cases c with
  | configure selection =>
      rw [call, configure, List.map_map]
      rfl
  | enableAll =>
      rw [call, enableAll, List.map_map]
      rfl
  | execute input =>
      rw [call, run, afterRun, List.map_map]
      apply List.map_congr_left
      intro e _
      rw [Function.comp_apply]
      split <;> rfl

theorem calls_techniques (r : Roster) (calls : List Call) :
    ((calls.foldl call r).entries.map fun e => e.member.technique) =
      r.entries.map fun e => e.member.technique := by
  induction calls generalizing r with
  | nil => rfl
  | cons c rest ih => rw [List.foldl_cons, ih, call_techniques]

def fresh (techniques : List Technique) : Option Selection → Roster
  | some selection => (ofTechniques techniques).configure selection
  | none => ofTechniques techniques

theorem fresh_clean (techniques : List Technique) (selection : Option Selection) :
    (fresh techniques selection).IsClean := by
  cases selection with
  | none => exact of_techniques_clean techniques
  | some selection =>
      intro e member
      obtain ⟨before, inside, rfl⟩ := List.mem_map.mp member
      exact of_techniques_clean techniques before inside

theorem configure_fresh (techniques : List Technique) (before : Option Selection)
    (selection : Selection) :
    (fresh techniques before).configure selection = fresh techniques (some selection) := by
  cases before with
  | none => rfl
  | some before =>
      simp only [fresh, configure, List.map_map]
      rfl

theorem enable_all_fresh (techniques : List Technique) (before : Option Selection) :
    (fresh techniques before).enableAll = fresh techniques none := by
  cases before with
  | none =>
      simp only [fresh, enableAll, ofTechniques, List.map_map]
      rfl
  | some before =>
      simp only [fresh, enableAll, configure, ofTechniques, List.map_map]
      rfl

theorem call_fresh (techniques : List Technique) (before : Option Selection) (c : Call) :
    (fresh techniques before).call c = fresh techniques (c.inForce before) := by
  cases c with
  | configure selection => exact configure_fresh techniques before selection
  | enableAll => exact enable_all_fresh techniques before
  | execute input => exact clean_after_run _ input (fresh_clean techniques before)

theorem calls_fresh (techniques : List Technique) (calls : List Call) (before : Option Selection) :
    calls.foldl call (fresh techniques before) =
      fresh techniques (calls.foldl Call.inForce before) := by
  induction calls generalizing before with
  | nil => rfl
  | cons c rest ih => rw [List.foldl_cons, call_fresh, ih, List.foldl_cons]

theorem mem_enabled_codes_iff_marked (r : Roster) (code : String) :
    code ∈ r.enabledCodes ↔ ∃ e ∈ r.entries, e.code = code ∧ e.mark = "+" := by
  have marked (e : Entry) : e.mark = "+" ↔ e.enabled = true := by
    rw [Entry.mark]
    cases e.enabled <;> decide
  rw [enabledCodes, List.mem_map]
  constructor
  · rintro ⟨e, member, rfl⟩
    obtain ⟨inside, enabled⟩ := List.mem_filter.mp member
    exact ⟨e, inside, rfl, (marked e).mpr enabled⟩
  · rintro ⟨e, inside, rfl, plus⟩
    exact ⟨e, List.mem_filter.mpr ⟨inside, (marked e).mp plus⟩, rfl⟩

theorem list_reply_text (files : Files) (choice : Choice) (verbose : Bool) :
    (Command.listReply files choice verbose).map Reply.text =
      (Command.chosen files choice).map fun selection =>
        (fresh catalog (some selection)).listing := by
  rw [Command.listReply]
  cases Command.chosen files choice with
  | error trouble => rfl
  | ok selection => rfl

/-- Whatever a roster has been through, a run on it gives the report of a fresh roster under the
selection in force. The report is on exactly the techniques that are enabled, and these are the ones
that a listing of the fresh roster, such as the `list` command prints it, marks with a plus. -/
theorem history_leaves_no_trace (techniques : List Technique) (calls : List Call) (input : Input) :
    let used := calls.foldl call (ofTechniques techniques)
    let unused := fresh techniques (calls.foldl Call.inForce none)
    (used.run input).2 = (unused.run input).2 ∧
      (∀ code, code ∈ (used.run input).2.assertions.keys ↔ code ∈ used.enabledCodes) ∧
      (∀ code, code ∈ (used.run input).2.assertions.keys ↔
        ∃ e ∈ unused.entries, e.code = code ∧ e.mark = "+") ∧
      used.listing = unused.listing ∧
      ∀ files choice verbose, (Command.listReply files choice verbose).map Reply.text =
        (Command.chosen files choice).map fun selection =>
          (fresh catalog (some selection)).listing := by
  intro used unused
  have same : used = unused := calls_fresh techniques calls none
  have keys : ∀ code, code ∈ (used.run input).2.assertions.keys ↔ code ∈ used.enabledCodes := by
    intro code
    rw [same]
    exact clean_report_keys unused input (fresh_clean techniques _) code
  refine ⟨by rw [same], keys, ?_, by rw [same], list_reply_text⟩
  intro code
  rw [keys code, same]
  exact mem_enabled_codes_iff_marked unused code

end Roster

end StyleAudit
