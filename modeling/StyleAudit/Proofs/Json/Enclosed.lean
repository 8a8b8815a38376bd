import Mathlib.Data.List.Forall2
import StyleAudit.Json.Reader
import StyleAudit.Proofs.Json.Divided
import StyleAudit.Proofs.Json.Faults

/-!
# Texts inside a text

A reading that breaks nothing goes the same way inside further open containers, as long as there is
room for it: each step looks at the innermost container only. So a text that is read as a value on
its own is read as that value wherever one is awaited, and the texts of some values, put between
brackets with commas, are a text of the array of these values.
-/

namespace StyleAudit.Json

set_option autoImplicit false

def Frame.values : Frame → List Json
  | array done => done
  | member done _ => done.map Prod.snd

/-- Open containers with what they hold so far, and the room that is left inside all of them. -/
inductive FramesHeld (limit : Nat) : Nat → List Frame → Prop where
  | outside : FramesHeld limit limit []
  | inside {room : Nat} {frame : Frame} {stack : List Frame}
      (around : FramesHeld limit (room + 1) stack)
      (held : ∀ value ∈ frame.values, Held room value) : FramesHeld limit room (frame :: stack)

theorem FramesHeld.room {limit room : Nat} {stack : List Frame}
    (held : FramesHeld limit room stack) : stack.length + room = limit := by
  induction held with
  | outside => exact Nat.zero_add limit
  | inside _ _ ih =>
      rw [List.length_cons]
      omega

namespace State

def frames : State → List Frame
  | awaitValue stack => stack
  | awaitFirstItem stack => .array [] :: stack
  | afterItem done stack => .array done :: stack
  | awaitFirstName stack => .member [] "" :: stack
  | awaitName done stack => .member done "" :: stack
  | awaitColon done name stack => .member done name :: stack
  | afterMember done stack => .member done "" :: stack
  | complete _ => []
  | trailing _ => []
  | broken _ => []

def Held (limit : Nat) : State → Prop
  | complete value => value.Held limit
  | trailing _ => False
  | broken _ => False
  | state => ∃ room, FramesHeld limit room state.frames

def upon (base : List Frame) : State → State
  | awaitValue stack => awaitValue (stack ++ base)
  | awaitFirstItem stack => awaitFirstItem (stack ++ base)
  | afterItem done stack => afterItem done (stack ++ base)
  | awaitFirstName stack => awaitFirstName (stack ++ base)
  | awaitName done stack => awaitName done (stack ++ base)
  | awaitColon done name stack => awaitColon done name (stack ++ base)
  | afterMember done stack => afterMember done (stack ++ base)
  | complete value => put value base
  | trailing value => trailing value
  | broken value => broken value

end State

section Steps

variable {limit : Nat} {base stack : List Frame} {value : Json} {state next : State} {token : Token}

theorem put_upon : (put value stack).upon base = put value (stack ++ base) := by
  cases stack with
  | nil => rfl
  | cons frame stack =>
      cases frame with
      | array done => rfl
      | member done name => rfl

theorem held_of_put (held : (put value stack).Held limit) :
    ∃ room, FramesHeld limit room stack ∧ value.Held room := by
  cases stack with
  | nil => exact ⟨limit, .outside, held⟩
  | cons frame stack =>
      cases frame with
      | array done =>
          obtain ⟨room, _ | ⟨around, held⟩⟩ := held
          obtain ⟨own, others⟩ := List.forall_mem_cons.mp held
          exact ⟨room, .inside around others, own⟩
      | member done name =>
          obtain ⟨room, _ | ⟨around, held⟩⟩ := held
          obtain ⟨own, others⟩ := List.forall_mem_cons.mp held
          exact ⟨room, .inside around others, own⟩

theorem settled_when_held {room : Nat} (held : (settleAt stack value none).Held room) :
    settleAt stack value none = value := by
  rw [settleAt] at held ⊢
  split at held
  · cases held
  · rw [if_neg ‹_›]

theorem settled_within {room : Nat} (around : FramesHeld limit (room + 1) stack)
    (space : limit + base.length ≤ deepestNesting) :
    settleAt (stack ++ base) value none = value := by
  have height := around.room
  rw [settleAt, if_neg]
  rw [List.length_append]
  omega

theorem break_not_held {fault : Fault} : ¬ (state.break fault).Held limit := by
  cases state <;> exact id

theorem held_of_close_array {done : List Json} (held : (closeArray done stack).Held limit)
    (space : limit + base.length ≤ deepestNesting) :
    (∃ room, FramesHeld limit room (.array done :: stack)) ∧
      closeArray done (stack ++ base) = (closeArray done stack).upon base := by
  rw [closeArray] at held
  obtain ⟨_, around, ofValue⟩ := held_of_put held
  have settled := settled_when_held ofValue
  rw [settled] at ofValue
  cases ofValue with
  | array each =>
      refine ⟨⟨_, .inside around fun item inside => each item (List.mem_reverse.mpr inside)⟩, ?_⟩
      rw [closeArray, closeArray, settled_within around space, settled, put_upon]

theorem held_of_close_object {done : List (String × Json)} {name : String}
    (held : (closeObject done stack).Held limit) (space : limit + base.length ≤ deepestNesting) :
    (∃ room, FramesHeld limit room (.member done name :: stack)) ∧
      closeObject done (stack ++ base) = (closeObject done stack).upon base := by
  rw [closeObject] at held
  obtain ⟨_, around, ofValue⟩ := held_of_put held
  have settled := settled_when_held ofValue
  rw [settled] at ofValue
  cases ofValue with
  | object each =>
      refine ⟨⟨_, .inside around ?_⟩, ?_⟩
      · rw [Frame.values, List.forall_mem_map]
        exact fun member inside => each member (List.mem_reverse.mpr inside)
      · rw [closeObject, closeObject, settled_within around space, settled, put_upon]

theorem held_of_read_value (other : State) (held : (readValue state stack token).Held limit) :
    (∃ room, FramesHeld limit room stack) ∧ token.IsSound ∧
      readValue other (stack ++ base) token = (readValue state stack token).upon base := by
  cases token with
  | openArray =>
      obtain ⟨room, _ | ⟨around, _⟩⟩ := held
      exact ⟨⟨_, around⟩, trivial, rfl⟩
  | openObject =>
      obtain ⟨room, _ | ⟨around, _⟩⟩ := held
      exact ⟨⟨_, around⟩, trivial, rfl⟩
  | scalar value =>
      obtain ⟨room, around, _⟩ := held_of_put held
      exact ⟨⟨room, around⟩, trivial, put_upon.symm⟩
  | text value =>
      cases value with
      | none =>
          obtain ⟨_, _, ofFlawed⟩ := held_of_put held
          cases ofFlawed
      | some value =>
          obtain ⟨room, around, _⟩ := held_of_put held
          exact ⟨⟨room, around⟩, trivial, put_upon.symm⟩
  | closeArray => exact absurd held break_not_held
  | closeObject => exact absurd held break_not_held
  | comma => exact absurd held break_not_held
  | colon => exact absurd held break_not_held
  | badText fault => exact absurd held break_not_held
  | bad fault => exact absurd held break_not_held

/-- A step that breaks nothing started where nothing was broken, and it is the same step inside
further containers. -/
theorem held_of_read (held : (state.read token).Held limit)
    (space : limit + base.length ≤ deepestNesting) :
    state.Held limit ∧ token.IsSound ∧
      (state.upon base).read token = (state.read token).upon base := by
  revert held
  fun_cases State.read state token with
  | case1 stack =>
      intro held
      exact held_of_read_value _ held
  | case2 stack =>
      intro held
      obtain ⟨around, same⟩ := held_of_close_array held space
      exact ⟨around, trivial, same⟩
  | case3 stack token before =>
      intro held
      obtain ⟨around, sound, same⟩ := held_of_read_value (.awaitFirstItem (stack ++ base)) held
      refine ⟨around, sound, ?_⟩
      rw [← same, State.upon, State.read]
      · rfl
      · exact before
  | case4 done stack =>
      intro held
      exact ⟨held, trivial, rfl⟩
  | case5 done stack =>
      intro held
      obtain ⟨around, same⟩ := held_of_close_array held space
      exact ⟨around, trivial, same⟩
  | case6 stack =>
      intro held
      obtain ⟨around, same⟩ := held_of_close_object held space
      exact ⟨around, trivial, same⟩
  | case7 stack name =>
      rintro ⟨room, _ | ⟨around, values⟩⟩
      exact ⟨⟨room, .inside around values⟩, trivial, rfl⟩
  | case8 done stack name =>
      rintro ⟨room, _ | ⟨around, values⟩⟩
      exact ⟨⟨room, .inside around values⟩, trivial, rfl⟩
  | case9 stack fault => exact fun held => absurd held break_not_held
  | case10 done stack fault => exact fun held => absurd held break_not_held
  | case11 done name stack =>
      intro held
      exact ⟨held, trivial, rfl⟩
  | case12 done stack =>
      intro held
      exact ⟨held, trivial, rfl⟩
  | case13 done stack =>
      intro held
      obtain ⟨around, same⟩ := held_of_close_object held space
      exact ⟨around, trivial, same⟩
  | case14 state token => exact fun held => absurd held break_not_held

theorem held_of_read_from {state : State} {tokens : List Token}
    (held : (readFrom state tokens).Held limit) (space : limit + base.length ≤ deepestNesting) :
    state.Held limit ∧ (∀ token ∈ tokens, token.IsSound) ∧
      readFrom (state.upon base) tokens = (readFrom state tokens).upon base := by
  induction tokens generalizing state with
  | nil => exact ⟨held, nofun, rfl⟩
  | cons token rest ih =>
      obtain ⟨between, others, same⟩ := ih held
      obtain ⟨before, sound, first⟩ := held_of_read between space
      refine ⟨before, List.forall_mem_cons.mpr ⟨sound, others⟩, ?_⟩
      change readFrom ((state.upon base).read token) rest =
        (readFrom (state.read token) rest).upon base
      rw [first, same]

private theorem unread_not_held {fault : Fault} (room : Nat) : ¬ (Json.unread fault).Held room :=
  nofun

private theorem closed_not_held {fault : Fault} (broken : ∀ room, ¬ value.Held room) :
    ∀ room, ¬ (closeAll fault value stack).Held room := by
  induction stack generalizing value with
  | nil => exact broken
  | cons frame stack ih =>
      cases frame with
      | array done =>
          refine ih fun room held => ?_
          rw [settleAt] at held
          split at held
          · cases held
          · cases held with
            | array each => exact broken _ (each value (by simp))
      | member done name =>
          refine ih fun room held => ?_
          rw [settleAt] at held
          split at held
          · cases held
          · cases held with
            | object each => exact broken _ (each (name, value) (by simp))

def State.BreakShows : State → Prop
  | .broken value => ∀ room, ¬ value.Held room
  | _ => True

private theorem break_shows {fault : Fault} (shows : state.BreakShows) :
    (state.break fault).BreakShows := by
  cases state with
  | complete value => trivial
  | trailing value => trivial
  | broken value => exact shows
  | _ => exact closed_not_held unread_not_held

private theorem put_break_shows : (put value stack).BreakShows := by
  rcases stack with _ | ⟨_ | _, stack⟩ <;> trivial

private theorem read_value_break_shows (shows : state.BreakShows) :
    (readValue state stack token).BreakShows := by
  fun_cases readValue state stack token
  all_goals first | exact put_break_shows | exact break_shows shows | trivial

private theorem read_break_shows (shows : state.BreakShows) : (state.read token).BreakShows := by
  fun_cases State.read state token
  all_goals first
    | exact put_break_shows
    | exact break_shows shows
    | exact read_value_break_shows shows
    | trivial

theorem read_from_break_shows {tokens : List Token} (shows : state.BreakShows) :
    (readFrom state tokens).BreakShows := by
  induction tokens generalizing state with
  | nil => exact shows
  | cons token rest ih => exact ih (read_break_shows shows)

theorem complete_of_reading {room : Nat} (shows : state.BreakShows) (held : value.Held room)
    (reads : state.reading = ⟨value, false⟩) : state = .complete value := by
  cases state with
  | complete other =>
      cases reads
      rfl
  | trailing other => cases reads
  | broken other =>
      cases reads
      exact absurd held (shows room)
  | _ =>
      have broke := (Reading.mk.inj reads).1
      subst broke
      exact absurd held (closed_not_held unread_not_held room)

end Steps

/-- The text gives the value, and nothing but blanks stands behind it. -/
def IsText (source : String) (value : Json) : Prop :=
  read source = ⟨value, false⟩

/-- The text of an array whose items are given by texts. -/
def arrayText (sources : List String) : String :=
  "[" ++ ",".intercalate sources ++ "]"

private def behindItem : List String → List Char
  | [] => [']']
  | source :: rest => ',' :: source.toList ++ behindItem rest

private theorem behind_divides (sources : List String) : Divides (behindItem sources) := by
  cases sources with
  | nil => exact .bracket []
  | cons source rest => exact .comma _

private theorem array_text_chars (source : String) (rest : List String) :
    (arrayText (source :: rest)).toList = '[' :: source.toList ++ behindItem rest := by
  have inside : (",".intercalate (source :: rest)).toList ++ [']'] =
      source.toList ++ behindItem rest := by
    induction rest generalizing source with
    | nil =>
        rw [String.intercalate_singleton]
        rfl
    | cons next rest ih =>
        rw [String.intercalate_cons_cons, String.toList_append, String.toList_append,
          List.append_assoc, ih next, List.append_assoc]
        rfl
  rw [arrayText, String.toList_append, String.toList_append, List.append_assoc]
  exact congrArg ('[' :: ·) inside

section Texts

variable {room : Nat} {source : String} {value : Json} {sources : List String} {values : List Json}

private theorem text_completes (text : IsText source value) (held : value.Held room) :
    readFrom (.awaitValue []) (tokens .between source.toList) = .complete value :=
  complete_of_reading (read_from_break_shows trivial) held text

/-- A text of a value hands it over wherever a value is awaited, if there is room. -/
theorem text_read_inside {base : List Frame} (text : IsText source value) (held : value.Held room)
    (space : room + base.length ≤ deepestNesting) :
    (∀ token ∈ tokens .between source.toList, token.IsSound) ∧
      readFrom (.awaitValue base) (tokens .between source.toList) = put value base := by
  have completes := text_completes text held
  have whole : (readFrom (.awaitValue []) (tokens .between source.toList)).Held room := by
    rw [completes]
    exact held
  obtain ⟨_, sound, inside⟩ := held_of_read_from whole space
  rw [completes] at inside
  exact ⟨sound, inside⟩

/-- Behind a text of a value the text around it comes apart as it would alone. -/
theorem text_tokens_divided {behind : List Char} (text : IsText source value)
    (held : value.Held room) (space : room ≤ deepestNesting) (divides : Divides behind) :
    tokens .between (source.toList ++ behind) =
      tokens .between source.toList ++ tokens .between behind := by
  have alone : room + ([] : List Frame).length ≤ deepestNesting := space
  exact divided_tokens _ _ divides (fun same => nomatch same) (text_read_inside text held alone).1

private theorem text_begins (text : IsText source value) (held : value.Held room)
    (space : room ≤ deepestNesting) :
    ∃ token rest, tokens .between source.toList = token :: rest ∧ token ≠ .closeArray := by
  have completes := text_completes text held
  cases shape : tokens .between source.toList with
  | nil =>
      rw [shape] at completes
      cases completes
  | cons token rest =>
      refine ⟨token, rest, rfl, ?_⟩
      rintro rfl
      rw [shape] at completes
      have broke : (readFrom ((State.awaitValue []).break .malformed) rest).Held room := by
        change (readFrom (.awaitValue []) (.closeArray :: rest)).Held room
        rw [completes]
        exact held
      have alone : room + ([] : List Frame).length ≤ deepestNesting := space
      exact break_not_held (held_of_read_from broke alone).1

private theorem first_token_read {token : Token} {stack : List Frame}
    (item : token ≠ .closeArray) :
    (State.awaitFirstItem stack).read token =
      (State.awaitValue (.array [] :: stack)).read token := by
  cases token with
  | closeArray => exact absurd rfl item
  | _ => rfl

private theorem first_item_text_read {stack : List Frame} (text : IsText source value)
    (held : value.Held room) (space : room ≤ deepestNesting) (more : List Token) :
    readFrom (.awaitFirstItem stack) (tokens .between source.toList ++ more) =
      readFrom (.awaitValue (.array [] :: stack)) (tokens .between source.toList ++ more) := by
  obtain ⟨token, rest, begins, item⟩ := text_begins text held space
  rw [begins, List.cons_append, readFrom, readFrom, List.foldl_cons, List.foldl_cons,
    first_token_read item]

private theorem items_text_read {source : String} {value : Json} (done : List Json)
    (text : IsText source value) (texts : List.Forall₂ IsText sources values)
    (each : ∀ item ∈ value :: values, item.Held room) (space : room + 1 ≤ deepestNesting) :
    readFrom (.awaitValue [.array done]) (tokens .between (source.toList ++ behindItem sources)) =
      .complete (.array (done.reverse ++ value :: values)) := by
  induction texts generalizing source value done with
  | nil =>
      obtain ⟨own, _⟩ := List.forall_mem_cons.mp each
      have inside : room + [Frame.array done].length ≤ deepestNesting := space
      have handed := (text_read_inside text own inside).2
      rw [text_tokens_divided text own (by omega) (behind_divides []), readFrom_append, handed]
      change closeArray (value :: done) [] = _
      rw [closeArray, List.reverse_cons]
      rfl
  | @cons next _ sources values nextText texts ih =>
      obtain ⟨own, others⟩ := List.forall_mem_cons.mp each
      have inside : room + [Frame.array done].length ≤ deepestNesting := space
      have handed := (text_read_inside text own inside).2
      have further := ih (value :: done) nextText others
      rw [text_tokens_divided text own (by omega) (behind_divides _), readFrom_append, handed]
      change readFrom (.awaitValue [.array (value :: done)])
        (tokens .between (next.toList ++ behindItem sources)) = _
      rw [further, List.reverse_cons, List.append_assoc]
      rfl

/-- Texts of some values make a text of the array of them, if there is room for it. -/
theorem array_text_is_text (texts : List.Forall₂ IsText sources values)
    (held : Held deepestNesting (.array values)) : IsText (arrayText sources) (.array values) := by
  cases held with
  | array each =>
      cases texts with
      | nil => rfl
      | @cons source _ sources _ text texts =>
          have own := (List.forall_mem_cons.mp each).1
          have within : deepestNesting - 1 ≤ deepestNesting := by decide
          have items := items_text_read [] text texts each (Nat.le_refl _)
          rw [text_tokens_divided text own within (behind_divides _)] at items
          rw [IsText, read, array_text_chars]
          change (readFrom (.awaitFirstItem [])
            (tokens .between (source.toList ++ behindItem sources))).reading = _
          rw [text_tokens_divided text own within (behind_divides _),
            first_item_text_read text own within, items]
          rfl

end Texts

end StyleAudit.Json
