import SkfService.Connection.Replies
import SkfService.Text.JsonMembers

/-! Which replies are one object with an integer error and the id of the frame. A response always
is; the text for a task that failed is just when its description supplies what it lacks. -/

set_option autoImplicit false

namespace SkfService

open Text Interaction

section members

theorem lastMember_written (name : String) (member : String × Json) (fields : List Field) :
    lastMember name (written member :: fields) =
      (lastMember name fields).or (if member.1 = name then some member.2.chars else none) := by
  have named : decode .plain (written member).1 = some name.toList ↔ member.1 = name := by
    rw [written, decode_written, Option.some.injEq, String.toList_inj]
  simp only [lastMember_cons, named]
  rfl

theorem isInteger_ofI32 (value : Int32) : IsInteger (ofI32 value).chars := by
  unfold ofI32
  split
  · exact isInteger_minus _
  · exact isInteger_decimal _

variable (response : RpcResponse)

theorem lastMember_error :
    lastMember "error" (response.fields.map written) = some (ofI32 response.error).chars := by
  unfold RpcResponse.fields
  cases response.message <;> cases response.id <;> split <;>
    simp [lastMember_written, lastMember_nil]

theorem lastMember_id :
    lastMember "id" (response.fields.map written) = response.id.map Json.chars := by
  unfold RpcResponse.fields
  cases response.message <;> cases response.id <;> split <;>
    simp [lastMember_written, lastMember_nil]

end members

/-- A reply to a frame: one object with an integer error, and with the id that the frame carries. -/
def Correlated (ctx : SkfContext) (frame reply : String) : Prop :=
  ∃ fields, Reads reply fields ∧ (∃ error ∈ lastMember "error" fields, IsInteger error) ∧
    ∀ id ∈ requestId ctx frame, lastMember "id" fields = some id.chars

/-- A description that ends its literal itself and goes on with members of the object: an error
among them is an integer again, and the id of the frame is there. -/
def Supplies (ctx : SkfContext) (frame join : String) : Prop :=
  ∃ content rest others fuel,
    readContent .plain (join.toList ++ [quote, '}']) = some (content, rest) ∧
      readRest fuel rest = some others ∧ (∀ error ∈ lastMember "error" others, IsInteger error) ∧
      ∀ id ∈ requestId ctx frame, lastMember "id" others = some id.chars

section replies

variable {ctx : SkfContext} {frame join : String} {fields : List Field}

theorem correlated_response {response : RpcResponse} (same : response.id = requestId ctx frame) :
    Correlated ctx frame response.text := by
  refine ⟨_, reads_response response, ⟨_, lastMember_error response, isInteger_ofI32 _⟩, ?_⟩
  intro id carried
  rw [lastMember_id, same, carried]
  rfl

/-- The members of a failure text are its own two and those that the description adds. -/
theorem reads_failureText_iff : Reads (failureText join) fields ↔
    ∃ content rest others fuel,
      readContent .plain (join.toList ++ [quote, '}']) = some (content, rest) ∧
        readRest fuel rest = some others ∧
        fields = written ("error", ofI32 (-1)) :: ("message".toList, upTo
          (quote :: ("dispatch task failed: ".toList ++ (join.toList ++ [quote, '}']))) rest) ::
          others := by
  constructor
  · rintro ⟨fuel, read⟩
    have read := readWith_more read 6
    rw [readWith_failureText] at read
    obtain ⟨⟨content, rest⟩, inside, after⟩ := Option.bind_eq_some_iff.mp read
    obtain ⟨others, later, same⟩ := Option.map_eq_some_iff.mp after
    exact ⟨content, rest, others, _, inside, later, same.symm⟩
  · rintro ⟨content, rest, others, fuel, inside, later, rfl⟩
    have more := (read_more _).2 _ _ ((read_more _).2 _ _ ((read_more _).2 _ _ later))
    refine ⟨fuel + 6, ?_⟩
    rw [readWith_failureText, inside, Option.bind_some, more, Option.map_some]

theorem lastMember_failure (name : String) (value : List Char) (others : List Field)
    (unnamed : "message" ≠ name) :
    lastMember name (written ("error", ofI32 (-1)) :: ("message".toList, value) :: others) =
      (lastMember name others).or
        (if "error" = name then some (ofI32 (-1)).chars else none) := by
  have plain : decode .plain "message".toList = some "message".toList := by decide
  have other : decode .plain "message".toList ≠ some name.toList := by
    rw [plain, Ne, Option.some.injEq, String.toList_inj]
    exact unnamed
  rw [lastMember_written, lastMember_other other]

theorem correlated_failure : Correlated ctx frame (failureText join) ↔ Supplies ctx frame join := by
  constructor
  · rintro ⟨fields, read, ⟨error, last, integer⟩, carried⟩
    obtain ⟨content, rest, others, fuel, inside, later, rfl⟩ := reads_failureText_iff.mp read
    refine ⟨content, rest, others, fuel, inside, later, fun added found => ?_, fun id asked => ?_⟩
    · rw [lastMember_failure _ _ _ (by decide), found] at last
      cases last
      exact integer
    · have last := carried id asked
      rw [lastMember_failure _ _ _ (by decide), if_neg (by decide), Option.or_none] at last
      exact last
  · rintro ⟨content, rest, others, fuel, inside, later, integers, carried⟩
    refine ⟨_, reads_failureText_iff.mpr ⟨content, rest, others, fuel, inside, later, rfl⟩, ?_,
      fun id asked => ?_⟩
    -- The error of the text stands unless the description puts another one behind it.
    · rw [lastMember_failure _ _ _ (by decide), if_pos rfl]
      cases found : lastMember "error" others with
      | none => exact ⟨_, rfl, isInteger_ofI32 _⟩
      | some error => exact ⟨error, rfl, integers error found⟩
    · rw [lastMember_failure _ _ _ (by decide), if_neg (by decide), Option.or_none]
      exact carried id asked

/-- A description that fits between quotes supplies nothing. -/
theorem supplies_literal (literal : Literal join.toList) :
    Supplies ctx frame join ↔ requestId ctx frame = none := by
  have split : join.toList ++ [quote, '}'] = join.toList ++ quote :: ['}'] := rfl
  have read := (readContent_spells literal).2 ['}']
  constructor
  · rintro ⟨content, rest, others, fuel, inside, later, -, carried⟩
    rw [split, read] at inside
    cases inside
    have none : others = [] := by
      cases fuel with
      | zero => cases later
      | succ fuel =>
        cases later
        rfl
    subst none
    cases asked : requestId ctx frame with
    | none => rfl
    | some id => cases carried id asked
  · intro unasked
    refine ⟨_, _, [], 1, read, rfl, fun _ none => ?_, fun id asked => ?_⟩
    · cases none
    · rw [unasked] at asked
      cases asked

/-- A description that quotes a message supplies nothing that is read: behind its quote the text is
no object any more. -/
theorem not_supplies_message {front message : String} (literal : Literal front.toList)
    (escaped : Escaped message.toList) :
    ¬Supplies ctx frame (front ++ "\"" ++ message ++ "\"") := by
  rintro ⟨content, rest, others, fuel, inside, later, -, -⟩
  have mark : "\"".toList = [quote] := rfl
  have split : (front ++ "\"" ++ message ++ "\"").toList ++ [quote, '}'] =
      front.toList ++ quote :: (message.toList ++ [quote, quote, '}']) := by
    simp only [String.toList_append, mark, List.append_assoc, List.cons_append, List.nil_append]
  rw [split, (readContent_spells literal).2] at inside
  cases inside
  cases fuel with
  | zero => cases later
  | succ fuel =>
    -- The front ends at the first mark, and what follows it is the message itself.
    rw [readRest, skipSpace_append] at later
    -- Behind the closed string the reader wants a comma or the end of the object.
    cases found : skipSpace message.toList with
    | nil =>
      rw [found] at later
      cases later
    | cons c rest =>
      rw [found, if_neg (List.cons_ne_nil _ _), List.cons_append] at later
      split at later
      · next goes =>
        cases goes
        cases fuel with
        | zero => cases later
        | succ fuel =>
          rw [readFields, readKey_unquoted (escaped.unquoted found)] at later
          cases later
      · next ends =>
        cases ends
        rw [if_neg ?_] at later
        · cases later
        · intro spaces
          cases List.dropWhile_eq_nil_iff.mp spaces quote (by simp)
      · cases later

end replies

section runs

variable {ctx : SkfContext} {ttl : Duration} {log : List Entry} {conn : JsonRpcSession}

def Turn.unwound : Turn → Bool
  | .failed _ _ _ => true
  | .answered _ _ _ | .timedOut _ _ => false

/-- The `n`-th frame is answered as it should be unless its task failed, and then just when the
description supplies what the text lacks. -/
theorem reply_correlated_iff (run : JsonRpcSession.Reached ctx ttl log conn) (n : Nat)
    (turn : Turn) (ended : (transcript log).ended[n]? = some turn) (join : String) :
    (framesOf log)[n]? = some turn.text ∧
      (Correlated ctx turn.text (turn.reply ctx join) ↔
        (turn.unwound = true → Supplies ctx turn.text join)) := by
  refine ⟨frame_of_turn run ended, ?_⟩
  cases turn with
  | answered text trace response =>
    have correlated : Correlated ctx text response.text :=
      correlated_response (id_of_turn run ended rfl)
    exact iff_of_true correlated fun impossible => by cases impossible
  | timedOut text trace =>
    have correlated : Correlated ctx text (timedOutReply ctx text).text :=
      correlated_response (id_of_turn run ended rfl)
    exact iff_of_true correlated fun impossible => by cases impossible
  | failed text trace why =>
    exact correlated_failure.trans ⟨fun supplies _ => supplies, fun supplies => supplies rfl⟩

end runs

/-- A request whose device name has a NUL inside, and one that is answered. -/
def nulInName : SkfContext :=
  .serving [("nul", ⟨"EnumApplication", [.string "GM3000", .string "a\x00b"], some (.ofU32 7),
      none⟩),
    ("question", ⟨"EnumProvider", [.string "0000:0000"], some (.ofU32 2), none⟩)]

def unwindsAtName : Turn := .failed "nul" [⟨.host (.readCache "GM3000"), true⟩] .interiorNul

def asksAgain : Turn :=
  .answered "question" [] (.err (-4) "Unknown VPID: 0000:0000" (some (.ofU32 2)))

def failedThenAnswered : List Entry :=
  [⟨0, .received "nul"⟩, ⟨0, .performed 0 ⟨.host (.readCache "GM3000"), true⟩⟩,
    ⟨0, .failed .interiorNul⟩, ⟨0, .received "question"⟩,
    ⟨0, .completed (.err (-4) "Unknown VPID: 0000:0000" (some (.ofU32 2)))⟩]

theorem failed_then_answered :
    JsonRpcSession.Reached nulInName 0 failedThenAnswered ⟨2, .session (.new 0), []⟩ := by
  have looks : Task.Performs nulInName 0 ⟨0, "nul", .new 0, handleRequest nulInName "nul" .EN⟩
      ⟨.host (.readCache "GM3000"), true⟩ _ :=
    .mk rfl trivial fun _ none => absurd none (Option.not_mem_none _)
  exact .cons (.receive "nul") (.cons (.perform looks) (.cons (.fail rfl)
    (.cons (.receive "question") (.cons (.complete rfl) .start))))

def nulMessage : String :=
  "called `Result::unwrap()` on an `Err` value: NulError(1, [97, 0, 98])"

/-- What the end of the task is described with: its message is quoted. -/
def nulDescription : String := "task 12 panicked with message " ++ "\"" ++ nulMessage ++ "\""

theorem nulDescription_supplies_not (ctx : SkfContext) (frame : String) :
    ¬Supplies ctx frame nulDescription := by
  have literal : Literal "task 12 panicked with message ".toList := by
    unfold Literal
    decide
  have unquoted : quote ∉ nulMessage.toList := by decide
  refine not_supplies_message literal fun before after spelled => ?_
  rw [spelled] at unquoted
  exact absurd (List.mem_append_right _ List.mem_cons_self) unquoted

theorem failed_reply_uncorrelated :
    JsonRpcSession.Reached nulInName 0 failedThenAnswered ⟨2, .session (.new 0), []⟩ ∧
      (transcript failedThenAnswered).ended[0]? = some unwindsAtName ∧
      requestId nulInName unwindsAtName.text = some (.ofU32 7) ∧
      ¬Correlated nulInName unwindsAtName.text (unwindsAtName.reply nulInName nulDescription) :=
  ⟨failed_then_answered, rfl, rfl, fun correlated =>
    nulDescription_supplies_not nulInName _ (correlated_failure.mp correlated)⟩

theorem reply_correlated_iff_unwound :
    (framesOf failedThenAnswered)[0]? = some "nul" ∧
      (framesOf failedThenAnswered)[1]? = some "question" ∧
      ¬Correlated nulInName "nul" (unwindsAtName.reply nulInName nulDescription) ∧
      Correlated nulInName "question" (asksAgain.reply nulInName nulDescription) := by
  obtain ⟨first, failed⟩ :=
    reply_correlated_iff failed_then_answered 0 unwindsAtName rfl nulDescription
  obtain ⟨second, answered⟩ :=
    reply_correlated_iff failed_then_answered 1 asksAgain rfl nulDescription
  refine ⟨first, second, fun correlated => ?_, answered.mpr fun impossible => ?_⟩
  · exact nulDescription_supplies_not nulInName _ (failed.mp correlated rfl)
  · cases impossible

end SkfService
