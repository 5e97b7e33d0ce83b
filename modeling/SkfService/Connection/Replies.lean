import SkfService.Conduct.Effects
import SkfService.Connection.Wording
import SkfService.Text.JsonReader

/-! The texts a client is sent: the member list of a response as it is written, and the text that is
put together for a task that failed. -/

set_option autoImplicit false

namespace SkfService

open Text Interaction Program

section texts

theorem magnitude_pos {value : Int32} (signed : value.toInt < 0) :
    0 < UInt64.ofNat value.toInt.natAbs := by
  have low := value.le_toInt
  rw [UInt64.lt_iff_toNat_lt, UInt64.toNat_ofNat']
  change 0 < value.toInt.natAbs % 18446744073709551616
  change -2147483648 ≤ value.toInt at low
  omega

def ofI32 (value : Int32) : Json :=
  if signed : value.toInt < 0 then
    .number (.negative ⟨.ofNat value.toInt.natAbs, magnitude_pos signed⟩)
  else .number (.unsigned (.ofNat value.toInt.natAbs))

theorem ofI32_chars (value : Int32) : (ofI32 value).chars = (decimalInt value.toInt).toList := by
  have reduced : (UInt64.ofNat value.toInt.natAbs).toNat = value.toInt.natAbs := by
    have low := value.le_toInt
    have high := value.toInt_lt
    rw [UInt64.toNat_ofNat']
    change value.toInt.natAbs % 18446744073709551616 = _
    change -2147483648 ≤ value.toInt at low
    change value.toInt < 2147483648 at high
    omega
  unfold ofI32
  split
  · next signed =>
    change '-' :: (decimal (UInt64.ofNat value.toInt.natAbs).toNat).toList = _
    rw [reduced]
    generalize value.toInt = n at signed
    cases n with
    | ofNat n => exact absurd signed (Int.not_lt.mpr (Int.natCast_nonneg n))
    | negSucc n =>
      rw [decimalInt, String.toList_append]
      rfl
  · next unsigned =>
    change (decimal (UInt64.ofNat value.toInt.natAbs).toNat).toList = _
    rw [reduced]
    generalize value.toInt = n at unsigned
    cases n with
    | ofNat n => rfl
    | negSucc n => exact absurd (Int.negSucc_lt_zero n) unsigned

theorem minus_one : (ofI32 (-1)).chars = ['-', '1'] := by
  rw [ofI32_chars]
  rfl

namespace RpcResponse

/-- The members that are written: a null result, an absent message and an absent id are left out. -/
def fields (response : RpcResponse) : List (String × Json) :=
  [("error", ofI32 response.error)] ++
    (if response.result.isNull then [] else [("result", response.result)]) ++
    (response.message.map fun message => ("message", .string message)).toList ++
    (response.id.map fun id => ("id", id)).toList

def text (response : RpcResponse) : String := (Json.object response.fields).render

end RpcResponse

/-- The text for a task that failed. `join` is what the task's end is described with; it is not
escaped. -/
def failureText (join : String) : String :=
  "\x7b\"error\":-1,\"message\":\"dispatch task failed: " ++ join ++ "\"\x7d"

def Turn.response (ctx : SkfContext) : Turn → Option RpcResponse
  | .answered _ _ response => some response
  | .timedOut text _ => some (timedOutReply ctx text)
  | .failed _ _ _ => none

def Turn.reply (ctx : SkfContext) (join : String) (turn : Turn) : String :=
  ((turn.response ctx).map RpcResponse.text).getD (failureText join)

def written (member : String × Json) : Field := (member.1.toList.flatMap escapeChar, member.2.chars)

def Literal (cs : List Char) : Prop := readContent .plain (cs ++ [quote]) = some (cs, [])

end texts

section reading

variable {ctx : SkfContext} {response : RpcResponse} {join : String}

theorem reads_response (response : RpcResponse) :
    Reads response.text (response.fields.map written) :=
  reads_object (List.cons_ne_nil _ _)

theorem preamble_written (cs : List Char) :
    readContent .plain ("dispatch task failed: ".toList ++ cs) =
      (readContent .plain cs).map fun found =>
        ("dispatch task failed: ".toList ++ found.1, found.2) :=
  readContent_written "dispatch task failed: ".toList cs

def failureTail (join : String) : List Char :=
  ',' :: (stringLiteral "message" ++ ':' :: quote ::
    ("dispatch task failed: ".toList ++ (join.toList ++ [quote, '}'])))

theorem failureText_front : "\x7b\"error\":-1,\"message\":\"dispatch task failed: ".toList =
    '{' :: (stringLiteral "error" ++ ':' :: '-' :: '1' :: ',' ::
      (stringLiteral "message" ++ ':' :: quote :: "dispatch task failed: ".toList)) := rfl

theorem failureText_spelled (join : String) : (failureText join).toList =
    '{' :: (stringLiteral "error" ++ ':' :: ((ofI32 (-1)).chars ++ failureTail join)) := by
  have parts :
      (failureText join).toList = "\x7b\"error\":-1,\"message\":\"dispatch task failed: ".toList ++
      (join.toList ++ [quote, '}']) := by
    have close : "\"\x7d".toList = [quote, '}'] := rfl
    have split (front back : String) :
        (front ++ join ++ back).toList = front.toList ++ (join.toList ++ back.toList) := by
      rw [String.toList_append, String.toList_append, List.append_assoc]
    exact (split _ _).trans (congrArg (fun back => _ ++ (join.toList ++ back)) close)
  rw [parts, failureText_front, minus_one, failureTail]
  -- With the literals opaque the two sides differ in their brackets alone.
  generalize "dispatch task failed: ".toList = preamble
  generalize stringLiteral "error" = error
  generalize stringLiteral "message" = message
  simp only [List.cons_append, List.append_assoc, List.nil_append]

theorem readWith_failureText (fuel : Nat) : readWith (fuel + 6) (failureText join) =
    (readContent .plain (join.toList ++ [quote, '}'])).bind fun found =>
      (readRest (fuel + 3) found.2).map fun fields => written ("error", ofI32 (-1)) ::
        ("message".toList, upTo
          (quote :: ("dispatch task failed: ".toList ++ (join.toList ++ [quote, '}']))) found.2) ::
          fields := by
  have closed : Closed (failureTail join) := closed_cons (by simp)
  have enough : 2 * (ofI32 (-1)).chars.length < fuel + 5 := by
    rw [minus_one]
    change 4 < fuel + 5
    omega
  have member := readFields_member "error" (ofI32 (-1)) closed enough
  have opened : readWith (fuel + 6) (failureText join) =
      readFields (fuel + 6) (stringLiteral "error" ++ ':' ::
        ((ofI32 (-1)).chars ++ failureTail join)) := by
    rw [readWith, failureText_spelled, skipSpace_cons (by decide)]
    rfl
  -- The code is read as a number, and the text behind it is a member whose value opens a string.
  have rest : readRest (fuel + 5) (failureTail join) =
      readFields (fuel + 4) (stringLiteral "message" ++ ':' :: quote ::
      ("dispatch task failed: ".toList ++ (join.toList ++ [quote, '}']))) := rfl
  rw [opened, member, rest, readFields, readKey_spelled, Option.bind_some]
  dsimp only
  rw [skip, skipSpace_cons (by decide)]
  dsimp only
  rw [if_pos rfl, preamble_written]
  cases readContent .plain (join.toList ++ [quote, '}']) with
  | none => rfl
  | some found =>
    change (Option.map _ (readRest (fuel + 3) found.2)).map _ = _
    rw [Option.map_map]
    rfl

/-- The members of a failure text: its error, and the description as the inside of its message. -/
def failureFields (join : String) : List Field :=
  [written ("error", ofI32 (-1)),
    ("message".toList, quote :: ("dispatch task failed: ".toList ++ (join.toList ++ [quote])))]

/-- A failure text is read as what it was put together from just when the description fits between
quotes. -/
theorem reads_failureText (join : String) :
    Reads (failureText join) (failureFields join) ↔ Literal join.toList := by
  have split : join.toList ++ [quote, '}'] = (join.toList ++ [quote]) ++ ['}'] := by
    rw [List.append_assoc]
    rfl
  have message : quote :: ("dispatch task failed: ".toList ++ (join.toList ++ [quote, '}'])) =
      quote :: ("dispatch task failed: ".toList ++ (join.toList ++ [quote])) ++ ['}'] := by
    rw [split]
    simp only [List.cons_append, List.append_assoc]
  constructor
  · rintro ⟨fuel, read⟩
    have read := readWith_more read 6
    rw [readWith_failureText] at read
    obtain ⟨⟨content, rest⟩, inside, after⟩ := Option.bind_eq_some_iff.mp read
    obtain ⟨fields, later, same⟩ := Option.map_eq_some_iff.mp after
    obtain ⟨spelled, any⟩ := readContent_spells inside
    simp only [failureFields, List.cons.injEq, Prod.mk.injEq, true_and] at same
    -- The message is the whole literal, so that one character is left for the end of the object.
    have one : rest.length = 1 := by
      have lengths := congrArg List.length same.1
      have total := congrArg List.length spelled
      rw [message, upTo, List.length_take] at lengths
      simp only [List.length_append, List.length_cons, List.length_nil] at lengths total
      omega
    have literal : join.toList = content := by
      have front := congrArg List.dropLast (congrArg List.dropLast spelled)
      obtain ⟨last, rfl⟩ := List.length_eq_one_iff.mp one
      simpa using front
    rw [← literal] at any
    exact any []
  · intro literal
    have read := (readContent_spells literal).2 ['}']
    refine ⟨6, ?_⟩
    rw [readWith_failureText 0, read, Option.bind_some, message, upTo_append]
    rfl

end reading

section log

variable {ctx : SkfContext} {ttl : Duration} {log : List Entry} {conn : JsonRpcSession}

theorem Exchange.id {before after : Line} {text : String} {trace : List (Event Skf)}
    {response : RpcResponse} (exchange : Exchange ctx before text trace response after) :
    response.id = requestId ctx text := by
  have finished := exchange.1
  unfold handleRequest at finished
  unfold requestId
  cases parsed : ctx.platform.parseRequest text with
  | error reason =>
    have met :
        (Program.done (RpcResponse.err (-1) ("Invalid JSON: " ++ reason) none, before.lang)).Meets
        (conduct ⟨false, false, false, false⟩) (fun result _ => result.1.id = none)
          (fun (_ : Panic) _ => True)
        Conduct.start := rfl
    rw [parsed] at finished
    exact met.returned finished (Conduct.possible_conduct _ _)
  | ok req =>
    rw [parsed] at finished
    -- Every branch answers under the id of its request, whatever it was told on the way.
    exact ((Conduct.answer_conforms ctx req before.lang).returned finished
      (Conduct.possible_conduct _ _)).1

theorem Turn.extend_text (event : Event Skf) (turn : Turn) :
    (turn.extend event).text = turn.text := by
  cases turn <;> rfl

def Transcript.texts (t : Transcript) : List String :=
  t.ended.map Turn.text ++ (t.running.map Prod.fst).toList

theorem texts_finish {t : Transcript} {text : String} {trace : List (Event Skf)}
    {turn : String → List (Event Skf) → Turn} (current : t.running = some (text, trace))
    (same : (turn text trace).text = text) :
    (t.finish turn).texts = t.texts := by
  rw [Transcript.finish_running current, Transcript.texts, Transcript.texts, current,
    List.map_append, List.map_singleton, same]
  simp

theorem map_extend (ended : List Turn) (n : Nat) (event : Event Skf) :
    (ended.modify n (Turn.extend event)).map Turn.text = ended.map Turn.text := by
  apply List.ext_getElem?
  intro k
  rw [List.getElem?_map, List.getElem?_map, List.getElem?_modify]
  cases ended[k]? with
  | none => rfl
  | some turn =>
    split
    · exact congrArg some (Turn.extend_text event turn)
    · rfl

theorem framesOf_reached (run : JsonRpcSession.Reached ctx ttl log conn) :
    framesOf log = (transcript log).texts := by
  induction run with
  | start => rfl
  | @next log entry before after earlier step ih =>
    have tracks := tracks_reached earlier
    rw [framesOf_append, transcript_append, ih]
    cases step with
    | receive text =>
      have idle := tracks.holder.2.1
      simp [framesOf, Transcript.texts, Transcript.note, idle]
    | @perform n task after detached now event performs =>
      rw [Transcript.note_running tracks.holder.2.1]
      cases current : (transcript log).running <;> simp [framesOf, Transcript.texts, current]
    | @late n holder front back task after now event performs =>
      rw [Transcript.note_late (tracks.detached task (by simp)).bound]
      simp [framesOf, Transcript.texts, map_extend]
    | complete =>
      obtain ⟨-, -, line, trace, current, -⟩ := tracks.holder
      exact (List.append_nil _).trans (texts_finish current rfl).symm
    | expire =>
      obtain ⟨-, -, line, trace, current, -⟩ := tracks.holder
      exact (List.append_nil _).trans (texts_finish current rfl).symm
    | fail =>
      obtain ⟨-, -, line, trace, current, -⟩ := tracks.holder
      exact (List.append_nil _).trans (texts_finish current rfl).symm

/-- The request that ended as the `n`-th came with the `n`-th frame. -/
theorem frame_of_turn (run : JsonRpcSession.Reached ctx ttl log conn) {n : Nat} {turn : Turn}
    (ended : (transcript log).ended[n]? = some turn) : (framesOf log)[n]? = some turn.text := by
  obtain ⟨bound, -⟩ := List.getElem?_eq_some_iff.mp ended
  rw [framesOf_reached run, Transcript.texts, List.getElem?_append_left (by rwa [List.length_map]),
    List.getElem?_map, ended]
  rfl

/-- A request that ended did so in a step of its own. -/
theorem step_of_turn {n : Nat} {turn : Turn} (run : JsonRpcSession.Reached ctx ttl log conn)
    (ended : (transcript log).ended[n]? = some turn) :
    ∃ before after, TurnStep ctx ttl before turn after := by
  obtain ⟨bound, at_n⟩ := List.getElem?_eq_some_iff.mp ended
  obtain ⟨last, whole⟩ := conversation_of_reached run
  -- The conversation is cut behind the turn, which makes it the last of the front.
  rw [← List.take_append_drop n (transcript log).ended, List.drop_eq_getElem_cons bound, at_n,
    List.append_cons] at whole
  obtain ⟨middle, front, -⟩ := whole.split
  obtain ⟨line, -, step⟩ := front.last_step
  exact ⟨line, middle, step⟩

theorem id_of_turn {response : RpcResponse} {n : Nat} {turn : Turn}
    (run : JsonRpcSession.Reached ctx ttl log conn) (ended : (transcript log).ended[n]? = some turn)
    (answered : turn.response ctx = some response) :
    response.id = requestId ctx turn.text := by
  cases turn with
  | answered text trace given =>
    cases answered
    obtain ⟨before, after, step⟩ := step_of_turn run ended
    cases step with
    | answered exchange => exact exchange.id
  | timedOut text trace =>
    cases answered
    rfl
  | failed => cases answered

/-- Every request that ended is answered with a text for it: the `n`-th for the `n`-th frame. -/
theorem replies_correlated (run : JsonRpcSession.Reached ctx ttl log conn) (n : Nat) (turn : Turn)
    (ended : (transcript log).ended[n]? = some turn) (join : String) :
    (framesOf log)[n]? = some turn.text ∧
      (∀ response, turn.response ctx = some response → response.id = requestId ctx turn.text ∧
        Reads (turn.reply ctx join) (response.fields.map written)) ∧
      (turn.response ctx = none →
        (Reads (turn.reply ctx join) (failureFields join) ↔ Literal join.toList)) := by
  refine ⟨frame_of_turn run ended, fun response answered =>
    ⟨id_of_turn run ended answered, ?_⟩, fun failed => ?_⟩
  · rw [Turn.reply, answered]
    exact reads_response response
  · rw [Turn.reply, failed]
    exact reads_failureText join

def questions : SkfContext :=
  .serving [("question", ⟨"EnumProvider", [.string "0000:0000"], some (.ofU32 2), none⟩)]

def answeredTwice : List Entry :=
  [⟨0, .received "hello"⟩,
    ⟨0, .completed (.err (-1) "Invalid JSON: expected value at line 1 column 1" none)⟩,
    ⟨0, .received "question"⟩,
    ⟨0, .completed (.err (-4) "Unknown VPID: 0000:0000" (some (.ofU32 2)))⟩]

theorem replies_correlated_answered :
    (framesOf answeredTwice)[1]? = some "question" ∧
      Reads (RpcResponse.err (-4) "Unknown VPID: 0000:0000" (requestId questions "question")).text
        ([("error", ofI32 (-4)), ("message", .string "Unknown VPID: 0000:0000"),
          ("id", .ofU32 2)].map written) := by
  have run : JsonRpcSession.Reached questions 0 answeredTwice ⟨2, .session (.new 0), []⟩ :=
    .cons (.receive "hello")
      (.cons (.complete rfl) (.cons (.receive "question") (.cons (.complete rfl) .start)))
  obtain ⟨frame, answered, -⟩ := replies_correlated run 1
    (.answered "question" [] (.err (-4) "Unknown VPID: 0000:0000" (some (.ofU32 2)))) rfl ""
  exact ⟨frame, (answered _ rfl).2⟩

/-- A task that panicked with a text is described with the text in quotes. -/
example : ¬Literal "task 12 panicked with message \"no entry\"".toList := by
  unfold Literal
  decide

end log

end SkfService
