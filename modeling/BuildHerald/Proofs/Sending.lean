import BuildHerald.Proofs.Listening
import BuildHerald.Proofs.Portioning
import BuildHerald.Proofs.SentIds
import BuildHerald.Telegram.Bot
import Mathlib.Data.List.Basic

/-!
The requests in which a message is sent, and what comes of them.

A message is sent portion by portion. Each portion is posted as marked-up text, and once more as plain
text if the server does not take it so. The first portion that is not taken ends the sending.
-/

namespace BuildHerald.Proofs.Sending

open BuildHerald.Http
open BuildHerald.Json
open BuildHerald.Telegram
open BuildHerald.Proofs.Conversation
open BuildHerald.Proofs.Listening (Sent localBot)
open BuildHerald.Proofs.Portioning
open BuildHerald.Proofs.SentIds (TellsId sentId?_eq_some_iff)

/-! ### One request -/

/-- A procedure can be answered in any way. -/
theorem exists_runs_answered {Question Told α : Type}
    (procedure : Dialogue Question (fun _ => Told) α) (answers : Nat → Told) :
    ∃ trace result, Runs procedure trace result ∧
      trace.map Turn.answer = (List.range trace.length).map answers := by
  induction procedure generalizing answers with
  | done result => exact ⟨[], result, .done result, rfl⟩
  | ask question next ih =>
      obtain ⟨trace, result, hruns, hanswers⟩ := ih (answers 0) fun count => answers (count + 1)
      refine ⟨⟨question, answers 0⟩ :: trace, result,
        runs_ask_iff.mpr ⟨answers 0, trace, rfl, hruns⟩, ?_⟩
      rw [List.map_cons, hanswers, List.length_cons, List.range_succ_eq_map, List.map_cons,
        List.map_map]
      rfl

section Request

variable {draft : Draft} {trace : List Sent} {result : Except Http.Fault Response}

theorem runs_send_of_error {fault : Http.Fault} (hrequest : draft.request = .error fault) :
    Runs draft.send trace result ↔ trace = [] ∧ result = .error fault := by
  unfold Draft.send
  rw [hrequest]
  exact runs_pure_iff

theorem runs_send_of_ok {request : Request} (hrequest : draft.request = .ok request) :
    Runs draft.send trace result ↔
      (trace = [⟨request, none⟩] ∧ result = .error (.lost request.url.text)) ∨
        ∃ response, trace = [⟨request, some response⟩] ∧ result = .ok response := by
  unfold Draft.send
  simp only [hrequest, runs_bind_iff, Dialogue.put, runs_single_iff]
  constructor
  · rintro ⟨_, outcome, late, rfl, rfl, hlate⟩
    cases outcome with
    | none =>
        obtain ⟨rfl, rfl⟩ := runs_pure_iff.mp hlate
        exact .inl ⟨rfl, rfl⟩
    | some response =>
        obtain ⟨rfl, rfl⟩ := runs_pure_iff.mp hlate
        exact .inr ⟨response, rfl, rfl⟩
  · rintro (⟨rfl, rfl⟩ | ⟨response, rfl, rfl⟩)
    · exact ⟨_, none, [], rfl, rfl, runs_pure_iff.mpr ⟨rfl, rfl⟩⟩
    · exact ⟨_, some response, [], rfl, rfl, runs_pure_iff.mpr ⟨rfl, rfl⟩⟩

end Request

/-- Whether a draft can be sent does not depend on its body. -/
theorem request_withBody (draft : Draft) (body : Option Value) :
    { draft with body := body }.request =
      draft.request.map fun request => { request with body := body } := by
  unfold Draft.request
  cases Url.ofText? draft.address with
  | none => rfl
  | some given =>
      dsimp only
      generalize (if given.login?.isSome then given.withoutLogin else given) = url
      split
      · rfl
      · split
        · rfl
        · split
          · rfl
          · rfl

/-- What all requests of the bot that send something have in common: a request without a body. -/
def envelope? (bot : Bot) : Except Http.Fault Request :=
  { method := .post, address := bot.address "sendMessage" : Draft }.request

/-- An object without a member. -/
def without (name : String) : Value → Value
  | .object members => .object (members.filter fun member => member.1 != name)
  | value => value

theorem arguments_plain (message : Bot.Message) :
    message.arguments false = without "parse_mode" (message.arguments true) := by
  unfold Bot.Message.arguments
  cases message.replyTo with
  | none => rfl
  | some id => rfl

/-! ### One portion -/

/-- A portion that is posted, and what comes of the request for marked-up text and of that for plain
text, if there is one. -/
structure Attempt where
  text : List Char
  first : Outcome
  again : Option Outcome

namespace Attempt

def sent (envelope : Request) (message : Bot.Message) (attempt : Attempt) : List Sent :=
  let request : Request :=
    { envelope with body := some ({ message with text := attempt.text }.arguments true) }
  ⟨request, attempt.first⟩ :: (attempt.again.map fun outcome =>
    ⟨{ request with body := request.body.map (without "parse_mode") }, outcome⟩).toList

/-- What comes of the last request. -/
def outcome (attempt : Attempt) : Outcome :=
  attempt.again.getD attempt.first

def isTaken (attempt : Attempt) : Bool :=
  attempt.outcome.any Response.isSuccess

/-- What comes of the last request tells an id. -/
def Tells (attempt : Attempt) (id : Int) : Prop :=
  ∃ response, attempt.outcome = some response ∧ TellsId response id

/-- The id of the message, if the server tells it. -/
def id? (attempt : Attempt) : Option Int :=
  attempt.outcome.bind Bot.sentId?

theorem id?_eq_some_iff {attempt : Attempt} {id : Int} :
    attempt.id? = some id ↔ attempt.Tells id := by
  rw [id?, Option.bind_eq_some_iff, Tells]
  simp only [sentId?_eq_some_iff]

theorem id?_eq_none_iff {attempt : Attempt} : attempt.id? = none ↔ ∀ id, ¬ attempt.Tells id := by
  rw [Option.eq_none_iff_forall_ne_some]
  simp only [ne_eq, id?_eq_some_iff]

/-- There is a second request exactly if the server answers the first and does not take it. -/
def IsRetried (attempt : Attempt) : Prop :=
  attempt.again.isSome = true ↔
    ∃ response, attempt.first = some response ∧ response.isSuccess = false

theorem isRetried_lost (text : List Char) : IsRetried ⟨text, none, none⟩ := by
  simp [IsRetried]

theorem isRetried_taken (text : List Char) {response : Response}
    (hsuccess : response.isSuccess = true) : IsRetried ⟨text, some response, none⟩ := by
  simp [IsRetried, hsuccess]

theorem isRetried_refused (text : List Char) {response : Response}
    (hrefused : response.isSuccess = false) (again : Outcome) :
    IsRetried ⟨text, some response, some again⟩ := by
  simp [IsRetried, hrefused]

end Attempt

section Portion

variable {bot : Bot} {envelope : Request} {message : Bot.Message} {trace : List Sent}

theorem request_eq (bot : Bot) (body : Value) :
    ({ method := .post, address := bot.address "sendMessage", body := some body } : Draft).request =
      (envelope? bot).map fun envelope => { envelope with body := some body } :=
  request_withBody { method := .post, address := bot.address "sendMessage" } (some body)

theorem runs_post_of_error {fault : Http.Fault} {arguments : Value}
    {result : Except Http.Fault Response} (hfault : envelope? bot = .error fault) :
    Runs (bot.post "sendMessage" arguments) trace result ↔ trace = [] ∧ result = .error fault :=
  runs_send_of_error (by rw [request_eq, hfault]; rfl)

theorem runs_post {arguments : Value} {result : Except Http.Fault Response}
    (henvelope : envelope? bot = .ok envelope) :
    Runs (bot.post "sendMessage" arguments) trace result ↔
      (trace = [⟨{ envelope with body := some arguments }, none⟩] ∧
          result = .error (.lost envelope.url.text)) ∨
        ∃ response, trace = [⟨{ envelope with body := some arguments }, some response⟩] ∧
          result = .ok response :=
  runs_send_of_ok (by rw [request_eq, henvelope]; rfl)

/-- What comes of posting a portion: the id of its message, if the server takes it. -/
theorem attempt_of_runs {result : Except ChatFault (Option Int)}
    (henvelope : envelope? bot = .ok envelope)
    (hruns : Runs (bot.sendWhole message) trace result) :
    ∃ attempt : Attempt, attempt.text = message.text ∧ trace = attempt.sent envelope message ∧
      attempt.IsRetried ∧
      ((attempt.isTaken = true ∧ result = .ok attempt.id?) ∨
        (attempt.isTaken = false ∧ ∃ fault, result = .error fault)) := by
  unfold Bot.sendWhole at hruns
  rw [runs_bind_iff] at hruns
  obtain ⟨early, first, late, rfl, hfirst, hlate⟩ := hruns
  -- Only an answer that does not take the marked-up text leads to a second request.
  obtain ⟨rfl, rfl⟩ | ⟨markedUp, rfl, rfl⟩ := (runs_post henvelope).mp hfirst
  · obtain ⟨rfl, rfl⟩ := runs_pure_iff.mp hlate
    exact ⟨⟨message.text, none, none⟩, rfl, rfl, Attempt.isRetried_lost _, .inr ⟨rfl, _, rfl⟩⟩
  cases hmarkedUp : markedUp.isSuccess with
  | true =>
      simp only [hmarkedUp, if_true] at hlate
      obtain ⟨rfl, rfl⟩ := runs_pure_iff.mp hlate
      exact ⟨⟨message.text, some markedUp, none⟩, rfl, rfl, Attempt.isRetried_taken _ hmarkedUp,
        .inl ⟨hmarkedUp, rfl⟩⟩
  | false =>
      simp only [hmarkedUp, Bool.false_eq_true, if_false, runs_bind_iff] at hlate
      obtain ⟨again, second, rest, rfl, hsecond, hrest⟩ := hlate
      have hretried := Attempt.isRetried_refused message.text hmarkedUp
      rw [runs_post henvelope, arguments_plain] at hsecond
      obtain ⟨rfl, rfl⟩ | ⟨plain, rfl, rfl⟩ := hsecond
      · obtain ⟨rfl, rfl⟩ := runs_pure_iff.mp hrest
        exact ⟨⟨message.text, some markedUp, some none⟩, rfl, rfl, hretried none,
          .inr ⟨rfl, _, rfl⟩⟩
      cases hplain : plain.isSuccess with
      | true =>
          simp only [hplain, if_true] at hrest
          obtain ⟨rfl, rfl⟩ := runs_pure_iff.mp hrest
          exact ⟨⟨message.text, some markedUp, some (some plain)⟩, rfl, rfl, hretried _,
            .inl ⟨hplain, rfl⟩⟩
      | false =>
          simp only [hplain, Bool.false_eq_true, if_false] at hrest
          obtain ⟨rfl, rfl⟩ := runs_pure_iff.mp hrest
          exact ⟨⟨message.text, some markedUp, some (some plain)⟩, rfl, rfl, hretried _,
            .inr ⟨hplain, _, rfl⟩⟩

end Portion

/-- Whom a request is for: it names the chat, and the message that is replied to. -/
def IsAddressed (message : Bot.Message) (request : Request) : Prop :=
  ∃ body, request.body = some body ∧ body.get? "chat_id" = some (.string message.chat) ∧
    body.get? "reply_to_message_id" = message.replyTo.map fun id => Json.number (.int id)

theorem isAddressed_of_sent {envelope : Request} {message : Bot.Message} {attempt : Attempt} :
    ∀ sent ∈ attempt.sent envelope message, IsAddressed message sent.question := by
  intro sent hsent
  obtain rfl | hagain := List.mem_cons.mp hsent
  · refine ⟨_, rfl, rfl, ?_⟩
    cases message.replyTo with
    | none => rfl
    | some id => rfl
  · obtain ⟨outcome, -, rfl⟩ := Option.map_eq_some_iff.mp (Option.mem_toList.mp hagain)
    refine ⟨_, rfl, ?_, ?_⟩
    · cases message.replyTo with
      | none => rfl
      | some id => rfl
    · cases message.replyTo with
      | none => rfl
      | some id => rfl

/-! ### A whole message -/

/-- The ids that the server tells in a row of attempts. An attempt in which it tells none is passed
over. -/
inductive Collected : List Attempt → List Int → Prop
  | nil : Collected [] []
  | told {attempt : Attempt} {attempts : List Attempt} {id : Int} {ids : List Int}
      (htells : attempt.Tells id) (hrest : Collected attempts ids) :
      Collected (attempt :: attempts) (id :: ids)
  | untold {attempt : Attempt} {attempts : List Attempt} {ids : List Int}
      (hsilent : ∀ id, ¬ attempt.Tells id) (hrest : Collected attempts ids) :
      Collected (attempt :: attempts) ids

theorem Collected.eq_filterMap {attempts : List Attempt} {ids : List Int}
    (hcollected : Collected attempts ids) : ids = attempts.filterMap Attempt.id? := by
  induction hcollected with
  | nil => rfl
  | told htells _ ih => rw [List.filterMap_cons_some (Attempt.id?_eq_some_iff.mpr htells), ih]
  | untold hsilent _ ih => rw [List.filterMap_cons_none (Attempt.id?_eq_none_iff.mpr hsilent), ih]

/-- The attempts by which portions are sent: one for each in order, up to the first that is not
taken. -/
structure Course (envelope : Request) (message : Bot.Message) (portions : List (List Char))
    (attempts : List Attempt) (trace : List Sent) (result : Except ChatFault (List Int)) : Prop where
  trace_eq : trace = attempts.flatMap (Attempt.sent envelope message)
  texts : attempts.map Attempt.text <+: portions
  retried : ∀ attempt ∈ attempts, attempt.IsRetried
  stops : ∀ attempt ∈ attempts.dropLast, attempt.isTaken = true
  failed : ∀ fault, result = .error fault →
    ∃ last, attempts.getLast? = some last ∧ last.isTaken = false
  completed : (∃ ids, result = .ok ids) ↔
    attempts.map Attempt.text = portions ∧ ∀ attempt ∈ attempts, attempt.isTaken = true
  ids : ∀ ids, result = .ok ids → Collected attempts ids

section Course

variable {bot : Bot} {envelope : Request} {message : Bot.Message} {portions : List (List Char)}
  {attempts : List Attempt} {attempt : Attempt} {trace : List Sent}
  {result : Except ChatFault (List Int)}

theorem course_nil : Course envelope message [] [] [] (.ok []) where
  trace_eq := rfl
  texts := List.prefix_refl []
  retried := List.forall_mem_nil _
  stops := List.forall_mem_nil _
  failed := fun _ hfailed => by cases hfailed
  completed := ⟨fun _ => ⟨rfl, List.forall_mem_nil _⟩, fun _ => ⟨[], rfl⟩⟩
  ids := fun _ hids => Except.ok.inj hids ▸ .nil

theorem course_refused (hretried : attempt.IsRetried) (hrefused : attempt.isTaken = false)
    (fault : ChatFault) :
    Course envelope message (attempt.text :: portions) [attempt] (attempt.sent envelope message)
      (.error fault) where
  trace_eq := (List.flatMap_singleton ..).symm
  texts := ⟨portions, rfl⟩
  retried := List.forall_mem_singleton.mpr hretried
  stops := List.forall_mem_nil _
  failed := fun _ _ => ⟨attempt, rfl, hrefused⟩
  completed := by
    constructor
    · rintro ⟨ids, hids⟩
      cases hids
    · rintro ⟨-, htaken⟩
      have hboth := htaken attempt List.mem_cons_self
      rw [hrefused] at hboth
      cases hboth
  ids := fun _ hids => by cases hids

theorem course_cons (hretried : attempt.IsRetried) (htaken : attempt.isTaken = true)
    (hcourse : Course envelope message portions attempts trace result) :
    Course envelope message (attempt.text :: portions) (attempt :: attempts)
      (attempt.sent envelope message ++ trace)
      (result.map fun ids => attempt.id?.toList ++ ids) where
  trace_eq := by rw [List.flatMap_cons, ← hcourse.trace_eq]
  texts := (List.prefix_cons_inj attempt.text).mpr hcourse.texts
  retried := List.forall_mem_cons.mpr ⟨hretried, hcourse.retried⟩
  stops := by
    intro other hmem
    cases attempts with
    | nil => exact absurd hmem List.not_mem_nil
    | cons next later =>
        rw [List.dropLast_cons_of_ne_nil (List.cons_ne_nil next later)] at hmem
        obtain rfl | hlater := List.mem_cons.mp hmem
        · exact htaken
        · exact hcourse.stops other hlater
  failed := by
    intro fault hfault
    cases result with
    | ok ids => cases hfault
    | error other =>
        obtain ⟨last, hlast, hrefused⟩ := hcourse.failed other rfl
        exact ⟨last, by rw [List.getLast?_cons, hlast]; rfl, hrefused⟩
  completed := by
    have hiff : (∃ ids, (result.map fun ids => attempt.id?.toList ++ ids) = .ok ids) ↔
        ∃ ids, result = .ok ids := by
      cases result with
      | ok ids => exact ⟨fun _ => ⟨ids, rfl⟩, fun _ => ⟨_, rfl⟩⟩
      | error fault =>
          constructor
          · rintro ⟨_, hids⟩
            cases hids
          · rintro ⟨_, hids⟩
            cases hids
    rw [hiff, hcourse.completed, List.map_cons, List.cons.injEq, List.forall_mem_cons]
    simp [htaken]
  ids := by
    intro ids hids
    cases result with
    | error fault => cases hids
    | ok rest =>
        obtain rfl := Except.ok.inj hids
        have hrest := hcourse.ids rest rfl
        cases hid : attempt.id? with
        | none => exact .untold (Attempt.id?_eq_none_iff.mp hid) hrest
        | some id => exact .told (Attempt.id?_eq_some_iff.mp hid) hrest

theorem exists_course (henvelope : envelope? bot = .ok envelope)
    (hruns : Runs (bot.sendAll (portions.map fun text => { message with text := text })) trace
      result) :
    ∃ attempts, Course envelope message portions attempts trace result := by
  induction portions generalizing trace result with
  | nil =>
      obtain ⟨rfl, rfl⟩ := runs_pure_iff.mp hruns
      exact ⟨[], course_nil⟩
  | cons text portions ih =>
      rw [List.map_cons, Bot.sendAll, runs_bind_iff] at hruns
      obtain ⟨early, first, late, rfl, hfirst, hlate⟩ := hruns
      obtain ⟨attempt, rfl, rfl, hretried, ⟨htaken, rfl⟩ | ⟨hrefused, fault, rfl⟩⟩ :=
        attempt_of_runs henvelope hfirst
      · simp only [runs_bind_iff] at hlate
        obtain ⟨rest, others, none, rfl, hrest, hnone⟩ := hlate
        obtain ⟨attempts, hcourse⟩ := ih hrest
        refine ⟨attempt :: attempts, ?_⟩
        cases others with
        | error fault =>
            obtain ⟨rfl, rfl⟩ := runs_pure_iff.mp hnone
            rw [List.append_nil]
            exact course_cons hretried htaken hcourse
        | ok ids =>
            obtain ⟨rfl, rfl⟩ := runs_pure_iff.mp hnone
            rw [List.append_nil]
            exact course_cons hretried htaken hcourse
      · obtain ⟨rfl, rfl⟩ := runs_pure_iff.mp hlate
        rw [List.append_nil]
        exact ⟨[attempt], course_refused hretried hrefused fault⟩

theorem course_of_send (hruns : Runs (bot.send message) trace result) :
    (∃ fault, envelope? bot = .error fault ∧ trace = [] ∧
        result = .error (.sendFailed Bot.name fault.brief)) ∨
      ∃ envelope attempts, envelope? bot = .ok envelope ∧
        Course envelope message (Portions.ofText messageLimit message.text) attempts trace
          result := by
  unfold Bot.send at hruns
  cases henvelope : envelope? bot with
  | ok envelope =>
      obtain ⟨attempts, hcourse⟩ := exists_course henvelope hruns
      exact .inr ⟨envelope, attempts, rfl, hcourse⟩
  | error fault =>
      obtain ⟨text, portions, hportions⟩ :=
        List.exists_cons_of_ne_nil (ofText_ne_nil messageLimit message.text)
      rw [hportions, List.map_cons, Bot.sendAll, runs_bind_iff] at hruns
      obtain ⟨_, _, _, rfl, hfirst, hlate⟩ := hruns
      rw [Bot.sendWhole, runs_bind_iff] at hfirst
      obtain ⟨_, _, _, rfl, hpost, hnone⟩ := hfirst
      obtain ⟨rfl, rfl⟩ := (runs_post_of_error henvelope).mp hpost
      obtain ⟨rfl, rfl⟩ := runs_pure_iff.mp hnone
      obtain ⟨rfl, rfl⟩ := runs_pure_iff.mp hlate
      exact .inl ⟨fault, rfl, rfl, rfl⟩

theorem Course.isAddressed (hcourse : Course envelope message portions attempts trace result) :
    ∀ sent ∈ trace, IsAddressed message sent.question := by
  rw [hcourse.trace_eq]
  intro sent hsent
  obtain ⟨attempt, -, hmem⟩ := List.mem_flatMap.mp hsent
  exact isAddressed_of_sent sent hmem

end Course

/-! ### Runs with given answers -/

section Given

variable {bot : Bot} {envelope : Request} {message : Bot.Message} {portions : List (List Char)}
  {attempt : Attempt}

theorem attempt_eq {other : Attempt} (htext : other.text = attempt.text)
    (hfirst : other.first = attempt.first) (hother : other.IsRetried)
    (hretried : attempt.IsRetried)
    (hagain : ∀ outcome ∈ other.again, attempt.again.getD none = outcome) : other = attempt := by
  obtain ⟨text, first, again⟩ := other
  obtain ⟨_, _, given⟩ := attempt
  obtain rfl := htext
  obtain rfl := hfirst
  have hsome : again.isSome = given.isSome := Bool.eq_iff_iff.mpr (hother.trans hretried.symm)
  cases again with
  | none =>
      obtain rfl := Option.not_isSome_iff_eq_none.mp (Bool.eq_false_iff.mp hsome.symm)
      rfl
  | some outcome =>
      obtain ⟨_, rfl⟩ := Option.isSome_iff_exists.mp hsome.symm
      rw [← hagain outcome rfl]
      rfl

/-- The server can answer the requests for a portion in any way. -/
theorem runs_of_attempt (henvelope : envelope? bot = .ok envelope)
    (hretried : attempt.IsRetried) :
    ∃ result, Runs (bot.sendWhole { message with text := attempt.text })
        (attempt.sent envelope message) result ∧
      ((attempt.isTaken = true ∧ result = .ok attempt.id?) ∨
        (attempt.isTaken = false ∧ ∃ fault, result = .error fault)) := by
  obtain ⟨trace, result, hruns, htold⟩ := exists_runs_answered
    (bot.sendWhole { message with text := attempt.text })
    fun count => if count = 0 then attempt.first else attempt.again.getD none
  obtain ⟨other, htext, rfl, hother, hends⟩ := attempt_of_runs henvelope hruns
  obtain ⟨hfirst, hagain⟩ : other.first = attempt.first ∧
      ∀ outcome ∈ other.again, attempt.again.getD none = outcome := by
    cases hother : other.again with
    | none => simpa [Attempt.sent, hother] using htold
    | some outcome => simpa [Attempt.sent, hother, List.range_succ, eq_comm] using htold
  obtain rfl := attempt_eq htext hfirst hother hretried hagain
  exact ⟨result, hruns, hends⟩

theorem runs_sendAll_taken {trace : List Sent} {result : Except ChatFault (List Int)}
    (henvelope : envelope? bot = .ok envelope) (hretried : attempt.IsRetried)
    (htaken : attempt.isTaken = true)
    (hrest : Runs (bot.sendAll (portions.map fun text => { message with text := text })) trace
      result) :
    Runs (bot.sendAll ((attempt.text :: portions).map fun text => { message with text := text }))
      (attempt.sent envelope message ++ trace)
      (result.map fun ids => attempt.id?.toList ++ ids) := by
  obtain ⟨first, hfirst, ⟨-, rfl⟩ | ⟨hrefused, -⟩⟩ := runs_of_attempt henvelope hretried
  · rw [List.map_cons, Bot.sendAll, runs_bind_iff]
    refine ⟨_, _, trace, rfl, hfirst, ?_⟩
    simp only [runs_bind_iff]
    refine ⟨trace, result, [], (List.append_nil trace).symm, hrest, ?_⟩
    cases result with
    | error fault => exact runs_pure_iff.mpr ⟨rfl, rfl⟩
    | ok ids => exact runs_pure_iff.mpr ⟨rfl, rfl⟩
  · rw [htaken] at hrefused
    cases hrefused

theorem runs_sendAll_refused (henvelope : envelope? bot = .ok envelope) (message : Bot.Message)
    (portions : List (List Char)) (hretried : attempt.IsRetried)
    (hrefused : attempt.isTaken = false) :
    ∃ fault,
      Runs (bot.sendAll ((attempt.text :: portions).map fun text => { message with text := text }))
        (attempt.sent envelope message) (.error fault) := by
  obtain ⟨first, hfirst, ⟨htaken, -⟩ | ⟨-, fault, rfl⟩⟩ := runs_of_attempt henvelope hretried
  · rw [hrefused] at htaken
    cases htaken
  · refine ⟨fault, ?_⟩
    rw [List.map_cons, Bot.sendAll, runs_bind_iff]
    exact ⟨_, _, [], (List.append_nil _).symm, hfirst, runs_pure_iff.mpr ⟨rfl, rfl⟩⟩

/-- All portions can be taken, with any answers that take them. -/
theorem runs_sendAll_of_taken {attempts : List Attempt} (henvelope : envelope? bot = .ok envelope)
    (hretried : ∀ attempt ∈ attempts, attempt.IsRetried)
    (htaken : ∀ attempt ∈ attempts, attempt.isTaken = true) :
    Runs (bot.sendAll ((attempts.map Attempt.text).map fun text => { message with text := text }))
      (attempts.flatMap (Attempt.sent envelope message))
      (.ok (attempts.flatMap fun attempt => attempt.id?.toList)) := by
  induction attempts with
  | nil => exact runs_pure_iff.mpr ⟨rfl, rfl⟩
  | cons attempt attempts ih =>
      rw [List.forall_mem_cons] at hretried htaken
      exact runs_sendAll_taken henvelope hretried.1 htaken.1 (ih hretried.2 htaken.2)

/-- The connection can fail after the first portion has been taken. -/
theorem runs_send_in_part (attempt : Attempt) {lost : List Char} {later : List (List Char)}
    (henvelope : envelope? bot = .ok envelope)
    (hportions : Portions.ofText messageLimit message.text = attempt.text :: lost :: later)
    (hretried : attempt.IsRetried) (htaken : attempt.isTaken = true) :
    ∃ fault, Runs (bot.send message)
      (attempt.sent envelope message ++ Attempt.sent envelope message ⟨lost, none, none⟩)
        (.error fault) := by
  obtain ⟨fault, hrefused⟩ :=
    runs_sendAll_refused henvelope message later (Attempt.isRetried_lost lost) rfl
  refine ⟨fault, ?_⟩
  rw [Bot.send, hportions]
  exact runs_sendAll_taken henvelope hretried htaken hrefused

/-- A message that fits can be taken at once. -/
theorem runs_send_at_once {response : Response} (henvelope : envelope? bot = .ok envelope)
    (hfits : Portions.size message.text ≤ messageLimit) (hsuccess : response.isSuccess = true) :
    Runs (bot.send message) (Attempt.sent envelope message ⟨message.text, some response, none⟩)
      (.ok (Bot.sentId? response).toList) := by
  have hretried := Attempt.isRetried_taken message.text hsuccess
  rw [Bot.send, ofText_of_fits hfits]
  simpa [Attempt.id?, Attempt.outcome] using runs_sendAll_of_taken henvelope
    (List.forall_mem_singleton.mpr hretried) (List.forall_mem_singleton.mpr hsuccess)

end Given

theorem isAddressed_of_send {bot : Bot} {message : Bot.Message} {trace : List Sent}
    {result : Except ChatFault (List Int)} (hruns : Runs (bot.send message) trace result) :
    ∀ sent ∈ trace, IsAddressed message sent.question := by
  obtain ⟨_, _, rfl, _⟩ | ⟨_, _, _, hcourse⟩ := course_of_send hruns
  · exact List.forall_mem_nil _
  · exact hcourse.isAddressed

/-- A message is sent portion by portion, as far as the server takes it, whatever the answers are. The
ids that come of it are those that the server tells. -/
theorem sent_portion_by_portion {bot : Bot} {message : Bot.Message} {trace : List Sent}
    {result : Except ChatFault (List Int)} (hruns : Runs (bot.send message) trace result) :
    ((∃ fault, envelope? bot = .error fault ∧ trace = [] ∧
          result = .error (.sendFailed Bot.name fault.brief)) ∨
        ∃ envelope attempts, envelope? bot = .ok envelope ∧
          Course envelope message (Portions.ofText messageLimit message.text) attempts trace
            result) ∧
      (∀ sent ∈ trace, IsAddressed message sent.question) ∧
      (∀ text, ({ message with text := text }.arguments true).get? "parse_mode" =
          some (.string "Markdown") ∧
        ({ message with text := text }.arguments true).get? "text" =
          some (.string (String.ofList text))) ∧
      ∀ answers : Nat → Outcome, ∃ trace result, Runs (bot.send message) trace result ∧
        trace.map Turn.answer = (List.range trace.length).map answers := by
  refine ⟨course_of_send hruns, isAddressed_of_send hruns, ?_,
    exists_runs_answered (bot.send message)⟩
  intro text
  cases message.replyTo with
  | none => exact ⟨rfl, rfl⟩
  | some id => exact ⟨rfl, rfl⟩

theorem exists_envelope : ∃ envelope, envelope? localBot = .ok envelope := by
  have hok : (envelope? localBot).toBool = true := by decide +kernel
  cases henvelope : envelope? localBot with
  | error fault =>
      rw [henvelope] at hok
      cases hok
  | ok envelope => exact ⟨envelope, rfl⟩

/-- The server takes a message, and tells its id. -/
def accepted (id : Nat) : Response :=
  ⟨200, [], [Text.Utf8.ofString
    ("\x7b\"ok\": true, \"result\": \x7b\"message_id\": " ++ toString id ++ "\x7d\x7d")], true⟩

def refusal : Response :=
  ⟨400, [], [], true⟩

def longMessage : Bot.Message :=
  ⟨"c", List.replicate 5000 'é', some 9⟩

/-- Answers for three portions. The first is taken as plain text only. The id of the second does not
fit 64 bits with sign. -/
def threeTaken (start middle last : List Char) : List Attempt :=
  [⟨start, some refusal, some (some (accepted 7))⟩, ⟨middle, some (accepted (2 ^ 63)), none⟩,
    ⟨last, some (accepted 8), none⟩]

theorem isRetried_of_mem_threeTaken (start middle last : List Char) :
    ∀ attempt ∈ threeTaken start middle last, attempt.IsRetried := by
  simp only [threeTaken, List.forall_mem_cons]
  exact ⟨Attempt.isRetried_refused start rfl _, Attempt.isRetried_taken middle rfl,
    Attempt.isRetried_taken last rfl, List.forall_mem_nil _⟩

theorem ids_threeTaken (start middle last : List Char) :
    (threeTaken start middle last).flatMap (fun attempt => attempt.id?.toList) = [7, 8] := by
  have hids : Bot.sentId? (accepted 7) = some 7 ∧ Bot.sentId? (accepted (2 ^ 63)) = none ∧
      Bot.sentId? (accepted 8) = some 8 := by decide +kernel
  simp only [threeTaken, List.flatMap_cons, Attempt.id?, Attempt.outcome, Option.getD_some,
    Option.getD_none, Option.bind_some, hids]
  rfl

/-- A message of three portions: all are taken, but the server tells the ids of two only; or the
connection fails at the second, and the third is not sent. -/
theorem longMessage_sent :
    (∃ trace envelope attempts, Runs (localBot.send longMessage) trace (.ok [7, 8]) ∧
        trace.map Turn.answer =
          [some refusal, some (accepted 7), some (accepted (2 ^ 63)), some (accepted 8)] ∧
        Course envelope longMessage (Portions.ofText messageLimit longMessage.text) attempts trace
          (.ok [7, 8]) ∧
        Collected attempts [7, 8]) ∧
      ∃ trace fault envelope attempts, Runs (localBot.send longMessage) trace (.error fault) ∧
        trace.map Turn.answer = [some refusal, some (accepted 7), none] ∧
        Course envelope longMessage (Portions.ofText messageLimit longMessage.text) attempts trace
          (.error fault) := by
  obtain ⟨envelope, henvelope⟩ := exists_envelope
  have hthree : (Portions.ofText messageLimit longMessage.text).length = 3 := by decide +kernel
  obtain ⟨start, middle, last, hportions⟩ := List.length_eq_three.mp hthree
  have hretried := isRetried_of_mem_threeTaken start middle last
  have hcourse {trace : List Sent} {result : Except ChatFault (List Int)}
      (hruns : Runs (localBot.send longMessage) trace result) :
      ∃ envelope attempts, Course envelope longMessage
        (Portions.ofText messageLimit longMessage.text) attempts trace result := by
    obtain ⟨⟨_, hfault, -⟩ | ⟨envelope, attempts, -, hcourse⟩, -⟩ := sent_portion_by_portion hruns
    · cases henvelope.symm.trans hfault
    · exact ⟨envelope, attempts, hcourse⟩
  constructor
  · have htaken : ∀ attempt ∈ threeTaken start middle last, attempt.isTaken = true := by
      simp only [threeTaken, List.forall_mem_cons]
      exact ⟨rfl, rfl, rfl, List.forall_mem_nil _⟩
    have hruns : Runs (localBot.send longMessage)
        ((threeTaken start middle last).flatMap (Attempt.sent envelope longMessage))
        (.ok [7, 8]) := by
      rw [Bot.send, hportions, ← ids_threeTaken start middle last]
      exact runs_sendAll_of_taken henvelope hretried htaken
    obtain ⟨_, attempts, hsent⟩ := hcourse hruns
    exact ⟨_, _, attempts, hruns, rfl, hsent, hsent.ids [7, 8] rfl⟩
  · obtain ⟨fault, hruns⟩ := runs_send_in_part ⟨start, some refusal, some (some (accepted 7))⟩
      henvelope hportions (hretried _ List.mem_cons_self) rfl
    obtain ⟨_, attempts, hsent⟩ := hcourse hruns
    exact ⟨_, fault, _, attempts, hruns, rfl, hsent⟩

end BuildHerald.Proofs.Sending
