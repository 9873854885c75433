import BuildHerald.Proofs.Conversation
import BuildHerald.Telegram.Listener
import Mathlib.Algebra.Group.Int.Defs
import Mathlib.Data.List.Pairwise

/-!
Which orders the listener gives, over all its polls.

The server keeps updates in ascending order of their ids, and answers a poll with some of the first
that are wanted. The listener wants what comes after the last update that it has got.
-/

namespace BuildHerald.Proofs.Listening

open BuildHerald.Http
open BuildHerald.Json
open BuildHerald.Telegram
open BuildHerald.Proofs.Conversation

/-! ### Polls -/

/-- An update that the server keeps. The id after its own is still an integer of 64 bits. -/
structure Update where
  value : Value
  id : Int
  id_eq : intMember? value "update_id" = some id
  nonneg : 0 ≤ id
  below : id < 2 ^ 63 - 1

/-- A request of the listener, and what came of it. -/
abbrev Sent := Turn fun _ : Request => Outcome

/-- A poll: the updates that the server has then, the messages that are remembered when it is over, the
request, and the updates that come back unless it fails. -/
structure Poll where
  available : List Update
  memory : Recall
  trace : List Sent
  answer : Option (List Update)

namespace Poll

/-- What the listener gets. -/
def values? (poll : Poll) : Option (List Value) :=
  poll.answer.map fun updates => updates.map Update.value

def delivered (poll : Poll) : List Update :=
  poll.answer.getD []

end Poll

/-- The listener can poll the server this way. -/
structure Polls (bot : Bot) (listener : Listener) (poll : Poll) : Prop where
  ascending : poll.available.Pairwise fun first second => first.id < second.id
  answered : ∀ updates, poll.answer = some updates →
    updates <+: poll.available.filter fun update => listener.offset ≤ update.id
  runs : Runs (listener.poll bot) poll.trace poll.values?

/-- What a listener can have come to by polling again and again, and the orders that it has given. -/
inductive Listened (bot : Bot) : List Poll → List Order → Listener → Prop
  | fresh : Listened bot [] [] .fresh
  | next {past : List Poll} {orders : List Order} {listener : Listener} {poll : Poll} :
      Listened bot past orders listener → Polls bot listener poll →
        Listened bot (past ++ [poll]) (orders ++ (listener.hear bot poll.memory poll.values?).2)
          (listener.hear bot poll.memory poll.values?).1

/-- The updates that have come, in order. -/
def delivered (past : List Poll) : List Update :=
  past.flatMap Poll.delivered

theorem delivered_concat (past : List Poll) (poll : Poll) :
    delivered (past ++ [poll]) = delivered past ++ poll.delivered := by
  rw [delivered, List.flatMap_append, List.flatMap_singleton, delivered]

/-! ### One poll -/

section Step

variable {bot : Bot} {memory : Recall} {listener : Listener} {poll : Poll}

theorem pass_update (listener : Listener) (update : Update) :
    listener.pass update.value = { listener with offset := update.id + 1 } := by
  rw [Listener.pass, update.id_eq]

theorem orders_takeIn (bot : Bot) (memory : Recall) (listener : Listener) (values : List Value) :
    (listener.takeIn bot memory values).2 = values.filterMap (bot.order? memory) := by
  induction values generalizing listener with
  | nil => rfl
  | cons value rest ih =>
      change (bot.order? memory value).toList ++
        ((listener.pass value).takeIn bot memory rest).2 = _
      rw [ih]
      cases horder : bot.order? memory value with
      | none => rw [List.filterMap_cons_none horder]; rfl
      | some order => rw [List.filterMap_cons_some horder]; rfl

/-- The offset after updates is that after the last of them. -/
theorem offset_takeIn (bot : Bot) (memory : Recall) (listener : Listener)
    (updates : List Update) :
    (listener.takeIn bot memory (updates.map Update.value)).1.offset =
      (updates.getLast?.map fun update => update.id + 1).getD listener.offset := by
  induction updates generalizing listener with
  | nil => rfl
  | cons update rest ih =>
      change ((listener.pass update.value).takeIn bot memory (rest.map Update.value)).1.offset = _
      rw [ih, pass_update, List.getLast?_cons]
      cases rest.getLast? <;> rfl

theorem orders_hear (bot : Bot) (listener : Listener) (poll : Poll) :
    (listener.hear bot poll.memory poll.values?).2 =
      poll.delivered.filterMap fun update => bot.order? poll.memory update.value := by
  unfold Poll.values? Poll.delivered
  cases poll.answer with
  | none => rfl
  | some updates =>
      change (listener.takeIn bot poll.memory (updates.map Update.value)).2 = _
      rw [orders_takeIn, List.filterMap_map]
      rfl

theorem offset_hear (bot : Bot) (listener : Listener) (poll : Poll) :
    (listener.hear bot poll.memory poll.values?).1.offset =
      (poll.delivered.getLast?.map fun update => update.id + 1).getD listener.offset := by
  unfold Poll.values? Poll.delivered
  cases poll.answer with
  | none => rfl
  | some updates => exact offset_takeIn bot poll.memory listener updates

theorem Polls.ascending_delivered (hpolls : Polls bot listener poll) :
    poll.delivered.Pairwise fun first second => first.id < second.id := by
  unfold Poll.delivered
  cases hanswer : poll.answer with
  | none => exact .nil
  | some updates =>
      exact hpolls.ascending.sublist
        ((hpolls.answered updates hanswer).sublist.trans List.filter_sublist)

theorem Polls.offset_le (hpolls : Polls bot listener poll) :
    ∀ update ∈ poll.delivered, listener.offset ≤ update.id := by
  intro update hmem
  unfold Poll.delivered at hmem
  cases hanswer : poll.answer with
  | none =>
      rw [hanswer] at hmem
      exact absurd hmem List.not_mem_nil
  | some updates =>
      rw [hanswer] at hmem
      have hwanted := (hpolls.answered updates hanswer).subset hmem
      simpa using (List.mem_filter.mp hwanted).2

theorem body_of_request {draft : Draft} {request : Request}
    (hrequest : draft.request = .ok request) : request.body = draft.body := by
  unfold Draft.request at hrequest
  split at hrequest
  · cases hrequest
  · split at hrequest
    · cases hrequest
    · extract_lets url at hrequest
      split at hrequest
      · cases hrequest
      · split at hrequest
        · cases hrequest
        · cases hrequest
          rfl

theorem request_of_send {draft : Draft} {trace : List Sent}
    {result : Except Http.Fault Response} (hruns : Runs draft.send trace result) :
    ∀ sent ∈ trace, draft.request = .ok sent.question := by
  unfold Draft.send at hruns
  cases hrequest : draft.request with
  | error fault =>
      simp only [hrequest, runs_pure_iff] at hruns
      rw [hruns.1]
      exact fun _ hmem => absurd hmem List.not_mem_nil
  | ok request =>
      simp only [hrequest, runs_bind_iff] at hruns
      obtain ⟨early, outcome, late, rfl, hput, hlate⟩ := hruns
      rw [Dialogue.put, runs_single_iff] at hput
      have hnone : late = [] := by
        cases outcome with
        | none => exact (runs_pure_iff.mp hlate).1
        | some response => exact (runs_pure_iff.mp hlate).1
      rw [hput, hnone]
      intro sent hmem
      obtain rfl := List.mem_singleton.mp hmem
      rfl

/-- The request of a poll carries its arguments. -/
theorem body_of_poll {trace : List Sent} {heard : Option (List Value)}
    (hruns : Runs (listener.poll bot) trace heard) :
    ∀ sent ∈ trace, sent.question.body = some listener.arguments := by
  unfold Listener.poll at hruns
  rw [runs_bind_iff] at hruns
  obtain ⟨early, result, late, rfl, hpost, hlate⟩ := hruns
  have hnone : late = [] := by
    cases result with
    | error fault => exact (runs_pure_iff.mp hlate).1
    | ok response => exact (runs_pure_iff.mp hlate).1
  rw [hnone, List.append_nil]
  intro sent hmem
  exact body_of_request (request_of_send hpost sent hmem)

theorem offset_arguments (hnonneg : 0 ≤ listener.offset) (hbelow : listener.offset < 2 ^ 63) :
    intMember? listener.arguments "offset" = some listener.offset := by
  have hrange : -Int.pow 2 63 ≤ listener.offset ∧ listener.offset < Int.pow 2 63 := by
    have hpow : Int.pow 2 63 = 2 ^ 63 := rfl
    omega
  change (if -Int.pow 2 63 ≤ listener.offset ∧ listener.offset < Int.pow 2 63 then
    some listener.offset else none) = some listener.offset
  rw [if_pos hrange]

end Step

/-! ### Whole runs -/

section Run

variable {bot : Bot} {past : List Poll} {orders : List Order} {listener : Listener}

/-- What is wanted after these updates. -/
def offsetAfter (updates : List Update) : Int :=
  (updates.getLast?.map fun update => update.id + 1).getD 0

theorem lt_offsetAfter {updates : List Update}
    (hascending : updates.Pairwise fun first second => first.id < second.id) :
    ∀ update ∈ updates, update.id < offsetAfter updates := by
  intro update hmem
  cases hlast : updates.getLast? with
  | none =>
      rw [List.getLast?_eq_none_iff.mp hlast] at hmem
      exact absurd hmem List.not_mem_nil
  | some last =>
      obtain ⟨earlier, rfl⟩ := List.getLast?_eq_some_iff.mp hlast
      rw [offsetAfter, hlast]
      change update.id < last.id + 1
      rw [List.mem_append, List.mem_singleton] at hmem
      obtain hearlier | rfl := hmem
      · have hlt := (List.pairwise_append.mp hascending).2.2 update hearlier last
          List.mem_cons_self
        omega
      · omega

theorem offsetAfter_mem (updates : List Update) :
    0 ≤ offsetAfter updates ∧ offsetAfter updates < 2 ^ 63 := by
  unfold offsetAfter
  cases updates.getLast? with
  | none => exact ⟨Int.le_refl _, by decide⟩
  | some last =>
      have hnonneg := last.nonneg
      have hbelow := last.below
      change 0 ≤ last.id + 1 ∧ last.id + 1 < 2 ^ 63
      omega

theorem offsetAfter_append (earlier updates : List Update) :
    offsetAfter (earlier ++ updates) =
      (updates.getLast?.map fun update => update.id + 1).getD (offsetAfter earlier) := by
  unfold offsetAfter
  rw [List.getLast?_append]
  cases updates.getLast? with
  | none => rfl
  | some last => rfl

theorem offset_of_listened (hlistened : Listened bot past orders listener) :
    listener.offset = offsetAfter (delivered past) := by
  induction hlistened with
  | fresh => rfl
  | @next past orders listener poll _ _ ih =>
      rw [offset_hear, delivered_concat, offsetAfter_append, ih]

theorem ascending_of_listened (hlistened : Listened bot past orders listener) :
    (delivered past).Pairwise fun first second => first.id < second.id := by
  induction hlistened with
  | fresh => exact .nil
  | @next past orders listener poll hlistened hpolls ih =>
      rw [delivered_concat, List.pairwise_append]
      refine ⟨ih, hpolls.ascending_delivered, ?_⟩
      intro first hfirst second hsecond
      have hlt := lt_offsetAfter ih first hfirst
      have hle := hpolls.offset_le second hsecond
      rw [offset_of_listened hlistened] at hle
      omega

theorem orders_of_listened (hlistened : Listened bot past orders listener) :
    orders = past.flatMap fun poll =>
      poll.delivered.filterMap fun update => bot.order? poll.memory update.value := by
  induction hlistened with
  | fresh => rfl
  | @next past orders listener poll _ _ ih =>
      rw [orders_hear, List.flatMap_append, List.flatMap_singleton, ← ih]

theorem exists_polls {earlier later : List Poll} {poll : Poll}
    (hlistened : Listened bot (earlier ++ poll :: later) orders listener) :
    ∃ given before, Listened bot earlier given before ∧ Polls bot before poll := by
  generalize hall : earlier ++ poll :: later = all at hlistened
  induction hlistened generalizing later with
  | fresh => simp at hall
  | @next past orders listener last hbefore hpolls ih =>
      obtain rfl | ⟨rest, final, rfl⟩ := later.eq_nil_or_concat
      · obtain ⟨rfl, hlast⟩ := List.append_inj' hall rfl
        obtain rfl := List.singleton_inj.mp hlast
        exact ⟨orders, listener, hbefore, hpolls⟩
      · rw [List.concat_eq_append, ← List.cons_append, ← List.append_assoc] at hall
        exact ih (List.append_inj' hall rfl).1

end Run

/-- The orders of a run are those of the updates that have come, and every update comes once. -/
structure OnceInOrder (bot : Bot) (past : List Poll) (orders : List Order) (listener : Listener) :
    Prop where
  orders_eq : orders = past.flatMap fun poll =>
    poll.delivered.filterMap fun update => bot.order? poll.memory update.value
  ascending : (delivered past).Pairwise fun first second => first.id < second.id
  offset_eq : listener.offset = offsetAfter (delivered past)
  asked : ∀ earlier poll later, past = earlier ++ poll :: later → ∀ sent ∈ poll.trace,
    ∃ body, sent.question.body = some body ∧
      intMember? body "offset" = some (offsetAfter (delivered earlier)) ∧
      ∀ update ∈ delivered earlier, update.id < offsetAfter (delivered earlier)

theorem order?_eq_some_iff {bot : Bot} {memory : Recall} {value : Value} {order : Order} :
    bot.order? memory value = some order ↔
      ∃ incoming command, Incoming.ofUpdate? value = some incoming ∧
        bot.allows incoming.names = true ∧ bot.command? memory incoming = some command ∧
          order = ⟨command, incoming.chat, incoming.message⟩ := by
  constructor
  · intro horder
    obtain ⟨incoming, hincoming, horder⟩ := Option.bind_eq_some_iff.mp horder
    split at horder
    · next hallows =>
        obtain ⟨command, hcommand, horder⟩ := Option.bind_eq_some_iff.mp horder
        exact ⟨incoming, command, hincoming, hallows, hcommand, (Option.some.inj horder).symm⟩
    · cases horder
  · rintro ⟨incoming, command, hincoming, hallows, hcommand, rfl⟩
    simp [Bot.order?, hincoming, hallows, hcommand]

/-- Every order is given once, and in the order of the updates. -/
theorem orders_once_in_order {bot : Bot} {past : List Poll} {orders : List Order}
    {listener : Listener} (hlistened : Listened bot past orders listener) :
    OnceInOrder bot past orders listener ∧
      (∀ memory value order, bot.order? memory value = some order ↔
        ∃ incoming command, Incoming.ofUpdate? value = some incoming ∧
          bot.allows incoming.names = true ∧ bot.command? memory incoming = some command ∧
            order = ⟨command, incoming.chat, incoming.message⟩) ∧
      (∀ (before : Listener) memory (updates : List Update) (update : Update),
        (before.takeIn bot memory ((updates ++ [update]).map Update.value)).1.offset =
          update.id + 1) ∧
      ∀ (before : Listener) memory, before.hear bot memory none = (before, []) := by
  refine ⟨?_, fun _ _ _ => order?_eq_some_iff, ?_, fun _ _ => rfl⟩
  · refine ⟨orders_of_listened hlistened, ascending_of_listened hlistened,
      offset_of_listened hlistened, ?_⟩
    rintro earlier poll later rfl sent hsent
    obtain ⟨given, before, hbefore, hpolls⟩ := exists_polls hlistened
    have hoffset := offset_of_listened hbefore
    have hrange := offsetAfter_mem (delivered earlier)
    refine ⟨before.arguments, body_of_poll hpolls.runs sent hsent, ?_,
      lt_offsetAfter (ascending_of_listened hbefore)⟩
    rw [← hoffset] at hrange ⊢
    exact offset_arguments hrange.1 hrange.2
  · intro before memory updates update
    rw [offset_takeIn, List.getLast?_concat]
    rfl

def localBot : Bot :=
  ⟨⟨"t", "c", ["ann"]⟩, "http://[::1]", "main"⟩

/-- An update without a text, and one with a command. -/
def twoUpdates : Response where
  status := 200
  headers := []
  body := [Text.Utf8.ofString
    ("\x7b\"result\": [\x7b\"update_id\": 5\x7d, \x7b\"update_id\": 7, \"message\": \x7b" ++
      "\"text\": \"/pause main/web/unit\", \"from\": \x7b\"username\": \"ann\"\x7d, " ++
      "\"chat\": \x7b\"id\": 1\x7d, \"message_id\": 2\x7d\x7d]\x7d")]
  complete := true

def pauseOrder : Order :=
  ⟨⟨"pause", [], some ⟨"main", "web", "unit"⟩⟩, 1, 2⟩

theorem exists_updates : ∃ first second : Update,
    Listener.updates? twoUpdates = some [first.value, second.value] ∧ first.id = 5 ∧
      second.id = 7 := by
  have hids : (Listener.updates? twoUpdates).map
      (fun values => values.map (intMember? · "update_id")) = some [some 5, some 7] := by
    decide +kernel
  obtain ⟨values, hvalues, hmap⟩ := Option.map_eq_some_iff.mp hids
  obtain ⟨first, rest, rfl, hfirst, hrest⟩ := List.map_eq_cons_iff.mp hmap
  obtain ⟨second, none, rfl, hsecond, hnone⟩ := List.map_eq_cons_iff.mp hrest
  obtain rfl := List.map_eq_nil_iff.mp hnone
  exact ⟨⟨first, 5, hfirst, by decide, by decide⟩, ⟨second, 7, hsecond, by decide, by decide⟩,
    hvalues, rfl, rfl⟩

def draftOf (bot : Bot) (listener : Listener) : Draft where
  method := .post
  address := bot.address "getUpdates"
  body := some listener.arguments

theorem runs_poll {bot : Bot} {listener : Listener} {request : Request} (outcome : Outcome)
    (hrequest : (draftOf bot listener).request = .ok request) :
    Runs (listener.poll bot) [⟨request, outcome⟩] (outcome.bind Listener.updates?) := by
  unfold draftOf at hrequest
  unfold Listener.poll Bot.post Draft.send
  simp only [hrequest]
  refine runs_ask_iff.mpr ⟨outcome, [], rfl, ?_⟩
  cases outcome with
  | none => exact runs_done_iff.mpr ⟨rfl, rfl⟩
  | some response => exact runs_done_iff.mpr ⟨rfl, rfl⟩

theorem exists_request : ∃ request, (draftOf localBot .fresh).request = .ok request := by
  have hok : (draftOf localBot .fresh).request.toBool = true := by decide +kernel
  cases hrequest : (draftOf localBot .fresh).request with
  | error fault =>
      rw [hrequest] at hok
      cases hok
  | ok request => exact ⟨request, rfl⟩

/-- A poll that fails, and one that brings two updates. -/
theorem pause_taken_once :
    ∃ past listener, Listened localBot past [pauseOrder] listener ∧
      OnceInOrder localBot past [pauseOrder] listener ∧ listener.offset = 8 := by
  obtain ⟨first, second, hvalues, hfirst, hsecond⟩ := exists_updates
  obtain ⟨request, hrequest⟩ := exists_request
  have hascending : [first, second].Pairwise fun one other => one.id < other.id := by
    simp [hfirst, hsecond]
  let failed : Poll := ⟨[first, second], .empty, [⟨request, none⟩], none⟩
  let answered : Poll :=
    ⟨[first, second], .empty, [⟨request, some twoUpdates⟩], some [first, second]⟩
  have hfailed : Polls localBot .fresh failed :=
    ⟨hascending, fun _ hnone => absurd hnone (Option.some_ne_none _).symm,
      runs_poll none hrequest⟩
  have hanswered : Polls localBot .fresh answered := by
    refine ⟨hascending, ?_, ?_⟩
    · rintro _ ⟨⟩
      simp [answered, Listener.fresh, hfirst, hsecond]
    · have hruns := runs_poll (some twoUpdates) hrequest
      rwa [Option.bind_some, hvalues] at hruns
  have hlistened := Listened.next (Listened.next .fresh hfailed) hanswered
  have horders : (Listener.fresh.hear localBot .empty answered.values?).2 = [pauseOrder] := by
    have hall : (Listener.fresh.hear localBot .empty (Listener.updates? twoUpdates)).2 =
        [pauseOrder] := by
      decide +kernel
    rwa [hvalues] at hall
  change Listened localBot _ (Listener.fresh.hear localBot .empty answered.values?).2 _
    at hlistened
  rw [horders] at hlistened
  refine ⟨_, _, hlistened, (orders_once_in_order hlistened).1, ?_⟩
  rw [offset_of_listened hlistened]
  change second.id + 1 = 8
  rw [hsecond]
  rfl

end BuildHerald.Proofs.Listening
