import BuildHerald.Proofs.FeedHistory
import Mathlib.Data.Prod.Lex
import Mathlib.Logic.Relation
import Mathlib.Order.WellFounded

/-!
The feed and whoever takes its builds, with a place for one build between them.

What each does, and when, is left open. Whatever the order is, the builds taken are those that the
answers deliver, one after the other, and the queries ask from where the answers before have led.
-/

namespace BuildHerald.Proofs.FeedRelay

open BuildHerald.Feed
open BuildHerald.Proofs.FeedHistory

/-! ### What a script asks for and delivers -/

/-- The queries that answers have been given to, from an intake on. -/
def pollsFrom (pageSize : Nat) (intake : Intake) : List Reply → List Query
  | [] => []
  | reply :: rest =>
      ⟨some intake.cursor, pageSize⟩ :: pollsFrom pageSize (absorb intake reply).1 rest

/-- Where the first answer leads. -/
def bookmarkOf (pageSize : Nat) (listing : Listing) : Bookmark :=
  ⟨listing.next.getD 0, pageSize⟩

/-- The queries that answers have been given to, the first one of all included. -/
def askedFor (pageSize : Nat) : List Reply → List Query
  | [] => []
  | .error _ :: _ => [⟨none, 1⟩]
  | .ok listing :: later =>
      ⟨none, 1⟩ :: pollsFrom pageSize (.start (bookmarkOf pageSize listing)) later

/-- The builds that answers deliver; the first answer delivers none. -/
def deliveredBy (pageSize : Nat) : List Reply → List Build
  | .ok listing :: later => sentBy (bookmarkOf pageSize listing) later
  | _ => []

theorem pollsFrom_concat (pageSize : Nat) (intake : Intake) (replies : List Reply) (reply : Reply) :
    pollsFrom pageSize intake (replies ++ [reply]) =
      pollsFrom pageSize intake replies ++
        [⟨some (absorbAll intake replies).1.cursor, pageSize⟩] := by
  induction replies generalizing intake with
  | nil => rfl
  | cons first rest ih =>
      rw [List.cons_append, pollsFrom, pollsFrom, ih, absorbAll_cons, List.cons_append]

theorem prefix_deliveredBy_append (pageSize : Nat) (replies more : List Reply) :
    deliveredBy pageSize replies <+: deliveredBy pageSize (replies ++ more) := by
  cases replies with
  | nil => exact List.nil_prefix
  | cons first later =>
      cases first with
      | error fault => exact List.nil_prefix
      | ok listing =>
          change sentBy _ later <+: sentBy _ (later ++ more)
          exact sentBy_mono (List.prefix_append _ _)

theorem askedFor_concat (pageSize : Nat) (listing : Listing) (later : List Reply) (reply : Reply) :
    askedFor pageSize (.ok listing :: later ++ [reply]) =
      askedFor pageSize (.ok listing :: later) ++
        [⟨some (intakeAfter (bookmarkOf pageSize listing) later).cursor, pageSize⟩] := by
  rw [List.cons_append, askedFor, pollsFrom_concat, askedFor, List.cons_append, intakeAfter]

theorem deliveredBy_concat (pageSize : Nat) (listing : Listing) (later : List Reply)
    (reply : Reply) :
    deliveredBy pageSize (.ok listing :: later ++ [reply]) =
      deliveredBy pageSize (.ok listing :: later) ++
        (absorb (intakeAfter (bookmarkOf pageSize listing) later) reply).2 := by
  rw [List.cons_append, deliveredBy, sentBy_concat, deliveredBy]

/-! ### Steps -/

/-- The builds that are still to be handed on. -/
def offered : Watch → List Build
  | .offering _ build others => build :: others
  | _ => []

def intakeOf? : Watch → Option Intake
  | .resting intake | .asking intake | .offering intake _ _ => some intake
  | _ => none

section Offers

variable (pageSize : Nat) (intake : Intake) (builds : List Build)

@[simp] theorem intakeOf?_offer : intakeOf? (.offer intake builds) = some intake := by
  cases builds <;> rfl

@[simp] theorem offered_offer : offered (.offer intake builds) = builds := by
  cases builds <;> rfl

@[simp] theorem query?_offer : (Watch.offer intake builds).query? pageSize = none := by
  cases builds <;> rfl

end Offers

structure Relay where
  watch : Watch
  /-- The answers that the server is going to give. -/
  coming : List Reply
  /-- The build between the feed and whoever takes it. -/
  slot : Option Build
  queries : List Query
  /-- The answers that have been given. -/
  answers : List Reply
  taken : List Build

def start (script : List Reply) : Relay :=
  ⟨.starting, script, none, [⟨none, 1⟩], [], []⟩

/-- What can happen next. The feed can be stopped at any time if it can be stopped at all. -/
inductive Move (pageSize : Nat) (stoppable : Prop) : Relay → Relay → Prop
  | answer {watch : Watch} {query : Query} {reply : Reply} {coming : List Reply}
      {slot : Option Build} {queries : List Query} {answers : List Reply} {taken : List Build}
      (hquery : watch.query? pageSize = some query) :
      Move pageSize stoppable ⟨watch, reply :: coming, slot, queries, answers, taken⟩
        ⟨watch.answered pageSize reply, coming, slot, queries, answers ++ [reply], taken⟩
  | tick {intake : Intake} {coming : List Reply} {slot : Option Build} {queries : List Query}
      {answers : List Reply} {taken : List Build} :
      Move pageSize stoppable ⟨.resting intake, coming, slot, queries, answers, taken⟩
        ⟨(Watch.resting intake).ticked, coming, slot,
          queries ++ ((Watch.resting intake).ticked.query? pageSize).toList, answers, taken⟩
  | put {watch : Watch} {build : Build} {coming : List Reply} {queries : List Query}
      {answers : List Reply} {taken : List Build} (hoffer : watch.onOffer? = some build) :
      Move pageSize stoppable ⟨watch, coming, none, queries, answers, taken⟩
        ⟨watch.handedOn, coming, some build, queries, answers, taken⟩
  | take {watch : Watch} {build : Build} {coming : List Reply} {queries : List Query}
      {answers : List Reply} {taken : List Build} :
      Move pageSize stoppable ⟨watch, coming, some build, queries, answers, taken⟩
        ⟨watch, coming, none, queries, answers, taken ++ [build]⟩
  | stop {watch : Watch} {coming : List Reply} {slot : Option Build} {queries : List Query}
      {answers : List Reply} {taken : List Build} (hstoppable : stoppable) :
      Move pageSize stoppable ⟨watch, coming, slot, queries, answers, taken⟩
        ⟨.closed, coming, slot, queries, answers, taken⟩

def Reached (pageSize : Nat) (stoppable : Prop) (script : List Reply) (relay : Relay) : Prop :=
  Relation.ReflTransGen (Move pageSize stoppable) (start script) relay

/-! ### Where a feed stands that nobody stops -/

/-- The watch that answers lead to, but for what is on offer. -/
def Stands (pageSize : Nat) (watch : Watch) : List Reply → Prop
  | [] => watch = .starting
  | .error _ :: _ => watch = .closed
  | .ok listing :: later =>
      intakeOf? watch = some (intakeAfter (bookmarkOf pageSize listing) later)

theorem exists_of_intakeOf? {pageSize : Nat} {watch : Watch} {answers : List Reply}
    {intake : Intake} (hstands : Stands pageSize watch answers)
    (hintake : intakeOf? watch = some intake) :
    ∃ listing later, answers = .ok listing :: later ∧
      intake = intakeAfter (bookmarkOf pageSize listing) later := by
  cases answers with
  | nil =>
      obtain rfl : watch = .starting := hstands
      cases hintake
  | cons first later =>
      cases first with
      | error fault =>
          obtain rfl : watch = .closed := hstands
          cases hintake
      | ok listing =>
          exact ⟨listing, later, rfl, Option.some.inj (hintake.symm.trans hstands)⟩

structure Faithful (pageSize : Nat) (script : List Reply) (relay : Relay) : Prop where
  answers_eq : relay.answers ++ relay.coming = script
  stands : Stands pageSize relay.watch relay.answers
  queries_eq : relay.queries =
    askedFor pageSize relay.answers ++ (relay.watch.query? pageSize).toList
  taken_eq : relay.taken ++ relay.slot.toList ++ offered relay.watch =
    deliveredBy pageSize relay.answers

variable {pageSize : Nat} {script : List Reply} {relay after : Relay}

theorem faithful_start (pageSize : Nat) (script : List Reply) :
    Faithful pageSize script (start script) :=
  ⟨rfl, rfl, rfl, rfl⟩

theorem faithful_answer {watch : Watch} {query : Query} {reply : Reply} {coming : List Reply}
    {slot : Option Build} {queries : List Query} {answers : List Reply} {taken : List Build}
    (hquery : watch.query? pageSize = some query)
    (hfaithful : Faithful pageSize script ⟨watch, reply :: coming, slot, queries, answers, taken⟩) :
    Faithful pageSize script
      ⟨watch.answered pageSize reply, coming, slot, queries, answers ++ [reply], taken⟩ := by
  obtain ⟨hanswers, hstands, hqueries, htaken⟩ := hfaithful
  simp only at hanswers hstands hqueries htaken
  have hscript : answers ++ [reply] ++ coming = script := by rw [← hanswers, List.append_assoc]; rfl
  cases watch with
  | starting =>
      have hnone : answers = [] := by
        cases answers with
        | nil => rfl
        | cons first later =>
            cases first with
            | error fault => cases hstands
            | ok listing => cases hstands
      subst hnone
      cases reply with
      | error fault => exact ⟨hscript, rfl, hqueries, htaken⟩
      | ok listing => exact ⟨hscript, rfl, hqueries, htaken⟩
  | asking intake =>
      obtain ⟨listing, later, rfl, rfl⟩ := exists_of_intakeOf? hstands rfl
      rw [answered_asking]
      refine ⟨hscript, ?_, ?_, ?_⟩
      · rw [List.cons_append, Stands, intakeOf?_offer, intakeAfter_concat]
      · rw [askedFor_concat, query?_offer]
        exact hqueries.trans (List.append_nil _).symm
      · rw [deliveredBy_concat, offered_offer, ← htaken]
        simp [offered]
  | resting intake | offering intake build others | closed => cases hquery

theorem faithful_put {watch : Watch} {build : Build} {coming : List Reply} {queries : List Query}
    {answers : List Reply} {taken : List Build} (hoffer : watch.onOffer? = some build)
    (hfaithful : Faithful pageSize script ⟨watch, coming, none, queries, answers, taken⟩) :
    Faithful pageSize script ⟨watch.handedOn, coming, some build, queries, answers, taken⟩ := by
  obtain ⟨hanswers, hstands, hqueries, htaken⟩ := hfaithful
  cases watch with
  | offering intake first others =>
      obtain rfl : first = build := Option.some.inj hoffer
      obtain ⟨listing, later, rfl, rfl⟩ := exists_of_intakeOf? hstands rfl
      refine ⟨hanswers, intakeOf?_offer _ _, ?_, ?_⟩
      · rw [Watch.handedOn, query?_offer]
        exact hqueries
      · rw [Watch.handedOn, offered_offer, ← htaken]
        simp [offered]
  | starting | resting intake | asking intake | closed => cases hoffer

theorem faithful_move (hmove : Move pageSize False relay after)
    (hfaithful : Faithful pageSize script relay) : Faithful pageSize script after := by
  cases hmove with
  | answer hquery => exact faithful_answer hquery hfaithful
  | tick =>
      obtain ⟨hanswers, hstands, hqueries, htaken⟩ := hfaithful
      refine ⟨hanswers, ?_, ?_, htaken⟩
      · obtain ⟨listing, later, rfl, rfl⟩ := exists_of_intakeOf? hstands rfl
        exact rfl
      · have hall := hqueries.trans (List.append_nil _)
        exact congrArg (· ++ _) hall
  | put hoffer => exact faithful_put hoffer hfaithful
  | take =>
      obtain ⟨hanswers, hstands, hqueries, htaken⟩ := hfaithful
      refine ⟨hanswers, hstands, hqueries, ?_⟩
      rw [← htaken]
      simp
  | stop hstoppable => exact hstoppable.elim

theorem faithful_of_reached (hreached : Reached pageSize False script relay) :
    Faithful pageSize script relay := by
  induction hreached with
  | refl => exact faithful_start pageSize script
  | tail _ hmove ih => exact faithful_move hmove ih

theorem failed_of_faithful {fault : ServerFault} {rest : List Reply}
    (hfaithful : Faithful pageSize (.error fault :: rest) relay) :
    relay.queries = [⟨none, 1⟩] ∧ relay.taken = [] ∧
      (relay.answers ≠ [] → relay.watch = .closed) := by
  obtain ⟨watch, coming, slot, queries, answers, taken⟩ := relay
  obtain ⟨hanswers, hstands, hqueries, htaken⟩ := hfaithful
  cases answers with
  | nil =>
      obtain rfl : watch = .starting := hstands
      refine ⟨hqueries, ?_, fun hsome => absurd rfl hsome⟩
      exact (List.append_eq_nil_iff.mp (List.append_eq_nil_iff.mp htaken).1).1
  | cons first later =>
      obtain ⟨rfl, -⟩ := List.cons.inj hanswers
      obtain rfl : watch = .closed := hstands
      refine ⟨hqueries, ?_, fun _ => rfl⟩
      exact (List.append_eq_nil_iff.mp (List.append_eq_nil_iff.mp htaken).1).1

/-! ### How it ends -/

/-- What is left to be done before another answer is needed. -/
def work (relay : Relay) : Nat :=
  3 * (offered relay.watch).length + relay.slot.toList.length +
    match relay.watch with
    | .resting _ => 1
    | _ => 0

theorem lex_of_move (hmove : Move pageSize False relay after) :
    Prod.Lex (· < ·) (· < ·) (after.coming.length, work after) (relay.coming.length, work relay) := by
  cases hmove with
  | answer hquery => exact .left _ _ (Nat.lt_succ_self _)
  | tick => exact .right _ (by simp [work, offered, Watch.ticked])
  | @put watch build coming queries answers taken hoffer =>
      refine .right _ ?_
      cases watch with
      | offering intake first others =>
          -- The last build leaves a feed that rests, so that a build has to weigh three.
          cases others with
          | nil => simp [work, offered, Watch.handedOn, Watch.offer]
          | cons next others =>
              simp only [work, offered, Watch.handedOn, Watch.offer, List.length_cons,
                Option.toList_some, Option.toList_none, List.length_nil]
              omega
      | starting | resting intake | asking intake | closed => cases hoffer
  | take => exact .right _ (by simp [work])
  | stop hstoppable => exact hstoppable.elim

/-- The feed does not go on for ever without answers. -/
theorem acc_move (relay : Relay) : Acc (fun after before => Move pageSize False before after) relay := by
  have hwf : WellFounded (fun after before => Move pageSize False before after) :=
    Subrelation.wf lex_of_move
      (InvImage.wf (fun relay : Relay => (relay.coming.length, work relay))
        (Prod.lex ⟨_, wellFounded_lt⟩ ⟨_, wellFounded_lt⟩).wf)
  exact hwf.apply relay

/-- Nothing can happen any more. -/
def Stuck (pageSize : Nat) (relay : Relay) : Prop :=
  ∀ after, ¬ Move pageSize False relay after

theorem idle_of_stuck (hstuck : Stuck pageSize relay) :
    relay.slot = none ∧ offered relay.watch = [] ∧
      (relay.watch = .closed ∨ relay.coming = []) := by
  obtain ⟨watch, coming, slot, queries, answers, taken⟩ := relay
  cases slot with
  | some build => exact (hstuck _ .take).elim
  | none =>
      refine ⟨rfl, ?_⟩
      cases watch with
      | starting =>
          cases coming with
          | nil => exact ⟨rfl, .inr rfl⟩
          | cons reply coming => exact (hstuck _ (.answer rfl)).elim
      | asking intake =>
          cases coming with
          | nil => exact ⟨rfl, .inr rfl⟩
          | cons reply coming => exact (hstuck _ (.answer rfl)).elim
      | resting intake => exact (hstuck _ .tick).elim
      | offering intake build others => exact (hstuck _ (.put rfl)).elim
      | closed => exact ⟨rfl, .inl rfl⟩

theorem deliveredBy_of_closed {answers : List Reply} (hstands : Stands pageSize .closed answers)
    (more : List Reply) :
    deliveredBy pageSize (answers ++ more) = [] ∧ deliveredBy pageSize answers = [] := by
  cases answers with
  | nil => cases hstands
  | cons first later =>
      cases first with
      | error fault => exact ⟨rfl, rfl⟩
      | ok listing => cases hstands

theorem taken_of_stuck (hfaithful : Faithful pageSize script relay)
    (hstuck : Stuck pageSize relay) : relay.taken = deliveredBy pageSize script := by
  obtain ⟨hslot, hoffered, hend⟩ := idle_of_stuck hstuck
  have htaken := hfaithful.taken_eq
  rw [hslot, hoffered, Option.toList_none, List.append_nil, List.append_nil] at htaken
  rw [htaken, ← hfaithful.answers_eq]
  obtain hclosed | hcoming := hend
  · obtain ⟨hall, hnone⟩ := deliveredBy_of_closed (hclosed ▸ hfaithful.stands) relay.coming
    rw [hall, hnone]
  · rw [hcoming, List.append_nil]

theorem exists_stuck (relay : Relay) :
    ∃ last, Relation.ReflTransGen (Move pageSize False) relay last ∧ Stuck pageSize last := by
  have hacc : Acc (fun after before => Move pageSize False before after) relay := acc_move relay
  induction hacc with
  | intro relay _ ih =>
      by_cases hmove : ∃ after, Move pageSize False relay after
      · obtain ⟨after, hmove⟩ := hmove
        obtain ⟨last, hlast, hstuck⟩ := ih after hmove
        exact ⟨last, .head hmove hlast, hstuck⟩
      · exact ⟨relay, .refl, fun after hafter => hmove ⟨after, hafter⟩⟩

/-! ### A feed that is stopped -/

/-- A feed that has been stopped: what it had delivered can still be taken. -/
structure Stopped (pageSize : Nat) (script : List Reply) (relay : Relay) : Prop where
  watch_eq : relay.watch = .closed
  answers_eq : relay.answers ++ relay.coming = script
  taken_before : relay.taken ++ relay.slot.toList <+: deliveredBy pageSize relay.answers

theorem stopped_of_faithful {watch : Watch} {coming : List Reply} {slot : Option Build}
    {queries : List Query} {answers : List Reply} {taken : List Build}
    (hfaithful : Faithful pageSize script ⟨watch, coming, slot, queries, answers, taken⟩) :
    Stopped pageSize script ⟨.closed, coming, slot, queries, answers, taken⟩ :=
  ⟨rfl, hfaithful.answers_eq, ⟨_, hfaithful.taken_eq⟩⟩

theorem stopped_move {stoppable : Prop} (hmove : Move pageSize stoppable relay after)
    (hstopped : Stopped pageSize script relay) : Stopped pageSize script after := by
  obtain ⟨hwatch, hanswers, htaken⟩ := hstopped
  cases hmove with
  | answer hquery =>
      obtain rfl := hwatch
      cases hquery
  | tick => cases hwatch
  | put hoffer =>
      obtain rfl := hwatch
      cases hoffer
  | take => exact ⟨hwatch, hanswers, by simpa using htaken⟩
  | stop => exact ⟨rfl, hanswers, htaken⟩

theorem faithful_or_stopped {stoppable : Prop} (hreached : Reached pageSize stoppable script relay) :
    Faithful pageSize script relay ∨ Stopped pageSize script relay := by
  induction hreached with
  | refl => exact .inl (faithful_start pageSize script)
  | tail _ hmove ih =>
      obtain hfaithful | hstopped := ih
      · cases hmove with
        | stop => exact .inr (stopped_of_faithful hfaithful)
        | answer hquery => exact .inl (faithful_move (.answer hquery) hfaithful)
        | tick => exact .inl (faithful_move .tick hfaithful)
        | put hoffer => exact .inl (faithful_move (.put hoffer) hfaithful)
        | take => exact .inl (faithful_move .take hfaithful)
      · exact .inr (stopped_move hmove hstopped)

theorem prefix_of_reached {stoppable : Prop} (hreached : Reached pageSize stoppable script relay) :
    relay.taken ++ relay.slot.toList <+: deliveredBy pageSize script := by
  obtain hfaithful | hstopped := faithful_or_stopped hreached
  · have htaken : relay.taken ++ relay.slot.toList <+: deliveredBy pageSize relay.answers :=
      ⟨_, hfaithful.taken_eq⟩
    rw [← hfaithful.answers_eq]
    exact htaken.trans (prefix_deliveredBy_append pageSize _ _)
  · rw [← hstopped.answers_eq]
    exact hstopped.taken_before.trans (prefix_deliveredBy_append pageSize _ _)

/-! ### Answers that say nothing -/

/-- The second list is the first with answers put in that fail, lead nowhere or list no builds. -/
inductive Padded : List Reply → List Reply → Prop
  | nil : Padded [] []
  | keep {short long : List Reply} (reply : Reply) (hrest : Padded short long) :
      Padded (reply :: short) (reply :: long)
  | insert {short long : List Reply} {reply : Reply}
      (hidle : ¬ ∃ listing next, Conveys reply listing next) (hrest : Padded short long) :
      Padded short (reply :: long)

variable {short long : List Reply}

theorem absorbAll_of_padded (hpadded : Padded short long) (intake : Intake) :
    absorbAll intake long = absorbAll intake short := by
  induction hpadded generalizing intake with
  | nil => rfl
  | keep reply hrest ih => rw [absorbAll_cons, ih, absorbAll_cons]
  | insert hidle hrest ih => rw [absorbAll_cons, absorb_of_not_conveys hidle, ih, List.nil_append]

theorem deliveredBy_of_padded (hpadded : Padded short long) (first : Reply) :
    deliveredBy pageSize (first :: long) = deliveredBy pageSize (first :: short) := by
  cases first with
  | error fault => rfl
  | ok listing =>
      change sentBy _ long = sentBy _ short
      rw [sentBy, absorbAll_of_padded hpadded, sentBy]

/-- The query that is put after the answers up to now. -/
theorem query_of_faithful {query : Query} {listing : Listing} {later : List Reply}
    (hfaithful : Faithful pageSize script relay) (hanswers : relay.answers = .ok listing :: later)
    (hquery : relay.watch.query? pageSize = some query) :
    query = ⟨some (cursorAfter (bookmarkOf pageSize listing) later), pageSize⟩ := by
  have hstands := hfaithful.stands
  rw [hanswers] at hstands
  change intakeOf? relay.watch = _ at hstands
  cases hwatch : relay.watch with
  | asking intake =>
      rw [hwatch] at hstands hquery
      obtain rfl : intake = _ := Option.some.inj hstands
      exact (Option.some.inj hquery).symm
  | starting =>
      rw [hwatch] at hstands
      cases hstands
  | resting intake | offering intake build others | closed =>
      rw [hwatch] at hquery
      cases hquery

theorem query_of_padded {script' : List Reply} {relay' : Relay} {first : Reply}
    {query query' : Query} (hfaithful : Faithful pageSize script relay)
    (hfaithful' : Faithful pageSize script' relay') (hpadded : Padded short long)
    (hanswers : relay.answers = first :: short) (hanswers' : relay'.answers = first :: long)
    (hquery : relay.watch.query? pageSize = some query)
    (hquery' : relay'.watch.query? pageSize = some query') : query' = query := by
  cases first with
  | error fault =>
      have hclosed := hfaithful.stands
      rw [hanswers] at hclosed
      obtain hclosed : relay.watch = .closed := hclosed
      rw [hclosed] at hquery
      cases hquery
  | ok listing =>
      rw [query_of_faithful hfaithful hanswers hquery,
        query_of_faithful hfaithful' hanswers' hquery', cursorAfter, intakeAfter,
        absorbAll_of_padded hpadded, cursorAfter, intakeAfter]

end BuildHerald.Proofs.FeedRelay
