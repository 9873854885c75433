import BuildHerald.Proofs.FeedRelay
import BuildHerald.Proofs.Timelines
import BuildHerald.Rehearsal.FeedRun

/-!
Feeds that are played on a timeline: answers come after a while or never, whoever takes the builds
pauses before each, and at some time all may be cancelled.
-/

namespace BuildHerald.Proofs.FeedRuns

open BuildHerald.Feed
open BuildHerald.Rehearsal
open BuildHerald.Proofs.FeedHistory
open BuildHerald.Proofs.FeedRelay
open BuildHerald.Proofs.Timelines

/-! ### The answers of a script -/

def reply? : Timed Reply → Option Reply
  | .after _ reply => some reply
  | .never => none

/-- The answers of a script, whatever they are given to. -/
def repliesOf (script : Script) : List Reply :=
  script.listings.filterMap reply?

/-- The answer that is given after the last one. -/
def nothingNew : Reply :=
  .ok ⟨[], none⟩

/-- The answer that is on its way. -/
def underWay (supply : Supply) : List Reply :=
  match supply.watch with
  | .starting | .asking _ => (supply.pending.map Prod.snd).toList
  | _ => []

variable {pageSize : Nat} {stoppable : Prop} {given : List Reply} {supply later : Supply}
  {script rest : Script} {taken : List Build} {now time : Nat}

theorem ask_of_query? (now : Nat) (script : Script) {query : Query}
    (hquery : supply.watch.query? supply.pageSize = some query) :
    ∃ pending, pending.map Prod.snd = reply? script.list.1 ∧
      supply.ask now script =
        ({ supply with queries := (now, query) :: supply.queries, pending := pending },
          script.list.2) := by
  unfold Supply.ask
  rw [hquery]
  cases hanswer : script.list.1 with
  | never => exact ⟨none, rfl, by simp only [hanswer]⟩
  | after millis reply => exact ⟨some (now + millis, reply), rfl, by simp only [hanswer]⟩

theorem underWay_of_query? {query : Query}
    (hquery : supply.watch.query? supply.pageSize = some query) :
    underWay supply = (supply.pending.map Prod.snd).toList := by
  unfold underWay
  cases hwatch : supply.watch with
  | starting | asking intake => rfl
  | resting intake | offering intake build others | closed =>
      rw [hwatch] at hquery
      cases hquery

theorem repliesOf_list (hlistings : script.listings ≠ []) :
    (reply? script.list.1).toList ++ repliesOf script.list.2 = repliesOf script := by
  obtain ⟨listings, starts, pauses, sources, deliveries⟩ := script
  cases listings with
  | nil => exact absurd rfl hlistings
  | cons answer listings =>
      cases answer with
      | never => rfl
      | after millis reply => rfl

theorem list_of_nil (hlistings : script.listings = []) :
    reply? script.list.1 = some nothingNew ∧ script.list.2 = script := by
  unfold Script.list
  rw [hlistings]
  exact ⟨rfl, rfl⟩

/-! ### Feeds on a timeline -/

def shown (supply : Supply) (taken : List Build) (coming answers : List Reply) : Relay :=
  ⟨supply.watch, coming, supply.slot, supply.queries.reverse.map Prod.snd, answers, taken⟩

/-- A feed that has done what it may do with the answers of a script. -/
structure Follows (pageSize : Nat) (stoppable : Prop) (given : List Reply) (supply : Supply)
    (script : Script) (taken : List Build) : Prop where
  pageSize_eq : supply.pageSize = pageSize
  wanted_eq : supply.wanted = true
  reached : ∃ answers left count,
    (∀ coming, Reached pageSize stoppable (answers ++ coming) (shown supply taken coming answers)) ∧
      answers ++ left = given ++ List.replicate count nothingNew ∧
      (supply.isClosed = false →
        left = underWay supply ++ repliesOf script ∧ (script.listings ≠ [] → count = 0))

/-- A query is put, and its answer is the next of the script. -/
theorem follows_ask (answers : List Reply) (count : Nat) (query : Query)
    (hpageSize : supply.pageSize = pageSize) (hwanted : supply.wanted = true)
    (hquery : supply.watch.query? supply.pageSize = some query)
    (hreached : ∀ coming, Reached pageSize stoppable (answers ++ coming)
      ⟨supply.watch, coming, supply.slot, (supply.queries.reverse.map Prod.snd) ++ [query], answers,
        taken⟩)
    (hsplit : answers ++ repliesOf script = given ++ List.replicate count nothingNew)
    (hcount : script.listings ≠ [] → count = 0) :
    Follows pageSize stoppable given (supply.ask now script).1 (supply.ask now script).2 taken := by
  obtain ⟨pending, hpending, hask⟩ := ask_of_query? now script hquery
  have hunderWay : underWay { supply with
      queries := (now, query) :: supply.queries, pending := pending } =
        (reply? script.list.1).toList := by
    rw [← hpending]
    exact underWay_of_query? hquery
  rw [hask]
  have hshown (coming : List Reply) : Reached pageSize stoppable (answers ++ coming)
      (shown { supply with queries := (now, query) :: supply.queries, pending := pending } taken
        coming answers) := by
    have hbefore := hreached coming
    unfold shown
    rwa [List.reverse_cons, List.map_append, List.map_singleton]
  by_cases hlistings : script.listings = []
  · obtain ⟨hanswer, hlist⟩ := list_of_nil hlistings
    refine ⟨hpageSize, hwanted, answers, nothingNew :: repliesOf script, count + 1, hshown, ?_, ?_⟩
    · have hnone : repliesOf script = [] := by rw [repliesOf, hlistings]; rfl
      rw [hnone, List.append_nil] at hsplit
      rw [hnone, hsplit, List.replicate_succ', List.append_assoc]
    · intro _
      refine ⟨?_, ?_⟩
      · rw [hunderWay, hanswer, hlist]
        rfl
      · intro hmore
        rw [hlist] at hmore
        exact absurd hlistings hmore
  · refine ⟨hpageSize, hwanted, answers, repliesOf script, count, hshown, hsplit, ?_⟩
    intro _
    refine ⟨?_, fun _ => hcount hlistings⟩
    rw [hunderWay, repliesOf_list hlistings]

theorem follows_start (pageSize interval : Nat) (stoppable : Prop) (script : Script) :
    Follows pageSize stoppable (repliesOf script) (Supply.start pageSize interval script).1
      (Supply.start pageSize interval script).2 [] := by
  refine follows_ask [] 0 ⟨none, 1⟩ rfl rfl rfl ?_ ?_ (fun _ => rfl)
  · intro coming
    exact .refl
  · simp

theorem follows_take {build : Build}
    (hfollows : Follows pageSize stoppable given supply script taken)
    (hslot : supply.slot = some build) :
    Follows pageSize stoppable given supply.take script (taken ++ [build]) := by
  obtain ⟨hpageSize, hwanted, answers, left, count, hreached, hleft⟩ := hfollows
  refine ⟨hpageSize, hwanted, answers, left, count, ?_, hleft⟩
  intro coming
  have hbefore := hreached coming
  rw [shown, hslot] at hbefore
  exact hbefore.tail .take

theorem follows_cancel (hstoppable : stoppable)
    (hfollows : Follows pageSize stoppable given supply script taken) :
    Follows pageSize stoppable given supply.cancel script taken := by
  obtain ⟨hpageSize, hwanted, answers, left, count, hreached, hsplit, -⟩ := hfollows
  refine ⟨hpageSize, hwanted, answers, left, count, ?_, hsplit, ?_⟩
  · intro coming
    exact (hreached coming).tail (.stop hstoppable)
  · intro hopen
    cases hopen

theorem follows_receive {query : Query} {reply : Reply}
    (hfollows : Follows pageSize stoppable given supply script taken)
    (hquery : supply.watch.query? supply.pageSize = some query)
    (hpending : supply.pending = some (time, reply)) :
    Follows pageSize stoppable given (supply.receive time reply) script taken := by
  obtain ⟨hpageSize, hwanted, answers, left, count, hreached, hsplit, hleft⟩ := hfollows
  have hopen : supply.isClosed = false := by
    unfold Supply.isClosed
    split
    · next hclosed =>
        rw [hclosed] at hquery
        cases hquery
    · rfl
  obtain ⟨rfl, hcount⟩ := hleft hopen
  have hunderWay : underWay supply = [reply] := by
    rw [underWay_of_query? hquery, hpending]
    rfl
  refine ⟨hpageSize, hwanted, answers ++ [reply], repliesOf script, count, ?_, ?_, ?_⟩
  · intro coming
    rw [List.append_assoc]
    have hbefore := hreached (reply :: coming)
    rw [hpageSize] at hquery
    have hafter := hbefore.tail (.answer hquery)
    rw [← hpageSize] at hafter ⊢
    exact hafter
  · rw [← hsplit, hunderWay, List.append_assoc]
  · intro _
    refine ⟨?_, hcount⟩
    unfold underWay Supply.receive
    split <;> rfl

theorem follows_tick {intake : Intake}
    (hfollows : Follows pageSize stoppable given supply script taken)
    (hwatch : supply.watch = .resting intake) (now due : Nat) :
    Follows pageSize stoppable given
      (Supply.ask { supply with watch := supply.watch.ticked, due := due } now script).1
      (Supply.ask { supply with watch := supply.watch.ticked, due := due } now script).2 taken := by
  obtain ⟨hpageSize, hwanted, answers, left, count, hreached, hsplit, hleft⟩ := hfollows
  obtain ⟨rfl, hcount⟩ := hleft (by rw [Supply.isClosed, hwatch])
  rw [underWay, hwatch, List.nil_append] at hsplit
  refine follows_ask answers count ⟨some intake.cursor, pageSize⟩ hpageSize hwanted ?_ ?_ hsplit hcount
  · rw [hwatch, hpageSize]
    rfl
  · intro coming
    have hbefore := hreached coming
    rw [shown, hwatch] at hbefore
    rw [hwatch]
    exact hbefore.tail .tick

theorem follows_put {build : Build}
    (hfollows : Follows pageSize stoppable given supply script taken)
    (hoffer : supply.watch.onOffer? = some build) (hslot : supply.slot = none) :
    Follows pageSize stoppable given
      { supply with watch := supply.watch.handedOn, slot := some build } script taken := by
  obtain ⟨hpageSize, hwanted, answers, left, count, hreached, hsplit, hleft⟩ := hfollows
  refine ⟨hpageSize, hwanted, answers, left, count, ?_, hsplit, ?_⟩
  · intro coming
    have hbefore := hreached coming
    rw [shown, hslot] at hbefore
    exact hbefore.tail (.put hoffer)
  · intro _
    cases hwatch : supply.watch with
    | offering intake first others =>
        obtain ⟨hsaid, hcount⟩ := hleft (by rw [Supply.isClosed, hwatch])
        refine ⟨?_, hcount⟩
        rw [hsaid, underWay, hwatch]
        cases others with
        | nil => rfl
        | cons next others => rfl
    | starting | resting intake | asking intake | closed =>
        rw [hwatch] at hoffer
        cases hoffer

theorem follows_change (hfollows : Follows pageSize stoppable given supply script taken)
    (hchange : supply.change now script = some (time, later, rest)) :
    Follows pageSize stoppable given later rest taken := by
  unfold Supply.change at hchange
  have hreceived (query : Query) (hquery : supply.watch.query? supply.pageSize = some query)
      (hpending : supply.pending.map
        (fun answer => (answer.1, supply.receive answer.1 answer.2, script)) =
          some (time, later, rest)) :
      Follows pageSize stoppable given later rest taken := by
    obtain ⟨⟨answered, reply⟩, hanswer, hstep⟩ := Option.map_eq_some_iff.mp hpending
    obtain ⟨rfl, hrest⟩ := Prod.mk.inj hstep
    obtain ⟨rfl, rfl⟩ := Prod.mk.inj hrest
    exact follows_receive hfollows hquery hanswer
  cases hwatch : supply.watch with
  | starting =>
      rw [hwatch] at hchange hreceived
      exact hreceived _ rfl hchange
  | asking intake =>
      rw [hwatch] at hchange hreceived
      exact hreceived _ rfl hchange
  | resting intake =>
      have hticked := follows_tick hfollows hwatch (max now supply.due)
        (supply.due + supply.interval)
      rw [hwatch] at hchange hticked
      obtain ⟨-, hstep⟩ := Prod.mk.inj (Option.some.inj hchange)
      rw [hstep] at hticked
      exact hticked
  | offering intake build others =>
      rw [hwatch] at hchange
      simp only at hchange
      rw [if_neg (by rw [hfollows.wanted_eq]; decide)] at hchange
      split at hchange
      · next hslot =>
          obtain ⟨-, hstep⟩ := Prod.mk.inj (Option.some.inj hchange)
          obtain ⟨rfl, rfl⟩ := Prod.mk.inj hstep
          have hput := follows_put hfollows (by rw [hwatch]; rfl) (Option.isNone_iff_eq_none.mp hslot)
          rwa [hwatch] at hput
      · cases hchange
  | closed =>
      rw [hwatch] at hchange
      cases hchange

structure Plays (pageSize : Nat) (stoppable : Prop) (given : List Reply) (run : FeedRun) :
    Prop where
  wanted_eq : run.wanted = none
  cancelled : run.cancelAt ≠ none → stoppable
  follows : Follows pageSize stoppable given run.supply run.script (run.taken.reverse.map Prod.snd)

variable {run after : FeedRun}

theorem plays_goOn (hplays : Plays pageSize stoppable given run) :
    Plays pageSize stoppable given run.goOn := by
  unfold FeedRun.goOn
  rw [if_neg (by rw [hplays.wanted_eq]; exact (Option.some_ne_none 0).symm)]
  exact ⟨by rw [hplays.wanted_eq]; rfl, hplays.cancelled, hplays.follows⟩

theorem plays_cancellation (hplays : Plays pageSize stoppable given run)
    (hcancelled : run.cancellation = some (time, after)) : Plays pageSize stoppable given after := by
  obtain ⟨cancelled, hcancelAt, hstep⟩ := Option.map_eq_some_iff.mp hcancelled
  obtain ⟨-, rfl⟩ := Prod.mk.inj hstep
  have hstoppable : stoppable := hplays.cancelled (by rw [hcancelAt]; exact Option.some_ne_none _)
  exact ⟨hplays.wanted_eq, fun hcancel => absurd rfl hcancel,
    follows_cancel hstoppable hplays.follows⟩

theorem plays_taking (hplays : Plays pageSize stoppable given run)
    (htaking : run.taking = some (time, after)) : Plays pageSize stoppable given after := by
  obtain ⟨ready, -, htaken⟩ := Option.bind_eq_some_iff.mp htaking
  cases hslot : run.supply.slot with
  | some build =>
      simp only [hslot] at htaken
      obtain ⟨-, rfl⟩ := Prod.mk.inj (Option.some.inj htaken)
      refine plays_goOn ⟨hplays.wanted_eq, hplays.cancelled, ?_⟩
      have hone := follows_take hplays.follows hslot
      rwa [List.reverse_cons, List.map_append, List.map_singleton]
  | none =>
      simp only [hslot] at htaken
      split at htaken
      · obtain ⟨-, rfl⟩ := Prod.mk.inj (Option.some.inj htaken)
        exact ⟨hplays.wanted_eq, hplays.cancelled, hplays.follows⟩
      · cases htaken

theorem plays_change (hplays : Plays pageSize stoppable given run)
    (hchange : run.change = some (time, after)) : Plays pageSize stoppable given after := by
  have hmem := mem_of_earliest hchange
  simp only [List.mem_cons, List.not_mem_nil, or_false] at hmem
  obtain hcancelled | htaking | hsupplying := hmem
  · exact plays_cancellation hplays hcancelled.symm
  · exact plays_taking hplays htaking.symm
  · obtain ⟨⟨supplied, supply, script⟩, hsupply, hstep⟩ :=
      Option.map_eq_some_iff.mp hsupplying.symm
    obtain ⟨-, rfl⟩ := Prod.mk.inj hstep
    exact ⟨hplays.wanted_eq, hplays.cancelled, follows_change hplays.follows hsupply⟩

structure Shows (relay : Relay) (run : FeedRun) : Prop where
  watch_eq : relay.watch = run.supply.watch
  slot_eq : relay.slot = run.supply.slot
  queries_eq : relay.queries = run.supply.queries.reverse.map Prod.snd
  taken_eq : relay.taken = run.taken.reverse.map Prod.snd

/-- A feed that is played shows what can come of the answers in its script, with as many answers
after them as it takes. -/
theorem exists_shown_of_played (pageSize interval : Nat) (script : Script)
    (cancelAt : Option Nat) (delays : List Nat) (horizon : Nat) :
    ∃ relay count,
      Reached pageSize (cancelAt ≠ none) (repliesOf script ++ List.replicate count nothingNew)
          relay ∧
        Shows relay
          ((FeedRun.start pageSize interval script cancelAt none delays).playedUntil horizon) := by
  have hstart : Plays pageSize (cancelAt ≠ none) (repliesOf script)
      (.start pageSize interval script cancelAt none delays) :=
    plays_goOn ⟨rfl, id, follows_start pageSize interval _ script⟩
  obtain ⟨answers, left, count, hreached, hsplit, -⟩ :=
    (holds_of_play plays_change hstart horizon _).follows.reached
  exact ⟨_, count, hsplit ▸ hreached left, ⟨rfl, rfl, rfl, rfl⟩⟩

/-! ### The feed and the intake -/

theorem not_conveys_nothingNew : ¬ ∃ listing next, Conveys nothingNew listing next := by
  rintro ⟨listing, next, hconveys⟩
  obtain rfl : _ = listing := Except.ok.inj hconveys.ok
  exact absurd hconveys.leads.next_eq (Option.some_ne_none next).symm

theorem padded_replicate (count : Nat) (replies : List Reply) :
    Padded replies (replies ++ List.replicate count nothingNew) := by
  induction replies with
  | nil =>
      induction count with
      | zero => exact .nil
      | succ count ih => exact .insert not_conveys_nothingNew ih
  | cons reply replies ih => exact .keep reply ih

theorem deliveredBy_append_nothingNew (pageSize count : Nat) (replies : List Reply) :
    deliveredBy pageSize (replies ++ List.replicate count nothingNew) =
      deliveredBy pageSize replies := by
  cases replies with
  | nil =>
      cases count with
      | zero => rfl
      | succ count => exact deliveredBy_of_padded (padded_replicate count []) nothingNew
  | cons first later => exact deliveredBy_of_padded (padded_replicate count later) first

theorem prefix_of_shows {relay : Relay} {run : FeedRun} {replies : List Reply} {count : Nat}
    (hreached : Reached pageSize stoppable (replies ++ List.replicate count nothingNew) relay)
    (hshows : Shows relay run) :
    run.taken.reverse.map Prod.snd <+: deliveredBy pageSize replies := by
  rw [← hshows.taken_eq, ← deliveredBy_append_nothingNew pageSize count]
  exact (List.prefix_append _ _).trans (prefix_of_reached hreached)

/-- Whatever the order in which the feed and the one who takes its builds do their parts, the queries
and the builds taken are those of the intake, which goes by the answers that say something. -/
theorem relay_refines_intake {relay : Relay} {replies : List Reply}
    (hreached : Reached pageSize False replies relay) :
    Faithful pageSize replies relay ∧
      (∀ fault rest, replies = .error fault :: rest → relay.queries = [⟨none, 1⟩] ∧
        relay.taken = [] ∧ (relay.answers ≠ [] → relay.watch = .closed)) ∧
      Acc (fun after before => Move pageSize False before after) relay ∧
      (Stuck pageSize relay → relay.taken = deliveredBy pageSize replies) ∧
      (∀ first short long other, Padded short long → replies = first :: short →
        Reached pageSize False (first :: long) other →
          (Stuck pageSize relay → Stuck pageSize other → other.taken = relay.taken) ∧
            ∀ before before' query query', Padded before before' →
              relay.answers = first :: before → other.answers = first :: before' →
                relay.watch.query? pageSize = some query →
                  other.watch.query? pageSize = some query' → query' = query) ∧
      (∀ stopped, Reached pageSize True replies stopped →
        stopped.taken <+: deliveredBy pageSize replies) ∧
      ∀ script interval cancelAt delays horizon, repliesOf script = replies →
        let run :=
          (FeedRun.start pageSize interval script cancelAt none delays).playedUntil horizon
        (∃ shown count, Reached pageSize (cancelAt ≠ none)
            (replies ++ List.replicate count nothingNew) shown ∧ Shows shown run) ∧
          run.taken.reverse.map Prod.snd <+: deliveredBy pageSize replies := by
  have hfaithful := faithful_of_reached hreached
  refine ⟨hfaithful, ?_, acc_move relay, taken_of_stuck hfaithful, ?_, ?_, ?_⟩
  · rintro fault rest rfl
    exact failed_of_faithful hfaithful
  · rintro first short long other hpadded rfl hother
    have hfaithful' := faithful_of_reached hother
    constructor
    · intro hstuck hstuck'
      rw [taken_of_stuck hfaithful hstuck, taken_of_stuck hfaithful' hstuck',
        deliveredBy_of_padded hpadded]
    · intro before before' query query' hbefore hanswers hanswers'
      exact query_of_padded hfaithful hfaithful' hbefore hanswers hanswers'
  · intro stopped hstopped
    exact (List.prefix_append _ _).trans (prefix_of_reached hstopped)
  · rintro script interval cancelAt delays horizon rfl
    obtain ⟨shown, count, hshown, hshows⟩ :=
      exists_shown_of_played pageSize interval script cancelAt delays horizon
    exact ⟨⟨shown, count, hshown, hshows⟩, prefix_of_shows hshown hshows⟩

def earlierBuild : Build :=
  { id := 10, name := "5", team := "main", pipeline := some "web", jobName := some "unit",
    status := .failed }

def newBuild : Build :=
  { earlierBuild with id := 11, name := "6" }

/-- The build of the first answer is passed over, and a failure comes before the next build. -/
def interruptedReplies : List Reply :=
  [.ok ⟨[earlierBuild], some 10⟩, .error (.requestFailed "/api/v1/builds" "timeout"),
    .ok ⟨[newBuild], some 11⟩]

theorem newBuild_taken :
    ∃ last, Reached 100 False interruptedReplies last ∧ Stuck 100 last ∧
      last.taken = [newBuild] := by
  obtain ⟨last, hreached, hstuck⟩ := exists_stuck (start interruptedReplies)
  obtain ⟨-, -, -, htaken, -⟩ := relay_refines_intake hreached
  refine ⟨last, hreached, hstuck, (htaken hstuck).trans ?_⟩
  decide +kernel

end BuildHerald.Proofs.FeedRuns
