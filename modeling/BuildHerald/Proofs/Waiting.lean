import BuildHerald.Proofs.Replies

/-!
Who waits for which build, in a whole run.

The table of awaited builds says which issuers are still to hear something. It is compared with the
messages that each of them has got so far.
-/

namespace BuildHerald.Proofs.Waiting

open BuildHerald.Herald
open BuildHerald.Time
open BuildHerald.Chat
open BuildHerald.Proofs.Conversation
open BuildHerald.Proofs.JobStatuses
open BuildHerald.Proofs.Announcements
open BuildHerald.Proofs.Footprints
open BuildHerald.Proofs.Replies

/-! ### The table of awaited builds -/

/-- The table says truly who waits for which build. -/
structure Tracks (past : List Handled) (herald : Herald) : Prop where
  origin : ∀ id ticket, herald.awaited.get? id = some ticket →
    ∃ handled ∈ past, issuer? handled = some ticket ∧ id ∈ idsIn handled
  once : ∀ first second ticket, herald.awaited.get? first = some ticket →
    herald.awaited.get? second = some ticket → first = second
  stranger : ∀ ticket, ticket ∉ ticketsIn past → messages ticket past = []
  waiting : ∀ id ticket, herald.awaited.get? id = some ticket →
    ∃ lines : List String, messages ticket past = lines.map .line
  finished : ∀ ticket ∈ ticketsIn past, (∀ id, herald.awaited.get? id ≠ some ticket) →
    ∃ lines : List String, messages ticket past = lines.map .line ++ [.over]

variable {settings : Settings} {past : List Handled} {herald after : Herald} {handled : Handled}

theorem Tracks.mem_ticketsIn {id : Nat} {ticket : Ticket} (htracks : Tracks past herald)
    (hwaiting : herald.awaited.get? id = some ticket) : ticket ∈ ticketsIn past := by
  obtain ⟨handled, hmem, hissuer, -⟩ := htracks.origin id ticket hwaiting
  exact mem_ticketsIn_iff.mpr ⟨handled, hmem, hissuer⟩

theorem Tracks.not_waiting {ticket : Ticket} (htracks : Tracks past herald)
    (hnew : ticket ∉ ticketsIn past) (id : Nat) : herald.awaited.get? id ≠ some ticket :=
  fun hwaiting => hnew (htracks.mem_ticketsIn hwaiting)

theorem ticketsIn_concat (past : List Handled) (handled : Handled) :
    ticketsIn (past ++ [handled]) = ticketsIn past ++ (issuer? handled).toList := by
  rw [ticketsIn, List.filterMap_append]
  cases hissuer : issuer? handled with
  | none => rw [List.filterMap_cons_none hissuer]; rfl
  | some ticket => rw [List.filterMap_cons_some hissuer]; rfl

theorem mem_ticketsIn_concat {ticket : Ticket} :
    ticket ∈ ticketsIn (past ++ [handled]) ↔
      ticket ∈ ticketsIn past ∨ issuer? handled = some ticket := by
  rw [ticketsIn_concat, List.mem_append, Option.mem_toList]

/-- An issuer who waits for another build, or for none, hears nothing of an input, and one who waits
for its build hears the last of it. -/
theorem tracks_step (htracks : Tracks past herald)
    (hruns : Runs (herald.handle settings handled.now handled.input) handled.trace after)
    (hnew : ∀ ticket, issuer? handled = some ticket → ticket ∉ ticketsIn past) :
    Tracks (past ++ [handled]) after where
  -- In every part, an id of the input now has its issuer, and all other ids what they had.
  origin id ticket hwaiting := by
    rw [get?_awaited_of_runs hruns] at hwaiting
    by_cases hid : id ∈ idsIn handled
    · rw [if_pos hid] at hwaiting
      exact ⟨handled, by simp, hwaiting, hid⟩
    · rw [if_neg hid] at hwaiting
      obtain ⟨earlier, hmem, horigin⟩ := htracks.origin id ticket hwaiting
      exact ⟨earlier, List.mem_append_left _ hmem, horigin⟩
  once first second ticket hfirst hsecond := by
    rw [get?_awaited_of_runs hruns] at hfirst hsecond
    by_cases hid : first ∈ idsIn handled
    · rw [if_pos hid] at hfirst
      by_cases hother : second ∈ idsIn handled
      · obtain hnone | ⟨id, hids⟩ := idsIn_eq_or hruns
        · rw [hnone] at hid
          exact absurd hid List.not_mem_nil
        · rw [hids, List.mem_singleton] at hid hother
          rw [hid, hother]
      · rw [if_neg hother] at hsecond
        exact absurd (htracks.mem_ticketsIn hsecond) (hnew ticket hfirst)
    · rw [if_neg hid] at hfirst
      by_cases hother : second ∈ idsIn handled
      · rw [if_pos hother] at hsecond
        exact absurd (htracks.mem_ticketsIn hfirst) (hnew ticket hsecond)
      · rw [if_neg hother] at hsecond
        exact htracks.once first second ticket hfirst hsecond
  stranger ticket hstranger := by
    rw [mem_ticketsIn_concat, not_or] at hstranger
    rw [messages_concat, htracks.stranger ticket hstranger.1, List.nil_append]
    exact messagesIn_of_not_waiting hruns hstranger.2 fun id _ =>
      htracks.not_waiting hstranger.1 id
  waiting id ticket hwaiting := by
    rw [get?_awaited_of_runs hruns] at hwaiting
    rw [messages_concat]
    by_cases hid : id ∈ idsIn handled
    · rw [if_pos hid] at hwaiting
      have hfresh := hnew ticket hwaiting
      rw [htracks.stranger ticket hfresh, List.nil_append]
      obtain ⟨_, text, -, htold⟩ | ⟨hnone, -⟩ :=
        told_or_waits hruns hwaiting (htracks.not_waiting hfresh)
      · exact ⟨[text], htold⟩
      · rw [hnone] at hid
        exact absurd hid List.not_mem_nil
    · rw [if_neg hid] at hwaiting
      have hother : issuer? handled ≠ some ticket := fun hissuer =>
        hnew ticket hissuer (htracks.mem_ticketsIn hwaiting)
      rw [messagesIn_of_not_waiting hruns hother, List.append_nil]
      · exact htracks.waiting id ticket hwaiting
      · intro other hmem hsame
        rw [htracks.once other id ticket hsame hwaiting] at hmem
        exact hid hmem
  finished ticket hmem hnone := by
    have hgone (id : Nat) (hid : id ∉ idsIn handled) : herald.awaited.get? id ≠ some ticket := by
      have hafter := hnone id
      rwa [get?_awaited_of_runs hruns, if_neg hid] at hafter
    rw [messages_concat]
    by_cases hissuer : issuer? handled = some ticket
    · have hfresh := hnew ticket hissuer
      rw [htracks.stranger ticket hfresh, List.nil_append]
      obtain ⟨id, _, hids, -⟩ | ⟨-, htold⟩ :=
        told_or_waits hruns hissuer (htracks.not_waiting hfresh)
      · refine absurd hissuer ?_
        have hafter := hnone id
        rwa [get?_awaited_of_runs hruns, if_pos (by simp [hids])] at hafter
      · exact htold
    · rw [mem_ticketsIn_concat, or_iff_left hissuer] at hmem
      by_cases hwaited : ∃ id ∈ idsIn handled, herald.awaited.get? id = some ticket
      · obtain ⟨id, hid, hwaiting⟩ := hwaited
        obtain ⟨lines, hlines⟩ := htracks.waiting id ticket hwaiting
        obtain ⟨last, hlast⟩ := exists_farewell handled.input
        refine ⟨lines ++ last, ?_⟩
        rw [messagesIn_of_waiting hruns hissuer hid hwaiting, hlines, hlast, List.map_append,
          List.append_assoc]
      · have hsilent : ∀ id ∈ idsIn handled, herald.awaited.get? id ≠ some ticket :=
          fun id hid hwaiting => hwaited ⟨id, hid, hwaiting⟩
        rw [messagesIn_of_not_waiting hruns hissuer hsilent, List.append_nil]
        refine htracks.finished ticket hmem fun id => ?_
        by_cases hid : id ∈ idsIn handled
        · exact hsilent id hid
        · exact hgone id hid

theorem tracks_of_served (hserved : Served settings past herald)
    (htickets : (ticketsIn past).Nodup) : Tracks past herald := by
  induction hserved with
  | fresh =>
      exact ⟨fun _ _ hwaiting => absurd hwaiting (by simp [Herald.fresh]),
        fun _ _ _ hwaiting => absurd hwaiting (by simp [Herald.fresh]), fun _ _ => rfl,
        fun _ _ hwaiting => absurd hwaiting (by simp [Herald.fresh]),
        fun _ hmem => absurd hmem List.not_mem_nil⟩
  | @next past _ _ handled _ hruns ih =>
      rw [ticketsIn_concat, List.nodup_append] at htickets
      refine tracks_step (ih htickets.1) hruns ?_
      intro ticket hissuer hmem
      exact htickets.2.2 ticket hmem ticket (by simp [hissuer]) rfl

theorem Tracks.over_not_mem_iff {ticket : Ticket} (htracks : Tracks past herald)
    (hmem : ticket ∈ ticketsIn past) :
    Message.over ∉ messages ticket past ↔ ∃ id, herald.awaited.get? id = some ticket := by
  constructor
  · intro hopen
    by_contra hnone
    obtain ⟨lines, hlines⟩ := htracks.finished ticket hmem (not_exists.mp hnone)
    rw [hlines] at hopen
    exact hopen (by simp)
  · rintro ⟨id, hwaiting⟩
    obtain ⟨lines, hlines⟩ := htracks.waiting id ticket hwaiting
    rw [hlines]
    simp

/-! ### How many wait -/

theorem mem_entries_iff {κ ν : Type} [DecidableEq κ] (table : Table κ ν) (key : κ) (value : ν) :
    (key, value) ∈ table.entries ↔ table.get? key = some value := by
  rw [Table.get?, Option.map_eq_some_iff]
  constructor
  · intro hmem
    cases hfound : table.entries.find? fun entry => decide (entry.1 = key) with
    | none =>
        have hnone := List.find?_eq_none.mp hfound _ hmem
        simp at hnone
    | some entry =>
        have hkey : entry.1 = key := by simpa using List.find?_some hfound
        have hsame : entry = (key, value) :=
          List.inj_on_of_nodup_map table.nodup (List.mem_of_find?_eq_some hfound) hmem hkey
        exact ⟨entry, rfl, by rw [hsame]⟩
  · rintro ⟨entry, hfound, rfl⟩
    have hkey : entry.1 = key := by simpa using List.find?_some hfound
    rw [← hkey]
    exact List.mem_of_find?_eq_some hfound

/-- As many builds are awaited as there are issuers who have not heard the last. -/
theorem Tracks.size_awaited (htracks : Tracks past herald) (htickets : (ticketsIn past).Nodup) :
    herald.awaited.size =
      ((commandsIn past).filter fun command => Message.over ∉ messages command.1 past).length := by
  have hwaiting : (herald.awaited.entries.map Prod.snd).Nodup := by
    refine List.Nodup.map_on ?_ herald.awaited.nodup.of_map
    rintro ⟨first, ticket⟩ hfirst ⟨second, other⟩ hsecond rfl
    rw [mem_entries_iff] at hfirst hsecond
    rw [htracks.once first second ticket hfirst hsecond]
  have hperm : (herald.awaited.entries.map Prod.snd).Perm
      ((ticketsIn past).filter fun ticket => Message.over ∉ messages ticket past) := by
    rw [List.perm_ext_iff_of_nodup hwaiting (htickets.filter _)]
    intro ticket
    rw [List.mem_filter, decide_eq_true_eq, List.mem_map]
    constructor
    · rintro ⟨⟨id, ticket⟩, hentry, rfl⟩
      rw [mem_entries_iff] at hentry
      have hmem := htracks.mem_ticketsIn hentry
      exact ⟨hmem, (htracks.over_not_mem_iff hmem).mpr ⟨id, hentry⟩⟩
    · rintro ⟨hmem, hopen⟩
      obtain ⟨id, hwaits⟩ := (htracks.over_not_mem_iff hmem).mp hopen
      exact ⟨(id, ticket), (mem_entries_iff _ _ _).mpr hwaits, rfl⟩
  rw [Table.size, ← List.length_map (f := Prod.snd), hperm.length_eq, ticketsIn_eq_map,
    List.filter_map, List.length_map]
  rfl

/-! ### What follows a command -/

theorem not_issuer_of_not_mem {ticket : Ticket} {later : List Handled}
    (hnew : ticket ∉ ticketsIn (handled :: later)) :
    issuer? handled ≠ some ticket ∧ ticket ∉ ticketsIn later := by
  constructor
  · intro hissuer
    exact hnew (mem_ticketsIn_iff.mpr ⟨handled, List.mem_cons_self, hissuer⟩)
  · intro hmem
    obtain ⟨other, hin, hissuer⟩ := mem_ticketsIn_iff.mp hmem
    exact hnew (mem_ticketsIn_iff.mpr ⟨other, List.mem_cons_of_mem _ hin, hissuer⟩)

/-- An issuer who does not wait hears no more. -/
theorem silent_of_goes {ticket : Ticket} {later : List Handled} {last : Herald}
    (hgoes : Goes settings herald later last) (hnew : ticket ∉ ticketsIn later)
    (hnone : ∀ id, herald.awaited.get? id ≠ some ticket) :
    messages ticket later = [] ∧ ∀ id, last.awaited.get? id ≠ some ticket := by
  induction hgoes with
  | stay => exact ⟨rfl, hnone⟩
  | @step herald next last handled later hruns _ ih =>
      obtain ⟨hother, hlater⟩ := not_issuer_of_not_mem hnew
      have hnext : ∀ id, next.awaited.get? id ≠ some ticket := by
        intro id
        rw [get?_awaited_of_runs hruns]
        by_cases hid : id ∈ idsIn handled
        · rwa [if_pos hid]
        · rw [if_neg hid]
          exact hnone id
      obtain ⟨hsilent, hlast⟩ := ih hlater hnext
      refine ⟨?_, hlast⟩
      rw [messages_cons, hsilent,
        messagesIn_of_not_waiting hruns hother (fun id _ => hnone id), List.nil_append]

/-- What becomes of an issuer who waits for a build, in the inputs that follow. -/
structure Followed (ticket : Ticket) (id : Nat) (later : List Handled) (last : Herald) : Prop where
  waits_iff : last.awaited.get? id = some ticket ↔ ∀ handled ∈ later, id ∉ idsIn handled
  only : ∀ other, last.awaited.get? other = some ticket → other = id
  silent : (∀ handled ∈ later, id ∉ idsIn handled) → messages ticket later = []
  reported : ∀ calm now build trace rest, later = calm ++ ⟨now, .build build, trace⟩ :: rest →
    (∀ handled ∈ calm, id ∉ idsIn handled) → build.id = id →
      messages ticket calm = [] ∧
        messagesIn ticket trace = [.line ("Job " ++ build.status.name ++ "."), .over] ∧
        notificationsIn trace = [] ∧ messages ticket rest = []
  replaced : ∀ calm now other command trace rest,
    later = calm ++ ⟨now, .command other command, trace⟩ :: rest →
      (∀ handled ∈ calm, id ∉ idsIn handled) → id ∈ startsIn trace →
        messages ticket calm = [] ∧ messagesIn ticket trace = [.over] ∧ messages ticket rest = []

/-- As long as no input has the id of the build, the issuer waits and hears nothing. -/
theorem calm_of_goes {ticket : Ticket} {id : Nat} {later : List Handled} {last : Herald}
    (hgoes : Goes settings herald later last) (hnew : ticket ∉ ticketsIn later)
    (honce : ∀ other, herald.awaited.get? other = some ticket → other = id)
    (hcalm : ∀ handled ∈ later, id ∉ idsIn handled) :
    messages ticket later = [] ∧ ∀ other, last.awaited.get? other = some ticket → other = id := by
  induction hgoes with
  | stay => exact ⟨rfl, honce⟩
  | @step herald next last handled later hruns _ ih =>
      obtain ⟨hother, hlater⟩ := not_issuer_of_not_mem hnew
      have hid := hcalm handled List.mem_cons_self
      have hnext : ∀ other, next.awaited.get? other = some ticket → other = id := by
        intro other hsame
        rw [get?_awaited_of_runs hruns] at hsame
        by_cases hmem : other ∈ idsIn handled
        · rw [if_pos hmem] at hsame
          exact absurd hsame hother
        · rw [if_neg hmem] at hsame
          exact honce other hsame
      obtain ⟨hsilent, hlast⟩ :=
        ih hlater hnext fun other hmem => hcalm other (List.mem_cons_of_mem _ hmem)
      refine ⟨?_, hlast⟩
      rw [messages_cons, hsilent, List.append_nil]
      refine messagesIn_of_not_waiting hruns hother ?_
      intro other hmem hsame
      rw [honce other hsame] at hmem
      exact hid hmem

/-- The first input with the id of the build is the last that the issuer hears of. -/
theorem farewell_of_goes {ticket : Ticket} {id : Nat} {calm rest : List Handled} {last : Herald}
    (hgoes : Goes settings herald (calm ++ handled :: rest) last)
    (hnew : ticket ∉ ticketsIn (calm ++ handled :: rest))
    (hwaiting : herald.awaited.get? id = some ticket)
    (honce : ∀ other, herald.awaited.get? other = some ticket → other = id)
    (hcalm : ∀ handled ∈ calm, id ∉ idsIn handled) (hid : id ∈ idsIn handled) :
    messages ticket calm = [] ∧ messagesIn ticket handled.trace = farewell handled.input ∧
      messages ticket rest = [] ∧ (∀ other, last.awaited.get? other ≠ some ticket) ∧
      ∀ build, handled.input = .build build → notificationsIn handled.trace = [] := by
  rw [ticketsIn, List.filterMap_append, List.mem_append, not_or] at hnew
  obtain ⟨hother, hrest⟩ := not_issuer_of_not_mem hnew.2
  obtain ⟨next, hearlier, hlater⟩ := exists_goes_of_append hgoes
  obtain ⟨hquiet, hwaitsOnce⟩ := calm_of_goes hearlier hnew.1 honce hcalm
  have hwaits := (get?_awaited_of_goes hearlier hcalm).trans hwaiting
  cases hlater with
  | @step _ after _ _ _ hruns hgoesRest =>
      have hnone : ∀ other, after.awaited.get? other ≠ some ticket := by
        intro other hsame
        rw [get?_awaited_of_runs hruns] at hsame
        by_cases hmem : other ∈ idsIn handled
        · rw [if_pos hmem] at hsame
          exact hother hsame
        · rw [if_neg hmem] at hsame
          exact hmem (hwaitsOnce other hsame ▸ hid)
      obtain ⟨hsilent, hlast⟩ := silent_of_goes hgoesRest hrest hnone
      refine ⟨hquiet, messagesIn_of_waiting hruns hother hid hwaits, hsilent, hlast, ?_⟩
      intro build hbuild
      obtain ⟨now, input, trace⟩ := handled
      obtain rfl : input = .build build := hbuild
      obtain rfl : id = build.id := List.mem_singleton.mp hid
      exact notificationsIn_of_awaited (buildHandled_of_handle hruns) hwaits

theorem calm_or_exists_first (id : Nat) (later : List Handled) :
    (∀ handled ∈ later, id ∉ idsIn handled) ∨
      ∃ calm handled rest, later = calm ++ handled :: rest ∧
        (∀ handled ∈ calm, id ∉ idsIn handled) ∧ id ∈ idsIn handled := by
  cases hfirst : later.find? fun handled => decide (id ∈ idsIn handled) with
  | none =>
      left
      intro handled hmem hid
      exact List.find?_eq_none.mp hfirst handled hmem (decide_eq_true hid)
  | some first =>
      right
      obtain ⟨hid, calm, rest, hlater, hcalm⟩ := List.find?_eq_some_iff_append.mp hfirst
      exact ⟨calm, first, rest, hlater, by simpa using hcalm, of_decide_eq_true hid⟩

theorem followed_of_goes {ticket : Ticket} {id : Nat} {later : List Handled} {last : Herald}
    (hgoes : Goes settings herald later last) (hnew : ticket ∉ ticketsIn later)
    (hwaiting : herald.awaited.get? id = some ticket)
    (honce : ∀ other, herald.awaited.get? other = some ticket → other = id) :
    Followed ticket id later last where
  waits_iff := by
    constructor
    · intro hwaits
      obtain hcalm | ⟨calm, handled, rest, rfl, hcalm, hid⟩ := calm_or_exists_first id later
      · exact hcalm
      · obtain ⟨-, -, -, hgone, -⟩ := farewell_of_goes hgoes hnew hwaiting honce hcalm hid
        exact absurd hwaits (hgone id)
    · intro hcalm
      exact (get?_awaited_of_goes hgoes hcalm).trans hwaiting
  only other hwaits := by
    obtain hcalm | ⟨calm, handled, rest, rfl, hcalm, hid⟩ := calm_or_exists_first id later
    · exact (calm_of_goes hgoes hnew honce hcalm).2 other hwaits
    · obtain ⟨-, -, -, hgone, -⟩ := farewell_of_goes hgoes hnew hwaiting honce hcalm hid
      exact absurd hwaits (hgone other)
  silent hcalm := (calm_of_goes hgoes hnew honce hcalm).1
  reported calm now build trace rest heq hcalm hid := by
    subst heq
    obtain ⟨hquiet, htold, hsilent, -, hunnotified⟩ :=
      farewell_of_goes hgoes hnew hwaiting honce hcalm (List.mem_singleton.mpr hid.symm)
    exact ⟨hquiet, htold, hunnotified build rfl, hsilent⟩
  replaced calm now other command trace rest heq hcalm hid := by
    subst heq
    obtain ⟨hquiet, htold, hsilent, -, -⟩ :=
      farewell_of_goes hgoes hnew hwaiting honce hcalm hid
    exact ⟨hquiet, htold, hsilent⟩

section Cut

variable {earlier later : List Handled} {last : Herald} {ticket : Ticket}

/-- A run, cut before and after one of its commands. -/
theorem exists_cut (hserved : Served settings (earlier ++ handled :: later) last)
    (htickets : (ticketsIn (earlier ++ handled :: later)).Nodup)
    (hissuer : issuer? handled = some ticket) :
    ∃ before after, Tracks earlier before ∧ ticket ∉ ticketsIn earlier ∧
      Runs (before.handle settings handled.now handled.input) handled.trace after ∧
        ticket ∉ ticketsIn later ∧ Goes settings after later last := by
  obtain ⟨before, hearlier, hgoes⟩ := exists_goes_of_served hserved
  rw [ticketsIn, List.filterMap_append, List.filterMap_cons_some hissuer,
    List.nodup_append] at htickets
  obtain ⟨hfirst, hsecond, hapart⟩ := htickets
  cases hgoes with
  | step hruns hlater =>
      refine ⟨before, _, tracks_of_served hearlier hfirst, ?_, hruns, ?_, hlater⟩
      · intro hmem
        exact hapart ticket hmem ticket List.mem_cons_self rfl
      · exact (List.nodup_cons.mp hsecond).1

theorem followed_of_step {before : Herald} {id : Nat} (htracks : Tracks earlier before)
    (hnew : ticket ∉ ticketsIn earlier) (hissuer : issuer? handled = some ticket)
    (hruns : Runs (before.handle settings handled.now handled.input) handled.trace after)
    (hlater : ticket ∉ ticketsIn later) (hgoes : Goes settings after later last)
    (hids : idsIn handled = [id]) : Followed ticket id later last := by
  refine followed_of_goes hgoes hlater ?_ ?_
  · rw [get?_awaited_of_runs hruns, hids, if_pos (List.mem_singleton.mpr rfl), hissuer]
  · intro other hwaits
    rw [get?_awaited_of_runs hruns, hids] at hwaits
    by_cases hother : other ∈ [id]
    · exact List.mem_singleton.mp hother
    · rw [if_neg hother] at hwaits
      exact absurd hwaits (htracks.not_waiting hnew other)

theorem silent_of_step {before : Herald} (htracks : Tracks earlier before)
    (hnew : ticket ∉ ticketsIn earlier)
    (hruns : Runs (before.handle settings handled.now handled.input) handled.trace after)
    (hlater : ticket ∉ ticketsIn later) (hgoes : Goes settings after later last)
    (hids : idsIn handled = []) : messages ticket later = [] := by
  refine (silent_of_goes hgoes hlater fun id => ?_).1
  rw [get?_awaited_of_runs hruns, hids, if_neg List.not_mem_nil]
  exact htracks.not_waiting hnew id

end Cut

/-! ### The whole run -/

/-- A command of this ticket has started a build of this id, and its issuer may hear more. -/
def Awaits (past : List Handled) (ticket : Ticket) (id : Nat) : Prop :=
  (∃ handled ∈ past, issuer? handled = some ticket ∧ id ∈ idsIn handled) ∧
    Message.over ∉ messages ticket past

/-- Every issuer hears what is due, and no more. -/
structure Answered (past : List Handled) (herald : Herald) : Prop where
  at_once : ∀ earlier now ticket command trace later,
    past = earlier ++ ⟨now, .command ticket command, trace⟩ :: later →
      Verb.ofName? command.name ≠ some .rerun ∨ command.job = none →
        messages ticket earlier = [] ∧
          (∃ text, messagesIn ticket trace = [.line text, .over]) ∧ messages ticket later = []
  rerun : ∀ earlier now ticket command trace later job,
    past = earlier ++ ⟨now, .command ticket command, trace⟩ :: later →
      Verb.ofName? command.name = some .rerun → command.job = some job →
        messages ticket earlier = [] ∧
          ((∃ fault, askedIn trace = [(job, .error fault)] ∧
              messagesIn ticket trace =
                [rerunning job, .line ("Failed to rerun " ++ job.display ++ ": " ++ fault.message),
                  .over] ∧
              messages ticket later = []) ∨
            ∃ id, askedIn trace = [(job, .ok id)] ∧ messagesIn ticket trace = [rerunning job] ∧
              (Message.over ∉ messages ticket past ↔ herald.awaited.get? id = some ticket) ∧
              Followed ticket id later herald)
  nothing_after_over : ∀ ticket, ∃ lines : List String,
    messages ticket past = lines.map .line ∨ messages ticket past = lines.map .line ++ [.over]
  alone : ∀ first second id, Awaits past first id → Awaits past second id → first = second
  not_pending : ∀ earlier now build trace later,
    past = earlier ++ ⟨now, .build build, trace⟩ :: later →
      (∀ handled ∈ later, build.id ∉ idsIn handled) → herald.awaited.get? build.id = none
  pending : herald.awaited.size =
    ((commandsIn past).filter fun command => Message.over ∉ messages command.1 past).length

theorem get?_of_awaits {ticket : Ticket} {id : Nat} (hserved : Served settings past herald)
    (htickets : (ticketsIn past).Nodup) (hawaits : Awaits past ticket id) :
    herald.awaited.get? id = some ticket := by
  obtain ⟨⟨handled, hmem, hissuer, hid⟩, hopen⟩ := hawaits
  have htracks := tracks_of_served hserved htickets
  have hticket := mem_ticketsIn_iff.mpr ⟨handled, hmem, hissuer⟩
  obtain ⟨other, hwaits⟩ := (htracks.over_not_mem_iff hticket).mp hopen
  obtain ⟨earlier, later, rfl⟩ := List.append_of_mem hmem
  obtain ⟨before, after, hbefore, hnew, hruns, hlater, hgoes⟩ :=
    exists_cut hserved htickets hissuer
  obtain hnone | ⟨started, hids⟩ := idsIn_eq_or hruns
  · rw [hnone] at hid
    exact absurd hid List.not_mem_nil
  · rw [hids, List.mem_singleton] at hid
    subst hid
    have hfollowed := followed_of_step hbefore hnew hissuer hruns hlater hgoes hids
    rwa [hfollowed.only other hwaits] at hwaits

/-- Whatever commands are given and builds come, in any order, every issuer hears what is due. -/
theorem all_answered (hserved : Served settings past herald)
    (htickets : ((commandsIn past).map Prod.fst).Nodup) : Answered past herald := by
  rw [← ticketsIn_eq_map] at htickets
  have htracks := tracks_of_served hserved htickets
  constructor
  case at_once =>
    rintro earlier now ticket command trace later rfl hcommand
    obtain ⟨before, after, hbefore, hnew, hruns, hlater, hgoes⟩ :=
      exists_cut hserved htickets rfl
    obtain ⟨hstarts, htold⟩ := told_at_once (commandHandled_of_handle hruns) hcommand
    exact ⟨hbefore.stranger ticket hnew, htold,
      silent_of_step hbefore hnew hruns hlater hgoes hstarts⟩
  case rerun =>
    rintro earlier now ticket command trace later job rfl hverb hjob
    obtain ⟨before, after, hbefore, hnew, hruns, hlater, hgoes⟩ :=
      exists_cut hserved htickets rfl
    refine ⟨hbefore.stranger ticket hnew, ?_⟩
    obtain ⟨id, hasked, hstarts, htold⟩ | ⟨fault, hasked, hstarts, htold⟩ :=
      told_of_rerun (commandHandled_of_handle hruns) hverb hjob (hbefore.not_waiting hnew)
    · right
      have hfollowed := followed_of_step hbefore hnew rfl hruns hlater hgoes hstarts
      refine ⟨id, hasked, htold, ?_, hfollowed⟩
      rw [htracks.over_not_mem_iff (mem_ticketsIn_iff.mpr ⟨_, List.mem_append_cons_self, rfl⟩)]
      constructor
      · rintro ⟨other, hwaits⟩
        rwa [hfollowed.only other hwaits] at hwaits
      · exact fun hwaits => ⟨id, hwaits⟩
    · left
      exact ⟨fault, hasked, htold, silent_of_step hbefore hnew hruns hlater hgoes hstarts⟩
  case nothing_after_over =>
    intro ticket
    by_cases hmem : ticket ∈ ticketsIn past
    · by_cases hwaits : ∃ id, herald.awaited.get? id = some ticket
      · obtain ⟨id, hwaits⟩ := hwaits
        obtain ⟨lines, hlines⟩ := htracks.waiting id ticket hwaits
        exact ⟨lines, .inl hlines⟩
      · obtain ⟨lines, hlines⟩ := htracks.finished ticket hmem (not_exists.mp hwaits)
        exact ⟨lines, .inr hlines⟩
    · exact ⟨[], .inl (htracks.stranger ticket hmem)⟩
  case alone =>
    intro first second id hfirst hsecond
    have hsame := get?_of_awaits hserved htickets hfirst
    rw [get?_of_awaits hserved htickets hsecond] at hsame
    exact (Option.some.inj hsame).symm
  case not_pending =>
    rintro earlier now build trace later rfl hcalm
    obtain ⟨before, -, hgoes⟩ := exists_goes_of_served hserved
    cases hgoes with
    | step hruns hlater =>
        rw [get?_awaited_of_goes hlater hcalm]
        exact (get?_awaited_of_runs hruns build.id).trans (if_pos (List.mem_singleton.mpr rfl))
  case pending => exact htracks.size_awaited htickets

def unitJob : Job :=
  ⟨"main", "web", "unit"⟩

def rerunUnit : Command :=
  ⟨"rerun", [], some unitJob⟩

/-- Two commands get the same build, which fails. -/
def sharedBuild : List Handled :=
  [⟨⟨0⟩, .command 0 rerunUnit, [said 0 "Rerunning main/web/unit...", begun unitJob (.ok 7)]⟩,
    ⟨⟨0⟩, .command 1 rerunUnit,
      [said 1 "Rerunning main/web/unit...", begun unitJob (.ok 7), closed 0]⟩,
    ⟨⟨0⟩, .build (failedBuild 7 "6"), [said 1 "Job failed.", closed 1]⟩]

def heraldAfterReruns : Herald :=
  ⟨.empty, .empty, (Table.empty.put 7 0).put 7 1⟩

def heraldAfterSharedBuild : Herald :=
  ⟨Streaks.record .empty (failedBuild 7 "6"), .empty, ((Table.empty.put 7 0).put 7 1).erase 7⟩

theorem served_reruns : Served webSettings (sharedBuild.take 2) heraldAfterReruns := by
  have hverb : Verb.ofName? rerunUnit.name = some .rerun := by decide
  have hfirst : Served webSettings (sharedBuild.take 1) _ :=
    .next .fresh (runs_rerun .fresh hverb rfl)
  exact .next hfirst (runs_rerun _ hverb rfl)

theorem served_sharedBuild : Served webSettings sharedBuild heraldAfterSharedBuild :=
  .next served_reruns (runs_reported heraldAfterReruns rfl)

theorem sharedBuild_answered :
    Served webSettings sharedBuild heraldAfterSharedBuild ∧
      Answered sharedBuild heraldAfterSharedBuild ∧
      messages 0 sharedBuild = [rerunning unitJob, .over] ∧
      messages 1 sharedBuild = [rerunning unitJob, .line "Job failed.", .over] :=
  ⟨served_sharedBuild, all_answered served_sharedBuild (by decide), by decide, by decide⟩

end BuildHerald.Proofs.Waiting
