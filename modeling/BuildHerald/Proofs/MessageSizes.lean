import BuildHerald.Proofs.NotifiedMessages

/-!
How many messages a notification takes.

What is shown of a transcript is bounded in characters, but a message is bounded in bytes. A notification
is one message exactly if its bytes fit, for which the bound on the characters is not enough.
-/

namespace BuildHerald.Proofs.MessageSizes

open BuildHerald.Http
open BuildHerald.Telegram
open BuildHerald.Telegram.Markup
open BuildHerald.Telegram.Portions
open BuildHerald.Proofs.Conversation
open BuildHerald.Proofs.FencedBlocks
open BuildHerald.Proofs.Listening (Sent localBot)
open BuildHerald.Proofs.NotifiedMessages
open BuildHerald.Proofs.Portioning
open BuildHerald.Proofs.Sending

/-! ### Sizes -/

theorem size_replicate (count : Nat) (c : Char) :
    size (List.replicate count c) = count * c.utf8Size := by
  induction count with
  | zero => rw [Nat.zero_mul]; rfl
  | succ count ih => rw [List.replicate_succ, size, ih, Nat.succ_mul, Nat.add_comm]

theorem size_of_one_byte_each {text : List Char} (hall : ∀ c ∈ text, c.utf8Size = 1) :
    size text = text.length := by
  induction text with
  | nil => rfl
  | cons c rest ih =>
      rw [List.forall_mem_cons] at hall
      rw [size, ih hall.2, hall.1, List.length_cons, Nat.add_comm]

theorem length_shownOf_le (transcript : String) :
    (shownOf transcript).length ≤ transcriptLimit :=
  (shownOf_suffix transcript).2.trans_le (min_le_left _ _)

/-- The replacement of fences keeps the size. -/
theorem size_of_replaces {text body : List Char} (hreplaces : Replaces text body) :
    size body = size text := by
  induction hreplaces with
  | nil => rfl
  | three _ ih =>
      rw [size_append, size_append, ih, fence, size_replicate, size_replicate]
      rfl
  | char _ _ ih => rw [size, size, ih]

section Size

variable (notification : Notification)

theorem size_heading :
    size (heading notification) = size notification.severity.marker.toList +
      size notification.title.toList + size notification.link.toList + 5 := by
  have hmarks : size [' ', '['] + size [']', '('] + size [')'] = 5 := by decide
  simp only [heading_eq, beforeLink, beforeTitle, size_append]
  omega

theorem size_block (transcript : String) :
    size (block transcript) =
      if shownOf transcript = [] then 0 else size (shownOf transcript) + 9 := by
  have hline : Char.utf8Size '\n' = 1 := by decide
  have hfence : size fence = 3 := by decide
  have hbody := size_of_replaces (replaces_withoutFences (shownOf transcript))
  rw [block]
  simp only [List.isEmpty_iff]
  split
  · rfl
  · simp only [size_append, size, hline, hfence, hbody]
    omega

theorem size_format :
    size (format notification) = size notification.severity.marker.toList +
      size notification.title.toList + size notification.link.toList + 5 +
        if shownOf notification.output = [] then 0
        else size (shownOf notification.output) + 9 := by
  rw [format, size_append, size_heading, size_block]

theorem size_marker_le : size notification.severity.marker.toList ≤ 6 := by
  cases notification.severity <;> decide

/-- A notification does not end in a blank. -/
theorem exists_format_eq_concat :
    ∃ start c, format notification = start ++ [c] ∧ Text.isBlank c = false := by
  rw [format_eq]
  split
  · exact ⟨_, ')', by rw [heading_eq, List.append_nil], by decide⟩
  · refine ⟨heading notification ++ (blockStart (excerptOf notification).body ++
      [fenceSign, fenceSign]), fenceSign, ?_, by decide⟩
    rw [List.append_assoc, List.append_assoc]
    rfl

end Size

/-- A text that does not end in a blank is one portion only if it fits. -/
theorem length_ofText_eq_one_iff {limit : Nat} (hlimit : 4 ≤ limit) {start : List Char} {c : Char}
    (hc : Text.isBlank c = false) :
    (ofText limit (start ++ [c])).length = 1 ↔ size (start ++ [c]) ≤ limit := by
  constructor
  · intro hone
    by_contra hlong
    obtain ⟨portion, hportion⟩ := List.length_eq_one_iff.mp hone
    have hsplits : Splits limit (start ++ [c]) [portion] := by
      have hportioned := (portioned_iff hlimit).mpr hportion.symm
      rwa [Portioned, if_neg hlong] at hportioned
    obtain ⟨gaps, hlength, hblank, hjoined⟩ := joined_of_splits hsplits
    obtain ⟨gap, rfl⟩ := List.length_eq_one_iff.mp hlength
    have hfits := List.forall_mem_singleton.mp (fits_of_splits hsplits)
    -- The single portion leaves out blanks at the end only, of which there are none.
    have hwhole : start ++ [c] = portion ++ gap := by simpa [Portioning.Joined] using hjoined
    obtain rfl | ⟨others, last, rfl⟩ := gap.eq_nil_or_concat
    · rw [hwhole, List.append_nil] at hlong
      exact hlong hfits
    · rw [List.concat_eq_append, ← List.append_assoc] at hwhole
      obtain rfl : c = last := List.singleton_inj.mp (List.append_inj_right' hwhole rfl)
      have hlast : Text.isBlank c = true := hblank _ List.mem_cons_self c (by simp)
      rw [hc] at hlast
      cases hlast
  · intro hfits
    rw [ofText_of_fits hfits]
    rfl

/-! ### Messages that are taken -/

/-- The requests of a trace that the server has taken. -/
def takenIn (trace : List Sent) : List Sent :=
  trace.filter fun sent => sent.answer.any Response.isSuccess

section Taken

variable {bot : Bot} {envelope : Request} {message : Bot.Message} {attempt : Attempt}
  {attempts : List Attempt} {portions : List (List Char)} {trace : List Sent} {ids : List Int}

theorem length_takenIn_of_attempt (hretried : attempt.IsRetried) (htaken : attempt.isTaken = true) :
    (takenIn (attempt.sent envelope message)).length = 1 := by
  obtain ⟨text, first, again⟩ := attempt
  cases again with
  | none =>
      have hfirst : first.any Response.isSuccess = true := htaken
      simp [takenIn, Attempt.sent, hfirst]
  | some outcome =>
      obtain ⟨response, rfl, hrefused⟩ := hretried.mp rfl
      have hagain : outcome.any Response.isSuccess = true := htaken
      simp [takenIn, Attempt.sent, hrefused, hagain]

theorem length_takenIn_of_attempts (hretried : ∀ attempt ∈ attempts, attempt.IsRetried)
    (htaken : ∀ attempt ∈ attempts, attempt.isTaken = true) :
    (takenIn (attempts.flatMap (Attempt.sent envelope message))).length = attempts.length := by
  induction attempts with
  | nil => rfl
  | cons attempt later ih =>
      rw [List.forall_mem_cons] at hretried htaken
      have hone : (takenIn (attempt.sent envelope message)).length = 1 :=
        length_takenIn_of_attempt hretried.1 htaken.1
      have hlater := ih hretried.2 htaken.2
      rw [takenIn] at hone hlater ⊢
      rw [List.flatMap_cons, List.filter_append, List.length_append, hone, hlater, List.length_cons,
        Nat.add_comm]

/-- When a message has been sent, as many messages have been taken as it has portions. -/
theorem length_takenIn_of_course
    (hcourse : Course envelope message portions attempts trace (.ok ids)) :
    (takenIn trace).length = portions.length := by
  obtain ⟨htexts, htaken⟩ := hcourse.completed.mp ⟨ids, rfl⟩
  rw [hcourse.trace_eq, length_takenIn_of_attempts hcourse.retried htaken, ← htexts,
    List.length_map]

theorem length_takenIn {notification : Notification} {memory after : Recall}
    (hruns : Runs (bot.notify memory notification) trace (.ok (), after)) :
    (takenIn trace).length = (ofText messageLimit (format notification)).length := by
  obtain ⟨hsend, -, -⟩ | ⟨_, _, hfailed, -⟩ := runs_notify_iff.mp hruns
  · obtain ⟨_, _, _, hfailed⟩ | ⟨_, _, _, hcourse⟩ := course_of_send hsend
    · cases hfailed
    · exact length_takenIn_of_course hcourse
  · cases hfailed

/-- The server can take a message in any number of portions. -/
theorem exists_runs_taken {response : Response} (henvelope : envelope? bot = .ok envelope)
    (hsuccess : response.isSuccess = true) (message : Bot.Message) :
    ∃ trace ids, Runs (bot.send message) trace (.ok ids) := by
  rw [Bot.send]
  generalize ofText messageLimit message.text = portions
  have htexts : (portions.map fun text => (⟨text, some response, none⟩ : Attempt)).map Attempt.text =
      portions := by
    rw [List.map_map]
    exact List.map_id portions
  rw [← htexts]
  refine ⟨_, _, runs_sendAll_of_taken henvelope ?_ ?_⟩
  · exact List.forall_mem_map.mpr fun text _ => Attempt.isRetried_taken text hsuccess
  · exact List.forall_mem_map.mpr fun _ _ => hsuccess

end Taken

/-! ### One message -/

theorem length_portions_eq_one_iff (notification : Notification) :
    (ofText messageLimit (format notification)).length = 1 ↔
      size (format notification) ≤ messageLimit := by
  have hlimit : 4 ≤ messageLimit := by decide
  obtain ⟨start, c, heq, hc⟩ := exists_format_eq_concat notification
  rw [heq]
  exact length_ofText_eq_one_iff hlimit hc

/-- A notification is one message exactly if it fits. With a short title and link it does if little enough
is shown of the transcript, in bytes, or if every character of that takes one byte. -/
theorem one_message_iff (notification : Notification) :
    size (format notification) = size notification.severity.marker.toList +
        size notification.title.toList + size notification.link.toList + 5 +
          (if shownOf notification.output = [] then 0
          else size (shownOf notification.output) + 9) ∧
      ((ofText messageLimit (format notification)).length = 1 ↔
        size (format notification) ≤ messageLimit) ∧
      (size (format notification) ≤ messageLimit →
        ofText messageLimit (format notification) = [format notification]) ∧
      (size notification.title.toList + size notification.link.toList ≤ 1000 →
        size (shownOf notification.output) ≤ 3076 ∨
          (∀ c ∈ shownOf notification.output, c.utf8Size = 1) →
        (ofText messageLimit (format notification)).length = 1) ∧
      ∀ bot memory trace after, Runs (Bot.notify bot memory notification) trace (.ok (), after) →
        ((takenIn trace).length = 1 ↔ size (format notification) ≤ messageLimit) := by
  have hone := length_portions_eq_one_iff notification
  refine ⟨size_format notification, hone, ofText_of_fits, fun hheading hshown => ?_,
    fun bot memory trace after hruns => by rw [length_takenIn hruns, hone]⟩
  have hmarker := size_marker_le notification
  have hfew : size (shownOf notification.output) ≤ 3076 := by
    obtain hfew | hall := hshown
    · exact hfew
    · rw [size_of_one_byte_each hall]
      exact (length_shownOf_le notification.output).trans (by decide)
  rw [hone, size_format, messageLimit]
  split <;> omega

/-- The transcript of a short notification is shown in one message. -/
theorem failure_in_one_message :
    size (failure 3).title.toList + size (failure 3).link.toList ≤ 1000 ∧
      size (shownOf (failure 3).output) ≤ 3076 ∧
      (ofText messageLimit (format (failure 3))).length = 1 ∧
      ∃ trace after, Runs (localBot.notify .empty (failure 3)) trace (.ok (), after) ∧
        (takenIn trace).length = 1 := by
  obtain ⟨envelope, henvelope⟩ := exists_envelope
  obtain ⟨trace, -, hruns⟩ := runs_notify_at_once henvelope failure_fits idIn?_accepted .empty
  have hheading : size (failure 3).title.toList + size (failure 3).link.toList ≤ 1000 := by decide
  have hshown : size (shownOf (failure 3).output) ≤ 3076 := by
    rw [shownOf_failure (by decide), size_replicate]
    decide
  obtain ⟨-, -, -, hone, htaken⟩ := one_message_iff (failure 3)
  exact ⟨hheading, hshown, hone hheading (.inl hshown), trace, _, hruns,
    (htaken localBot .empty trace _ hruns).mpr failure_fits⟩

/-- A transcript with as many characters as are shown at the most, of two bytes each, is not shown in one
message. -/
theorem failure_not_in_one_message :
    size (failure 3000).title.toList + size (failure 3000).link.toList ≤ 1000 ∧
      (ofText messageLimit (format (failure 3000))).length ≠ 1 ∧
      ∃ trace after, Runs (localBot.notify .empty (failure 3000)) trace (.ok (), after) ∧
        (takenIn trace).length ≠ 1 := by
  have hmany : (ofText messageLimit (format (failure 3000))).length ≠ 1 := by
    have hsize : Char.utf8Size 'é' = 2 := by decide
    have hnonempty : List.replicate 3000 'é' ≠ [] := List.cons_ne_nil 'é' (List.replicate 2999 'é')
    rw [Ne, length_portions_eq_one_iff, size_format, shownOf_failure (le_refl 3000),
      if_neg hnonempty, size_replicate, hsize, messageLimit]
    omega
  obtain ⟨envelope, henvelope⟩ := exists_envelope
  obtain ⟨hsuccess, -⟩ := idIn?_eq_some_iff.mp idIn?_accepted
  obtain ⟨trace, ids, hsend⟩ :=
    exists_runs_taken henvelope hsuccess (posting localBot (failure 3000))
  obtain rfl := toldIds_of_sent hsend
  have hruns : Runs (localBot.notify .empty (failure 3000)) trace (.ok (), _) :=
    runs_notify_iff.mpr (.inl ⟨hsend, rfl, rfl⟩)
  exact ⟨by decide, hmany, trace, _, hruns, by rwa [length_takenIn hruns]⟩

end BuildHerald.Proofs.MessageSizes
