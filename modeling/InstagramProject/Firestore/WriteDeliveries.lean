/-
The client delivers its writes in order.  Its traffic refines an outbox whose items
are the writes with their callbacks: each callback is called once, in the order of the
writes, and the backend commits no write before an earlier one that still waits.
-/

import InstagramProject.Firestore.WriteSteps
import InstagramProject.Outboxes

namespace InstagramProject.Firestore

open Outboxes Transition

variable {V : Values} {Callback : Type}

/-- The writes of a user in a run, the earliest first. -/
def writesOf (user : User) :
    List (Client V Callback × WriteEvent V Callback) → List (Callback × List (Mutation V))
  | [] => []
  | (client, event) :: past =>
      writesOf user past ++ if client.currentUser = user then event.write?.toList else []

abbrev Write (V : Values) (Callback : Type) := Callback × List (Mutation V)

/-- What the write at a position asks for. -/
def payload (added : User → List (Write V Callback)) (position : User × Nat) :
    Option (List (Mutation V)) :=
  (added position.1)[position.2]?.map Prod.snd

def accepted (notice : Notice Callback) : User × Bool := (notice.user, notice.status = .ok)

/-- The traffic as an outbox. -/
structure Refines (outbox : Outbox User (Write V Callback)) (traffic : Traffic V Callback) :
    Prop where
  user : outbox.user = traffic.user
  replied : outbox.replied = traffic.replied
  answers : outbox.answers = traffic.notices.map accepted
  bounded : ∀ user, outbox.answered user ≤ (outbox.added user).length
  within : outbox.answered outbox.user + outbox.replied ≤ (outbox.added outbox.user).length
  pending : ∀ user, traffic.pending user =
    ((outbox.added user).drop (outbox.answered user)).map (fun write => (some write.1, write.2))
  notices : ∀ user, ((traffic.notices.filter (fun notice => notice.user = user)).map
      Notice.callback).reverse = ((outbox.added user).take (outbox.answered user)).map Prod.fst
  commits : outbox.log.map (payload outbox.added) = traffic.commits.map some
  late : outbox.late.map (List.map (payload outbox.added)) = traffic.late.map (List.map some)

/-! ### Positions -/

private theorem slice_eq {α : Type} {items : List α} {start length : Nat}
    (within : start + length ≤ items.length) :
    ((items.drop start).take length).map some =
      (List.range' start length).map (fun index => items[index]?) := by
  induction length generalizing start with
  | zero => rfl
  | succ length ih =>
      have bound : start < items.length := by omega
      rw [List.drop_eq_getElem_cons bound, List.take_succ_cons, List.map_cons, List.range'_succ,
        List.map_cons, List.getElem?_eq_getElem bound, ih (by omega)]

/-- A later write leaves the payloads of the earlier ones. -/
private theorem payload_added {added : User → List (Write V Callback)} {user : User}
    (write : Write V Callback) {position : User × Nat} {mutations : List (Mutation V)}
    (known : payload added position = some mutations) :
    payload (Function.update added user (added user ++ [write])) position = some mutations := by
  unfold payload at known ⊢
  by_cases same : position.1 = user
  · subst same
    obtain ⟨found, isFound, rfl⟩ := Option.map_eq_some_iff.mp known
    obtain ⟨bound, _⟩ := List.getElem?_eq_some_iff.mp isFound
    rw [Function.update_self, List.getElem?_append_left bound, isFound]
    rfl
  · rw [Function.update_of_ne same]
    exact known

private theorem payloads_added {added : User → List (Write V Callback)} {user : User}
    (write : Write V Callback) {positions : List (User × Nat)} {known : List (List (Mutation V))}
    (payloads : positions.map (payload added) = known.map some) :
    positions.map (payload (Function.update added user (added user ++ [write]))) =
      known.map some := by
  rw [← payloads]
  apply List.map_congr_left
  intro position member
  have isKnown : payload added position ∈ known.map some := by
    rw [← payloads]
    exact List.mem_map_of_mem member
  obtain ⟨mutations, _, found⟩ := List.mem_map.mp isKnown
  rw [← found]
  exact payload_added write found.symm

/-! ### Simulation -/

section Simulation

variable {outbox : Outbox User (Write V Callback)} {traffic : Traffic V Callback}

theorem refines_initial (user : User) :
    Refines (.empty user) (Client.initial user : Client V Callback).traffic where
  user := rfl
  replied := rfl
  answers := rfl
  bounded _ := Nat.zero_le _
  within := Nat.zero_le _
  pending _ := rfl
  notices _ := rfl
  commits := rfl
  late := rfl

private theorem Refines.write (refines : Refines outbox traffic) (callback : Callback)
    (mutations : List (Mutation V)) :
    Refines
      { outbox with
        added := Function.update outbox.added outbox.user
          (outbox.added outbox.user ++ [(callback, mutations)]) }
      { traffic with
        pending := Function.update traffic.pending traffic.user
          (traffic.pending traffic.user ++ [(some callback, mutations)]) } := by
  have bounded := refines.bounded
  refine ⟨refines.user, refines.replied, refines.answers, ?_, ?_, ?_, ?_, ?_, ?_⟩
  · intro user
    unfold Outbox.answered at bounded ⊢
    dsimp only
    by_cases same : user = outbox.user
    · subst same
      rw [Function.update_self, List.length_append]
      exact Nat.le_add_right_of_le (bounded _)
    · rw [Function.update_of_ne same]
      exact bounded user
  · have within := refines.within
    unfold Outbox.answered at within ⊢
    dsimp only
    rw [Function.update_self, List.length_append]
    exact Nat.le_add_right_of_le within
  · intro user
    have isPending := refines.pending user
    unfold Outbox.answered at bounded isPending ⊢
    dsimp only
    rw [← refines.user]
    by_cases same : user = outbox.user
    · subst same
      rw [Function.update_self, Function.update_self, List.drop_append_of_le_length (bounded _),
        List.map_append, ← isPending]
      rfl
    · rw [Function.update_of_ne same, Function.update_of_ne same]
      exact isPending
  · intro user
    have isNotices := refines.notices user
    unfold Outbox.answered at bounded isNotices ⊢
    dsimp only
    by_cases same : user = outbox.user
    · subst same
      rw [Function.update_self, List.take_append_of_le_length (bounded _)]
      exact isNotices
    · rw [Function.update_of_ne same]
      exact isNotices
  · exact payloads_added _ refines.commits
  · rw [← refines.late]
    apply List.map_congr_left
    intro positions member
    have isKnown : positions.map (payload outbox.added) ∈ traffic.late.map (List.map some) := by
      rw [← refines.late]
      exact List.mem_map_of_mem member
    obtain ⟨sent, _, found⟩ := List.mem_map.mp isKnown
    rw [← found]
    exact payloads_added _ found.symm

/-- The first write that waits is the first one that is not answered. -/
private theorem Refines.first (refines : Refines outbox traffic) {callback : Callback}
    {mutations : List (Mutation V)} {rest : List (Option Callback × List (Mutation V))}
    (first : traffic.pending traffic.user = (some callback, mutations) :: rest) :
    outbox.answered outbox.user < (outbox.added outbox.user).length ∧
      (outbox.added outbox.user)[outbox.answered outbox.user]? = some (callback, mutations) ∧
      ((outbox.added outbox.user).drop (outbox.answered outbox.user + 1)).map
        (fun write => (some write.1, write.2)) = rest := by
  have isPending := refines.pending traffic.user
  rw [first, ← refines.user] at isPending
  cases waiting : (outbox.added outbox.user).drop (outbox.answered outbox.user) with
  | nil =>
      rw [waiting] at isPending
      cases isPending
  | cons write others =>
      rw [waiting] at isPending
      cases isPending
      constructor
      · have length := congrArg List.length waiting
        rw [List.length_drop, List.length_cons] at length
        omega
      · constructor
        · have found := congrArg (fun writes => writes[0]?) waiting
          rw [List.getElem?_drop, Nat.add_zero] at found
          exact found
        · rw [← List.drop_drop, waiting]
          rfl

private theorem Refines.answer (refines : Refines outbox traffic) {callback : Callback}
    {mutations : List (Mutation V)} {rest : List (Option Callback × List (Mutation V))}
    (first : traffic.pending traffic.user = (some callback, mutations) :: rest)
    (status : Error) {replied : Nat}
    (within : outbox.answered outbox.user + 1 + replied ≤ (outbox.added outbox.user).length) :
    Refines
      { outbox with
        answers := (outbox.user, decide (status = .ok)) :: outbox.answers
        replied := replied }
      { traffic.answer callback status rest with replied := replied } := by
  obtain ⟨below, isFirst, isRest⟩ := refines.first first
  refine ⟨refines.user, rfl, ?_, ?_, ?_, ?_, ?_, refines.commits, refines.late⟩
  · unfold Traffic.answer
    dsimp only
    rw [List.map_cons, ← refines.answers, refines.user]
    rfl
  · intro user
    have bounded := refines.bounded user
    unfold Outbox.answered at bounded below ⊢
    rw [count_cons]
    split
    · rename_i same
      rw [← same]
      exact below
    · exact bounded
  · unfold Outbox.answered at within ⊢
    rw [count_cons, if_pos rfl]
    exact within
  · intro user
    have isPending := refines.pending user
    unfold Outbox.answered at isPending isRest ⊢
    unfold Traffic.answer
    dsimp only
    rw [count_cons, ← refines.user]
    by_cases same : outbox.user = user
    · subst same
      rw [Function.update_self, if_pos rfl, isRest]
    · rw [Function.update_of_ne (Ne.symm same), if_neg same]
      exact isPending
  · intro user
    have isNotices := refines.notices user
    unfold Outbox.answered at isNotices isFirst ⊢
    unfold Traffic.answer
    dsimp only
    rw [count_cons, ← refines.user, List.filter_cons]
    by_cases same : outbox.user = user
    · subst same
      rw [if_pos (decide_eq_true rfl), if_pos rfl, List.map_cons, List.reverse_cons, isNotices,
        List.take_add_one, isFirst, List.map_append]
      rfl
    · rw [if_neg (by rw [decide_eq_true_iff]; exact same), if_neg same]
      exact isNotices

/-- The writes on their way are at the positions behind the answered ones. -/
private theorem Refines.sent (refines : Refines outbox traffic) (count : Nat) :
    ∃ sent, outbox.answered outbox.user + outbox.replied + sent ≤
        (outbox.added outbox.user).length ∧
      (positions outbox.user (outbox.answered outbox.user + outbox.replied) sent).map
        (payload outbox.added) = (traffic.sent count).map some := by
  let writes := (outbox.added outbox.user).map Prod.snd
  let start := outbox.answered outbox.user + outbox.replied
  have within : start ≤ writes.length := by
    rw [List.length_map]
    exact refines.within
  have isSent : traffic.sent count = (writes.drop start).take count := by
    unfold Traffic.sent
    rw [refines.pending, ← refines.user, ← refines.replied, List.map_map, ← List.map_drop,
      List.drop_drop, ← List.map_drop]
    rfl
  refine ⟨min count (writes.length - start), ?_, ?_⟩
  · have isLength : writes.length = (outbox.added outbox.user).length := List.length_map _
    omega
  · rw [isSent, List.take_eq_take_min, List.length_drop, slice_eq (by omega), positions,
      List.map_map]
    apply List.map_congr_left
    intro index member
    exact (List.getElem?_map ..).symm

/-- Every move is a step of the outbox at most. -/
private theorem Refines.move (refines : Refines outbox traffic)
    {write : Option (Write V Callback)} {after : Traffic V Callback}
    (moves : Moves traffic write after) :
    ∃ next, Relation.ReflTransGen Outboxes.Step outbox next ∧ Refines next after ∧
      next.added = Function.update outbox.added outbox.user
        (outbox.added outbox.user ++ write.toList) := by
  have unchanged : outbox.added = Function.update outbox.added outbox.user
      (outbox.added outbox.user ++ (none : Option (Write V Callback)).toList) := by
    rw [Option.toList_none, List.append_nil, Function.update_eq_self]
  cases moves with
  | still => exact ⟨outbox, .refl, refines, unchanged⟩
  | write callback mutations =>
      exact ⟨_, .single (.add outbox (callback, mutations)), refines.write callback mutations, rfl⟩
  | @commit write next =>
      rw [refines.pending, ← refines.user, ← refines.replied, List.getElem?_map,
        List.getElem?_drop] at next
      obtain ⟨found, isFound, rfl⟩ := Option.map_eq_some_iff.mp next
      obtain ⟨below, _⟩ := List.getElem?_eq_some_iff.mp isFound
      refine ⟨_, .single (.commit below), ?_, unchanged⟩
      refine ⟨refines.user, ?_, refines.answers, refines.bounded, ?_, refines.pending,
        refines.notices, ?_, refines.late⟩
      · dsimp only
        rw [refines.replied]
      · exact below
      · dsimp only
        rw [List.map_append, refines.commits, List.map_append]
        congr 1
        change [(outbox.added outbox.user)[_]?.map Prod.snd] = _
        rw [isFound]
        rfl
  | @confirm callback mutations rest replied first answered =>
      have isReplied : outbox.replied = replied + 1 := refines.replied.trans answered
      have within := refines.within
      exact ⟨_, .single (.confirm isReplied), refines.answer first .ok (by omega), unchanged⟩
  | @refuse callback mutations rest status first disconnected permanent =>
      have isReplied : outbox.replied = 0 := refines.replied.trans disconnected
      obtain ⟨below, _⟩ := refines.first first
      have refused : decide (status = .ok) = false := by
        rw [decide_eq_false_iff_not]
        rintro rfl
        cases permanent
      have answered := refines.answer first status 
        (show outbox.answered outbox.user + 1 + 0 ≤ _ from Nat.succ_le_of_lt below)
      rw [refused] at answered
      have sameReplied : ({ outbox with
          answers := (outbox.user, false) :: outbox.answers } : Outbox User (Write V Callback)) =
          { outbox with
            answers := (outbox.user, false) :: outbox.answers
            replied := 0 } := by
        rw [isReplied]
      refine ⟨_, .single (.refuse isReplied below), ?_, unchanged⟩
      rw [sameReplied]
      have sameTraffic : traffic.answer callback status rest =
          { traffic.answer callback status rest with replied := 0 } := by
        rw [← disconnected]
        rfl
      rw [sameTraffic]
      exact answered
  | disconnect count =>
      obtain ⟨sent, within, isSent⟩ := refines.sent count
      refine ⟨_, .single (.disconnect sent within), ?_, unchanged⟩
      refine ⟨refines.user, rfl, refines.answers, refines.bounded, refines.bounded _,
        refines.pending, refines.notices, refines.commits, ?_⟩
      unfold Traffic.disconnect
      dsimp only
      rw [List.map_cons, List.map_cons, isSent, refines.late]
  | @commitLate index mutations rest waiting =>
      have late := refines.late
      have isLate := congrArg (fun sent => sent[index]?) late
      rw [List.getElem?_map, List.getElem?_map, waiting] at isLate
      obtain ⟨sent, isSent, payloads⟩ := Option.map_eq_some_iff.mp isLate
      cases sent with
      | nil => cases payloads
      | cons position others =>
          rw [List.map_cons, List.map_cons] at payloads
          obtain ⟨isFirst, isRest⟩ := List.cons.inj payloads
          refine ⟨_, .single (.commitLate isSent), ?_, unchanged⟩
          refine ⟨refines.user, refines.replied, refines.answers, refines.bounded, refines.within,
            refines.pending, refines.notices, ?_, ?_⟩
          · dsimp only
            rw [List.map_append, List.map_append, refines.commits, List.map_singleton, isFirst]
            rfl
          · dsimp only
            rw [List.map_set, List.map_set, late, isRest]
  | switch user disconnected =>
      have isReplied : outbox.replied = 0 := refines.replied.trans disconnected
      refine ⟨_, .single (.switch user isReplied), ?_, unchanged⟩
      refine ⟨rfl, refines.replied, refines.answers, refines.bounded, ?_, refines.pending,
        refines.notices, refines.commits, refines.late⟩
      dsimp only
      rw [isReplied]
      exact refines.bounded user

end Simulation

/-! ### Runs -/

namespace Client

variable {user : User} {past : List (Client V Callback × WriteEvent V Callback)}
  {client : Client V Callback}

/-- The notices of a user, the earliest first. -/
def noticesOf (client : Client V Callback) (user : User) : List (Notice Callback) :=
  (client.notices.filter (fun notice => notice.user = user)).reverse

/-- The run of a client is a run of an outbox. -/
private theorem refines_of_run (ran : Run step (.initial user) past client) :
    ∃ outbox, Relation.ReflTransGen Outboxes.Step (.empty user) outbox ∧
      Refines outbox client.traffic ∧ ∀ user, outbox.added user = writesOf user past := by
  induction ran with
  | start => exact ⟨.empty user, .refl, refines_initial user, fun _ => rfl⟩
  | @next past client event after earlier stepped ih =>
      obtain ⟨outbox, reached, refines, added⟩ := ih
      obtain ⟨_, _, handled⟩ := handled_of_step (sound_of_run earlier) stepped
      obtain ⟨middle, first, second⟩ := handled.moves
      obtain ⟨between, toBetween, refinesBetween, addedBetween⟩ := refines.move first
      obtain ⟨next, toNext, refinesNext, addedNext⟩ := refinesBetween.move second
      refine ⟨next, (reached.trans toBetween).trans toNext, refinesNext, fun other => ?_⟩
      have isUser : outbox.user = client.currentUser := refines.user
      rw [Option.toList_none, List.append_nil, Function.update_eq_self] at addedNext
      rw [addedNext, addedBetween, isUser, writesOf]
      by_cases same : client.currentUser = other
      · rw [same, Function.update_self, if_pos rfl, added]
      · rw [Function.update_of_ne (Ne.symm same), if_neg same, List.append_nil, added]

private theorem notices_of_moves {traffic after : Traffic V Callback}
    {write : Option (Write V Callback)} (moves : Moves traffic write after)
    (earlier : ∀ notice ∈ traffic.notices,
      notice.status = .ok ∨ isPermanentWriteError notice.status = .ok true) :
    ∀ notice ∈ after.notices,
      notice.status = .ok ∨ isPermanentWriteError notice.status = .ok true := by
  intro notice member
  cases moves with
  | still => exact earlier notice member
  | write callback mutations => exact earlier notice member
  | commit next => exact earlier notice member
  | confirm first answered =>
      rcases List.mem_cons.mp member with rfl | isEarlier
      · exact .inl rfl
      · exact earlier notice isEarlier
  | refuse first disconnected permanent =>
      rcases List.mem_cons.mp member with rfl | isEarlier
      · exact .inr permanent
      · exact earlier notice isEarlier
  | disconnect count => exact earlier notice member
  | commitLate waiting => exact earlier notice member
  | switch user disconnected => exact earlier notice member

private theorem notices_of_run (ran : Run step (.initial user) past client) :
    ∀ notice ∈ client.notices,
      notice.status = .ok ∨ isPermanentWriteError notice.status = .ok true := by
  induction ran with
  | start => exact List.forall_mem_nil _
  | next earlier stepped ih =>
      obtain ⟨_, _, handled⟩ := handled_of_step (sound_of_run earlier) stepped
      obtain ⟨middle, first, second⟩ := handled.moves
      exact notices_of_moves second (notices_of_moves first ih)

private theorem length_noticesOf {outbox : Outbox User (Write V Callback)}
    (refines : Refines outbox client.traffic) (other : User) :
    (client.noticesOf other).length = outbox.answered other := by
  unfold noticesOf Outbox.answered count
  rw [refines.answers, List.countP_map, List.length_reverse, ← List.countP_eq_length_filter]
  rfl

/-- The callbacks of a user's writes are called once each and in the order of the
writes, with success or a failure for good, and the writes behind them wait, with
their callbacks. -/
theorem writes_called_back (ran : Run step (.initial user) past client) (other : User) :
    (client.noticesOf other).map Notice.callback =
        ((writesOf other past).take (client.noticesOf other).length).map Prod.fst ∧
      client.pending other =
        ((writesOf other past).drop (client.noticesOf other).length).map
          (fun write => (some write.1, write.2)) ∧
      ∀ notice ∈ client.notices,
        notice.status = .ok ∨ isPermanentWriteError notice.status = .ok true := by
  obtain ⟨outbox, _, refines, added⟩ := refines_of_run ran
  rw [length_noticesOf refines, ← added]
  refine ⟨?_, refines.pending other, notices_of_run ran⟩
  unfold noticesOf
  rw [List.map_reverse]
  exact refines.notices other

/-- Alice writes a document twice.  The stream closes before the first answer is read,
so the first write is sent again. -/
def resentWrites : List (WriteEvent Values.texts String) :=
  [.enableNetwork,
    .write
      [{ key := ["posts", "a"], precondition := .none, operation := .set [("caption", "sunny")] }]
      "created",
    .write
      [{ key := ["posts", "a"]
         precondition := .existsIs true
         operation := .patch [("caption", some "rainy")] }]
      "updated",
    .token .ok, .reply ⟨0, []⟩, .streamRead, .reply ⟨3, [3]⟩, .streamFinish .unavailable,
    .backoffElapsed, .token .ok, .reply ⟨0, []⟩, .streamRead, .reply ⟨4, [4]⟩, .streamRead]

/-- The past and the client after a list of events, with alice signed in at first. -/
def reachedBy (events : List (WriteEvent Values.texts String)) :
    List (Client Values.texts String × WriteEvent Values.texts String) ×
      Client Values.texts String :=
  Transition.finish step (.initial (some "alice")) events

theorem run_reachedBy (events : List (WriteEvent Values.texts String))
    (completed : (Transition.run step [] (.initial (some "alice")) events).isSome) :
    Run step (.initial (some "alice")) (reachedBy events).1 (reachedBy events).2 :=
  Run.finish events completed

theorem writes_called_back_resent :
    let client := (reachedBy resentWrites).2
    client.commits.length = 2 ∧
      (client.noticesOf (some "alice")).map Notice.callback = ["created"] ∧
      (client.pending (some "alice")).map Prod.fst = [some "updated"] := by
  intro client
  obtain ⟨called, waiting, _⟩ :=
    writes_called_back (run_reachedBy resentWrites (by decide +kernel)) (some "alice")
  have length : (client.noticesOf (some "alice")).length = 1 := by decide +kernel
  rw [length] at called waiting
  refine ⟨by decide +kernel, ?_, ?_⟩
  · rw [called]
    decide +kernel
  · rw [waiting]
    decide +kernel

/-- What the backend commits are writes of the run.  Those whose callbacks report
success are committed in that order, and no write of a user is committed before an
earlier one, unless that one was refused. -/
theorem writes_committed_in_order (ran : Run step (.initial user) past client) :
    ∃ log : List (User × Nat),
      client.commits.map some = log.map (payload (fun other => writesOf other past)) ∧
      (confirmed (client.notices.map accepted)).Sublist log ∧
      ∀ other earlier later, (other, later) ∈ log → earlier < later →
        (other, earlier) ∈ log ∨
          ∃ notice, (client.noticesOf other)[earlier]? = some notice ∧ notice.status ≠ .ok := by
  obtain ⟨outbox, reached, refines, added⟩ := refines_of_run ran
  have ordered := ordered_of_reachable reached
  have isAdded : outbox.added = fun other => writesOf other past := funext added
  have inLog : (confirmed (client.notices.map accepted)).Sublist outbox.log := by
    have within := (List.sublist_append_left _ _).trans ordered.confirmed
    rw [refines.answers] at within
    exact within
  refine ⟨outbox.log, ?_, inLog, ?_⟩
  · rw [← isAdded]
    exact refines.commits.symm
  · intro other earlier later member before
    rcases ordered.log other earlier later member before with isAnswered | logged
    · unfold Outbox.answered at isAnswered
      rw [refines.answers] at isAnswered
      rcases confirmed_or_refused isAnswered with isConfirmed | refused
      · exact .inl (inLog.subset isConfirmed)
      · rw [List.filter_map, ← List.map_reverse, List.getElem?_map] at refused
        obtain ⟨notice, found, isRefused⟩ := Option.map_eq_some_iff.mp refused
        refine .inr ⟨notice, found, ?_⟩
        exact of_decide_eq_false (Prod.mk.inj isRefused).2
    · exact .inl logged

theorem writes_committed_in_order_resent :
    let client := (reachedBy (resentWrites ++ [.reply ⟨5, [5]⟩, .streamRead])).2
    client.commits.length = 3 ∧
      ∃ log : List (User × Nat), log.length = 3 ∧
        [(some "alice", 0), (some "alice", 1)].Sublist log := by
  intro client
  have commits : client.commits.length = 3 := by decide +kernel
  obtain ⟨log, isLog, confirmed, _inOrder⟩ := writes_committed_in_order
    (run_reachedBy (resentWrites ++ [.reply ⟨5, [5]⟩, .streamRead]) (by decide +kernel))
  refine ⟨commits, log, ?_, ?_⟩
  · have length := congrArg List.length isLog
    rw [List.length_map, List.length_map] at length
    exact length.symm.trans commits
  · have isConfirmed : Outboxes.confirmed (client.notices.map accepted) =
        [(some "alice", 0), (some "alice", 1)] := by
      decide +kernel
    rw [← isConfirmed]
    exact confirmed

/-- A move of one user leaves the writes and the callbacks of the others. -/
private theorem others_of_moves {traffic after : Traffic V Callback}
    {write : Option (Write V Callback)} (moves : Moves traffic write after) {other : User}
    (away : traffic.user ≠ other ∨ after.user ≠ other) :
    after.pending other = traffic.pending other ∧
      after.notices.filter (fun notice => notice.user = other) =
        traffic.notices.filter (fun notice => notice.user = other) := by
  have answered {traffic : Traffic V Callback} (isAway : traffic.user ≠ other)
      (callback : Callback) (status : Error) (rest : List (Option Callback × List (Mutation V))) :
      (traffic.answer callback status rest).pending other = traffic.pending other ∧
        (traffic.answer callback status rest).notices.filter (fun notice => notice.user = other) =
          traffic.notices.filter (fun notice => notice.user = other) := by
    constructor
    · exact Function.update_of_ne (Ne.symm isAway) _ _
    · exact List.filter_cons_of_neg (by rw [decide_eq_true_iff]; exact isAway)
  cases moves with
  | still => exact ⟨rfl, rfl⟩
  | write callback mutations =>
      exact ⟨Function.update_of_ne (Ne.symm (or_self_iff.mp away)) _ _, rfl⟩
  | commit next => exact ⟨rfl, rfl⟩
  | confirm first isReplied => exact answered (or_self_iff.mp away) _ _ _
  | refuse first disconnected permanent => exact answered (or_self_iff.mp away) _ _ _
  | disconnect count => exact ⟨rfl, rfl⟩
  | commitLate waiting => exact ⟨rfl, rfl⟩
  | switch user disconnected => exact ⟨rfl, rfl⟩

/-- While a user is not signed in, the user's writes wait and no callback of theirs is
called. -/
theorem writes_wait_while_away {recent : List (Client V Callback × WriteEvent V Callback)}
    {later : Client V Callback} (ran : Run step (.initial user) past client)
    (longer : Run step client recent later) {other : User}
    (away : ∀ moment ∈ recent, moment.1.currentUser ≠ other)
    (stillAway : later.currentUser ≠ other) :
    later.pending other = client.pending other ∧
      later.noticesOf other = client.noticesOf other := by
  have waiting : later.Sound ∧ ((∀ moment ∈ recent, moment.1.currentUser ≠ other) →
      later.currentUser ≠ other → later.pending other = client.pending other ∧
        later.noticesOf other = client.noticesOf other) := by
    clear away stillAway
    induction longer with
    | start => exact ⟨sound_of_run ran, fun _ _ => ⟨rfl, rfl⟩⟩
    | @next recent between event after _earlier stepped ih =>
        obtain ⟨sound, same⟩ := ih
        obtain ⟨_, _, handled⟩ := handled_of_step sound stepped
        refine ⟨handled.sound, ?_⟩
        intro away stillAway
        rw [List.forall_mem_cons] at away
        obtain ⟨samePending, sameNotices⟩ := same away.2 away.1
        obtain ⟨middle, first, second⟩ := handled.moves
        obtain ⟨firstPending, firstNotices⟩ := others_of_moves first (.inl away.1)
        obtain ⟨secondPending, secondNotices⟩ := others_of_moves second (.inr stillAway)
        constructor
        · rw [← samePending]
          exact secondPending.trans firstPending
        · rw [← sameNotices]
          exact congrArg List.reverse (secondNotices.trans firstNotices)
  exact waiting.2 away stillAway

/-- Alice signs out before her second write is answered, and Bob's write is answered. -/
theorem writes_wait_while_away_bob :
    let away := (reachedBy (resentWrites ++ [.credentialChange (some "bob")])).2
    let later := Transition.finish step away
      [.write [{ key := ["posts", "b"], precondition := .none, operation := .set [] }] "written",
        .token .ok, .reply ⟨0, []⟩, .streamRead, .reply ⟨6, [6]⟩, .streamRead]
    (later.2.noticesOf (some "bob")).map Notice.callback = ["written"] ∧
      (later.2.pending (some "alice")).map Prod.fst = [some "updated"] := by
  intro away later
  have ran := run_reachedBy (resentWrites ++ [.credentialChange (some "bob")]) (by decide +kernel)
  have longer : Run step away later.1 later.2 := Run.finish _ (by decide +kernel)
  have waits : later.2.pending (some "alice") = away.pending (some "alice") ∧ _ :=
    writes_wait_while_away ran longer (by decide +kernel) (by decide +kernel)
  refine ⟨by decide +kernel, ?_⟩
  rw [waits.1]
  decide +kernel

/-- In every run the pipeline holds the first ten writes of the queue while the network
is enabled, and no event makes an assertion fail but the end of the stream in success
while one of them waits. -/
theorem assertion_fails_iff {user : User}
    {past : List (Client V Callback × WriteEvent V Callback)}
    (ran : Transition.Run step (.initial user) past client) :
    client.writePipeline =
        (if client.isNetworkEnabled then client.localStore.mutationQueue.queue.take 10 else []) ∧
      ∀ event : WriteEvent V Callback,
        (∃ message, client.handle event = some (.error message)) ↔
          event = .streamFinish .ok ∧ client.writeStream.isOpen = true ∧
            client.writePipeline ≠ [] := by
  have sound := sound_of_run ran
  refine ⟨sound.pipeline, fun event => ?_⟩
  constructor
  · rintro ⟨message, failed⟩
    rcases handled_of_handle sound failed with ⟨rfl, waiting, _⟩ | ⟨_, _, impossible, _⟩
    · refine ⟨rfl, ?_, waiting⟩
      by_contra closed
      simp only [handle, closed, if_false] at failed
      cases failed
    · cases impossible
  · rintro ⟨rfl, opened, waiting⟩
    have started := started_of_isOpen opened
    refine ⟨"Write stream was stopped gracefully while still needed.", ?_⟩
    rw [handle, if_pos opened, close_needed started (sound.enabled_of_started started) waiting]

theorem assertion_fails_resent :
    let client := (reachedBy resentWrites).2
    client.writePipeline.length = 1 ∧
      ∃ message, client.handle (.streamFinish .ok) = some (.error message) := by
  intro client
  obtain ⟨pipeline, fails⟩ := assertion_fails_iff (run_reachedBy resentWrites (by decide +kernel))
  constructor
  · rw [pipeline]
    decide +kernel
  · refine (fails _).mpr ⟨rfl, by decide +kernel, ?_⟩
    rw [← List.length_pos_iff]
    decide +kernel

end Client

end InstagramProject.Firestore
