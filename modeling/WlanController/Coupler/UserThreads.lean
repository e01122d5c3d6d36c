import WlanController.Coupler.UserQueue

/-!
# The two threads of the user simulator

A thread does one thing under the lock and looks at the result in another step.  The strings come
out of the array in the order in which they went in, whatever the steps of the threads.  That every
user is handed to the middleware once takes more: no thread may look at the result of the other.
-/

namespace WlanController.Coupler

open CircularCells

variable {α : Type}

/-! ## The threads -/

/-- The values of the variable `reply`: `-1`, `1`, and the address of `data`. -/
inductive Reply where
  | failed | inserted | pointer
  deriving DecidableEq, Repr

/-- The thread `real`, with the string it has read.  When the lock is free again `done` says what
`insq` has done. -/
inductive Real (α : Type) where
  | reading
  | holding (str1 : α)
  | returned (str1 : α) (done : Bool)

/-- The thread `del`, which waits for a response to what it has written. -/
inductive Del where
  | running
  | returned (done : Bool)
  | waiting

/-- Both threads and what they share, with what has been read from the pipe, what has been inserted
and removed under the lock, and what has been written to the file of the middleware. -/
structure Simulator (α : Type) where
  users : UserQueue α
  reply : Reply
  data : α
  real : Real α
  del : Del
  received : List α
  inserted : List α
  removed : List α
  written : List α

inductive Event (α : Type) where
  | receive (str1 : α)
  | insert
  | checkInsert
  | remove
  | checkRemove
  | respond

inductive Outcome (α : Type) where
  /-- The thread is not there. -/
  | blocked
  | crashed
  | next (s : Simulator α)

/-- A step of one of the threads.  `real` goes back to `retry` where it finds `-1`, and `del` copies
the string at the address that it finds. -/
def act (s : Simulator α) : Event α → Outcome α
  | .receive str1 =>
    match s.real with
    | .reading => .next { s with real := .holding str1, received := s.received ++ [str1] }
    | _ => .blocked
  | .insert =>
    match s.real with
    | .holding str1 =>
      match s.users.insq str1 with
      | none => .crashed
      | some (true, users) =>
        .next { s with
          users, reply := .inserted, real := .returned str1 true
          inserted := s.inserted ++ [str1] }
      | some (false, users) =>
        .next { s with users, reply := .failed, real := .returned str1 false }
    | _ => .blocked
  | .checkInsert =>
    match s.real with
    | .returned str1 _ =>
      if s.reply = .failed then .next { s with real := .holding str1 }
      else .next { s with real := .reading }
    | _ => .blocked
  | .remove =>
    match s.del with
    | .running =>
      match s.users.delq with
      | none => .crashed
      | some (none, users) => .next { s with users, reply := .failed, del := .returned false }
      | some (some string, users) =>
        .next { s with
          users, reply := .pointer, data := string, del := .returned true
          removed := s.removed ++ [string] }
    | _ => .blocked
  | .checkRemove =>
    match s.del with
    | .returned _ =>
      match s.reply with
      | .failed => .next { s with del := .running }
      | .inserted => .crashed
      | .pointer => .next { s with del := .waiting, written := s.written ++ [s.data] }
    | _ => .blocked
  | .respond =>
    match s.del with
    | .waiting => .next { s with del := .running }
    | _ => .blocked

def Step (s : Simulator α) (event : Event α) (s' : Simulator α) : Prop := act s event = .next s'

def Simulator.initial (queue : Fin maxQueue → α) (data : α) : Simulator α where
  users := ⟨queue, -1, -1, 0⟩
  reply := .failed
  data
  real := .reading
  del := .running
  received := []
  inserted := []
  removed := []
  written := []

/-! ## First in, first out -/

/-- The strings in the array, from the first one on. -/
def UserQueue.strings (users : UserQueue α) : List α :=
  (List.range users.qCounter.toNat).filterMap fun count : Nat =>
    (cell ((users.front + count) % maxQueue)).map users.queue

theorem filterMap_range_getElem? (items : List α) (count : Nat) :
    (List.range count).filterMap (fun i => items[i]?) = items.take count := by
  induction count with
  | zero => rfl
  | succ count inductionHypothesis =>
    rw [List.range_succ, List.filterMap_append, inductionHypothesis, List.take_add_one]
    cases found : items[count]? <;> simp [found]

theorem Represents.strings_eq {users : UserQueue α} {waiting : List α}
    (represents : Represents users waiting) : users.strings = waiting := by
  have counted := represents.counted
  have each : ∀ count ∈ List.range waiting.length,
      (cell ((users.front + count) % maxQueue)).map users.queue = waiting[count]? := by
    intro count inside
    have inside := List.mem_range.mp inside
    have inhabited : waiting ≠ [] := by
      intro none
      rw [none] at inside
      cases inside
    obtain ⟨front, _, here, _, holds⟩ := represents.inhabited inhabited
    have within := index_lt (show 0 < maxQueue from Nat.succ_pos 4) front count
    have position : (users.front + count) % maxQueue = (index maxQueue front count : Nat) := by
      rw [here, index]
      exact (Int.natCast_emod (front + count) maxQueue).symm
    have string := holds.2 count ⟨_, within⟩ rfl waiting[count] (List.getElem?_eq_getElem inside)
    rw [position, cell, dif_pos ⟨Int.natCast_nonneg _, within⟩, List.getElem?_eq_getElem inside]
    exact congrArg some string
  rw [UserQueue.strings, counted, Int.toNat_natCast, List.filterMap_congr each,
    filterMap_range_getElem?, List.take_length]

/-! ## Steps over the list of those that wait -/

/-- The steps, with what the operations make of the list of strings. -/
inductive Moves (s : Simulator α) : List α → Event α → Simulator α → List α → Prop where
  | receive {waiting : List α} {str1 : α} (reading : s.real = .reading) :
    Moves s waiting (.receive str1)
      { s with real := .holding str1, received := s.received ++ [str1] } waiting
  | full {waiting : List α} {str1 : α} (holding : s.real = .holding str1)
      (full : waiting.length = maxQueue) :
    Moves s waiting .insert { s with reply := .failed, real := .returned str1 false } waiting
  | insert {waiting : List α} {str1 : α} (holding : s.real = .holding str1)
      (users : UserQueue α) :
    Moves s waiting .insert { s with
      users, reply := .inserted, real := .returned str1 true
      inserted := s.inserted ++ [str1] } (waiting ++ [str1])
  | retry {waiting : List α} {str1 : α} {done : Bool} (returned : s.real = .returned str1 done)
      (failed : s.reply = .failed) :
    Moves s waiting .checkInsert { s with real := .holding str1 } waiting
  | settle {waiting : List α} {str1 : α} {done : Bool} (returned : s.real = .returned str1 done)
      (succeeded : s.reply ≠ .failed) :
    Moves s waiting .checkInsert { s with real := .reading } waiting
  | empty (running : s.del = .running) :
    Moves s [] .remove { s with reply := .failed, del := .returned false } []
  | remove {waiting : List α} {string : α} (running : s.del = .running) (users : UserQueue α) :
    Moves s (string :: waiting) .remove { s with
      users, reply := .pointer, data := string, del := .returned true
      removed := s.removed ++ [string] } waiting
  | again {waiting : List α} {done : Bool} (returned : s.del = .returned done)
      (failed : s.reply = .failed) :
    Moves s waiting .checkRemove { s with del := .running } waiting
  | hand {waiting : List α} {done : Bool} (returned : s.del = .returned done)
      (found : s.reply = .pointer) :
    Moves s waiting .checkRemove { s with del := .waiting, written := s.written ++ [s.data] }
      waiting
  | respond {waiting : List α} (responded : s.del = .waiting) :
    Moves s waiting .respond { s with del := .running } waiting

variable {s s' : Simulator α} {waiting : List α} {event : Event α}

/-- What an event makes of a simulator whose array has these strings. -/
theorem act_cases (represents : Represents s.users waiting) (event : Event α) :
    act s event = .blocked ∨
      (∃ s' waiting', act s event = .next s' ∧ Moves s waiting event s' waiting' ∧
        Represents s'.users waiting') ∨
      (act s event = .crashed ∧ event = .checkRemove ∧ s.reply = .inserted ∧
        ∃ done, s.del = .returned done) := by
  cases event with
  | receive str1 =>
    cases real : s.real with
    | reading =>
      exact .inr (.inl ⟨_, waiting, by rw [act, real], .receive real, represents⟩)
    | holding str1 => exact .inl (by rw [act, real])
    | returned str1 done => exact .inl (by rw [act, real])
  | insert =>
    cases real : s.real with
    | reading => exact .inl (by rw [act, real])
    | returned str1 done => exact .inl (by rw [act, real])
    | holding str1 =>
      refine .inr (.inl ?_)
      have inserted := represents.insq str1
      -- The queue is full or has room, as `insq` sees it.
      split at inserted
      next full =>
        refine ⟨{ s with reply := .failed, real := .returned str1 false }, waiting, ?_,
          .full real full, represents⟩
        simp only [act, real, inserted]
      next room =>
        obtain ⟨users, answered, represents'⟩ := inserted
        refine ⟨_, _, ?_, .insert real users, represents'⟩
        simp only [act, real, answered]
  | checkInsert =>
    cases real : s.real with
    | reading => exact .inl (by rw [act, real])
    | holding str1 => exact .inl (by rw [act, real])
    | returned str1 done =>
      refine .inr (.inl ?_)
      by_cases failed : s.reply = .failed
      · exact ⟨_, waiting, by simp only [act, real, if_pos failed], .retry real failed, represents⟩
      · exact ⟨_, waiting, by simp only [act, real, if_neg failed], .settle real failed,
          represents⟩
  | remove =>
    cases del : s.del with
    | returned done => exact .inl (by rw [act, del])
    | waiting => exact .inl (by rw [act, del])
    | running =>
      refine .inr (.inl ?_)
      cases waiting with
      | nil =>
        refine ⟨{ s with reply := .failed, del := .returned false }, [], ?_, .empty del, represents⟩
        simp only [act, del, represents.delq_nil]
      | cons string waiting =>
        obtain ⟨users, answered, represents'⟩ := represents.delq_cons
        refine ⟨_, _, ?_, .remove del users, represents'⟩
        simp only [act, del, answered]
  | checkRemove =>
    cases del : s.del with
    | running => exact .inl (by rw [act, del])
    | waiting => exact .inl (by rw [act, del])
    | returned done =>
      cases reply : s.reply with
      | failed =>
        exact .inr (.inl ⟨_, waiting, by simp only [act, del, reply], .again del reply, represents⟩)
      -- The reply is that of the other thread, and `del` prints the string at that address.
      | inserted => exact .inr (.inr ⟨by simp only [act, del, reply], rfl, rfl, done, rfl⟩)
      | pointer =>
        exact .inr (.inl ⟨_, waiting, by simp only [act, del, reply], .hand del reply, represents⟩)
  | respond =>
    cases del : s.del with
    | running => exact .inl (by rw [act, del])
    | returned done => exact .inl (by rw [act, del])
    | waiting => exact .inr (.inl ⟨_, waiting, by rw [act, del], .respond del, represents⟩)

theorem moves_of_step (represents : Represents s.users waiting) (step : Step s event s') :
    ∃ waiting', Moves s waiting event s' waiting' ∧ Represents s'.users waiting' := by
  obtain blocked | ⟨_, waiting', next, moves, represents'⟩ | ⟨crashed, _⟩ :=
    act_cases represents event
  · rw [Step, blocked] at step
    cases step
  · rw [Step, next] at step
    cases step
    exact ⟨waiting', moves, represents'⟩
  · rw [Step, crashed] at step
    cases step

/-! ## First in, first out -/

/-- What has been inserted has been removed or, behind that, waits in the array, which has room for
no more than five. -/
def Simulator.Ordered (s : Simulator α) : Prop :=
  s.inserted = s.removed ++ s.users.strings ∧ s.users.strings.length ≤ maxQueue ∧
    s.users.qCounter = s.users.strings.length

def Simulator.Logged (s : Simulator α) : Prop :=
  ∃ waiting, Represents s.users waiting ∧ s.inserted = s.removed ++ waiting

theorem Simulator.Logged.ordered (logged : s.Logged) : s.Ordered := by
  obtain ⟨waiting, represents, inserted⟩ := logged
  rw [Simulator.Ordered, represents.strings_eq]
  exact ⟨inserted, represents.length_le, represents.counted⟩

theorem Simulator.Logged.step (logged : s.Logged) (step : Step s event s') : s'.Logged := by
  obtain ⟨waiting, represents, inserted⟩ := logged
  obtain ⟨waiting', moves, represents'⟩ := moves_of_step represents step
  refine ⟨waiting', represents', ?_⟩
  cases moves with
  | receive reading => exact inserted
  | full holding full => exact inserted
  | insert holding users => simp [inserted]
  | retry returned failed => exact inserted
  | settle returned succeeded => exact inserted
  | empty running => exact inserted
  | remove running users => simp [inserted]
  | again returned failed => exact inserted
  | hand returned found => exact inserted
  | respond responded => exact inserted

theorem logged_initial (queue : Fin maxQueue → α) (data : α) :
    (Simulator.initial queue data).Logged :=
  ⟨[], Represents.initial queue, rfl⟩

/-- In every state of every run the strings are in order, and neither operation accesses anything
outside the array. -/
theorem users_ordered (queue : Fin maxQueue → α) (data : α) (events : List (Event α)) :
    Run.AllSteps Step
      (fun s _ => s.Ordered ∧ act s .insert ≠ .crashed ∧ act s .remove ≠ .crashed)
      (Simulator.initial queue data) events := by
  have sound : ∀ s : Simulator α, s.Logged →
      s.Ordered ∧ act s .insert ≠ .crashed ∧ act s .remove ≠ .crashed := by
    intro s logged
    refine ⟨logged.ordered, ?_⟩
    obtain ⟨waiting, represents, _⟩ := logged
    have crashes : ∀ event, act s event = .crashed → event = .checkRemove := by
      intro event crashed
      obtain blocked | ⟨_, _, next, _⟩ | ⟨_, same, _⟩ := act_cases represents event
      · rw [blocked] at crashed
        cases crashed
      · rw [next] at crashed
        cases crashed
      · exact same
    exact ⟨fun crashed => (nomatch crashes .insert crashed),
      fun crashed => (nomatch crashes .remove crashed)⟩
  exact Run.AllSteps.of_invariant (fun s e s' logged step => Simulator.Logged.step logged step)
    (fun s e logged => sound s logged) (logged_initial queue data) events

/-! ## Every user once -/

/-- What `real` has read and has not put into the array. -/
def Simulator.held (s : Simulator α) : List α :=
  match s.real with
  | .holding str1 => [str1]
  | .returned str1 false => [str1]
  | _ => []

/-- What `del` has taken out and not written yet. -/
def Simulator.carried (s : Simulator α) : List α :=
  match s.del with
  | .returned true => [s.data]
  | _ => []

/-- Everything that has been read is somewhere, once and in order. -/
def Simulator.Accounted (s : Simulator α) : Prop :=
  s.received = s.written ++ s.carried ++ s.users.strings ++ s.held

def Delivers (s : Simulator α) (event : Event α) : Prop :=
  match act s event with
  | .blocked => True
  | .crashed => False
  | .next s' => s'.Accounted

/-- A thread that looks at the result finds what it has left there. -/
def Undisturbed (s : Simulator α) : Event α → Prop
  | .checkInsert => ∀ str1 done, s.real = .returned str1 done → (s.reply = .failed ↔ done = false)
  | .checkRemove => ∀ done, s.del = .returned done →
    s.reply = if done = true then .pointer else .failed
  | _ => True

/-- Only `del` leaves an address, and only where it has taken a string out. -/
def Simulator.Tracked (s : Simulator α) : Prop :=
  ∃ waiting, Represents s.users waiting ∧
    s.received = s.written ++ s.carried ++ waiting ++ s.held ∧
      (s.del = .returned false → s.reply ≠ .pointer)

theorem Simulator.Tracked.accounted (tracked : s.Tracked) : s.Accounted := by
  obtain ⟨waiting, represents, received, _⟩ := tracked
  rw [Simulator.Accounted, represents.strings_eq]
  exact received

theorem Simulator.Tracked.step (tracked : s.Tracked) (delivers : Delivers s event)
    (step : Step s event s') : s'.Tracked := by
  obtain ⟨waiting, represents, _, own⟩ := tracked
  obtain ⟨waiting', moves, represents'⟩ := moves_of_step represents step
  rw [Delivers, show act s event = .next s' from step] at delivers
  simp only [Simulator.Accounted, represents'.strings_eq] at delivers
  refine ⟨waiting', represents', delivers, ?_⟩
  cases moves with
  | receive reading => exact own
  | full holding full => exact fun _ => Reply.noConfusion
  | insert holding users => exact fun _ => Reply.noConfusion
  | retry returned failed => exact own
  | settle returned succeeded => exact own
  | empty running => exact fun _ => Reply.noConfusion
  | remove running users => exact fun returned => by cases returned
  | again returned failed => exact fun returned => by cases returned
  | hand returned found => exact fun returned => by cases returned
  | respond responded => exact fun returned => by cases returned

/-- Where everything is accounted for, it is after an event just where the event is undisturbed. -/
theorem Simulator.Tracked.delivers_iff (tracked : s.Tracked) (event : Event α) :
    Delivers s event ↔ Undisturbed s event := by
  obtain ⟨waiting, represents, received, own⟩ := tracked
  obtain blocked | ⟨s', waiting', next, moves, represents'⟩ | ⟨crashed, rfl, inserted, done, del⟩ :=
    act_cases represents event
  · rw [Delivers, blocked]
    refine iff_of_true trivial ?_
    cases event with
    | checkInsert =>
      intro str1 done returned
      simp only [act, returned] at blocked
      split at blocked <;> cases blocked
    | checkRemove =>
      intro done returned
      simp only [act, returned] at blocked
      split at blocked <;> cases blocked
    | receive str1 => trivial
    | insert => trivial
    | remove => trivial
    | respond => trivial
  · rw [Delivers, next]
    simp only [Simulator.Accounted, represents'.strings_eq]
    cases moves with
    | receive reading =>
      refine iff_of_true ?_ trivial
      simp [received, Simulator.carried, Simulator.held, reading]
    | full holding full =>
      refine iff_of_true ?_ trivial
      simp [received, Simulator.carried, Simulator.held, holding]
    | insert holding users =>
      refine iff_of_true ?_ trivial
      simp [received, Simulator.carried, Simulator.held, holding]
    | @retry _ str1 done returned failed =>
      cases done with
      | false =>
        refine iff_of_true ?_ ?_
        · simp [received, Simulator.carried, Simulator.held, returned]
        · intro str1' done' same
          rw [returned] at same
          cases same
          exact iff_of_true failed rfl
      | true =>
        -- the string is in the array, and will be put there again
        refine iff_of_false ?_ ?_
        · simp [received, Simulator.carried, Simulator.held, returned]
        · intro undisturbed
          have own := (undisturbed str1 true returned).mp failed
          cases own
    | @settle _ str1 done returned succeeded =>
      cases done with
      | false =>
        -- the string is forgotten
        refine iff_of_false ?_ ?_
        · simp [received, Simulator.carried, Simulator.held, returned]
        · exact fun undisturbed => succeeded ((undisturbed str1 false returned).mpr rfl)
      | true =>
        refine iff_of_true ?_ ?_
        · simp [received, Simulator.carried, Simulator.held, returned]
        · intro str1' done' same
          rw [returned] at same
          cases same
          exact iff_of_false succeeded Bool.noConfusion
    | empty running =>
      refine iff_of_true ?_ trivial
      simp [received, Simulator.carried, Simulator.held, running]
    | remove running users =>
      refine iff_of_true ?_ trivial
      simp [received, Simulator.carried, Simulator.held, running]
    | @again _ done returned failed =>
      cases done with
      | false =>
        refine iff_of_true ?_ ?_
        · simp [received, Simulator.carried, Simulator.held, returned]
        · intro done' same
          rw [returned] at same
          cases same
          exact failed
      | true =>
        refine iff_of_false ?_ ?_
        · simp [received, Simulator.carried, Simulator.held, returned]
        · intro undisturbed
          have own := undisturbed true returned
          rw [failed] at own
          cases own
    | @hand _ done returned found =>
      cases done with
      | false => exact absurd found (own returned)
      | true =>
        refine iff_of_true ?_ ?_
        · simp [received, Simulator.carried, Simulator.held, returned]
        · intro done' same
          rw [returned] at same
          cases same
          exact found
    | respond responded =>
      refine iff_of_true ?_ trivial
      simp [received, Simulator.carried, Simulator.held, responded]
  · rw [Delivers, crashed]
    refine iff_of_false id ?_
    intro undisturbed
    have same := undisturbed done del
    rw [inserted] at same
    cases done <;> cases same

theorem tracked_initial (queue : Fin maxQueue → α) (data : α) :
    (Simulator.initial queue data).Tracked :=
  ⟨[], Represents.initial queue, rfl, fun returned => by cases returned⟩

/-- The first user is taken out and the array found empty before `real` looks at its result. -/
example : ¬ Run.AllSteps Step Undisturbed (Simulator.initial (fun _ => 0) 0)
    [.receive 7, .insert, .remove, .checkRemove, .respond, .remove, .checkInsert] := by
  intro all
  have disturbed := (((((((all.2 _ rfl).2 _ rfl).2 _ rfl).2 _ rfl).2 _ rfl).2 _ rfl).1) 7 true rfl
  exact Bool.noConfusion (disturbed.mp rfl)

end WlanController.Coupler
