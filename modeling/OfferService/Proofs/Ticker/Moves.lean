import OfferService.Proofs.Path
import OfferService.Ticker.Step

/-
  OfferService.Proofs.Ticker.Moves

  The moves of a ticker, opened once: `Move` lists what each action can come to, with all that was
  checked before it. The functions after it read the events of a run: when the ticker fired, and
  what a stream was told.
-/
namespace OfferService.Ticker

/-! ## Moves -/

/-- All that an action can come to. -/
inductive Move (s : Scene) : Action → Moved → Prop
  | start (free : s.holder = .free) (created : s.ticker.phase = .created) :
      Move s .start
        ({ s with ticker := { s.ticker with phase := .running, task := .starting } },
          [.started s.now])
  | startRefused (free : s.holder = .free) (begun : s.ticker.phase ≠ .created) :
      Move s .start (s, [.refused .alreadyStarted])
  | beginClose (free : s.holder = .free) (running : s.ticker.phase = .running) :
      Move s .beginClose
        ({ s with ticker := { s.ticker with stopping := true }, holder := .closing }, [.closeBegan])
  | closeRefused (free : s.holder = .free) (idle : s.ticker.phase ≠ .running) :
      Move s .beginClose (s, [.refused .notRunning])
  | endClose (closing : s.holder = .closing) (down : s.ticker.isDown = true) :
      Move s .endClose ({ s with ticker := s.ticker.endClose, holder := .free }, [.closed])
  | drop (free : s.holder = .free) :
      Move s .drop ({ s with ticker := s.ticker.drop, holder := .gone }, [.dropped])
  | listen (free : s.holder = .free) :
      Move s .listen
        ({ s with streams := s.streams ++ [s.ticker.stream] },
          [.opened s.streams.length s.ticker.count])
  | tellTick {i stream} (found : s.streams[i]? = some stream)
      (unseen : s.ticker.count ≠ stream.seen) :
      Move s (.tell i)
        ({ s with streams := s.streams.modify i fun _ => s.ticker.stream },
          [.told i (.tick s.ticker.count)])
  | tellEnd {i stream} (found : s.streams[i]? = some stream) (seen : s.ticker.count = stream.seen)
      (down : s.ticker.isDown = true) : Move s (.tell i) (s, [.told i .ended])
  /-- The clock has no moment for the first tick. -/
  | die (starting : s.ticker.task = .starting) (endless : s.ticker.period = .longest) :
      Move s .task ({ s with ticker := { s.ticker with task := .failed } }, [])
  | settle {d} (starting : s.ticker.task = .starting) (period : s.ticker.period = .millis d) :
      Move s .task ({ s with ticker := { s.ticker with task := .sleeping (s.now + d) } }, [])
  | finish {deadline} (sleeping : s.ticker.task = .sleeping deadline)
      (asked : s.ticker.stopping = true) :
      Move s .task ({ s with ticker := { s.ticker with task := .ended } }, [])
  | tick {deadline} (sleeping : s.ticker.task = .sleeping deadline)
      (unasked : s.ticker.stopping = false) (due : deadline ≤ s.now) :
      Move s .task
        ({ s with
            ticker := { s.ticker with
              count := s.ticker.count + 1
              task := .sleeping (nextDeadline deadline s.now s.ticker.period.toMillis) } },
          [.ticked s.now])
  | wait {span} (settled : s.ticker.move s.now = none)
      (inTime : ∀ deadline, s.ticker.task = .sleeping deadline → s.now + span ≤ deadline) :
      Move s (.wait span) ({ s with now := s.now + span }, [.waited span])
  | jump {span} : Move s (.jump span) ({ s with now := s.now + span }, [.jumped span])

variable {s : Scene} {a : Action} {m : Moved}

theorem exists_of_call {r : Except TickerError Moved} (h : call s r = some m) :
    s.holder = .free ∧ (r = .ok m ∨ ∃ e, r = .error e ∧ m = (s, [.refused e])) := by
  unfold call at h
  split at h
  · rename_i free
    refine ⟨free, ?_⟩
    split at h
    · exact Or.inl (congrArg _ (Option.some.inj h))
    · exact Or.inr ⟨_, rfl, (Option.some.inj h).symm⟩
  · cases h

theorem start_cases (h : step s .start = some m) : Move s .start m := by
  obtain ⟨free, hr⟩ := exists_of_call h
  unfold Ticker.start at hr
  by_cases created : s.ticker.phase = .created
  · rw [if_pos created] at hr
    obtain hr | ⟨e, hr, -⟩ := hr
    · obtain rfl := Except.ok.inj hr
      exact .start free created
    · cases hr
  · rw [if_neg created] at hr
    obtain hr | ⟨e, hr, rfl⟩ := hr
    · cases hr
    · cases hr
      exact .startRefused free created

theorem beginClose_cases (h : step s .beginClose = some m) : Move s .beginClose m := by
  obtain ⟨free, hr⟩ := exists_of_call h
  unfold Ticker.beginClose at hr
  by_cases running : s.ticker.phase = .running
  · rw [if_pos running] at hr
    obtain hr | ⟨e, hr, -⟩ := hr
    · obtain rfl := Except.ok.inj hr
      exact .beginClose free running
    · cases hr
  · rw [if_neg running] at hr
    obtain hr | ⟨e, hr, rfl⟩ := hr
    · cases hr
    · cases hr
      exact .closeRefused free running

theorem endClose_cases (h : step s .endClose = some m) : Move s .endClose m := by
  simp only [step] at h
  split at h
  · rename_i hboth
    cases h
    exact .endClose hboth.1 hboth.2
  · cases h

theorem tell_cases {i : Nat} (h : step s (.tell i) = some m) : Move s (.tell i) m := by
  obtain ⟨signal, hsignal, rfl⟩ := Option.map_eq_some_iff.mp h
  obtain ⟨stream, found, hnext⟩ := Option.bind_eq_some_iff.mp hsignal
  unfold Ticker.next at hnext
  split at hnext
  · rename_i unseen
    obtain rfl := Option.some.inj hnext
    exact .tellTick found unseen
  · rename_i hseen
    split at hnext
    · rename_i down
      obtain rfl := Option.some.inj hnext
      -- A stream that is told the end has seen as much as before.
      have hsame : s.streams.modify i (fun stream => stream.after .ended) = s.streams :=
        List.modify_id i s.streams
      rw [hsame]
      exact .tellEnd found (Decidable.not_not.mp hseen) down
    · cases hnext

theorem task_cases (h : step s .task = some m) : Move s .task m := by
  obtain ⟨t, hmove, rfl⟩ := Option.map_eq_some_iff.mp h
  have hsame : ¬ s.ticker.count < s.ticker.count := Nat.lt_irrefl _
  unfold Ticker.move at hmove
  split at hmove
  · rename_i starting endless
    obtain rfl := Option.some.inj hmove
    rw [if_neg hsame]
    exact .die starting endless
  · rename_i starting period
    obtain rfl := Option.some.inj hmove
    rw [if_neg hsame]
    exact .settle starting period
  · rename_i sleeping
    split at hmove
    · rename_i asked
      obtain rfl := Option.some.inj hmove
      rw [if_neg hsame]
      exact .finish sleeping asked
    · rename_i hasked
      split at hmove
      · rename_i due
        obtain rfl := Option.some.inj hmove
        rw [if_pos (Nat.lt_succ_self _)]
        exact .tick sleeping (by simpa using hasked) due
      · cases hmove
  · cases hmove

theorem wait_cases {span : Nat} (h : step s (.wait span) = some m) : Move s (.wait span) m := by
  simp only [step] at h
  split at h
  · rename_i hidle
    cases h
    obtain ⟨settled, inTime⟩ := Bool.and_eq_true_iff.mp hidle
    refine .wait (Option.isNone_iff_eq_none.mp settled) fun deadline sleeping => ?_
    rw [Ticker.alarm, sleeping] at inTime
    exact of_decide_eq_true inTime
  · cases h

/-- All that can be done to a ticker. -/
theorem move_cases (h : step s a = some m) : Move s a m := by
  cases a with
  | start => exact start_cases h
  | beginClose => exact beginClose_cases h
  | endClose => exact endClose_cases h
  | drop =>
    simp only [step] at h
    split at h
    · rename_i free
      cases h
      exact .drop free
    · cases h
  | listen =>
    simp only [step] at h
    split at h
    · rename_i free
      cases h
      exact .listen free
    · cases h
  | tell i => exact tell_cases h
  | task => exact task_cases h
  | wait span => exact wait_cases h
  | jump span =>
    obtain rfl := Option.some.inj h
    exact .jump

/-! ## Events -/

namespace Event

/-- The moment at which the ticker was started. -/
def start : Event → List Nat
  | .started moment => [moment]
  | _ => []

/-- The moment at which the ticker fired. -/
def tick : Event → List Nat
  | .ticked moment => [moment]
  | _ => []

/-- What a stream was told. -/
def signal (i : Nat) : Event → List Signal
  | .told j signal => if j = i then [signal] else []
  | _ => []

end Event

/-- The moments at which the ticker was started. -/
def starts (es : List Event) : List Nat := es.flatMap Event.start

/-- The moments at which the ticker fired, in that order. -/
def ticks (es : List Event) : List Nat := es.flatMap Event.tick

/-- What a stream was told, in that order. -/
def signals (i : Nat) (es : List Event) : List Signal := es.flatMap (Event.signal i)

section

variable (es fs : List Event)

@[simp] theorem starts_append : starts (es ++ fs) = starts es ++ starts fs := List.flatMap_append

@[simp] theorem ticks_append : ticks (es ++ fs) = ticks es ++ ticks fs := List.flatMap_append

@[simp] theorem signals_append (i : Nat) :
    signals i (es ++ fs) = signals i es ++ signals i fs := List.flatMap_append

end

variable {t : Scene} {as : List Action} {es before later new : List Event} {e : Event}

/-- No more than one thing happens at a time. -/
theorem length_le_of_step (h : step s a = some (t, new)) : new.length ≤ 1 := by
  cases move_cases h <;> simp

/-- A path on which something happens leads to the action that brings it about, and goes on. -/
theorem exists_of_event (h : Path step s as (before ++ e :: later) t) :
    ∃ bs u a v cs, Path step s bs before u ∧ step u a = some (v, [e]) ∧
      Path step v cs later t := by
  cases h.passes with
  | @mk bs old u a left right v cs onward' hither now onward =>
    have hlength := length_le_of_step now
    rw [List.length_append, List.length_cons] at hlength
    obtain rfl : left = [] := List.length_eq_zero_iff.mp (by omega)
    obtain rfl : right = [] := List.length_eq_zero_iff.mp (by omega)
    rw [List.append_nil, List.nil_append]
    exact ⟨bs, u, a, v, cs, hither, now, onward⟩

theorem count_of_step (h : step s a = some (t, new)) :
    t.ticker.count = s.ticker.count + (ticks new).length := by
  cases move_cases h <;> rfl

/-- The count is the number of ticks. -/
theorem count_of_path (h : Path step s as es t) :
    t.ticker.count = s.ticker.count + (ticks es).length := by
  refine h.invariant (P := fun _ es u => u.ticker.count = s.ticker.count + (ticks es).length)
    rfl ?_
  intro _ es u _ v new _ ih hstep
  rw [count_of_step hstep, ih, ticks_append, List.length_append, Nat.add_assoc]

end OfferService.Ticker
