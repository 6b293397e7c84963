import OfferService.Proofs.Schedule
import OfferService.Proofs.Ticker.Lifecycle
import OfferService.Ticker.Session

/-
  OfferService.Proofs.Ticker.Session

  Sessions with a ticker as runs of its moves. A session lets the task move whenever it can, and
  takes the clock from one alarm to the next; each of these is a move that a ticker can make. So
  what holds of a ticker however its parties take turns holds in every session.
-/
namespace OfferService.Ticker

variable {p : Period} {t : Ticker} {es : List Event}

/-- Does a ticker do this by itself, while time goes by? -/
def Event.own : Event → Bool
  | .ticked _ => true
  | .waited _ => true
  | _ => false

/-- What happens on request. -/
def talk (es : List Event) : List Event := es.filter fun e => !e.own

/-- Does only whoever holds the ticker ask for this? -/
def Request.ofHolder : Request → Bool
  | .await .. => false
  | .sleep _ => false
  | .jump _ => false
  | _ => true

namespace Session

variable {s u v : Session} {holder holder' holder'' : Holder} {said said' : List Event}

/-- A session as a state of its ticker. -/
def scene (holder : Holder) (s : Session) : Scene :=
  { ticker := s.state.ticker, now := s.now, streams := s.state.streams, holder }

/-! ## The schedule -/

/-- The schedule is right: a task that can move will, and its alarm is set. -/
structure Regular (s : Session) : Prop where
  positive : 0 < s.state.ticker.period.toMillis
  able : s.ready = [] → s.state.ticker.move s.now = none
  alarms : s.alarms = s.state.ticker.alarm.toList.map fun deadline => ((), deadline)

/-- However the alarms were set, they are right once they are set anew. -/
theorem alarms_refresh (s : Session) (few : s.alarms.length ≤ 1) :
    (s.refresh system).alarms = s.state.ticker.alarm.toList.map fun deadline => ((), deadline) := by
  obtain ⟨state, now, ready, alarms⟩ := s
  cases halarm : state.ticker.alarm with
  | none => simp [Run.refresh, system, halarm]
  | some deadline =>
    cases alarms with
    | nil => simp [Run.refresh, system, halarm]
    | cons a rest =>
      obtain rfl : rest = [] :=
        List.length_eq_zero_iff.mp (Nat.le_zero.mp (Nat.le_of_succ_le_succ few))
      by_cases hsame : deadline = a.2
      · subst hsame
        simp [Run.refresh, system, halarm]
      · simp [Run.refresh, system, halarm, hsame]

/-- The task is queued up if it was not, and can move. -/
theorem ready_refresh (s : Session) : (s.refresh system).ready =
    if s.ready = [] ∧ (s.state.ticker.move s.now).isSome then [()] else s.ready := by
  obtain ⟨state, now, ready, alarms⟩ := s
  cases ready with
  | nil => cases hmove : state.ticker.move now <;> simp [Run.refresh, system, hmove]
  | cons _ rest => simp [Run.refresh, system]

theorem regular_refresh (s : Session) (positive : 0 < s.state.ticker.period.toMillis)
    (few : s.alarms.length ≤ 1) : Regular (s.refresh system) := by
  refine ⟨positive, fun hready => ?_, alarms_refresh s few⟩
  rw [ready_refresh] at hready
  split at hready
  · cases hready
  · rename_i hboth
    exact Option.not_isSome_iff_eq_none.mp fun moves => hboth ⟨hready, moves⟩

theorem length_ready_refresh (s : Session) :
    (s.refresh system).ready.length ≤ max s.ready.length 1 := by
  rw [ready_refresh]
  split
  · exact Nat.le_max_right _ _
  · exact Nat.le_max_left _ _

theorem Regular.length_alarms (h : Regular s) : s.alarms.length ≤ 1 := by
  rw [h.alarms, List.length_map]
  cases s.state.ticker.alarm <;> simp

/-- The schedule is right, and the task is queued up once at most. -/
structure Orderly (s : Session) : Prop extends Regular s where
  few : s.ready.length ≤ 1

/-- The schedule is right, and the task is at rest. -/
structure Still (s : Session) : Prop extends Regular s where
  idle : s.ready = []

theorem Still.settled (h : Still s) : s.state.ticker.move s.now = none := h.able h.idle

theorem Still.orderly (h : Still s) : Orderly s :=
  ⟨h.toRegular, by rw [h.idle]; exact Nat.zero_le _⟩

theorem orderly_refresh (s : Session) (positive : 0 < s.state.ticker.period.toMillis)
    (few : s.alarms.length ≤ 1 ∧ s.ready.length ≤ 1) : Orderly (s.refresh system) :=
  ⟨regular_refresh s positive few.1,
    Nat.le_trans (length_ready_refresh s) (Nat.max_le.mpr ⟨few.2, Nat.le_refl _⟩)⟩

/-! ## What a session does by itself -/

theorem talk_append (es fs : List Event) : talk (es ++ fs) = talk es ++ talk fs :=
  List.filter_append ..

/-- A session comes to another one, and this is what happens on request on the way. -/
def Comes (holder : Holder) (s : Session) (said : List Event) (holder' : Holder) (u : Session) :
    Prop :=
  ∃ as es, Path Ticker.step (scene holder s) as es (scene holder' u) ∧ talk es = said

theorem Comes.trans (h : Comes holder s said holder' u) (h' : Comes holder' u said' holder'' v) :
    Comes holder s (said ++ said') holder'' v := by
  obtain ⟨as, es, hpath, rfl⟩ := h
  obtain ⟨bs, fs, hpath', rfl⟩ := h'
  exact ⟨as ++ bs, es ++ fs, hpath.trans hpath', talk_append es fs⟩

/-- A session comes to another one by itself. -/
def Drifts (s u : Session) : Prop := ∀ holder, Comes holder s [] holder u

theorem Drifts.refl (s : Session) : Drifts s s := fun _ => ⟨[], [], .refl, rfl⟩

theorem Drifts.trans (h : Drifts s u) (h' : Drifts u v) : Drifts s v :=
  fun holder => (h holder).trans (h' holder)

/-- How much there is to do at a moment. -/
def backlog (s : Session) : Nat := unrest s.now s.state.ticker + s.ready.length

/-- One move of the schedule is a move of the task, or takes it from the queue. -/
theorem drifts_step (h : Regular s) (hstep : s.step system = some u) :
    Drifts s u ∧ Regular u ∧ backlog u < backlog s := by
  unfold Run.step at hstep
  split at hstep
  · cases hstep
  · rename_i task rest hready
    split at hstep
    · rename_i state hmove
      obtain ⟨t, hmoves, rfl⟩ := Option.map_eq_some_iff.mp hmove
      cases hstep
      have hpath (holder : Holder) := step_of_move (s := scene holder s) hmoves
      have hperiod : t.period = s.state.ticker.period := period_of_step (hpath .free)
      refine ⟨fun holder => ⟨_, _, .single (hpath holder), ?_⟩, ?_, ?_⟩
      · split <;> rfl
      · exact regular_refresh _ (hperiod ▸ h.positive) h.length_alarms
      · have hless := unrest_lt hmoves h.positive
        unfold backlog
        rw [ready_refresh, if_neg (by simp [hready])]
        exact Nat.add_lt_add_right hless _
    · rename_i hmove
      cases hstep
      refine ⟨fun holder => ⟨[], [], .refl, rfl⟩, ⟨h.positive, fun _ => ?_, h.alarms⟩, ?_⟩
      · exact Option.map_eq_none_iff.mp hmove
      · unfold backlog
        rw [hready]
        exact Nat.lt_succ_self _

theorem drifts_settle_go (fuel : Nat) (h : Regular s) (enough : backlog s < fuel) :
    Drifts s (Run.settle.go system fuel s) ∧ Still (Run.settle.go system fuel s) := by
  induction fuel generalizing s with
  | zero => exact absurd enough (Nat.not_lt_zero _)
  | succ fuel ih =>
    unfold Run.settle.go
    cases hstep : s.step system with
    | none =>
      refine ⟨.refl s, h, ?_⟩
      unfold Run.step at hstep
      split at hstep
      · assumption
      · split at hstep <;> cases hstep
    | some u =>
      obtain ⟨hdrifts, hregular, hless⟩ := drifts_step h hstep
      obtain ⟨hrest, hstill⟩ := ih hregular (by omega)
      exact ⟨hdrifts.trans hrest, hstill⟩

/-- A session comes to rest. -/
theorem drifts_settle (h : Regular s) (few : s.ready.length ≤ 2) :
    Drifts s (s.settle system) ∧ Still (s.settle system) := by
  refine drifts_settle_go Run.moveLimit h ?_
  have hunrest : backlog s ≤ tolerance + 1 + 2 :=
    Nat.add_le_add (unrest_le s.now s.state.ticker) few
  exact Nat.lt_of_le_of_lt hunrest (by decide)

/-! ## Time -/

theorem scene_clockTo (holder : Holder) (s : Session) (moment : Nat) :
    scene holder (s.clockTo system moment) = { scene holder s with now := max s.now moment } := rfl

/-- Moving the clock leaves the schedule right; the alarm may have gone off. -/
theorem regular_clockTo (h : Regular s) (moment : Nat) : Regular (s.clockTo system moment) ∧
    (s.clockTo system moment).ready.length ≤ s.ready.length + 1 := by
  have hdue : ((s.upcoming.filter fun a => a.2 ≤ moment).map (·.1)).length ≤ 1 :=
    calc _ ≤ s.upcoming.length := by
          rw [List.length_map]
          exact List.length_filter_le _ _
      _ ≤ s.alarms.length := by
          unfold Run.upcoming
          rw [List.length_mergeSort]
          exact List.length_filter_le _ _
      _ ≤ 1 := h.length_alarms
  refine ⟨regular_refresh _ h.positive h.length_alarms, ?_⟩
  refine Nat.le_trans (length_ready_refresh _) (Nat.max_le.mpr ⟨?_, Nat.le_add_left _ _⟩)
  rw [List.length_append]
  exact Nat.add_le_add_left hdue _

/-- Whoever is at rest waits for a later moment. -/
theorem Still.lt_alarm (h : Still s) {deadline : Nat}
    (halarm : s.state.ticker.alarm = some deadline) : s.now < deadline := by
  unfold Ticker.alarm at halarm
  split at halarm
  · rename_i sleeping
    obtain rfl := Option.some.inj halarm
    exact lt_of_settled h.settled sleeping
  · cases halarm

theorem Still.nextAlarm_eq (h : Still s) : s.nextAlarm = s.state.ticker.alarm := by
  unfold Run.nextAlarm Run.upcoming
  rw [h.alarms]
  cases halarm : s.state.ticker.alarm with
  | none => simp
  | some deadline => simp [h.lt_alarm halarm]

/-- The clock goes on from rest, no further than to the next alarm. -/
theorem drifts_clockTo {moment : Nat} (h : Still s)
    (inTime : s.nextAlarm.all (moment ≤ ·) = true) :
    Drifts s (s.clockTo system moment) ∧ Orderly (s.clockTo system moment) := by
  obtain ⟨hregular, hfew⟩ := regular_clockTo h.toRegular moment
  rw [h.idle] at hfew
  refine ⟨fun holder => ?_, hregular, hfew⟩
  let span := max s.now moment - s.now
  have hmoment : s.now + span = max s.now moment := Nat.add_sub_cancel' (Nat.le_max_left _ _)
  have hidle : idleUntil (scene holder s) (s.now + span) = true := by
    refine Bool.and_eq_true_iff.mpr ⟨Option.isNone_iff_eq_none.mpr h.settled, ?_⟩
    rw [hmoment]
    rw [h.nextAlarm_eq] at inTime
    show s.state.ticker.alarm.all _ = true
    cases halarm : s.state.ticker.alarm with
    | none => rfl
    | some deadline =>
      rw [halarm] at inTime
      exact decide_eq_true
        (Nat.max_le.mpr ⟨Nat.le_of_lt (h.lt_alarm halarm), of_decide_eq_true inTime⟩)
  have hstep : Ticker.step (scene holder s) (.wait span) =
      some (scene holder (s.clockTo system moment), [.waited span]) := by
    rw [scene_clockTo, ← hmoment]
    exact if_pos hidle
  exact ⟨_, _, .single hstep, rfl⟩

theorem Still.drifts_nextAlarm {next : Nat} (h : Still s) (hnext : s.nextAlarm = some next) :
    Drifts s (s.clockTo system next) ∧ Orderly (s.clockTo system next) :=
  drifts_clockTo h (by rw [hnext]; exact decide_eq_true (Nat.le_refl next))

/-- While a session sleeps, nothing happens but what the ticker does by itself. -/
theorem drifts_sleepUntil_go (fuel : Nat) (moment : Nat) (h : Orderly s) :
    Drifts s (Run.sleepUntil.go system moment fuel s) ∧
      Orderly (Run.sleepUntil.go system moment fuel s) := by
  induction fuel generalizing s with
  | zero => exact ⟨.refl s, h⟩
  | succ fuel ih =>
    -- The task comes to rest; then the clock goes on to the next alarm, or else to the moment.
    obtain ⟨hsettles, hstill⟩ := drifts_settle h.toRegular (Nat.le_succ_of_le h.few)
    simp only [Run.sleepUntil.go]
    generalize s.settle system = u at hsettles hstill
    have hlast (inTime : u.nextAlarm.all (moment ≤ ·) = true) :
        Drifts s ((u.clockTo system moment).settle system) ∧
          Orderly ((u.clockTo system moment).settle system) := by
      obtain ⟨hgoes, horderly⟩ := drifts_clockTo hstill inTime
      obtain ⟨hends, hstill'⟩ := drifts_settle horderly.toRegular (Nat.le_succ_of_le horderly.few)
      exact ⟨(hsettles.trans hgoes).trans hends, hstill'.orderly⟩
    cases hnext : u.nextAlarm with
    | none => exact hlast (by rw [hnext]; rfl)
    | some next =>
      by_cases hdue : next ≤ moment
      · simp only [if_pos hdue]
        obtain ⟨hgoes, horderly⟩ := hstill.drifts_nextAlarm hnext
        obtain ⟨hends, horderly'⟩ := ih horderly
        exact ⟨(hsettles.trans hgoes).trans hends, horderly'⟩
      · simp only [if_neg hdue]
        exact hlast (by rw [hnext]; exact decide_eq_true (Nat.le_of_not_le hdue))

/-- So it is while it waits for a condition to hold, and for a moment if it does not. -/
theorem drifts_settleUntilOr_go (fuel : Nat) (p : World → Bool) (moment : Nat) (h : Orderly s) :
    Drifts s (Run.settleUntilOr.go system p moment fuel s) ∧
      Orderly (Run.settleUntilOr.go system p moment fuel s) := by
  induction fuel generalizing s with
  | zero => exact ⟨.refl s, h⟩
  | succ fuel ih =>
    obtain ⟨hsettles, hstill⟩ := drifts_settle h.toRegular (Nat.le_succ_of_le h.few)
    simp only [Run.settleUntilOr.go]
    generalize s.settle system = u at hsettles hstill
    have hlast (inTime : u.nextAlarm.all (moment ≤ ·) = true) :
        Drifts s (u.clockTo system moment) ∧ Orderly (u.clockTo system moment) := by
      obtain ⟨hgoes, horderly⟩ := drifts_clockTo hstill inTime
      exact ⟨hsettles.trans hgoes, horderly⟩
    split
    · exact ⟨hsettles, hstill.orderly⟩
    · cases hnext : u.nextAlarm with
      | none => exact hlast (by rw [hnext]; rfl)
      | some next =>
        by_cases hdue : next < moment
        · simp only [if_pos hdue]
          obtain ⟨hgoes, horderly⟩ := hstill.drifts_nextAlarm hnext
          obtain ⟨hends, horderly'⟩ := ih horderly
          exact ⟨(hsettles.trans hgoes).trans hends, horderly'⟩
        · simp only [if_neg hdue]
          exact hlast (by rw [hnext]; exact decide_eq_true (Nat.le_of_not_lt hdue))

/-! ## Requests -/

/-- What happens on a request that is answered so. -/
inductive Exchange : Request → Answer → List Event → Prop
  | start (moment) : Exchange .start .done [.started moment]
  | startRefused (e) : Exchange .start (.refused e) [.refused e]
  | close : Exchange .close .done [.closeBegan, .closed]
  | closeRefused (e) : Exchange .close (.refused e) [.refused e]
  | drop : Exchange .drop .done [.dropped]
  | listen (i count) : Exchange .listen (.stream i) [.opened i count]
  | signal (i span signal) : Exchange (.await i span) (.signal signal) [.told i signal]
  | timeout (i span) : Exchange (.await i span) .timeout []
  | sleep (span) : Exchange (.sleep span) .done []
  | jump (span) : Exchange (.jump span) .done [.jumped span]

/-- A request is answered as the moves of a ticker allow. -/
structure Served (holder : Holder) (s : Session) (r : Request) (holder' : Holder)
    (m : Answer × Session) : Prop where
  comes : ∃ said, Comes holder s said holder' m.2 ∧ Exchange r m.1 said
  orderly : Orderly m.2

theorem comes_change {f : World → World} {a : Action} {e : Event} (h : Orderly s)
    (hstep : Ticker.step (scene holder s) a = some (scene holder' (s.update system f), [e])) :
    Comes holder s (talk [e]) holder' (s.change f) ∧ Still (s.change f) := by
  have hperiod : (f s.state).ticker.period = s.state.ticker.period := period_of_step hstep
  have horderly : Orderly (s.update system f) :=
    orderly_refresh _ (hperiod ▸ h.positive) ⟨h.length_alarms, h.few⟩
  obtain ⟨hsettles, hstill⟩ := drifts_settle horderly.toRegular (Nat.le_succ_of_le horderly.few)
  have hcomes : Comes holder s (talk [e]) holder' (s.update system f) := ⟨_, _, .single hstep, rfl⟩
  refine ⟨?_, hstill⟩
  have hall := hcomes.trans (hsettles holder')
  rw [List.append_nil] at hall
  exact hall

theorem served_start (h : Orderly s) : Served .free s .start .free s.start := by
  unfold Session.start
  split
  · rename_i e hstart
    have hstep : Ticker.step (scene .free s) .start = some (scene .free s, [.refused e]) := by
      show call _ (Except.map _ s.state.ticker.start) = _
      rw [hstart]
      rfl
    exact ⟨⟨_, ⟨_, _, .single hstep, rfl⟩, .startRefused e⟩, h⟩
  · rename_i t hstart
    let begin : World → World := fun w => { w with ticker := t, log := w.log ++ t.startLog }
    have hstep : Ticker.step (scene .free s) .start =
        some (scene .free (s.update system begin), [.started s.now]) := by
      show call _ (Except.map _ s.state.ticker.start) = _
      rw [hstart]
      rfl
    obtain ⟨hcomes, hstill⟩ := comes_change h hstep
    exact ⟨⟨_, hcomes, .start _⟩, hstill.orderly⟩

theorem served_close (h : Orderly s) (coherent : Coherent p es (scene .free s)) :
    Served .free s .close .free s.close := by
  unfold Session.close
  split
  · rename_i e hclose
    have hstep : Ticker.step (scene .free s) .beginClose = some (scene .free s, [.refused e]) := by
      show call _ (Except.map _ s.state.ticker.beginClose) = _
      rw [hclose]
      rfl
    exact ⟨⟨_, ⟨_, _, .single hstep, rfl⟩, .closeRefused e⟩, h⟩
  · rename_i t hclose
    let begin : World → World := fun w => { w with ticker := t }
    let finish : World → World := fun w =>
      { w with ticker := w.ticker.endClose, log := w.log ++ w.ticker.closeLog }
    have hbegin : Ticker.step (scene .free s) .beginClose =
        some (scene .closing (s.update system begin), [.closeBegan]) := by
      show call _ (Except.map _ s.state.ticker.beginClose) = _
      rw [hclose]
      rfl
    obtain ⟨hbegins, hstill⟩ := comes_change h hbegin
    -- The task has been asked to end, so it is down once it has nothing left to do.
    have down : (s.change begin).state.ticker.isDown = true := by
      obtain ⟨as, all, hpath, -⟩ := hbegins
      have hlife := coherent.path hpath
      obtain ⟨running, stopping⟩ := hlife.closing rfl
      exact isDown_of_settled hstill.settled stopping (hlife.begun (by rw [running]; nofun))
    have hfinish : Ticker.step (scene .closing (s.change begin)) .endClose =
        some (scene .free ((s.change begin).update system finish), [.closed]) :=
      if_pos ⟨rfl, down⟩
    obtain ⟨hends, hstill'⟩ := comes_change hstill.orderly hfinish
    have hwaits : (s.update system begin).settleUntil system (fun w => w.ticker.isDown) =
        s.change begin := Run.settleUntil_eq down
    show Served _ _ _ _ (_, change (Run.settleUntil system _ (s.update system begin)) _)
    rw [hwaits]
    exact ⟨⟨_, hbegins.trans hends, .close⟩, hstill'.orderly⟩

theorem served_drop (h : Orderly s) : Served .free s .drop .gone (s.perform .drop) := by
  let drop : World → World := fun w => { w with ticker := w.ticker.drop }
  have hstep : Ticker.step (scene .free s) .drop =
      some (scene .gone (s.update system drop), [.dropped]) := rfl
  obtain ⟨hcomes, hstill⟩ := comes_change h hstep
  exact ⟨⟨_, hcomes, .drop⟩, hstill.orderly⟩

theorem served_listen (h : Orderly s) : Served .free s .listen .free (s.perform .listen) := by
  let listen : World → World := fun w => { w with streams := w.streams ++ [w.ticker.stream] }
  have hstep : Ticker.step (scene .free s) .listen = some (scene .free (s.update system listen),
      [.opened s.state.streams.length s.state.ticker.count]) := rfl
  obtain ⟨hcomes, hstill⟩ := comes_change h hstep
  exact ⟨⟨_, hcomes, .listen _ _⟩, hstill.orderly⟩

theorem served_await (h : Orderly s) (i span : Nat) :
    Served holder s (.await i span) holder (s.await i span) := by
  obtain ⟨hdrifts, horderly⟩ := drifts_settleUntilOr_go Run.moveLimit
    (fun w => (signal? w i).isSome) (s.now + span) h
  change Drifts s (s.settleUntilOr system _ _) at hdrifts
  change Orderly (s.settleUntilOr system _ _) at horderly
  dsimp only [Session.await]
  generalize s.settleUntilOr system _ _ = u at *
  cases hsignal : signal? u.state i with
  | some signal =>
    let tell : World → World := fun w =>
      { w with streams := w.streams.modify i fun stream => stream.after signal }
    have hstep : Ticker.step (scene holder u) (.tell i) =
        some (scene holder (u.update system tell), [.told i signal]) := by
      show Option.map _ (signal? u.state i) = _
      rw [hsignal]
      rfl
    obtain ⟨htells, hstill⟩ := comes_change horderly hstep
    exact ⟨⟨_, (hdrifts holder).trans htells, .signal i span signal⟩, hstill.orderly⟩
  | none =>
    obtain ⟨hsettles, hstill⟩ :=
      drifts_settle horderly.toRegular (Nat.le_succ_of_le horderly.few)
    exact ⟨⟨_, (hdrifts.trans hsettles) holder, .timeout i span⟩, hstill.orderly⟩

theorem served_sleep (h : Orderly s) (span : Nat) :
    Served holder s (.sleep span) holder (s.perform (.sleep span)) := by
  obtain ⟨hdrifts, horderly⟩ := drifts_sleepUntil_go Run.moveLimit (s.now + span) h
  exact ⟨⟨_, hdrifts holder, .sleep span⟩, horderly⟩

theorem served_jump (h : Orderly s) (span : Nat) :
    Served holder s (.jump span) holder (s.perform (.jump span)) := by
  obtain ⟨hregular, hfew⟩ := regular_clockTo h.toRegular (s.now + span)
  have hjumps : Comes holder s [.jumped span] holder (s.clockTo system (s.now + span)) := by
    refine ⟨[.jump span], [.jumped span], .single ?_, rfl⟩
    rw [scene_clockTo, Nat.max_eq_right (Nat.le_add_right _ _)]
    rfl
  obtain ⟨hsettles, hstill⟩ := drifts_settle hregular
    (Nat.le_trans hfew (Nat.succ_le_succ h.few))
  exact ⟨⟨_, hjumps.trans (hsettles holder), .jump span⟩, hstill.orderly⟩

theorem served_perform (h : Orderly s) (coherent : Coherent p es (scene holder s)) {r : Request}
    (may : holder = .free ∨ r.ofHolder = false) :
    Served holder s r (if r = .drop then .gone else holder) (s.perform r) := by
  have free (hr : r.ofHolder = true) : holder = .free :=
    may.resolve_right fun hr' => Bool.false_ne_true (hr'.symm.trans hr)
  cases r with
  | start =>
    obtain rfl := free rfl
    exact served_start h
  | close =>
    obtain rfl := free rfl
    exact served_close h coherent
  | drop =>
    obtain rfl := free rfl
    exact served_drop h
  | listen =>
    obtain rfl := free rfl
    exact served_listen h
  | await i span => exact served_await h i span
  | sleep span => exact served_sleep h span
  | jump span => exact served_jump h span

/-! ## Whole sessions -/

/-- A session goes on from one request to the next. -/
def reply (s : Session) (r : Request) : Option (Session × List (Request × Answer)) :=
  some ((s.perform r).2, [(r, (s.perform r).1)])

/-- What happens on requests that are answered so, one after another. -/
inductive Exchanges : List (Request × Answer) → List Event → Prop
  | nil : Exchanges [] []
  | tail {log r a es new} (earlier : Exchanges log es) (last : Exchange r a new) :
      Exchanges (log ++ [(r, a)]) (es ++ new)

/-- The clock jumps only when it is asked to. -/
theorem Exchanges.of_jumped {log : List (Request × Answer)} {span : Nat} (h : Exchanges log said)
    (jumped : .jumped span ∈ said) : (.jump span, .done) ∈ log := by
  induction h with
  | nil => cases jumped
  | tail _ last ih =>
    rcases List.mem_append.mp jumped with earlier | now
    · exact List.mem_append_left _ (ih earlier)
    · cases last with
      | jump =>
        cases List.mem_singleton.mp now
        exact List.mem_append_right _ List.mem_cons_self
      | _ => simp at now

/-- Nobody asks for anything on behalf of a ticker that was let go of. -/
def Proper (rs : List Request) : Prop := rs.Pairwise fun r r' => r = .drop → r'.ofHolder = false

theorem orderly_new (hnew : Ticker.new p = .ok t) : Orderly (Session.new t) := by
  obtain ⟨rfl, -⟩ := new_eq hnew
  exact ⟨⟨positive_of_new hnew, fun _ => rfl, rfl⟩, Nat.zero_le _⟩

/-- Every session is a run of the ticker's moves, on which just what was answered happens. -/
theorem exists_path (hnew : Ticker.new p = .ok t) {rs : List Request}
    {log : List (Request × Answer)} (h : Path reply (Session.new t) rs log s) (proper : Proper rs) :
    ∃ as es, Path Ticker.step { ticker := t } as es
      (scene (if .drop ∈ rs then .gone else .free) s) ∧ Exchanges log (talk es) := by
  suffices hall : Proper rs → Orderly s ∧ ∃ as es, Path Ticker.step { ticker := t } as es
      (scene (if .drop ∈ rs then .gone else .free) s) ∧ Exchanges log (talk es) from
    (hall proper).2
  clear proper
  refine h.invariant (P := fun rs log s => Proper rs → Orderly s ∧ ∃ as es,
      Path Ticker.step { ticker := t } as es (scene (if .drop ∈ rs then .gone else .free) s) ∧
        Exchanges log (talk es))
    (fun _ => ⟨orderly_new hnew, [], [], .refl, .nil⟩) ?_
  intro rs log u r v new _ ih hreply proper
  cases hreply
  obtain ⟨hearlier, -, hlast⟩ := List.pairwise_append.mp proper
  obtain ⟨horderly, as, es, hpath, hlog⟩ := ih hearlier
  have may : (if Request.drop ∈ rs then Holder.gone else .free) = .free ∨ r.ofHolder = false := by
    by_cases dropped : Request.drop ∈ rs
    · exact Or.inr (hlast _ dropped r List.mem_cons_self rfl)
    · exact Or.inl (if_neg dropped)
  obtain ⟨⟨said, ⟨bs, new, hpath', rfl⟩, hexchange⟩, horderly'⟩ :=
    served_perform horderly (coherent_of_path hnew hpath) may
  refine ⟨horderly', as ++ bs, es ++ new, ?_, ?_⟩
  · have hholder : (if Request.drop ∈ rs ++ [r] then Holder.gone else .free) =
        if r = .drop then .gone else if Request.drop ∈ rs then .gone else .free := by
      by_cases hr : r = .drop
      · simp [hr]
      · simp [hr, Ne.symm hr]
    rw [hholder]
    exact hpath.trans hpath'
  · rw [talk_append]
    exact hlog.tail hexchange

/-- Once the task is down, no wait for a stream is in vain. -/
theorem await_of_down (down : s.state.ticker.isDown = true) {i : Nat}
    (there : i < s.state.streams.length) (span : Nat) :
    ∃ signal, (s.await i span).1 = .signal signal := by
  obtain ⟨down', there'⟩ : (s.settle system).state.ticker.isDown = true ∧
      i < (s.settle system).state.streams.length := by
    refine Run.settle_state (P := fun w : World => w.ticker.isDown = true ∧ i < w.streams.length)
      (fun h hmove => ?_) ⟨down, there⟩
    -- A task that is down moves no more.
    obtain ⟨t, hmove, -⟩ := Option.map_eq_some_iff.mp hmove
    rw [settled_of_isDown h.1] at hmove
    cases hmove
  obtain ⟨signal, hnext⟩ := exists_next down' (s.settle system).state.streams[i]
  have hsignal : signal? (s.settle system).state i = some signal := by
    unfold signal?
    rw [List.getElem?_eq_getElem there']
    exact hnext
  have hready : (signal? (s.settle system).state i).isSome = true := by rw [hsignal]; rfl
  have hnow : s.settleUntilOr system (fun w => (signal? w i).isSome) (s.now + span) =
      s.settle system := Run.settleUntilOr_eq hready
  refine ⟨signal, ?_⟩
  dsimp only [Session.await]
  rw [hnow, hsignal]

end Session

end OfferService.Ticker
