import OfferService.Proofs.Ticker.Session

/-
  OfferService.Proofs.Ticker.Streams

  What the streams of a ticker are told. All streams read one counter, and each has its own mark:
  the count it was told last, or at which it was opened. A mark never passes the counter, and a
  stream is told the counter only if it is past the mark; so a stream is told the counts in
  ascending order, and of the ticks it misses only the latest one. Once the task is down the counter
  stands still, so what is left to tell is one tick at most, and then the end.
-/
namespace OfferService.Ticker

variable {p : Period} {t : Ticker} {s u : Scene} {a : Action} {as : List Action}
  {es fs new before later : List Event} {i m : Nat}

/-! ## Reports -/

/-- The count, if a tick is told. -/
def Signal.count? : Signal → Option Nat
  | .tick count => some count
  | .ended => none

/-- The counts that a stream was told, in that order. -/
def reported (i : Nat) (es : List Event) : List Nat := (signals i es).filterMap Signal.count?

@[simp] theorem reported_append (i : Nat) (es fs : List Event) :
    reported i (es ++ fs) = reported i es ++ reported i fs := by
  unfold reported
  rw [signals_append, List.filterMap_append]

theorem mem_signals {signal : Signal} (h : signal ∈ signals i es) : .told i signal ∈ es := by
  obtain ⟨e, he, hsignal⟩ := List.mem_flatMap.mp h
  unfold Event.signal at hsignal
  split at hsignal
  · rename_i j told
    by_cases hij : j = i
    · rw [if_pos hij] at hsignal
      rw [List.mem_singleton.mp hsignal, ← hij]
      exact he
    · rw [if_neg hij] at hsignal
      cases hsignal
  · cases hsignal

theorem mem_reported (h : m ∈ reported i es) : .told i (.tick m) ∈ es := by
  obtain ⟨signal, hsignal, hcount⟩ := List.mem_filterMap.mp h
  cases signal with
  | tick count =>
    obtain rfl := Option.some.inj hcount
    exact mem_signals hsignal
  | ended => cases hcount

theorem signals_told (i : Nat) (signal : Signal) : signals i [.told i signal] = [signal] := by
  simp [signals, Event.signal]

theorem signals_told_ne {j : Nat} (h : j ≠ i) (signal : Signal) :
    signals i [.told j signal] = [] := by
  simp [signals, Event.signal, h]

/-- Of all ticks so far, a stream is told the latest. -/
theorem eq_of_told (hnew : Ticker.new p = .ok t)
    (h : Path step { ticker := t } as (before ++ .told i (.tick m) :: later) s) :
    m = (ticks before).length := by
  obtain ⟨bs, u, a, v, cs, hither, now, -⟩ := exists_of_event h
  have hcount := count_of_path hither
  rw [(new_eq hnew).1, Nat.zero_add] at hcount
  cases move_cases now with
  | tellTick => exact hcount

/-! ## Order -/

/-- How a stream has fared so far. -/
inductive Followed (i : Nat) (es : List Event) (s : Scene) : Prop
  | unopened (missing : s.streams[i]? = none) (silent : signals i es = [])
  | opened {before later n stream} (happened : es = before ++ .opened i n :: later)
      (counted : n = (ticks before).length) (fresh : signals i before = [])
      (found : s.streams[i]? = some stream) (sorted : (n :: reported i later).Pairwise (· < ·))
      (last : ∀ m ∈ n :: reported i later, m ≤ stream.seen)
      (seen : stream.seen ≤ s.ticker.count)

namespace Followed

/-- Whatever tells the stream no tick changes nothing about it. -/
theorem of_quiet (h : Followed i es s) (quiet : reported i new = [])
    (unread : s.streams[i]? = none → signals i new = [])
    (same : u.streams[i]? = s.streams[i]?) (count : s.ticker.count ≤ u.ticker.count) :
    Followed i (es ++ new) u := by
  cases h with
  | unopened missing silent =>
    refine .unopened (same.trans missing) ?_
    rw [signals_append, silent, unread missing]
    rfl
  | @opened before later n stream happened counted fresh found sorted last seen =>
    have happened' : es ++ new = before ++ .opened i n :: (later ++ new) := by
      rw [happened, List.append_assoc, List.cons_append]
    have hreported : reported i (later ++ new) = reported i later := by
      rw [reported_append, quiet, List.append_nil]
    rw [← hreported] at sorted last
    exact .opened happened' counted fresh (same.trans found) sorted last (Nat.le_trans seen count)

theorem listen (h : Followed i es s) (counted : s.ticker.count = (ticks es).length) :
    Followed i (es ++ [.opened s.streams.length s.ticker.count])
      { s with streams := s.streams ++ [s.ticker.stream] } := by
  rcases Nat.lt_trichotomy i s.streams.length with hlt | rfl | hgt
  · exact h.of_quiet rfl (fun _ => rfl) (List.getElem?_append_left hlt) (Nat.le_refl _)
  · have missing : s.streams[s.streams.length]? = none := List.getElem?_eq_none (Nat.le_refl _)
    cases h with
    | unopened _ silent =>
      have last : ∀ m ∈ [s.ticker.count], m ≤ s.ticker.stream.seen :=
        fun m hm => Nat.le_of_eq (List.mem_singleton.mp hm)
      exact .opened rfl counted silent List.getElem?_concat_length (List.pairwise_singleton _ _)
        last (Nat.le_refl _)
    | opened _ _ _ found => cases missing.symm.trans found
  · refine h.of_quiet rfl (fun _ => rfl) ?_ (Nat.le_refl _)
    rw [List.getElem?_eq_none (Nat.le_of_lt hgt), List.getElem?_eq_none]
    rw [List.length_append]
    exact hgt

theorem tell {stream : Stream} (h : Followed i es s) (found : s.streams[i]? = some stream)
    (unseen : s.ticker.count ≠ stream.seen) :
    Followed i (es ++ [.told i (.tick s.ticker.count)])
      { s with streams := s.streams.modify i fun _ => s.ticker.stream } := by
  cases h with
  | unopened missing => cases missing.symm.trans found
  | @opened before later n stream' happened counted fresh found' sorted last seen =>
    obtain rfl : stream' = stream := Option.some.inj (found'.symm.trans found)
    have hreported : reported i (later ++ [.told i (.tick s.ticker.count)]) =
        reported i later ++ [s.ticker.count] := by
      rw [reported_append, reported, reported, signals_told]
      rfl
    have happened' : es ++ [.told i (.tick s.ticker.count)] =
        before ++ .opened i n :: (later ++ [.told i (.tick s.ticker.count)]) := by
      rw [happened, List.append_assoc, List.cons_append]
    have hnow : (s.streams.modify i fun _ => s.ticker.stream)[i]? = some s.ticker.stream := by
      rw [List.getElem?_modify_eq, found]
      rfl
    -- The mark was not past the counter, and is not at it, so the counter is past all marks so far.
    refine .opened happened' counted fresh hnow ?_ ?_ (Nat.le_refl _)
    · rw [hreported, ← List.cons_append, List.pairwise_append]
      refine ⟨sorted, List.pairwise_singleton _ _, fun m hm m' hm' => ?_⟩
      rw [List.mem_singleton.mp hm']
      have hm := last m hm
      omega
    · rw [hreported, ← List.cons_append]
      intro m hm
      rcases List.mem_append.mp hm with hm | hm
      · exact Nat.le_trans (last m hm) seen
      · exact Nat.le_of_eq (List.mem_singleton.mp hm)

theorem step (h : Followed i es s) (counted : s.ticker.count = (ticks es).length)
    (hstep : step s a = some (u, new)) : Followed i (es ++ new) u := by
  cases move_cases hstep with
  | listen => exact h.listen counted
  | @tellTick j stream found unseen =>
    by_cases hij : j = i
    · subst hij
      exact h.tell found unseen
    · have silent := signals_told_ne hij (.tick s.ticker.count)
      refine h.of_quiet ?_ (fun _ => silent) (List.getElem?_modify_ne _ _ hij) (Nat.le_refl _)
      rw [reported, silent]
      rfl
  | @tellEnd j stream found =>
    by_cases hij : j = i
    · subst hij
      refine h.of_quiet ?_ (fun missing => nomatch missing.symm.trans found) rfl (Nat.le_refl _)
      rw [reported, signals_told]
      rfl
    · have silent := signals_told_ne hij .ended
      refine h.of_quiet ?_ (fun _ => silent) rfl (Nat.le_refl _)
      rw [reported, silent]
      rfl
  | tick => exact h.of_quiet rfl (fun _ => rfl) rfl (Nat.le_succ _)
  | _ => exact h.of_quiet rfl (fun _ => rfl) rfl (Nat.le_refl _)

end Followed

/-- Nobody has told a new ticker's streams anything, for there are none. -/
theorem followed_of_path (hnew : Ticker.new p = .ok t) (h : Path step { ticker := t } as es s)
    (i : Nat) : Followed i es s := by
  refine h.invariant (P := fun _ es s => Followed i es s) (.unopened rfl rfl) ?_
  intro _ es s a u new hpath ih hstep
  have hcount := count_of_path hpath
  rw [(new_eq hnew).1, Nat.zero_add] at hcount
  exact ih.step hcount hstep

/-- A stream is told the counts in ascending order, and none of them twice. -/
theorem pairwise_reported (hnew : Ticker.new p = .ok t) (h : Path step { ticker := t } as es s)
    (i : Nat) : (reported i es).Pairwise (· < ·) := by
  cases followed_of_path hnew h i with
  | unopened _ silent =>
    rw [reported, silent]
    exact List.Pairwise.nil
  | @opened before later n stream happened _ fresh _ sorted =>
    have hreported : reported i es = reported i later := by
      rw [happened, reported_append, reported, fresh]
      rfl
    rw [hreported]
    exact sorted.of_cons

/-- While the ticker does not fire, a stream is told one tick at most, however many it has
    missed. -/
theorem length_reported_le (hnew : Ticker.new p = .ok t) (h : Path step { ticker := t } as es s)
    {bs : List Action} (h' : Path step s bs fs u) (silent : ticks fs = []) (i : Nat) :
    (reported i fs).length ≤ 1 := by
  have hall := h.trans h'
  have hsame : ∀ m ∈ reported i fs, m = (ticks es).length := by
    intro m hm
    obtain ⟨before, later, rfl⟩ := List.append_of_mem (mem_reported hm)
    rw [← List.append_assoc] at hall
    rw [ticks_append] at silent
    rw [eq_of_told hnew hall, ticks_append, (List.append_eq_nil_iff.mp silent).1, List.append_nil]
  have hsorted := pairwise_reported hnew hall i
  rw [reported_append] at hsorted
  have hlater := (List.pairwise_append.mp hsorted).2.1
  -- All that was told is the one count, and no count comes twice.
  match hreported : reported i fs with
  | [] => exact Nat.zero_le _
  | [_] => exact Nat.le_refl _
  | m :: m' :: rest =>
    rw [hreported] at hlater hsame
    have hless := (List.pairwise_cons.mp hlater).1 m' List.mem_cons_self
    rw [hsame m List.mem_cons_self, hsame m' (List.mem_cons_of_mem _ List.mem_cons_self)] at hless
    exact absurd hless (Nat.lt_irrefl _)

/-! ## The end -/

/-- The tick that a stream has not been told yet; there is one at most. -/
def pending (s : Scene) (i : Nat) : List Signal :=
  match s.streams[i]? with
  | some stream => if s.ticker.count = stream.seen then [] else [.tick s.ticker.count]
  | none => []

theorem pending_congr (count : u.ticker.count = s.ticker.count)
    (same : u.streams[i]? = s.streams[i]?) : pending u i = pending s i := by
  unfold pending
  rw [count, same]

theorem pending_of_seen {stream : Stream} (found : s.streams[i]? = some stream)
    (seen : s.ticker.count = stream.seen) : pending s i = [] := by
  unfold pending
  rw [found]
  exact if_pos seen

theorem pending_of_unseen {stream : Stream} (found : s.streams[i]? = some stream)
    (unseen : s.ticker.count ≠ stream.seen) : pending s i = [.tick s.ticker.count] := by
  unfold pending
  rw [found]
  exact if_neg unseen

theorem pending_of_missing (missing : s.streams[i]? = none) : pending s i = [] := by
  unfold pending
  rw [missing]

/-- Once the task is down, every action brings the stream nearer to its end, or leaves it alone. -/
theorem pending_of_step (h : Coherent p es s) (down : s.ticker.isDown = true)
    (hstep : step s a = some (u, new)) (i : Nat) :
    ∃ k, signals i new ++ pending u i = pending s i ++ List.replicate k .ended := by
  have hcount := (isDown_of_step h hstep down).2
  have hsame (silent : signals i new = []) (same : u.streams[i]? = s.streams[i]?) :
      ∃ k, signals i new ++ pending u i = pending s i ++ List.replicate k .ended := by
    refine ⟨0, ?_⟩
    rw [silent, pending_congr hcount same]
    exact (List.append_nil _).symm
  cases move_cases hstep with
  | listen =>
    rcases Nat.lt_trichotomy i s.streams.length with hlt | rfl | hgt
    · exact hsame rfl (List.getElem?_append_left hlt)
    · refine ⟨0, ?_⟩
      rw [pending_of_missing (List.getElem?_eq_none (Nat.le_refl _)),
        pending_of_seen List.getElem?_concat_length rfl]
      rfl
    · refine hsame rfl ?_
      rw [List.getElem?_eq_none (Nat.le_of_lt hgt), List.getElem?_eq_none]
      rw [List.length_append]
      exact hgt
  | @tellTick j stream found unseen =>
    by_cases hij : j = i
    · subst hij
      have hnow : (s.streams.modify j fun _ => s.ticker.stream)[j]? = some s.ticker.stream := by
        rw [List.getElem?_modify_eq, found]
        rfl
      refine ⟨0, ?_⟩
      rw [pending_of_unseen found unseen, pending_of_seen hnow rfl, signals_told]
      rfl
    · exact hsame (signals_told_ne hij _) (List.getElem?_modify_ne _ _ hij)
  | @tellEnd j stream found seen =>
    by_cases hij : j = i
    · subst hij
      refine ⟨1, ?_⟩
      rw [pending_of_seen found seen, signals_told]
      rfl
    · exact hsame (signals_told_ne hij _) rfl
  | _ => exact hsame rfl rfl

/-- Once the task is down, a stream is told what is pending, and from then on the end. -/
theorem signals_of_down (hlife : Coherent p es s) (down : s.ticker.isDown = true)
    (h : Path step s as fs u) (i : Nat) :
    ∃ k, signals i fs ++ pending u i = pending s i ++ List.replicate k .ended := by
  refine h.invariant (P := fun _ fs u =>
      ∃ k, signals i fs ++ pending u i = pending s i ++ List.replicate k .ended)
    ⟨0, (List.append_nil _).symm⟩ ?_
  intro _ fs u a v new hpath ih hstep
  obtain ⟨k, hk⟩ := ih
  obtain ⟨k', hk'⟩ :=
    pending_of_step (hlife.path hpath) (isDown_of_path hlife hpath down).1 hstep i
  refine ⟨k + k', ?_⟩
  rw [signals_append, List.append_assoc, hk', ← List.append_assoc, hk, List.append_assoc,
    List.replicate_append_replicate]

/-! ## Whole lives -/

/-- A stream can be told a tick just if that tick is pending. -/
theorem tell_tick_iff : (∃ v, step s (.tell i) = some (v, [.told i (.tick m)])) ↔
    .tick m ∈ pending s i := by
  constructor
  · rintro ⟨v, hstep⟩
    cases move_cases hstep with
    | tellTick found unseen =>
      rw [pending_of_unseen found unseen]
      exact List.mem_cons_self
  · intro hpending
    have hnext : s.streams[i]?.bind s.ticker.next = some (.tick m) := by
      unfold pending at hpending
      split at hpending
      · rename_i stream found
        split at hpending
        · cases hpending
        · rename_i unseen
          rw [found, List.mem_singleton.mp hpending]
          exact if_pos unseen
      · cases hpending
    show ∃ v, Option.map _ (s.streams[i]?.bind s.ticker.next) = _
    rw [hnext]
    exact ⟨_, rfl⟩

/-- What is known of the streams of a ticker after the events `es`, in the state `s`. -/
structure InOrder (es : List Event) (s : Scene) : Prop where
  /-- A stream is told counts in ascending order that are greater than the one it began with. -/
  opened : ∀ i < s.streams.length, ∃ before n later, es = before ++ .opened i n :: later ∧
    n = (ticks before).length ∧ signals i before = [] ∧ (n :: reported i later).Pairwise (· < ·)
  unopened : ∀ i, s.streams.length ≤ i → signals i es = []
  latest : ∀ before i n later, es = before ++ .told i (.tick n) :: later → n = (ticks before).length
  /-- A stream can be told a tick just if that tick is pending. -/
  ready : ∀ i n, (∃ v, step s (.tell i) = some (v, [.told i (.tick n)])) ↔ .tick n ∈ pending s i
  /-- Until the ticker fires again, a stream is told one tick at most, whatever it has missed. -/
  one : ∀ as fs u, Path step s as fs u → ticks fs = [] → ∀ i, (reported i fs).length ≤ 1

theorem inOrder_of_path (hnew : Ticker.new p = .ok t) (h : Path step { ticker := t } as es s) :
    InOrder es s := by
  refine ⟨fun i hi => ?_, fun i hi => ?_, ?_, fun i n => tell_tick_iff, ?_⟩
  · cases followed_of_path hnew h i with
    | unopened missing => cases (List.getElem?_eq_getElem hi).symm.trans missing
    | opened happened counted fresh _ sorted => exact ⟨_, _, _, happened, counted, fresh, sorted⟩
  · cases followed_of_path hnew h i with
    | unopened _ silent => exact silent
    | opened _ _ _ found => cases (List.getElem?_eq_none hi).symm.trans found
  · rintro before i n later rfl
    exact eq_of_told hnew h
  · exact fun bs fs u h' silent i => length_reported_le hnew h h' silent i

/-- What is known of the end of a ticker after the events `es`, in the state `s`. -/
structure Ends (p : Period) (es : List Event) (s : Scene) : Prop where
  closed : .closed ∈ es → s.ticker.isDown = true
  told : ∀ i, .told i .ended ∈ es → s.ticker.isDown = true
  /-- The task of a ticker that is to end, or that can never fire, will soon be down. -/
  soon : .closeBegan ∈ es ∨ .dropped ∈ es ∨ p = .longest ∧ starts es ≠ [] →
    ∃ n task, n ≤ 2 ∧ (task = .ended ∨ task = .failed) ∧
      Path step s (List.replicate n .task) [] { s with ticker := { s.ticker with task } }
  /-- Once it is, a stream is told one tick at most that was pending, and then the end, and there
      always is something to tell. -/
  down : s.ticker.isDown = true → ∀ as fs u, Path step s as fs u → u.ticker.isDown = true ∧
    ∀ i, (∃ k, signals i fs <+: pending s i ++ List.replicate k .ended) ∧
      (i < u.streams.length → ∃ signal v, step u (.tell i) = some (v, [.told i signal]))

theorem ends_of_path (hnew : Ticker.new p = .ok t) (h : Path step { ticker := t } as es s) :
    Ends p es s := by
  have hlife := coherent_of_path hnew h
  refine ⟨fun closed => ?_, fun i told => ?_, fun ending => ?_, fun down bs fs u h' => ?_⟩
  · have hcloses := List.count_pos_iff.mpr closed
    rw [hlife.closes] at hcloses
    split at hcloses
    · rename_i hphase
      exact hlife.down hphase
    · cases hcloses
  · obtain ⟨before, later, rfl⟩ := List.append_of_mem told
    obtain ⟨bs, u, a, v, cs, hither, now, onward⟩ := exists_of_event h
    cases move_cases now with
    | tellEnd _ _ down => exact (isDown_of_path (coherent_of_path hnew hither) onward down).1
  · have ends : s.ticker.stopping = true ∨ p = .longest ∧ starts es ≠ [] := by
      rcases ending with began | dropped | endless
      · exact Or.inl (hlife.asked (Or.inl began))
      · exact Or.inl (hlife.asked (Or.inr dropped))
      · exact Or.inr endless
    rcases ends with asked | ⟨rfl, begun⟩
    · have ends : s.ticker.stopping = true ∨ Endless es s := Or.inl asked
      exact exists_down (hlife.there (Or.inr asked)) ends
    · have hphase := phase_of_coherent hlife
      rw [if_neg begun] at hphase
      refine exists_down (hlife.there (Or.inl ?_)) (Or.inr (endless_of_path hnew h))
      rw [hphase]
      split <;> nofun
  · refine ⟨(isDown_of_path hlife h' down).1, fun i => ⟨?_, fun hi => ?_⟩⟩
    · obtain ⟨k, hk⟩ := signals_of_down hlife down h' i
      exact ⟨k, _, hk⟩
    · obtain ⟨signal, hnext⟩ := exists_next (isDown_of_path hlife h' down).1 u.streams[i]
      have htell : u.streams[i]?.bind u.ticker.next = some signal := by
        rw [List.getElem?_eq_getElem hi]
        exact hnext
      refine ⟨signal, ?_⟩
      show ∃ v, Option.map _ (u.streams[i]?.bind u.ticker.next) = _
      rw [htell]
      exact ⟨_, rfl⟩

/-- A ticker is started once and closed once, and each stream is told the counts in ascending order.
    Once the task is down, every stream comes to its end, whenever it was opened, and nobody who
    waits for one waits in vain. Every session is a run of these moves. -/
theorem streams_in_order_until_end (hnew : Ticker.new p = .ok t) :
    (∀ as es s, Path step { ticker := t } as es s → OneLife es s ∧ InOrder es s ∧ Ends p es s) ∧
      ∀ rs log s, Path Session.reply (Session.new t) rs log s → Session.Proper rs →
        (∃ holder as es, Path step { ticker := t } as es (Session.scene holder s) ∧
          Session.Exchanges log (talk es)) ∧
        (s.state.ticker.isDown = true → ∀ i < s.state.streams.length, ∀ span,
          ∃ signal, (s.perform (.await i span)).1 = .signal signal) := by
  refine ⟨fun as es s h => ?_, fun rs log s h proper => ⟨?_, fun down i hi span => ?_⟩⟩
  · exact ⟨oneLife_of_path hnew h, inOrder_of_path hnew h, ends_of_path hnew h⟩
  · exact ⟨_, Session.exists_path hnew h proper⟩
  · exact Session.await_of_down down hi span

/-- A ticker is closed while two streams have a tick that they were not told. It can be neither
    closed before it was started nor started again, and a stream that is opened after the end has
    only that to tell. -/
theorem streams_in_order_until_end_closed_with_pending_ticks :
    let t : Ticker := { period := .millis 10 }
    let as : List Action := [.beginClose, .start, .listen, .task, .wait 10, .task, .listen,
      .wait 10, .task, .tell 0, .wait 10, .task, .beginClose, .task, .endClose, .start, .listen,
      .tell 0, .tell 1, .tell 0, .tell 1, .tell 2]
    let es : List Event := [.refused .notRunning, .started 0, .opened 0 0, .waited 10, .ticked 10,
      .opened 1 1, .waited 10, .ticked 20, .told 0 (.tick 2), .waited 10, .ticked 30, .closeBegan,
      .closed, .refused .alreadyStarted, .opened 2 3, .told 0 (.tick 3), .told 1 (.tick 3),
      .told 0 .ended, .told 1 .ended, .told 2 .ended]
    Ticker.new (.millis 10) = .ok t ∧ ∃ s, Path step { ticker := t } as es s ∧
      reported 0 es = [2, 3] ∧ reported 1 es = [3] ∧ signals 2 es = [.ended] ∧
      s.ticker.isDown = true ∧ OneLife es s ∧ InOrder es s ∧ Ends (.millis 10) es s := by
  intro t as es
  have hpath : Path step { ticker := t } as es _ := path_of_follow rfl
  have hnew : Ticker.new (.millis 10) = .ok t := rfl
  exact ⟨hnew, _, hpath, rfl, rfl, rfl, rfl, (streams_in_order_until_end hnew).1 _ _ _ hpath⟩

end OfferService.Ticker
