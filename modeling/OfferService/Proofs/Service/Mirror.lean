import OfferService.Proofs.Service.Strides

/-
  OfferService.Proofs.Service.Mirror

  Messages mirror the database. While requests are handled one after another and the publisher is
  open, the queue gets one message for each offer that was created, changed or removed on request,
  in the order of the answers, and nothing else. As ids are issued once and removed offers are never
  found again, the messages about one offer begin with its creation, if that is told at all, and end
  with its removal.
-/
namespace OfferService.Service

open OfferService.Api (Heralds News Posts)
open OfferService.Http (Request Response)
open OfferService.Publisher (Accepting)
open OfferService.Storage (Table)

variable {s₀ s t u : State} {a : Action} {m : Moved} {as : List Action} {es new : List Event}
  {past news owed sent news' owed' : List News} {n : News} {t u : Table}

/-! ## News in order -/

/-- The second piece of news may come after the first one: it is of another offer, or the offer was
    not removed by then and is not created afterwards. -/
def Follows (a b : News) : Prop := a.2 = b.2 → a.1 ≠ .removed ∧ b.1 ≠ .created

/-- The news is of offers whose ids were issued, in an order in which it can come, and those that
    were removed are gone. -/
structure Orderly (news : List News) (t : Table) : Prop where
  bounded : t.Bounded
  issued : ∀ n ∈ news, n.2.toNat ≤ t.issued
  order : news.Pairwise Follows
  gone : ∀ id, (.removed, id) ∈ news → t.find? id.toInt64 = none

namespace Orderly

theorem later (h : Orderly news t) (later : Table.Later t u) : Orderly news u := by
  refine ⟨later.bounded h.bounded, fun n hn => Nat.le_trans (h.issued n hn) later.issued, h.order,
    ?_⟩
  intro id hremoved
  have hle : id.toNat ≤ t.issued := h.issued _ hremoved
  have hint := Storage.toInt_toInt64_le id
  exact later.gone _ (by omega) (h.gone id hremoved)

/-- An offer that is found was issued, and not removed. -/
theorem follows_of_found (h : Orderly news t) {kind : EventKind} {id : UInt64}
    (found : t.find? id.toInt64 ≠ none) (old : kind ≠ .created) :
    ∀ n ∈ news, Follows n (kind, id) := by
  rintro ⟨kind', id'⟩ hn (rfl : id' = id)
  refine ⟨?_, old⟩
  rintro (rfl : kind' = .removed)
  exact found (h.gone id' hn)

theorem written (h : Orderly news t) (later : Table.Later t u) (w : Written t u n) :
    Orderly (news ++ [n]) u := by
  have hafter := h.later later
  have hfits {id : UInt64} (fits : id.toNat ≤ Storage.maxColumn)
      (found : t.find? id.toInt64 ≠ none) : id.toNat ≤ t.issued := by
    have hle := h.bounded.le_of_find? found
    rw [Storage.toInt_toInt64_of_le fits] at hle
    omega
  have hissued : n.2.toNat ≤ u.issued := by
    cases w with
    | created next issued => exact Nat.le_of_eq (next.trans issued.symm)
    | updated fits found issued => exact issued ▸ hfits fits found
    | removed fits found gone issued => exact issued ▸ hfits fits found
  have hfollows : ∀ n' ∈ news, Follows n' n := by
    cases w with
    | @created id next =>
      -- No news is of an id that was not issued.
      intro n' hn' hsame
      have hid : n'.2 = id := hsame
      have hle := h.issued n' hn'
      rw [hid] at hle
      omega
    | updated fits found => exact h.follows_of_found found nofun
    | removed fits found => exact h.follows_of_found found nofun
  refine ⟨hafter.bounded, ?_, ?_, ?_⟩
  · intro n' hn'
    rcases List.mem_append.mp hn' with hold | hnew
    · exact hafter.issued n' hold
    · rw [List.mem_singleton.mp hnew]
      exact hissued
  · refine List.pairwise_append.mpr ⟨h.order, List.pairwise_singleton _ _, ?_⟩
    intro n' hn' n'' hn''
    rw [List.mem_singleton.mp hn'']
    exact hfollows n' hn'
  · intro id hremoved
    rcases List.mem_append.mp hremoved with hold | hnew
    · exact hafter.gone id hold
    · cases List.mem_singleton.mp hnew
      cases w with
      | removed _ _ gone => exact gone

end Orderly

/-! ## News and answers -/

/-- The news that the answers tell of, request by request. -/
inductive Tells : List (Request × Response) → List News → Prop
  | nil : Tells [] []
  | snoc {ps ns r b new} (tells : Tells ps ns) (heralds : Heralds r b new) :
      Tells (ps ++ [(r, b)]) (ns ++ new)

/-- The answers leave no doubt about the news. -/
theorem Tells.unique {ps : List (Request × Response)} (h : Tells ps news) (h' : Tells ps news') :
    news = news' := by
  induction h generalizing news' with
  | nil =>
    generalize hps : ([] : List (Request × Response)) = ps at h'
    cases h' with
    | nil => rfl
    | snoc => simp at hps
  | @snoc ps ns r b new tells heralds ih =>
    generalize hps : ps ++ [(r, b)] = qs at h'
    cases h' with
    | nil => simp at hps
    | snoc tells' heralds' =>
      obtain ⟨rfl, hlast⟩ := List.append_singleton_inj.mp hps
      cases hlast
      rw [ih tells', heralds.unique heralds']

/-! ## Steps -/

/-- An open publisher stays open, and letters look the same, whatever happens in the service. -/
theorem Move.accepting (hmove : Move s a m) (open_ : Accepting s.publisher)
    (spares : ∀ b, a = .publisher b → b.Spares) :
    Accepting m.1.publisher ∧ m.1.letter = s.letter := by
  have hsaver (u : State) (hpublisher : u.publisher = s.publisher) (hclock : u.clock = s.clock)
      (n : Saver.Moved) :
      Accepting (afterSaver u n).1.publisher ∧ (afterSaver u n).1.letter = s.letter := by
    obtain ⟨hs, hafter, -⟩ := exists_afterSaver u n
    have hsame : (afterSaver u n).1.publisher = s.publisher := by rw [hafter, hpublisher]
    refine ⟨hsame ▸ open_, letter_eq ?_ (by rw [hsame])⟩
    rw [hafter, hclock]
  have hpublisher (u : State) {b : Publisher.Action} {n : Publisher.Moved}
      (hclock : u.clock = s.clock) (hown : Publisher.Move s.publisher b n) (hb : b.Spares) :
      Accepting (afterPublisher u n).1.publisher ∧ (afterPublisher u n).1.letter = s.letter := by
    obtain ⟨hs, hafter, -⟩ := exists_afterPublisher u n
    have hsame : (afterPublisher u n).1.publisher = n.1 := by rw [hafter]
    obtain ⟨hopen, htopic⟩ := open_.step hown hb
    refine ⟨hsame ▸ hopen, letter_eq ?_ (by rw [hsame, htopic])⟩
    rw [hafter, hclock]
  cases hmove with
  | receive => exact ⟨open_, rfl⟩
  | @handle c h fault =>
    generalize hm : Service.handle s c h fault = m
    cases handle_cases hm with
    | save => exact hsaver (s.setHandling c _) rfl rfl _
    | publish => exact hpublisher (s.setHandling c _) rfl (Publisher.send_cases _ _ _) trivial
    | _ => exact ⟨open_, rfl⟩
  | saver => exact hsaver s rfl rfl _
  | @publisher b n own move => exact hpublisher s rfl (Publisher.move_cases move) (spares b rfl)
  | @store _ _ _ _ _ u => exact hsaver { s with store := u } rfl rfl _
  | @refuse _ _ _ _ _ u => exact hsaver { s with store := u } rfl rfl _

/-! ## Runs -/

/-- What is known in the middle of a run: `past` is the news of the requests that were answered, and
    `news` that of the one that is being handled; of all that, `sent` was put into the queue, and
    `owed` is still to be sent. -/
structure Chronicle (s₀ : State) (as : List Action) (es : List Event) (s : State)
    (past news owed sent : List News) : Prop where
  serves : Serves s news owed
  accepting : Accepting s.publisher
  letter : s.letter = s₀.letter
  tells : Tells (answers es) past
  published : published es = sent.map s₀.letter
  whole : sent ++ owed = past ++ news
  orderly : Orderly (past ++ news) s.store.table
  /-- Ids were issued in ascending order, and those that the news calls new were issued to requests
      to create one offer. -/
  source : ∀ before a after es' u v new, as = before ++ a :: after →
    Path stepInTurn s₀ before es' u → stepInTurn u a = some (v, new) →
      v.store.table.issued ≤ s.store.table.issued ∧
        ∀ id : UInt64, u.store.table.issued < id.toNat → id.toNat ≤ v.store.table.issued →
          (.created, id) ∈ past ++ news → Creates u a

namespace Chronicle

/-- What was issued before stays so, and what is issued by this action is news only if it creates an
    offer. -/
theorem source_snoc {past' : List News} (h : Chronicle s₀ as es s past news owed sent)
    (hpath : Path stepInTurn s₀ as es s) (hstep : stepInTurn s a = some m)
    (later : s.store.table.issued ≤ m.1.store.table.issued)
    (same : ∀ id : UInt64, (.created, id) ∈ past' ++ news' → (.created, id) ∈ past ++ news ∨
      id.toNat = s.store.table.issued + 1 ∧ Creates s a) :
    ∀ before b after es' u v new, as ++ [a] = before ++ b :: after →
      Path stepInTurn s₀ before es' u → stepInTurn u b = some (v, new) →
        v.store.table.issued ≤ m.1.store.table.issued ∧
          ∀ id : UInt64, u.store.table.issued < id.toNat → id.toNat ≤ v.store.table.issued →
            (.created, id) ∈ past' ++ news' → Creates u b := by
  intro before b after es' u v new has hbefore hb
  rcases List.eq_nil_or_concat after with rfl | ⟨after, b', rfl⟩
  · obtain ⟨rfl, rfl⟩ := List.append_singleton_inj.mp has
    obtain ⟨-, rfl⟩ := hpath.unique hbefore
    rw [hstep] at hb
    cases hb
    refine ⟨Nat.le_refl _, fun id hlt _ hnew => ?_⟩
    rcases same id hnew with hold | ⟨-, creates⟩
    · have hle := h.orderly.issued _ hold
      exact absurd hlt (Nat.not_lt.mpr hle)
    · exact creates
  · have hlast : as ++ [a] = (before ++ b :: after) ++ [b'] := by simpa using has
    obtain ⟨rfl, rfl⟩ := List.append_singleton_inj.mp hlast
    obtain ⟨hle, hsource⟩ := h.source before b after es' u v new rfl hbefore hb
    refine ⟨Nat.le_trans hle later, fun id hlt hv hnew => ?_⟩
    rcases same id hnew with hold | ⟨hid, -⟩
    · exact hsource id hlt hv hold
    · omega

theorem step (h : Chronicle s₀ as es s past news owed sent) (hpath : Path stepInTurn s₀ as es s)
    (hstep : stepInTurn s a = some m) (spares : ∀ b, a = .publisher b → b.Spares) :
    ∃ past' news' owed' sent', Chronicle s₀ (as ++ [a]) (es ++ m.2) m.1 past' news' owed' sent' := by
  obtain ⟨hservice, inTurn⟩ := step_of_stepInTurn hstep
  have hmove := move_cases hservice
  obtain ⟨accepting, hletter⟩ := hmove.accepting h.accepting spares
  have letter := hletter.trans h.letter
  obtain ⟨news', owed', hserves, hstride⟩ := h.serves.step h.accepting hmove inTurn spares
  have htells := h.tells
  have hpublished := h.published
  have hwhole := h.whole
  cases hstride with
  | rest later silent unanswered =>
    refine ⟨past, news, owed, sent, hserves, accepting, letter, ?_, ?_, hwhole,
      h.orderly.later later, h.source_snoc hpath hstep later.issued fun id => Or.inl⟩
    · rw [answers_append, unanswered, List.append_nil]
      exact htells
    · rw [published_append, silent, List.append_nil]
      exact hpublished
  | @write n later written source silent unanswered =>
    rw [List.append_nil, List.append_nil] at hwhole
    have horderly := h.orderly
    rw [List.append_nil] at horderly
    refine ⟨past, [n], [n], sent, hserves, accepting, letter, ?_, ?_, by rw [hwhole],
      horderly.written later written, h.source_snoc hpath hstep later.issued ?_⟩
    · rw [answers_append, unanswered, List.append_nil]
      exact htells
    · rw [published_append, silent, List.append_nil]
      exact hpublished
    · intro id hmem
      rcases List.mem_append.mp hmem with hold | hnew
      · exact Or.inl (List.mem_append_left _ hold)
      · cases List.mem_singleton.mp hnew
        cases written with
        | created next => exact Or.inr ⟨next, source rfl⟩
  | @send n same sent' unanswered =>
    have hle : s.store.table.issued ≤ m.1.store.table.issued := Nat.le_of_eq (by rw [same])
    refine ⟨past, [n], [], sent ++ [n], hserves, accepting, letter, ?_, ?_, ?_, ?_,
      h.source_snoc hpath hstep hle fun id => Or.inl⟩
    · rw [answers_append, unanswered, List.append_nil]
      exact htells
    · rw [published_append, hpublished, sent', h.letter, List.map_append]
      rfl
    · rw [List.append_nil, hwhole]
    · rw [same]
      exact h.orderly
  | @answer _ r b same silent answered heralds =>
    have hle : s.store.table.issued ≤ m.1.store.table.issued := Nat.le_of_eq (by rw [same])
    refine ⟨past ++ news, [], [], sent, hserves, accepting, letter, ?_, ?_, ?_, ?_,
      h.source_snoc hpath hstep hle ?_⟩
    · rw [answers_append, answered]
      exact .snoc htells heralds
    · rw [published_append, silent, List.append_nil]
      exact hpublished
    · rw [List.append_nil] at hwhole ⊢
      rw [hwhole, List.append_nil]
    · rw [same, List.append_nil]
      exact h.orderly
    · intro id hmem
      rw [List.append_nil] at hmem
      exact Or.inl hmem

end Chronicle

end OfferService.Service
