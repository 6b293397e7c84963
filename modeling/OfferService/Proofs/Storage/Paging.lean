import OfferService.Proofs.Storage.Arguments
import OfferService.Proofs.Storage.Live

/-
  OfferService.Proofs.Storage.Paging

  What a list of offers shows, and how many requests it takes to see all of it. A window shows the
  live rows in the order of their ids, without those that it passes over and up to its size. The
  flag that makes a reader go on comes from the numbers of pages, and what a page holds from the
  rows; both agree at the end of the list, so the reader asks for as many pages as the offers fill,
  and for one if there are none.

  Rows are counted in numbers of a column. Calls cannot write more rows than that, for each row
  takes an id of its own.
-/
namespace OfferService.Storage

open Query Table

/-! ## How many live rows there are -/

/-- Calls keep a table sound. -/
theorem Operation.sound {op : Operation} {s : Store} (call : op.isCall = true)
    (h : s.table.Sound) : (op.result s).table.Sound := by
  cases hanswer : op.answer s with
  | error e =>
    rw [op.result_of_error hanswer]
    exact h
  | ok a =>
    have hdone := Operation.done hanswer
    generalize op.result s = u at hdone
    cases hdone with
    | create inserted => exact (Store.insert_change h inserted).sound
    | createAll inserted => exact (Store.insertAll_change h inserted).sound
    | update _ found => exact (h.modify found rfl (.inl ⟨rfl, rfl⟩)).sound
    | remove _ found => exact (h.modify found rfl (.inr ⟨rfl, rfl⟩)).sound
    | insertRow => cases call
    | describe | list => exact h

theorem sound_after {s : Store} {ops : List Operation} (calls : ∀ op ∈ ops, op.isCall = true)
    (h : s.table.Sound) : (after s ops).table.Sound := by
  induction ops generalizing s with
  | nil => exact h
  | cons op ops ih =>
    obtain ⟨call, later⟩ := List.forall_mem_cons.mp calls
    exact ih later (Operation.sound call h)

theorem Table.Sound.length_live_le {t : Table} (h : t.Sound) : t.live.length ≤ maxColumn := by
  have hrows : t.live.length ≤ t.descending.length := by
    rw [← length_rows]
    exact List.length_filter_le _ _
  exact Nat.le_trans hrows (Nat.le_trans h.length_le h.issued_le)

/-! ## One window -/

/-- The live rows come in the order of their ids. -/
theorem Table.Ordered.live_sorted {t : Table} (h : t.Ordered) :
    t.live.Pairwise fun a b => a.id < b.id :=
  (List.pairwise_reverse.mpr h.sorted).filter _

theorem Table.mem_live {t : Table} {r : Row} : r ∈ t.live ↔ r ∈ t.rows ∧ r.isDeleted = 0 := by
  rw [live, List.mem_filter, isLive_iff]

/-! ## Readers -/

/-- Two readers who ask for the same pages of the same store get the same answers. -/
theorem Browses.unique {s : Store} {take : UInt32} {skip : UInt64}
    {answers others : List (List Offer × PageInfo)} (h : Browses s take skip answers)
    (h' : Browses s take skip others) : answers = others := by
  induction h generalizing others with
  | last answer done =>
    cases h' with
    | last answer' =>
      rw [answer] at answer'
      cases answer'
      rfl
    | next answer' more =>
      rw [answer] at answer'
      cases answer'
      rw [done] at more
      cases more
  | next answer more _ ih =>
    cases h' with
    | last answer' done =>
      rw [answer] at answer'
      cases answer'
      rw [done] at more
      cases more
    | next answer' _ later' =>
      rw [answer] at answer'
      cases answer'
      rw [ih later']

namespace Store

variable {s : Store} {take : UInt32} {skip : UInt64} {k : Nat} {offers : List Offer}
  {info : PageInfo} {answers : List (List Offer × PageInfo)}

/-- A page holds no more than its size, and its length is told. -/
theorem toNat_length_page (t : Table) (w : Window) :
    (UInt32.ofNat (page t w).length).toNat = (page t w).length := by
  have hle : (page t w).length ≤ w.take.toNat := List.length_take_le _ _
  exact UInt32.toNat_ofNat_of_lt' (Nat.lt_of_le_of_lt hle w.take.toNat_lt)

theorem toNat_length_live (count : s.table.live.length ≤ maxColumn) :
    (UInt64.ofNat s.table.live.length).toNat = s.table.live.length := by
  have hmax : maxColumn < UInt64.size := by decide
  exact UInt64.toNat_ofNat_of_lt' (Nat.lt_of_le_of_lt count hmax)

/-- A page tells its number. -/
theorem page_of_answer (ready : s.access = .ready) (some : take ≠ 0)
    (fits : skip.toNat ≤ maxColumn)
    (answer : ((list { take, skip }).on s).1 = .ok (offers, info)) :
    info.page.toNat = skip.toNat ⌈/⌉ take.toNat + 1 := by
  rw [list_on ready some fits] at answer
  cases answer
  exact Window.toNat_page_place (w := { take, skip }) _ _ some _

/-! ## All pages -/

/-- A page and what remains after it. -/
theorem ceilDiv_of_more {n m : Nat} (hm : 0 < m) (more : m < n) :
    n ⌈/⌉ m = (n - m) ⌈/⌉ m + 1 := by
  rw [Nat.ceilDiv_eq_add_pred_div, Nat.ceilDiv_eq_add_pred_div, ← Nat.add_div_right _ hm]
  congr 1
  omega

/-- A reader asks for as many pages as what remains fills, and for one at least; the pages are
    numbered one after another. -/
theorem browses_numbered (ready : s.access = .ready) (some : take ≠ 0)
    (count : s.table.live.length ≤ maxColumn) (h : Browses s take skip answers)
    (aligned : skip.toNat = k * take.toNat) (fits : skip.toNat ≤ s.table.live.length) :
    answers.length = max 1 ((s.table.live.length - skip.toNat) ⌈/⌉ take.toNat) ∧
      answers.map (fun a => a.2.page.toNat) = List.range' (k + 1) answers.length := by
  have hpos : 0 < take.toNat := Window.toNat_take_pos (w := { take, skip }) some
  induction h generalizing k with
  | @last skip offers info answer done =>
    have hpage := page_of_answer ready some (Nat.le_trans fits count) answer
    rw [Window.ceilDiv_of_aligned (w := { take, skip }) some aligned] at hpage
    obtain ⟨-, hnext⟩ := turned_of_answer ready some count aligned fits answer
    have hend : ¬ skip.toNat + take.toNat < s.table.live.length := by
      rw [← hnext, done]
      nofun
    have hone : (s.table.live.length - skip.toNat) ⌈/⌉ take.toNat ≤ 1 := by
      rw [ceilDiv_le_iff_le_mul hpos, Nat.mul_one]
      omega
    rw [Nat.max_eq_left hone, List.map_singleton, hpage]
    exact ⟨rfl, rfl⟩
  | @next skip offers info others answer more later ih =>
    have hpage := page_of_answer ready some (Nat.le_trans fits count) answer
    rw [Window.ceilDiv_of_aligned (w := { take, skip }) some aligned] at hpage
    obtain ⟨-, hnext⟩ := turned_of_answer ready some count aligned fits answer
    have hmore := hnext.mp more
    have hskip := toNat_next count hmore
    obtain ⟨hlength, hnumbers⟩ := ih (k := k + 1) (by rw [hskip, aligned, Nat.succ_mul]) (by omega)
    -- Something remains after this page, so at least one more is asked for.
    have hrest := ceilDiv_of_more (n := s.table.live.length - skip.toNat) hpos (by omega)
    have hleft : 0 < (s.table.live.length - skip.toNat - take.toNat) ⌈/⌉ take.toNat := by
      by_contra hzero
      have hnone := (ceilDiv_le_iff_le_mul hpos).mp (Nat.le_of_not_lt hzero)
      omega
    rw [hskip, ← Nat.sub_sub] at hlength
    refine ⟨?_, ?_⟩
    · rw [List.length_cons, hlength, hrest]
      omega
    · rw [List.map_cons, List.length_cons, List.range'_succ, hpage, hnumbers]

end Store

/-! ## The main result -/

/-- How the live offers of a store are listed. -/
structure Listed (s : Store) : Prop where
  /-- The live rows are those without a mark, in the order of their ids. -/
  live : ∀ r, r ∈ s.table.live ↔ r ∈ s.table.rows ∧ r.isDeleted = 0
  sorted : s.table.live.Pairwise fun a b => a.id < b.id
  /-- A window shows some of them in this order, and tells how many it shows and how many there
      are. -/
  window : ∀ w : Window, w.take ≠ 0 → w.skip.toNat ≤ maxColumn → ∃ info,
    (Store.list w).on s =
      (.ok (((s.table.live.drop w.skip.toNat).take w.take.toNat).map Row.toOffer, info), s) ∧
    info.perPage.toNat = ((s.table.live.drop w.skip.toNat).take w.take.toNat).length ∧
    info.totalItems.toNat = s.table.live.length
  /-- Whoever begins at the start and goes on by the size of a page while there is a next one gets
      these answers, and no others. -/
  pages : ∀ take : UInt32, take ≠ 0 → ∃ answers, Browses s take 0 answers ∧
    (∀ others, Browses s take 0 others → others = answers) ∧
    answers.length = max 1 (s.table.live.length ⌈/⌉ take.toNat) ∧
    answers.map (fun a => a.2.page.toNat) = List.range' 1 answers.length ∧
    answers.flatMap Prod.fst = s.table.live.map Row.toOffer ∧
    ((answers.flatMap Prod.fst).map Offer.id).Nodup

theorem listed_of_ordered {s : Store} (ready : s.access = .ready) (ordered : s.table.Ordered)
    (count : s.table.live.length ≤ maxColumn) : Listed s where
  live _ := mem_live
  sorted := ordered.live_sorted
  window w some fits :=
    ⟨_, Store.list_on ready some fits, Store.toNat_length_page s.table w,
      Store.toNat_length_live count⟩
  pages take some := by
    obtain ⟨⟨answers, hbrowses⟩, hall⟩ := browses_all ready some count
    have hzero : (0 : UInt64).toNat = 0 * take.toNat := by
      rw [Nat.zero_mul]
      rfl
    obtain ⟨hlength, hnumbers⟩ :=
      Store.browses_numbered ready some count hbrowses hzero (Nat.zero_le _)
    have hoffers := hall answers hbrowses
    refine ⟨answers, hbrowses, fun others h => h.unique hbrowses, hlength, hnumbers, hoffers, ?_⟩
    rw [hoffers]
    exact ordered.nodup_listed

/-- After every history of calls on a database that was empty at first, and of rows with ids of
    their own choice as long as a column can count the live ones: each window shows the live offers
    that it should, and whoever reads page by page sees each live offer once, in as many requests as
    there are pages. -/
theorem pages_show_each_once (ops : List Operation)
    (counted : (∀ op ∈ ops, op.isCall = true) ∨ (after {} ops).table.live.length ≤ maxColumn) :
    Listed (after {} ops) := by
  refine listed_of_ordered (ready_after ops) (ordered_after ops) ?_
  rcases counted with calls | count
  · exact (sound_after calls sound_empty).length_live_le
  · exact count

/-- Of five offers the second and the fifth are removed: two pages of two hold the other three, and
    the second page is the last one; a page of three is the only one. -/
theorem pages_show_each_once_three_of_five :
    let offer (n : UInt64) : Offer := .fresh n 1 1
    let ops : List Operation := [.createAll [offer 1, offer 2, offer 3, offer 4, offer 5],
      .remove 2, .remove 5]
    (∀ op ∈ ops, op.isCall = true) ∧ ∃ answers, Browses (after {} ops) 2 0 answers ∧
      answers.length = 2 ∧ answers.map (fun a => a.2.page.toNat) = [1, 2] ∧
      answers.flatMap Prod.fst = [{ offer 1 with id := 1 }, { offer 3 with id := 3 },
        { offer 4 with id := 4 }] ∧
      ∃ single, Browses (after {} ops) 3 0 single ∧ single.length = 1 := by
  intro offer ops
  have hcalls : ∀ op ∈ ops, op.isCall = true := by
    decide
  have hlive : (after {} ops).table.live.map Row.toOffer =
      [{ offer 1 with id := 1 }, { offer 3 with id := 3 }, { offer 4 with id := 4 }] := by
    decide +kernel
  have hthree : (after {} ops).table.live.length = 3 := by
    have hlength := congrArg List.length hlive
    rw [List.length_map] at hlength
    exact hlength
  have hlisted := pages_show_each_once ops (.inl hcalls)
  obtain ⟨answers, hbrowses, -, hlength, hnumbers, hoffers, -⟩ := hlisted.pages 2 (by decide)
  obtain ⟨single, hsingle, -, hone, -⟩ := hlisted.pages 3 (by decide)
  rw [hthree] at hlength hone
  rw [hlength] at hnumbers
  exact ⟨hcalls, answers, hbrowses, hlength, hnumbers, hoffers.trans hlive, single, hsingle, hone⟩

end OfferService.Storage
