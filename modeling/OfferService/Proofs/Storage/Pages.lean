import OfferService.Proofs.Page
import OfferService.Proofs.Storage.Outcome

/-
  OfferService.Proofs.Storage.Pages

  Reading the list of offers page by page. Whoever begins at its start, and goes on by the size of a
  page as long as there is said to be a next one, comes to an end, and has then read all live offers
  in their order, each as often as it is there.
-/
namespace OfferService.Storage

open Query

/-- A reader asks for pages of a size, from a position on, as long as there is a next one; these are
    the answers. -/
inductive Browses (s : Store) (take : UInt32) : UInt64 → List (List Offer × PageInfo) → Prop
  | last {skip : UInt64} {offers : List Offer} {info : PageInfo}
      (answer : ((Store.list { take, skip }).on s).1 = .ok (offers, info))
      (done : info.hasNext = false) : Browses s take skip [(offers, info)]
  | next {skip : UInt64} {offers : List Offer} {info : PageInfo}
      {others : List (List Offer × PageInfo)}
      (answer : ((Store.list { take, skip }).on s).1 = .ok (offers, info))
      (more : info.hasNext = true) (later : Browses s take (skip + take.toUInt64) others) :
      Browses s take skip ((offers, info) :: others)

namespace Store

variable {s : Store} {take : UInt32} {skip : UInt64} {k : Nat} {offers : List Offer}
  {info : PageInfo} {answers : List (List Offer × PageInfo)}

/-- A page that is asked for where a page begins. -/
structure Turned (s : Store) (take : UInt32) (skip : UInt64) (offers : List Offer)
    (info : PageInfo) : Prop where
  offers : offers = ((s.table.live.drop skip.toNat).take take.toNat).map Row.toOffer
  hasNext : info.hasNext = true ↔ skip.toNat + take.toNat < s.table.live.length

/-- Where a page begins that exists, the list is answered, and its flag is right. -/
theorem exists_turned (ready : s.access = .ready) (some : take ≠ 0)
    (count : s.table.live.length ≤ maxColumn) (aligned : skip.toNat = k * take.toNat)
    (fits : skip.toNat ≤ s.table.live.length) :
    ∃ offers info, ((list { take, skip }).on s).1 = .ok (offers, info) ∧
      Turned s take skip offers info := by
  have hcolumn : skip.toNat ≤ maxColumn := Nat.le_trans fits count
  have hanswer := congrArg Prod.fst (list_on (w := { take, skip }) ready some hcolumn)
  refine ⟨_, _, hanswer, rfl, ?_⟩
  have hmax : maxColumn = 2 ^ 63 - 1 := rfl
  have hsize : UInt64.size = 2 ^ 64 := rfl
  have htotal : (UInt64.ofNat s.table.live.length).toNat = s.table.live.length :=
    UInt64.toNat_ofNat_of_lt' (by omega)
  have hnext := Window.hasNext_place (w := { take, skip })
    (UInt32.ofNat (page s.table { take, skip }).length) (UInt64.ofNat s.table.live.length)
    some aligned (hasNumber_of_column (column_of_le hcolumn))
  rw [htotal] at hnext
  exact hnext

theorem turned_of_answer (ready : s.access = .ready) (some : take ≠ 0)
    (count : s.table.live.length ≤ maxColumn) (aligned : skip.toNat = k * take.toNat)
    (fits : skip.toNat ≤ s.table.live.length)
    (answer : ((list { take, skip }).on s).1 = .ok (offers, info)) :
    Turned s take skip offers info := by
  obtain ⟨offers', info', hanswer, hturned⟩ := exists_turned ready some count aligned fits
  rw [answer] at hanswer
  cases hanswer
  exact hturned

/-- The next page begins after this one. -/
theorem toNat_next (count : s.table.live.length ≤ maxColumn)
    (more : skip.toNat + take.toNat < s.table.live.length) :
    (skip + take.toUInt64).toNat = skip.toNat + take.toNat := by
  have hmax : maxColumn = 2 ^ 63 - 1 := rfl
  rw [UInt64.toNat_add, UInt32.toNat_toUInt64, Nat.mod_eq_of_lt (by omega)]

/-- A reader comes to an end. -/
theorem exists_browses (ready : s.access = .ready) (some : take ≠ 0)
    (count : s.table.live.length ≤ maxColumn) (aligned : skip.toNat = k * take.toNat)
    (fits : skip.toNat ≤ s.table.live.length) : ∃ answers, Browses s take skip answers := by
  -- What remains to be read gets less with each page, for no page is empty by its size.
  induction hrest : s.table.live.length - skip.toNat using Nat.strong_induction_on
    generalizing skip k with
  | _ rest ih =>
    obtain ⟨offers, info, hanswer, hturned⟩ := exists_turned ready some count aligned fits
    cases hnext : info.hasNext with
    | false => exact ⟨_, .last hanswer hnext⟩
    | true =>
      have hmore := hturned.hasNext.mp hnext
      have hpos := Window.toNat_take_pos (w := { take, skip }) some
      have hskip := toNat_next count hmore
      have haligned : (skip + take.toUInt64).toNat = (k + 1) * take.toNat := by
        rw [hskip, aligned, Nat.succ_mul]
      have hless : s.table.live.length - (skip + take.toUInt64).toNat < rest := by
        rw [hskip]
        change 0 < take.toNat at hpos
        omega
      obtain ⟨answers, hlater⟩ := ih _ hless haligned (by omega) rfl
      exact ⟨_, .next hanswer hnext hlater⟩

/-- A reader has read all live offers from there on. -/
theorem browses_offers (ready : s.access = .ready) (some : take ≠ 0)
    (count : s.table.live.length ≤ maxColumn) (h : Browses s take skip answers)
    (aligned : skip.toNat = k * take.toNat) (fits : skip.toNat ≤ s.table.live.length) :
    answers.flatMap Prod.fst = (s.table.live.drop skip.toNat).map Row.toOffer := by
  induction h generalizing k with
  | @last skip offers info answer done =>
    obtain ⟨hoffers, hnext⟩ := turned_of_answer ready some count aligned fits answer
    have hend : ¬ skip.toNat + take.toNat < s.table.live.length := by
      rw [← hnext, done]
      nofun
    have hall : (s.table.live.drop skip.toNat).length ≤ take.toNat := by
      rw [List.length_drop]
      omega
    rw [List.flatMap_singleton, hoffers, List.take_of_length_le hall]
  | @next skip offers info others answer more later ih =>
    obtain ⟨hoffers, hnext⟩ := turned_of_answer ready some count aligned fits answer
    have hmore := hnext.mp more
    have hskip := toNat_next count hmore
    have hothers := ih (k := k + 1) (by rw [hskip, aligned, Nat.succ_mul]) (by omega)
    rw [List.flatMap_cons, hothers, hoffers, hskip, ← List.map_append, ← List.drop_drop,
      List.take_append_drop]

end Store

/-- Pages of any size make up the whole list. -/
theorem browses_all {s : Store} {take : UInt32} (ready : s.access = .ready) (some : take ≠ 0)
    (count : s.table.live.length ≤ maxColumn) :
    (∃ answers, Browses s take 0 answers) ∧
      ∀ answers, Browses s take 0 answers →
        answers.flatMap Prod.fst = s.table.live.map Row.toOffer := by
  have hzero : (0 : UInt64).toNat = 0 * take.toNat := by
    rw [Nat.zero_mul]
    rfl
  have hfits : (0 : UInt64).toNat ≤ s.table.live.length := Nat.zero_le _
  refine ⟨Store.exists_browses ready some count hzero hfits, fun answers h => ?_⟩
  exact Store.browses_offers ready some count h hzero hfits

end OfferService.Storage
