import OfferService.Offer.Json
import OfferService.Proofs.Json.Printing
import OfferService.Proofs.Json.Records

/-
  OfferService.Proofs.Offer.RoundTrip

  An offer is read back from what is written of it, and from any object that tells it: members in
  any order, others in between, blanks anywhere. What was read of an object so far is settled by
  which of its members have come (`Draft.seen`), in whatever order they came.
-/
namespace OfferService.Offer

open OfferService.Json

/-! ## What is written -/

/-- The names of an offer's members. -/
def memberNames : List String := ["id", "user_id", "team_id", "grade", "is_deleted"]

/-- The tokens of a number of 64 bits. -/
def wordTokens (n : UInt64) : List Token := [.number (.natural n.toNat)]

/-- An offer's members, each with the tokens of its value. -/
def members (o : Offer) : List (String × List Token) :=
  [("id", wordTokens o.id), ("user_id", wordTokens o.userId), ("team_id", wordTokens o.teamId),
    ("grade", wordTokens o.grade), ("is_deleted", [.boolean o.isDeleted])]

/-- An offer's members without the mark of a removed one. -/
def unmarkedMembers (o : Offer) : List (String × List Token) := o.members.dropLast

/-- The members of an object that tells an offer: those of the offer in any order, of which the
    mark may be left out if the offer is not removed, and any others. -/
structure Tells (ms : List (String × List Token)) (o : Offer) : Prop where
  values : ∀ m ∈ ms, ∃ depth, IsValue depth m.2
  known : (ms.filter fun m => m.1 ∈ memberNames).Perm o.members ∨
    o.isDeleted = false ∧ (ms.filter fun m => m.1 ∈ memberNames).Perm o.unmarkedMembers

theorem le_maxSignificand (n : UInt64) : n.toNat ≤ NumberText.maxSignificand :=
  Nat.le_sub_one_of_lt n.toNat_lt

theorem fits_toJson (o : Offer) : o.toJson.Fits :=
  ⟨le_maxSignificand _, le_maxSignificand _, le_maxSignificand _, le_maxSignificand _, trivial,
    trivial⟩

/-- What is written of an offer are its members. -/
theorem writing_toText (o : Offer) : Writing (recordTokens o.members) (Text.Utf8.encode o.toText) :=
  writing_render (fits_toJson o)

/-- The text of an offer. -/
theorem toText_eq (o : Offer) : o.toText =
    "\x7b\"id\":" ++ toString o.id.toNat ++ ",\"user_id\":" ++ toString o.userId.toNat ++
      ",\"team_id\":" ++ toString o.teamId.toNat ++ ",\"grade\":" ++ toString o.grade.toNat ++
      ",\"is_deleted\":" ++ toString o.isDeleted ++ "\x7d" := by
  have hmark : (Value.boolean o.isDeleted).chars = (toString o.isDeleted).toList := by
    cases o.isDeleted <;> rfl
  have hchars : o.toJson.chars = '\x7b' :: (separated
      ["\"id\":".toList ++ (toString o.id.toNat).toList,
        "\"user_id\":".toList ++ (toString o.userId.toNat).toList,
        "\"team_id\":".toList ++ (toString o.teamId.toNat).toList,
        "\"grade\":".toList ++ (toString o.grade.toNat).toList,
        "\"is_deleted\":".toList ++ (toString o.isDeleted).toList] ++ ['\x7d']) := by
    rw [← hmark]
    rfl
  rw [toText, Value.render, hchars, ← String.toList_inj, String.toList_ofList, separated_cons]
  simp

theorem names_members (o : Offer) : o.members.map (·.1) = memberNames := rfl

theorem isValue_member {o : Offer} {m : String × List Token} (mem : m ∈ o.members) :
    IsValue 0 m.2 := by
  simp only [members, wordTokens, List.mem_cons, List.not_mem_nil, or_false] at mem
  rcases mem with rfl | rfl | rfl | rfl | rfl
  · exact .number
  · exact .number
  · exact .number
  · exact .number
  · exact .boolean

theorem tells_members (o : Offer) : Tells o.members o where
  values _ mem := ⟨0, isValue_member mem⟩
  known := by
    have hall : (o.members.filter fun m => m.1 ∈ memberNames) = o.members := by
      refine List.filter_eq_self.mpr fun m hm => decide_eq_true ?_
      rw [← names_members o]
      exact List.mem_map_of_mem hm
    rw [hall]
    exact .inl (.refl _)

/-! ## What is read -/

/-- What is read of an offer when the members of these names have come. -/
def Draft.seen (o : Offer) (names : List String) : Draft where
  id := if "id" ∈ names then some o.id else none
  userId := if "user_id" ∈ names then some o.userId else none
  teamId := if "team_id" ∈ names then some o.teamId else none
  grade := if "grade" ∈ names then some o.grade else none
  isDeleted := if "is_deleted" ∈ names then some o.isDeleted else none

theorem Draft.seen_nil (o : Offer) : Draft.seen o [] = {} := by
  simp [seen]

/-- Other names make no difference. -/
theorem Draft.seen_other {o : Offer} {name : String} {names : List String}
    (other : name ∉ memberNames) : Draft.seen o (name :: names) = Draft.seen o names := by
  simp only [memberNames, List.mem_cons, List.not_mem_nil, or_false, not_or] at other
  obtain ⟨h1, h2, h3, h4, h5⟩ := other
  simp [seen, List.mem_cons, Ne.symm h1, Ne.symm h2, Ne.symm h3, Ne.symm h4, Ne.symm h5]

theorem Draft.seen_cons (o : Offer) (names : List String) :
    Draft.seen o ("id" :: names) = { Draft.seen o names with id := some o.id } ∧
    Draft.seen o ("user_id" :: names) = { Draft.seen o names with userId := some o.userId } ∧
    Draft.seen o ("team_id" :: names) = { Draft.seen o names with teamId := some o.teamId } ∧
    Draft.seen o ("grade" :: names) = { Draft.seen o names with grade := some o.grade } ∧
    Draft.seen o ("is_deleted" :: names) =
      { Draft.seen o names with isDeleted := some o.isDeleted } := by
  simp [seen]

/-- When the members of an offer have come, it is whole; the mark may be missing. -/
theorem Draft.build_seen {o : Offer} {names : List String}
    (some : ∀ m ∈ o.unmarkedMembers, m.1 ∈ names)
    (mark : "is_deleted" ∈ names ∨ o.isDeleted = false) : (Draft.seen o names).build = .ok o := by
  simp only [unmarkedMembers, members, List.dropLast, List.forall_mem_cons] at some
  obtain ⟨hid, huser, hteam, hgrade, -⟩ := some
  have hmark : (if "is_deleted" ∈ names then Option.some o.isDeleted else none).getD false =
      o.isDeleted := by
    by_cases h : "is_deleted" ∈ names
    · rw [if_pos h, Option.getD_some]
    · rw [if_neg h, Option.getD_none, mark.resolve_left h]
  simp only [build, seen, hid, huser, hteam, hgrade, if_true, required, bind, Except.bind, hmark]

/-- One of an offer's members is read, whatever has come before it. -/
theorem reads_member {o : Offer} {m : String × List Token} (mem : m ∈ o.members)
    {names : List String} (fresh : m.1 ∉ names) (origin : Origin) :
    ∃ member, shape.member? m.1 = some member ∧ member.isSet (Draft.seen o names) = false ∧
      Reads (member.read origin (Draft.seen o names)) m.2 (Draft.seen o (m.1 :: names)) := by
  obtain ⟨hid, huser, hteam, hgrade, hdeleted⟩ := Draft.seen_cons o names
  simp only [members, List.mem_cons, List.not_mem_nil, or_false] at mem
  rcases mem with rfl | rfl | rfl | rfl | rfl
  · rw [hid]
    refine ⟨_, rfl, by simpa [Member.field, Draft.seen] using fresh, ?_⟩
    exact Member.reads_field (reads_word64 o.id) _ _ _ _
  · rw [huser]
    refine ⟨_, rfl, by simpa [Member.field, Draft.seen] using fresh, ?_⟩
    exact Member.reads_field (reads_word64 o.userId) _ _ _ _
  · rw [hteam]
    refine ⟨_, rfl, by simpa [Member.field, Draft.seen] using fresh, ?_⟩
    exact Member.reads_field (reads_word64 o.teamId) _ _ _ _
  · rw [hgrade]
    refine ⟨_, rfl, by simpa [Member.field, Draft.seen] using fresh, ?_⟩
    exact Member.reads_field (reads_word64 o.grade) _ _ _ _
  · rw [hdeleted]
    refine ⟨_, rfl, by simpa [Member.field, Draft.seen] using fresh, ?_⟩
    exact Member.reads_field (reads_boolean o.isDeleted) _ _ _ _

theorem member?_other {name : String} (other : name ∉ memberNames) :
    shape.member? name = none := by
  simp only [memberNames, List.mem_cons, List.not_mem_nil, or_false, not_or] at other
  obtain ⟨h1, h2, h3, h4, h5⟩ := other
  simp [Shape.member?, shape, Member.field, Ne.symm h1, Ne.symm h2, Ne.symm h3, Ne.symm h4,
    Ne.symm h5]

/-- Members of an offer, none of them twice, and others are gathered in any order. -/
theorem gathers_seen {o : Offer} {ms : List (String × List Token)}
    (known : ∀ m ∈ ms, m.1 ∈ memberNames → m ∈ o.members)
    (once : ms.Pairwise fun m m' => m.1 ∈ memberNames → m.1 ≠ m'.1) {names : List String}
    (fresh : ∀ m ∈ ms, m.1 ∈ memberNames → m.1 ∉ names) (origin : Origin) :
    shape.Gathers origin (Draft.seen o names) (ms.map named)
      (Draft.seen o ((ms.map (·.1)).reverse ++ names)) := by
  -- for any names that have come before: each member adds its own
  induction ms generalizing names with
  | nil => exact .nil
  | cons m ms ih =>
    obtain ⟨hm, hms⟩ := List.forall_mem_cons.mp known
    obtain ⟨hfresh, hfreshs⟩ := List.forall_mem_cons.mp fresh
    obtain ⟨hapart, honce⟩ := List.pairwise_cons.mp once
    have hlater : ∀ m' ∈ ms, m'.1 ∈ memberNames → m'.1 ∉ m.1 :: names := by
      intro m' hm' hname hmem
      rcases List.mem_cons.mp hmem with heq | hmem
      · exact hapart m' hm' (heq ▸ hname) heq.symm
      · exact hfreshs m' hm' hname hmem
    have hothers := ih hms honce hlater
    rw [List.map_cons, List.map_cons, List.reverse_cons, List.append_assoc,
      List.singleton_append]
    by_cases hname : m.1 ∈ memberNames
    · obtain ⟨member, hfound, hunset, hreads⟩ := reads_member (hm hname) (hfresh hname) origin
      exact .known hfound hunset hreads hothers
    · rw [Draft.seen_other hname] at hothers
      exact .other (member?_other hname) hothers

/-! ## What an object tells -/

section

variable {ms : List (String × List Token)} {o : Offer}

theorem Tells.known_mem (tells : Tells ms o) {m : String × List Token} (hm : m ∈ ms)
    (hname : m.1 ∈ memberNames) : m ∈ o.members := by
  have hfilter : m ∈ ms.filter fun m => m.1 ∈ memberNames :=
    List.mem_filter.mpr ⟨hm, decide_eq_true hname⟩
  rcases tells.known with perm | ⟨-, perm⟩
  · exact perm.mem_iff.mp hfilter
  · exact (List.dropLast_sublist _).subset (perm.mem_iff.mp hfilter)

theorem Tells.once (tells : Tells ms o) :
    ms.Pairwise fun m m' => m.1 ∈ memberNames → m.1 ≠ m'.1 := by
  have hnodup : ((ms.filter fun m => m.1 ∈ memberNames).map (·.1)).Nodup := by
    rcases tells.known with perm | ⟨-, perm⟩
    · rw [(perm.map (·.1)).nodup_iff, names_members]
      decide
    · have hnames : o.unmarkedMembers.map (·.1) = memberNames.dropLast := rfl
      rw [(perm.map (·.1)).nodup_iff, hnames]
      decide
  have hpairwise := List.pairwise_filter.mp (List.pairwise_map.mp hnodup)
  refine hpairwise.imp fun {m m'} hne hname heq => ?_
  have hname' : m'.1 ∈ memberNames := heq ▸ hname
  exact hne (decide_eq_true hname) (decide_eq_true hname') heq

theorem Tells.unmarked_mem (tells : Tells ms o) {m : String × List Token}
    (hm : m ∈ o.unmarkedMembers) : m ∈ ms := by
  have hfilter : m ∈ ms.filter fun m => m.1 ∈ memberNames := by
    rcases tells.known with perm | ⟨-, perm⟩
    · exact perm.mem_iff.mpr ((List.dropLast_sublist _).subset hm)
    · exact perm.mem_iff.mpr hm
  exact (List.mem_filter.mp hfilter).1

theorem Tells.mark (tells : Tells ms o) :
    "is_deleted" ∈ ms.map (·.1) ∨ o.isDeleted = false := by
  refine tells.known.imp (fun perm => ?_) And.left
  have hmark : ("is_deleted", [.boolean o.isDeleted]) ∈ o.members := by
    simp [members]
  exact List.mem_map_of_mem (List.mem_filter.mp (perm.mem_iff.mpr hmark)).1

/-- An object that tells an offer is read as the offer. -/
theorem reads_of_tells (tells : Tells ms o) (origin : Origin) :
    Reads (reader origin) (recordTokens ms) o := by
  have hgathers := gathers_seen (fun m hm => tells.known_mem hm) tells.once
    (fun _ _ _ => List.not_mem_nil) origin
  rw [Draft.seen_nil, List.append_nil] at hgathers
  have hvalues : ∀ m ∈ ms.map named, ∃ depth, IsValue depth m.2 :=
    List.forall_mem_map.mpr tells.values
  refine Shape.reads_object hgathers hvalues (Draft.build_seen (fun m hm => ?_) ?_)
  · exact List.mem_reverse.mpr (List.mem_map_of_mem (tells.unmarked_mem hm))
  · exact tells.mark.imp_left List.mem_reverse.mpr

end

/-- Whatever tells an offer is read as the offer, be it written by the printer or not; the numbers
    keep all their digits. -/
theorem offers_read_back :
    (∀ o : Offer, ofText (Text.Utf8.encode o.toText) = .ok o) ∧
    (∀ n : UInt64, Spells (.number (.natural n.toNat)) (Text.Utf8.encode (toString n.toNat))) ∧
    (∀ (o : Offer) (ms : List (String × List Token)) (text : List UInt8),
      Tells ms o → Writing (recordTokens ms) text → ofText text = .ok o) ∧
    ∀ (text : List UInt8) (o : Offer), ofText text = .ok o →
      o.toText = "\x7b\"id\":" ++ toString o.id.toNat ++
        ",\"user_id\":" ++ toString o.userId.toNat ++
        ",\"team_id\":" ++ toString o.teamId.toNat ++ ",\"grade\":" ++ toString o.grade.toNat ++
        ",\"is_deleted\":" ++ toString o.isDeleted ++ "\x7d" ∧
      ofText (Text.Utf8.encode o.toText) = .ok o := by
  have htells : ∀ (o : Offer) (ms : List (String × List Token)) (text : List UInt8),
      Tells ms o → Writing (recordTokens ms) text → ofText text = .ok o :=
    fun o ms text tells writing => read_of_reads writing (reads_of_tells tells .text)
  have hprinted : ∀ o : Offer, ofText (Text.Utf8.encode o.toText) = .ok o :=
    fun o => htells o o.members _ (tells_members o) (writing_toText o)
  exact ⟨hprinted, fun n => spells_natural (le_maxSignificand n), htells,
    fun _ o _ => ⟨toText_eq o, hprinted o⟩⟩

theorem offers_read_back_largest_id :
    ofText (0x20 :: Text.Utf8.encode (Value.object
      [("user_id", .natural 2), ("extra", .array [.object [("id", .null)]]),
        ("id", .natural 0xffffffffffffffff), ("team_id", .natural 3),
        ("grade", .natural 4)]).render) =
      .ok { id := 0xffffffffffffffff, userId := 2, teamId := 3, grade := 4 } := by
  have hfits : Value.Fits (.object
      [("user_id", .natural 2), ("extra", .array [.object [("id", .null)]]),
        ("id", .natural 0xffffffffffffffff), ("team_id", .natural 3), ("grade", .natural 4)]) := by
    simp [Value.Fits, Value.MembersFit, Value.ItemsFit, NumberText.maxSignificand]
  have hid : IsValue 1 (recordTokens [("id", [.null])]) :=
    .object (List.forall_mem_singleton.mpr .null)
  have hextra : IsValue 2 (arrayTokens [recordTokens [("id", [.null])]]) :=
    .array (List.forall_mem_singleton.mpr hid)
  refine offers_read_back.2.2.1 _ _ _ ?_ (.blank List.mem_cons_self (writing_render hfits))
  refine ⟨?_, .inr ⟨rfl, .swap _ _ _⟩⟩
  simp only [Value.memberTokens, List.forall_mem_cons]
  exact ⟨⟨0, .number⟩, ⟨2, hextra⟩, ⟨0, .number⟩, ⟨0, .number⟩, ⟨0, .number⟩, nofun⟩

end OfferService.Offer
