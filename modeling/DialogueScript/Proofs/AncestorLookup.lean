import DialogueScript.Proofs.SilentTwins
import Mathlib.Data.List.Chain
import Mathlib.Order.Bounds.Defs

/-!
# Which ancestor answers

The rank of an inherited pattern comes from its nearest owner, but the trigger that answers for it
is looked up depth first.  On a line of ancestors the lookup meets the nearer before the farther;
where the line forks, it follows the parent that is named first to its end before it turns to the
next.  So an owner may be passed over for a farther one, which lies behind a parent named earlier.
-/

namespace DialogueScript

namespace Graph

variable {graph : Graph} {α : Type}

/-! ## Lines of ancestors -/

/-- Where the edges of a topic lead, in the order in which a trigger is looked up. -/
def parentsOf (graph : Graph) (name : Text) : List Text :=
  ((graph.topic? name).map fun topic => topic.inherits ++ topic.includes).getD []

/-- A walk from `name` to `target` that enters no topic of the path and none twice. -/
structure Line (graph : Graph) (path : List Text) (name : Text) (line : List Text)
    (target : Text) : Prop where
  chain : (name :: line).IsChain graph.Edge
  nodup : (path ++ name :: line).Nodup
  last : (name :: line).getLast? = some target

/-- Where the two walks from `name` part, the first one takes the edge that is followed first. -/
inductive Overtakes (graph : Graph) : Text → List Text → List Text → Prop
  | turn {name next other : Text} {line others : List Text}
      (hfirst : (graph.parentsOf name).idxOf next < (graph.parentsOf name).idxOf other) :
    Overtakes graph name (next :: line) (other :: others)
  | along {name next : Text} {line others : List Text} (hrest : Overtakes graph next line others) :
    Overtakes graph name (next :: line) (next :: others)

/-- The topic leads to two different ones. -/
def Forks (graph : Graph) (name : Text) : Prop :=
  ∃ first ∈ graph.parentsOf name, ∃ second ∈ graph.parentsOf name, first ≠ second

theorem edge_iff_mem_parentsOf {source target : Text} :
    graph.Edge source target ↔ target ∈ graph.parentsOf source := by
  cases htopic : graph.topic? source <;>
    simp [Edge, parentsOf, htopic, Topic.targets, or_comm]

namespace Line

variable {path line : List Text} {name next target : Text}

theorem nil (hpath : (path ++ [name]).Nodup) : graph.Line path name [] name :=
  ⟨List.isChain_singleton name, hpath, rfl⟩

theorem cons (hedge : graph.Edge name next) (hline : graph.Line (path ++ [name]) next line target) :
    graph.Line path name (next :: line) target := by
  refine ⟨hline.chain.cons_cons hedge, ?_, ?_⟩
  · simpa using hline.nodup
  · rw [List.getLast?_cons_cons]
    exact hline.last

theorem tail (hline : graph.Line path name (next :: line) target) :
    graph.Edge name next ∧ graph.Line (path ++ [name]) next line target := by
  obtain ⟨hchain, hnodup, hlast⟩ := hline
  rw [List.isChain_cons_cons] at hchain
  rw [List.getLast?_cons_cons] at hlast
  exact ⟨hchain.1, hchain.2, by simpa using hnodup, hlast⟩

theorem not_mem (hline : graph.Line path name line target) : name ∉ path := by
  intro hmem
  have hnodup := hline.nodup
  rw [List.nodup_append] at hnodup
  exact hnodup.2.2 name hmem name List.mem_cons_self rfl

theorem reachesOutside (hline : graph.Line path name line target) :
    graph.ReachesOutside path name target := by
  induction line generalizing path name with
  | nil =>
    obtain rfl : name = target := Option.some.inj hline.last
    exact .refl
  | cons next line ih =>
    obtain ⟨hedge, hrest⟩ := hline.tail
    have hnext : next ∉ path := fun hmem => hrest.not_mem (List.mem_append_left _ hmem)
    exact .head ⟨hedge, hnext⟩ (ih hrest).of_append

/-- Whatever stands on a line before its end is the end of a shorter one. -/
theorem exists_prefix
    (hline : graph.Line path name line target) {place : Text}
    (hplace : place ∈ (name :: line).dropLast) :
    ∃ front, front <+: line ∧ front.length < line.length ∧ graph.Line path name front place := by
  induction line generalizing path name with
  | nil => cases hplace
  | cons next line ih =>
    obtain ⟨hedge, hrest⟩ := hline.tail
    rw [List.dropLast_cons_cons, List.mem_cons] at hplace
    rcases hplace with rfl | hplace
    · have hpath : (path ++ [place]).Nodup := by
        have hnodup := hrest.nodup
        exact (List.nodup_append.mp hnodup).1
      exact ⟨[], List.nil_prefix, Nat.succ_pos _, .nil hpath⟩
    · obtain ⟨front, hfront, hlength, hshort⟩ := ih hrest hplace
      exact ⟨next :: front, (List.prefix_cons_inj next).mpr hfront, Nat.succ_lt_succ hlength,
        hshort.cons hedge⟩

end Line

theorem Overtakes.not_prefix
    {name : Text} {line other : List Text} (hovertakes : graph.Overtakes name line other) :
    ¬ other <+: line := by
  induction hovertakes with
  | turn hfirst =>
    rw [List.cons_prefix_cons]
    rintro ⟨rfl, -⟩
    exact lt_irrefl _ hfirst
  | along _ ih =>
    rw [List.cons_prefix_cons]
    exact fun hprefix => ih hprefix.2

/-- One walk overtakes another only where a topic leads to two different ones. -/
theorem Overtakes.exists_forks
    {name : Text} {line other : List Text} (hovertakes : graph.Overtakes name line other)
    (hline : (name :: line).IsChain graph.Edge) (hother : (name :: other).IsChain graph.Edge) :
    ∃ place ∈ (name :: line).dropLast, graph.Forks place := by
  induction hovertakes with
  | @turn name next second line others hfirst =>
    rw [List.isChain_cons_cons, edge_iff_mem_parentsOf] at hline hother
    refine ⟨name, by simp, next, hline.1, second, hother.1, ?_⟩
    rintro rfl
    exact lt_irrefl _ hfirst
  | @along name next line others _ ih =>
    rw [List.isChain_cons_cons] at hline hother
    obtain ⟨place, hplace, hforks⟩ := ih hline.2 hother.2
    rw [List.dropLast_cons_cons]
    exact ⟨place, List.mem_cons_of_mem _ hplace, hforks⟩

/-! ## What the lookup meets first -/

/-- `found` is what `f` gives at the end of the line, and of the walks to topics where `f` gives
something, the line is the first one. -/
structure MeetsFirst (graph : Graph) (f : Topic → Option α) (path : List Text) (name : Text)
    (line : List Text) (visited : Text) (found : α) : Prop where
  isLine : graph.Line path name line visited
  gives : (graph.topic? visited).bind f = some found
  first : ∀ other place, graph.Line path name other place →
    ((graph.topic? place).bind f).isSome → line <+: other ∨ graph.Overtakes name line other

theorem exists_split_of_findSome?_flatMap
    {β γ : Type} {items : List α} {g : α → List β} {f : β → Option γ} {found : γ}
    (hfound : (items.flatMap g).findSome? f = some found) :
    ∃ front item back, items = front ++ item :: back ∧ (g item).findSome? f = some found ∧
      ∀ other ∈ front, ∀ b ∈ g other, f b = none := by
  induction items with
  | nil => cases hfound
  | cons item items ih =>
    rw [List.flatMap_cons, List.findSome?_append] at hfound
    cases hitem : (g item).findSome? f with
    | some first =>
      rw [hitem, Option.some_or] at hfound
      exact ⟨[], item, items, rfl, hitem.trans hfound, by simp⟩
    | none =>
      rw [hitem, Option.none_or] at hfound
      obtain ⟨front, next, back, rfl, hnext, hfront⟩ := ih hfound
      rw [List.findSome?_eq_none_iff] at hitem
      exact ⟨item :: front, next, back, rfl, hnext, List.forall_mem_cons.mpr ⟨hitem, hfront⟩⟩

/-- What is met first behind a topic that gives nothing is met first behind the first of its parents
that leads to anything. -/
theorem MeetsFirst.cons
    {f : Topic → Option α} {path front back line : List Text} {name next visited : Text}
    {topic : Topic} {found : α} (htopic : graph.topic? name = some topic) (hown : f topic = none)
    (hsplit : topic.inherits ++ topic.includes = front ++ next :: back)
    (hpassed : ∀ other ∈ front, ∀ line place, graph.Line (path ++ [name]) other line place →
      (graph.topic? place).bind f = none)
    (hmeets : graph.MeetsFirst f (path ++ [name]) next line visited found) :
    graph.MeetsFirst f path name (next :: line) visited found := by
  have hparents : graph.parentsOf name = front ++ next :: back := by
    rw [parentsOf, htopic, Option.map_some, Option.getD_some, hsplit]
  have hedge : graph.Edge name next := by
    simp [edge_iff_mem_parentsOf, hparents]
  refine ⟨.cons hedge hmeets.isLine, hmeets.gives, ?_⟩
  intro other place hother hgives
  cases other with
  | nil =>
    obtain rfl : name = place := Option.some.inj hother.last
    simp [htopic, hown] at hgives
  | cons second others =>
    obtain ⟨hsecond, hrest⟩ := hother.tail
    by_cases hsame : second = next
    · subst hsame
      rcases hmeets.first others place hrest hgives with hshort | hovertakes
      · exact .inl ((List.prefix_cons_inj second).mpr hshort)
      · exact .inr (.along hovertakes)
    · have hnew : second ∉ front := by
        intro hmem
        rw [hpassed second hmem others place hrest] at hgives
        cases hgives
      refine .inr (.turn ?_)
      rw [hparents]
      exact idxOf_lt_of_not_mem hnew hsame

/-- On the line to what is met first, nothing else is met. -/
theorem MeetsFirst.eq_none_of_mem_dropLast
    {f : Topic → Option α} {path line : List Text} {name visited place : Text} {found : α}
    (hmeets : graph.MeetsFirst f path name line visited found)
    (hplace : place ∈ (name :: line).dropLast) :
    (graph.topic? place).bind f = none := by
  obtain ⟨front, hfront, hlength, hshort⟩ := hmeets.isLine.exists_prefix hplace
  by_contra hgives
  rcases hmeets.first front place hshort (Option.isSome_iff_ne_none.mpr hgives) with hlong | hturn
  · have hle := hlong.length_le
    omega
  · exact hturn.not_prefix hfront

/-- The lookup meets first what stands at the end of the first line. -/
theorem exists_meetsFirst_of_findSome?
    {f : Topic → Option α} {path : List Text} {name : Text} {found : α}
    (hpath : (path ++ [name]).Nodup)
    (hfound : ((graph.topic? name).toList ++ graph.lineageFrom path name).findSome? f =
      some found) :
    ∃ line visited, graph.MeetsFirst f path name line visited found := by
  fun_induction graph.lineageFrom path name with
  | case1 path name hname =>
    rw [List.nodup_append] at hpath
    exact absurd rfl (hpath.2.2 name hname name (List.mem_singleton_self name))
  | case2 path name hname htopic =>
    rw [htopic] at hfound
    cases hfound
  | case3 path name hname topic htopic ih =>
    rw [htopic, Option.toList_some, List.findSome?_append, List.findSome?_singleton] at hfound
    cases hown : f topic with
    | some first =>
      obtain rfl : first = found := by
        simpa [hown] using hfound
      refine ⟨[], name, .nil hpath, by simp [htopic, hown], ?_⟩
      intro other place hother hgives
      exact .inl List.nil_prefix
    | none =>
      rw [hown, Option.none_or] at hfound
      obtain ⟨front, next, back, hsplit, hnext, hfront⟩ :=
        exists_split_of_findSome?_flatMap hfound
      by_cases hcut : next ∈ path ++ [name]
      · rw [if_pos hcut] at hnext
        cases hnext
      rw [if_neg hcut] at hnext
      have hlonger : (path ++ [name] ++ [next]).Nodup := by
        rw [← List.concat_eq_append]
        exact hpath.concat hcut
      obtain ⟨line, visited, hmeets⟩ := ih next hlonger hnext
      refine ⟨next :: line, visited, hmeets.cons htopic hown hsplit ?_⟩
      intro other hother line place hline
      rw [Option.bind_eq_none_iff]
      intro holder hholder
      have hpassed := hfront other hother holder
      rw [if_neg hline.not_mem, mem_lookup_from_iff hline.not_mem] at hpassed
      exact hpassed ⟨place, hline.reachesOutside, hholder⟩

/-! ## Lines that only climb -/

/-- No topic includes another. -/
def InheritsOnly (graph : Graph) : Prop :=
  ∀ topic ∈ graph.topics, topic.includes = []

instance (graph : Graph) : Decidable graph.InheritsOnly :=
  inferInstanceAs (Decidable (∀ topic ∈ graph.topics, topic.includes = []))

theorem InheritsOnly.edge_iff
    (honly : graph.InheritsOnly) {source target : Text} :
    graph.Edge source target ↔ graph.EdgeBy .inherits source target := by
  refine exists_congr fun topic => and_congr_right fun htopic => ?_
  simp [Topic.edges, Topic.targets, honly topic (topic?_name htopic).1]

theorem InheritsOnly.relation_eq
    (honly : graph.InheritsOnly) {relation : Topic.Relation} {source target : Text}
    (hedge : graph.EdgeBy relation source target) :
    relation = .inherits := by
  obtain ⟨topic, htopic, htarget⟩ := hedge
  cases relation with
  | inherits => rfl
  | includes => simp [Topic.edges, honly topic (topic?_name htopic).1] at htarget

theorem InheritsOnly.climbs_of_line
    (honly : graph.InheritsOnly) {path line : List Text} {name target : Text}
    (hline : graph.Line path name line target) :
    graph.Climbs name line.length target := by
  induction line generalizing path name with
  | nil =>
    obtain rfl : name = target := Option.some.inj hline.last
    exact .refl
  | cons next line ih =>
    obtain ⟨hedge, hrest⟩ := hline.tail
    rw [List.length_cons, Nat.add_comm]
    exact .head (honly.edge_iff.mp hedge) (ih hrest)

/-- A climb that returns to itself is a detour. -/
theorem InheritsOnly.exists_line_of_climbsOutside
    (honly : graph.InheritsOnly) {path : List Text} {name target : Text} {rise : Nat}
    (hpath : (path ++ [name]).Nodup) (hclimb : graph.ClimbsOutside path name rise target) :
    ∃ line, graph.Line path name line target ∧ line.length ≤ rise := by
  induction rise using Nat.strong_induction_on generalizing path name with
  | _ rise ih =>
    rcases hclimb.eq_or_edge with rfl | ⟨relation, next, rest, hedge, hnext, hrest, hle⟩
    · exact ⟨[], .nil hpath, Nat.zero_le _⟩
    · obtain rfl := honly.relation_eq hedge
      have hlonger : (path ++ [name] ++ [next]).Nodup := by
        rw [← List.concat_eq_append]
        exact hpath.concat hnext
      simp only [Topic.Relation.rise] at hle
      obtain ⟨line, hline, hlength⟩ := ih rest (by omega) hlonger hrest
      refine ⟨next :: line, hline.cons (honly.edge_iff.mpr hedge), ?_⟩
      rw [List.length_cons]
      omega

theorem InheritsOnly.one_lt_of_climbs
    (honly : graph.InheritsOnly) {name target : Text} {rise : Nat} (hne : name ≠ target)
    (hparent : target ∉ graph.parentsOf name) (hclimb : graph.Climbs name rise target) :
    1 < rise := by
  obtain ⟨line, hline, hle⟩ :=
    honly.exists_line_of_climbsOutside (by simp) (climbsOutside_nil.mpr hclimb)
  cases line with
  | nil => exact absurd (Option.some.inj hline.last) hne
  | cons next line =>
    obtain ⟨hedge, hrest⟩ := hline.tail
    cases line with
    | nil =>
      obtain rfl : next = target := Option.some.inj hrest.last
      exact absurd (edge_iff_mem_parentsOf.mp hedge) hparent
    | cons _ line =>
      rw [List.length_cons, List.length_cons] at hle
      omega

/-! ## The copy that ranks a pattern -/

/-- The candidates in the order of their ranks. -/
def ranked (graph : Graph) (name : Text) : List Candidate :=
  (graph.candidates name).mergeSort fun a b => (Rank.ofCandidate a).le (Rank.ofCandidate b)

/-- Of the candidates with that text, the one that gives it its place in the match order. -/
def rankingCopy? (graph : Graph) (name pattern : Text) : Option Candidate :=
  (graph.ranked name).find? fun candidate => candidate.text = pattern

/-- No inheritance tag makes another pattern of this one, or this one of another. -/
def RanksAsWritten (graph : Graph) (name pattern : Text) : Prop :=
  Text.tags Tag.inherits? pattern = [] ∧
    ∀ candidate ∈ graph.candidates name, candidate.text = pattern → candidate.pattern = pattern

theorem mem_ranked {name : Text} {candidate : Candidate} :
    candidate ∈ graph.ranked name ↔ candidate ∈ graph.candidates name :=
  List.mem_mergeSort

theorem exists_split_of_rankingCopy?
    {name pattern : Text} {copy : Candidate} (hcopy : graph.rankingCopy? name pattern = some copy) :
    copy.text = pattern ∧ ∃ front back, graph.ranked name = front ++ copy :: back ∧
      pattern ∉ front.map Candidate.text := by
  rw [rankingCopy?, List.find?_eq_some_iff_append] at hcopy
  obtain ⟨htext, front, back, hsplit, hfront⟩ := hcopy
  refine ⟨by simpa using htext, front, back, hsplit, ?_⟩
  simpa using hfront

/-- A pattern stands in the match order behind the texts that rank before its ranking copy. -/
theorem idxOf_order_of_rankingCopy?
    {name pattern : Text} {copy : Candidate} (hcopy : graph.rankingCopy? name pattern = some copy) :
    ∃ front back, graph.ranked name = front ++ copy :: back ∧
      (graph.order name).idxOf pattern = (front.map Candidate.text).eraseDups.length := by
  obtain ⟨rfl, front, back, hsplit, hfront⟩ := exists_split_of_rankingCopy? hcopy
  refine ⟨front, back, hsplit, ?_⟩
  have hnew : copy.text ∉ (front.map Candidate.text).eraseDups :=
    fun hmem => hfront (List.mem_eraseDups.mp hmem)
  have horder : graph.order name = ((graph.ranked name).map Candidate.text).eraseDups :=
    matchOrder_eq_mergeSort (graph.candidates name)
  have hkept : (copy.text :: back.map Candidate.text).removeAll (front.map Candidate.text) =
      copy.text :: (back.map Candidate.text).removeAll (front.map Candidate.text) := by
    rw [List.cons_removeAll, if_pos (by simpa using hfront)]
  rw [horder, hsplit, List.map_append, List.map_cons, List.eraseDups_append,
    List.idxOf_append_of_notMem hnew, hkept, List.eraseDups_cons, List.idxOf_cons_self,
    Nat.add_zero]

/-- No copy of a pattern is on a lower level than the one that ranks it. -/
theorem rankLevel_le_of_rankingCopy?
    {name pattern : Text} {copy other : Candidate}
    (hcopy : graph.rankingCopy? name pattern = some copy)
    (hother : other ∈ graph.candidates name) (htext : other.text = pattern) :
    copy.rankLevel ≤ other.rankLevel := by
  obtain ⟨-, front, back, hsplit, hfront⟩ := exists_split_of_rankingCopy? hcopy
  have hsorted : (graph.ranked name).Pairwise fun a b => a.rankLevel ≤ b.rankLevel :=
    pairwise_rankLevel_mergeSort (graph.candidates name)
  have hmem := mem_ranked.mpr hother
  rw [hsplit] at hsorted hmem
  have hbehind := (List.pairwise_cons.mp (List.pairwise_append.mp hsorted).2.1).1
  rcases List.mem_append.mp hmem with hmem | hmem
  · exact absurd (List.mem_map.mpr ⟨other, hmem, htext⟩) hfront
  · rcases List.mem_cons.mp hmem with rfl | hmem
    · exact le_rfl
    · exact hbehind other hmem

theorem exists_rankingCopy?
    {name : Text} {candidate : Candidate} (hcandidate : candidate ∈ graph.candidates name) :
    ∃ copy, graph.rankingCopy? name candidate.text = some copy := by
  rw [← Option.isSome_iff_exists, rankingCopy?, List.find?_isSome]
  exact ⟨candidate, mem_ranked.mpr hcandidate, by simp⟩

theorem mem_candidates_of_rankingCopy?
    {name pattern : Text} {copy : Candidate} (hcopy : graph.rankingCopy? name pattern = some copy) :
    copy ∈ graph.candidates name :=
  mem_ranked.mp (List.mem_of_find?_eq_some hcopy)

/-- A topic that does not own the pattern inherits it from above. -/
theorem InheritsOnly.pos_of_offersAt
    (honly : graph.InheritsOnly) {name pattern : Text} {rise : Nat}
    (hunowned : ∀ own, graph.topic? name = some own → pattern ∉ own.patterns)
    (hoffers : graph.OffersAt name rise pattern) :
    0 < rise := by
  obtain ⟨visited, owner, hclimb, howner, hpattern⟩ := hoffers
  obtain ⟨line, hline, hlength⟩ :=
    honly.exists_line_of_climbsOutside (by simp) (climbsOutside_nil.mpr hclimb)
  cases line with
  | nil =>
    obtain rfl : name = visited := Option.some.inj hline.last
    exact absurd hpattern (hunowned owner howner)
  | cons next line => exact (Nat.succ_pos _).trans_le hlength

/-- The rank of an inherited pattern is the distance of its nearest owner. -/
theorem InheritsOnly.exists_isLeast_level
    (honly : graph.InheritsOnly) {name pattern : Text}
    (hunowned : ∀ own, graph.topic? name = some own → pattern ∉ own.patterns)
    (hoffered : ∃ rise, graph.OffersAt name rise pattern)
    (hwritten : graph.RanksAsWritten name pattern) :
    ∃ copy level, graph.rankingCopy? name pattern = some copy ∧ copy.level = some level ∧
      IsLeast {rise | graph.OffersAt name rise pattern} level := by
  obtain ⟨huntagged, hcopies⟩ := hwritten
  have htext : ∀ candidate : Candidate, candidate.pattern = pattern →
      candidate.text = pattern := by
    rintro candidate rfl
    exact Text.replaceTags_of_tags_eq_nil _ huntagged
  obtain ⟨copy, hcopy⟩ : ∃ copy, graph.rankingCopy? name pattern = some copy := by
    obtain ⟨rise, hoffers⟩ := hoffered
    obtain ⟨candidate, hcandidate, hpattern, -⟩ := exists_candidate_of_offersAt hoffers huntagged
    rw [← htext candidate hpattern]
    exact exists_rankingCopy? hcandidate
  have hmem := mem_candidates_of_rankingCopy? hcopy
  have hpattern : copy.pattern = pattern :=
    hcopies copy hmem (exists_split_of_rankingCopy? hcopy).1
  obtain ⟨rise, hoffers, hlevel⟩ :=
    exists_offersAt_of_mem_candidates hmem (by rw [hpattern, huntagged])
  rw [hpattern] at hoffers
  have hpos := honly.pos_of_offersAt hunowned hoffers
  have hrank : copy.rankLevel = rise := hlevel.resolve_right fun hzero => by omega
  have hsome : copy.level = some rise := by
    unfold Candidate.rankLevel at hrank
    cases hcase : copy.level with
    | some level =>
      rw [hcase] at hrank
      exact congrArg some (Int.ofNat.inj hrank)
    | none =>
      rw [hcase, hpattern, huntagged] at hrank
      cases hrank
  refine ⟨copy, rise, hcopy, hsome, hoffers, ?_⟩
  intro other hother
  obtain ⟨candidate, hcandidate, hsame, hle⟩ := exists_candidate_of_offersAt hother huntagged
  have hfirst := rankLevel_le_of_rankingCopy? hcopy hcandidate (htext candidate hsame)
  omega

/-- What is nearer than what is met first lies on a walk that is overtaken. -/
theorem MeetsFirst.exists_overtaken
    {f : Topic → Option α} {name visited place : Text} {line : List Text} {found : α} {rise : Nat}
    (hmeets : graph.MeetsFirst f [] name line visited found) (honly : graph.InheritsOnly)
    (hclimb : graph.Climbs name rise place) (hgives : ((graph.topic? place).bind f).isSome)
    (hnearer : rise < line.length) :
    ∃ other, graph.Line [] name other place ∧ other.length ≤ rise ∧
      graph.Overtakes name line other := by
  obtain ⟨other, hother, hlength⟩ :=
    honly.exists_line_of_climbsOutside (by simp) (climbsOutside_nil.mpr hclimb)
  refine ⟨other, hother, hlength, ?_⟩
  refine (hmeets.first other place hother hgives).resolve_left fun hshort => ?_
  have hle := hshort.length_le
  omega

end Graph

/-- Where topics only inherit, a pattern that a topic does not own takes its rank from the nearest
owner, and it is answered by the owner that is met first depth first.  No other trigger of that key
stands on the line to this owner, and whatever owner is nearer lies behind a parent that is named
later where the line forks. -/
theorem inherited_pattern_is_answered_depth_first
    {snapshot : Snapshot} (hpublished : snapshot.Published)
    (honly : snapshot.persona.graph.InheritsOnly) {name pattern : Text}
    (hunowned : ∀ own, snapshot.persona.graph.topic? name = some own →
      own.trigger? (Trigger.Key.read pattern) = none)
    (hoffered : ∃ rise, snapshot.persona.graph.OffersAt name rise pattern)
    (hshadowed : ¬ snapshot.persona.graph.Shadowed name pattern) :
    let graph := snapshot.persona.graph
    let held := fun topic : Topic => topic.trigger? (Trigger.Key.read pattern)
    let distances := {rise | graph.OffersAt name rise pattern}
    (graph.RanksAsWritten name pattern → ∃ copy level,
      graph.rankingCopy? name pattern = some copy ∧ copy.level = some level ∧
        IsLeast distances level) ∧
    ∃ trigger line visited owner,
      snapshot.ownerOf? name pattern = some trigger ∧
      (∀ session message selection,
        snapshot.selectByOrder? session name message = some selection →
          selection.pattern = pattern → selection.trigger = trigger) ∧
      graph.MeetsFirst held [] name line visited trigger ∧
      graph.topic? visited = some owner ∧ pattern ∈ owner.patterns ∧
      (∀ place ∈ (name :: line).dropLast, (graph.topic? place).bind held = none) ∧
      (∀ rise place holder, graph.Climbs name rise place → graph.topic? place = some holder →
        pattern ∈ holder.patterns → rise < line.length →
          ∃ other, graph.Line [] name other place ∧ other.length ≤ rise ∧
            graph.Overtakes name line other) ∧
      ((∀ place ∈ (name :: line).dropLast, ¬ graph.Forks place) →
        IsLeast distances line.length) := by
  intro graph held distances
  have hheld : ∀ place holder, graph.topic? place = some holder → pattern ∈ holder.patterns →
      ((graph.topic? place).bind held).isSome := by
    intro place holder hholder hpattern
    obtain ⟨trigger, htrigger, -⟩ := hpublished.exists_trigger?_of_mem_patterns hholder hpattern
    simp [hholder, held, htrigger]
  have hunlisted : ∀ own, graph.topic? name = some own → pattern ∉ own.patterns := by
    intro own hown hpattern
    have hsome := hheld name own hown hpattern
    simp [hown, held, hunowned own hown] at hsome
  refine ⟨honly.exists_isLeast_level hunlisted hoffered, ?_⟩
  obtain ⟨trigger, howner, hkey⟩ : ∃ trigger, snapshot.ownerOf? name pattern = some trigger ∧
      trigger.key = ⟨pattern, none⟩ := by
    obtain ⟨rise, place, holder, hclimb, hholder, hpattern⟩ := hoffered
    obtain ⟨line, hline, -⟩ :=
      honly.exists_line_of_climbsOutside (by simp) (Graph.climbsOutside_nil.mpr hclimb)
    have hreach : graph.Reaches name place := Graph.reachesOutside_nil.mp hline.reachesOutside
    obtain ⟨trigger, _, _, howner, hkey, -⟩ :=
      hpublished.exists_ownerOf?_of_mem_patterns hreach hholder hpattern
    exact ⟨trigger, howner, hkey⟩
  obtain ⟨line, visited, hmeets⟩ : ∃ line visited,
      graph.MeetsFirst held [] name line visited trigger := by
    rw [Snapshot.ownerOf?_eq_findSome?] at howner
    exact Graph.exists_meetsFirst_of_findSome? (by simp) howner
  obtain ⟨owner, hvisited, htrigger⟩ := Option.bind_eq_some_iff.mp hmeets.gives
  have halone := (Snapshot.answersAlone_iff_not_shadowed howner).mpr hshadowed
  have hpattern : pattern ∈ owner.patterns := by
    have hmem := Snapshot.mem_of_trigger? htrigger
    refine List.mem_map.mpr ⟨trigger, List.mem_filter.mpr ⟨hmem, halone⟩, ?_⟩
    rw [hkey]
  have hnearer : ∀ rise place holder, graph.Climbs name rise place →
      graph.topic? place = some holder → pattern ∈ holder.patterns → rise < line.length →
        ∃ other, graph.Line [] name other place ∧ other.length ≤ rise ∧
          graph.Overtakes name line other := by
    intro rise place holder hclimb hholder hlisted hlt
    exact hmeets.exists_overtaken honly hclimb (hheld place holder hholder hlisted) hlt
  refine ⟨trigger, line, visited, owner, howner, ?_, hmeets, hvisited, hpattern,
    fun place hplace => hmeets.eq_none_of_mem_dropLast hplace, hnearer, ?_⟩
  · intro session message selection hselect hsame
    have hselected := Snapshot.ownerOf?_of_selectByOrder? hselect
    rw [hsame, howner] at hselected
    exact (Option.some.inj hselected).symm
  · intro hunforked
    refine ⟨⟨visited, owner, honly.climbs_of_line hmeets.isLine, hvisited, hpattern⟩, ?_⟩
    rintro rise ⟨place, holder, hclimb, hholder, hlisted⟩
    by_contra hlt
    obtain ⟨other, hother, -, hovertakes⟩ :=
      hnearer rise place holder hclimb hholder hlisted (Nat.lt_of_not_le hlt)
    obtain ⟨fork, hfork, hforks⟩ :=
      hovertakes.exists_forks hmeets.isLine.chain hother.chain
    exact hunforked fork hfork hforks

/-- Two lines lead to the only owner, and the one that is named first is followed. -/
theorem inherited_pattern_is_answered_behind_fork :
    let script := "> topic random inherits a c\n< topic\n".toList ++
      "> topic a inherits c\n< topic\n> topic c\n+ hello\n- hi\n< topic\n".toList
    let live := (Bot.ofScript script).mind.live
    let graph := live.persona.graph
    let pattern := "hello".toList
    (∃ copy level, graph.rankingCopy? defaultTopic pattern = some copy ∧ copy.level = some level ∧
      IsLeast {rise | graph.OffersAt defaultTopic rise pattern} level) ∧
    ∃ trigger line visited, live.ownerOf? defaultTopic pattern = some trigger ∧
      graph.MeetsFirst (fun topic => topic.trigger? (Trigger.Key.read pattern)) [] defaultTopic line
        visited trigger := by
  intro script live graph pattern
  have hpublished : live.Published := (Bot.reachable_ofScript script).occurs.wellFormed.live
  have honly : graph.InheritsOnly := by
    decide +kernel
  have hunowned : ∀ own ∈ graph.topic? defaultTopic,
      own.trigger? (Trigger.Key.read pattern) = none := by
    decide +kernel
  have hwritten : graph.RanksAsWritten defaultTopic pattern :=
    ⟨by decide +kernel, by decide +kernel⟩
  have hoffered : ∃ rise, graph.OffersAt defaultTopic rise pattern := by
    have hcandidate : ⟨some 1, pattern⟩ ∈ graph.candidates defaultTopic := by
      decide +kernel
    obtain ⟨rise, hoffers, -⟩ := Graph.exists_offersAt_of_mem_candidates hcandidate hwritten.1
    exact ⟨rise, hoffers⟩
  have hshadowed : ¬ graph.Shadowed defaultTopic pattern := by
    obtain ⟨trigger, howner, halone⟩ :
        ∃ trigger ∈ live.ownerOf? defaultTopic pattern, trigger.answersAlone := by
      decide +kernel
    exact (Snapshot.answersAlone_iff_not_shadowed howner).mp halone
  obtain ⟨hrank, trigger, line, visited, -, howner, -, hmeets, -⟩ :=
    inherited_pattern_is_answered_depth_first hpublished honly hunowned hoffered hshadowed
  exact ⟨hrank hwritten, trigger, line, visited, howner, hmeets⟩

/-- A pattern with its rank from one level up is answered two levels up: behind the parent that is
named first, although the other one owns the pattern, and past a copy with an inheritance tag. -/
theorem inherited_pattern_is_answered_by_farther_owner :
    let pattern := "hello".toList
    let forked := "> topic random inherits a b\n< topic\n".toList ++
      "> topic a inherits c\n< topic\n".toList ++
      "> topic b\n+ hello\n- near\n< topic\n> topic c\n+ hello\n- far\n< topic\n".toList
    let tagged := "> topic random inherits a\n< topic\n> topic a inherits c\n".toList ++
      "+ \x7binherits=0\x7dhello\n- near\n< topic\n".toList ++
      "> topic c\n+ hello\n- far\n< topic\n".toList
    (Bot.ofScript forked).mind.live.persona.graph.OffersAt defaultTopic 1 pattern ∧
    ∀ script ∈ [forked, tagged],
      let bot := Bot.ofScript script
      let live := bot.mind.live
      let graph := live.persona.graph
      graph.InheritsOnly ∧
      (∀ own ∈ graph.topic? defaultTopic, own.trigger? (Trigger.Key.read pattern) = none) ∧
      (∃ copy, graph.rankingCopy? defaultTopic pattern = some copy ∧ copy.level = some 1) ∧
      (∃ selection ∈ live.selectByOrder? (bot.session ['u']) defaultTopic pattern,
        selection.pattern = pattern ∧ selection.trigger.topic = ['c']) ∧
      (∀ rise, graph.Climbs defaultTopic rise ['c'] → 1 < rise) ∧
      (bot.answer ['u'] pattern).2.reply = "far".toList := by
  intro pattern forked tagged
  constructor
  · have hcandidate : ⟨some 1, pattern⟩ ∈
        (Bot.ofScript forked).mind.live.persona.graph.candidates defaultTopic := by
      decide +kernel
    obtain ⟨rise, hoffers, hlevel⟩ :=
      Graph.exists_offersAt_of_mem_candidates hcandidate (by decide +kernel)
    have hrise : rise = 1 := by
      simp only [Candidate.rankLevel] at hlevel
      omega
    exact hrise ▸ hoffers
  · have hruns : ∀ script ∈ [forked, tagged],
        let bot := Bot.ofScript script
        let live := bot.mind.live
        let graph := live.persona.graph
        graph.InheritsOnly ∧ ['c'] ∉ graph.parentsOf defaultTopic ∧
        (∀ own ∈ graph.topic? defaultTopic, own.trigger? (Trigger.Key.read pattern) = none) ∧
        (∃ candidate ∈ graph.candidates defaultTopic,
          candidate.text = pattern ∧ candidate.rankLevel = 1) ∧
        (∀ candidate ∈ graph.candidates defaultTopic,
          candidate.rankLevel ≤ 1 → candidate.level = some 1) ∧
        (∃ selection ∈ live.selectByOrder? (bot.session ['u']) defaultTopic pattern,
          selection.pattern = pattern ∧ selection.trigger.topic = ['c']) ∧
        (bot.answer ['u'] pattern).2.reply = "far".toList := by
      decide +kernel
    intro script hscript bot live graph
    obtain ⟨honly, hparent, hunowned, ⟨candidate, hcandidate, htext, hone⟩, hlevels, hselect,
      hreply⟩ := hruns script hscript
    obtain ⟨copy, hcopy⟩ := Graph.exists_rankingCopy? hcandidate
    rw [htext] at hcopy
    have hlevel : copy.level = some 1 := by
      have hle := Graph.rankLevel_le_of_rankingCopy? hcopy hcandidate htext
      exact hlevels copy (Graph.mem_candidates_of_rankingCopy? hcopy) (hle.trans_eq hone)
    refine ⟨honly, hunowned, ⟨copy, hcopy, hlevel⟩, hselect, ?_, hreply⟩
    intro rise hclimb
    exact honly.one_lt_of_climbs (by decide) hparent hclimb

end DialogueScript
